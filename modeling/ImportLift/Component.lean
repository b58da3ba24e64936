-- A component's class text, split around the accessor that declares its
-- identity. The part before and including the accessor is normalised for the
-- module: directive lines go and the old base class gets its new name. The
-- part behind it is never touched.
import ImportLift.Failure
import ImportLift.Rule

namespace ImportLift

/-- A class text and the place of its identity accessor. -/
structure Component where
  text : Text
  identity : Text
  start : Nat
  stop : Nat
  /-- The normalised part up to the accessor, once it is known. -/
  normalHead : Option Text
deriving DecidableEq, Repr

namespace Component

/-- What stands before the accessor. -/
def before (c : Component) : Text := c.text.take c.start

/-- The accessor itself. -/
def declaration (c : Component) : Text := (c.text.take c.stop).drop c.start

/-- What stands behind the accessor. -/
def after (c : Component) : Text := c.text.drop c.stop

/-- Everything up to and including the accessor. -/
def head (c : Component) : Text := c.before ++ c.declaration

/-- The head as the module has it. -/
def moduleHead (c : Component) : Text := c.normalHead.getD c.head

/-- The spaces and tabs that start the line of the accessor. -/
def indent (c : Component) : Text :=
  (Text.afterLast '\n' c.before).takeWhile fun ch => ch = ' ' || ch = '\t'

/-- The text without its directive lines. -/
def stripDirectives (text : Text) : Text := Rule.directiveLine.pattern.erase text

/-- The head normalised: no directive lines, and the new base class for the old. -/
def normalise (oldBase newBase head : Text) : Text :=
  (stripDirectives head).replaceAll oldBase newBase

/-- The component that a class text declares by its first accessor. -/
def ofScript (oldBase newBase script : Text) : Except Failure Component :=
  match Rule.accessor.pattern.find? script with
  | none => .error ⟨.noIdentity, none⟩
  | some m =>
    match m.filled? .identity with
    | none => .error ⟨.unreadIdentity, some m.text.trim⟩
    | some identity =>
      let split : Component := ⟨script, identity, m.start, m.stop, none⟩
      .ok { split with normalHead := some (normalise oldBase newBase split.head) }

/-- The first accessor of the text declares a component name. -/
def declares (script : Text) : Bool :=
  match Rule.accessor.pattern.find? script with
  | none => false
  | some m => (m.filled? .identity).isSome

end Component

end ImportLift
