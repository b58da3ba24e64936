-- The template of a component, and template literals. The module element
-- whose id is the component's identity holds the template; its first style
-- element is lifted out of the markup and becomes a preamble of its own.
import ImportLift.Failure
import ImportLift.Rule
import ImportLift.Text.Case

namespace ImportLift

/-! ## Names and literals -/

/-- A dashed name as the name of a binding: the first part in lower case, and
the further parts with their first letter in upper case, put together. -/
def bindingName (name : Text) : Text :=
  match (Text.cutAt '-' name).filter fun part => !part.isEmpty with
  | [] => []
  | first :: others =>
    Text.lower first ++ others.flatMap fun part => (part.take 1).flatMap Text.upperOne ++ part.drop 1

/-- The text written so that it can stand inside a template literal: a
backslash before each backslash, each backtick and each dollar sign that
opens a substitution. -/
def escapeLiteral (text : Text) : Text :=
  ((text.replaceAll "\\" "\\\\").replaceAll "`" "\\`").replaceAll "$\x7b" "\\$\x7b"

/-- A substitution inside a template literal. -/
def placeholder (name : Text) : Text := "$\x7b" ++ name ++ "\x7d"

/-! ## Style -/

/-- A style element: the shared styles it includes and its own rules. -/
structure Style where
  includes : List Text
  css : Text
deriving DecidableEq, Repr

/-- The style as the content of a template literal: a substitution for each
shared style, then the element. -/
def Style.preamble (s : Style) : Text :=
  s.includes.flatMap (fun name => placeholder (bindingName name)) ++
    "<style>" ++ escapeLiteral s.css ++ "</style>"

/-! ## Template -/

/-- A component's markup, with its style lifted out. -/
structure Template where
  identity : Text
  markup : Text
  style : Option Style
deriving DecidableEq, Repr

namespace Template

/-- The preamble of the style, empty when there is none. -/
def preamble (t : Template) : Text := (t.style.map Style.preamble).getD []

/-- The shared styles that the template includes. -/
def styleIncludes (t : Template) : List Text := (t.style.map Style.includes).getD []

/-- The template text of the first module element whose id is the identity. -/
def bodyOf (html identity : Text) : Except Failure Text :=
  match (Rule.templateBlock.pattern.findAll html).find? (·.filled? .id = some identity) with
  | none => .error ⟨.noTemplate, some identity⟩
  | some m =>
    match m.filled? .template with
    | none => .error ⟨.blankTemplate, some identity⟩
    | some body => .ok body

/-- The style element that a match covers. -/
def styleOf (m : Match) : Style :=
  ⟨Text.words ((m.filled? .includes).getD []), (m.kept? .css).getD []⟩

/-- A template text with its first style element lifted out. -/
def ofBody (identity body : Text) : Template :=
  match Rule.styleBlock.pattern.find? body with
  | none => ⟨identity, body, none⟩
  | some m => ⟨identity, body.take m.start ++ body.drop m.stop, some (styleOf m)⟩

/-- The template of an identity in a document. -/
def ofDocument (html identity : Text) : Except Failure Template :=
  (bodyOf html identity).map (ofBody identity)

end Template

end ImportLift
