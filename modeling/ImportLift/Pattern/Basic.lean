-- Patterns over text, and the one way in which a pattern matches at a place.
-- A pattern is tried in a fixed order: an alternative left before right, a
-- greedy run longest first, a lazy run shortest first. What follows the
-- pattern is a continuation, so a choice that fails later is taken back and
-- so are the captures made on the way. The search is a recursion on the
-- pattern, the text that is left and, for a repetition, the length of the
-- text that is left; it always ends.
import ImportLift.Text.Word

namespace ImportLift

/-- The names under which a pattern keeps a part of what it matched. -/
inductive Capture
  | quote
  | href
  | identity
  | src
  | body
  | id
  | template
  | includes
  | css
deriving DecidableEq, Repr

inductive Pattern
  /-- Matches the empty text. -/
  | nothing
  /-- One character that passes the test. -/
  | one (ok : Char → Bool)
  /-- The first pattern, then the second. -/
  | seq (first second : Pattern)
  /-- The first pattern or, failing that, the second. -/
  | either (first second : Pattern)
  /-- As many characters that pass the test as possible. -/
  | most (ok : Char → Bool)
  /-- As few characters that pass the test as possible. -/
  | least (ok : Char → Bool)
  /-- The pattern once or more, as often as possible. -/
  | again (p : Pattern)
  /-- Keeps what the pattern matched under a name. -/
  | keep (name : Capture) (p : Pattern)
  /-- The text kept under a name, once more; fails when there is none. -/
  | same (name : Capture)
  /-- The pattern matches from here on, and nothing is consumed. -/
  | ahead (p : Pattern)
  /-- A word character stands on exactly one side. -/
  | wordEdge
  /-- The start of the text or of a line. -/
  | lineStart
  /-- The end of the text. -/
  | textEnd

/-- A place in a text: the character behind it, if any, and what follows. -/
structure Cursor where
  behind : Option Char
  rest : Text

namespace Cursor

/-- A word character stands on exactly one side of the place. -/
def atWordEdge (c : Cursor) : Bool :=
  c.behind.any Text.isWord != c.rest.head?.any Text.isWord

/-- The place is the start of the text or follows a line feed. -/
def atLineStart (c : Cursor) : Bool := c.behind.all (· = '\n')

/-- The text between a place and a later one. -/
def upTo (c later : Cursor) : Text := c.rest.take (c.rest.length - later.rest.length)

/-- The place past a given text, if that text comes next. -/
def past? (c : Cursor) (text : Text) : Option Cursor :=
  if text.isPrefixOf c.rest then
    some ⟨text.getLast?.or c.behind, c.rest.drop text.length⟩
  else none

end Cursor

/-- A stretch of a text, from one place to a later one. -/
structure Stretch where
  start : Cursor
  stop : Cursor

/-- The text of a stretch. -/
def Stretch.text (s : Stretch) : Text := s.start.upTo s.stop

/-- The stretches kept so far, the newest first. -/
abbrev Captures := List (Capture × Stretch)

namespace Pattern

/-- Tries the longest run of characters first, then ever shorter ones. -/
def runMost {α : Type} (ok : Char → Bool) (next : Cursor → Option α) :
    Option Char → Text → Option α
  | behind, [] => next ⟨behind, []⟩
  | behind, c :: rest =>
    if ok c then (runMost ok next (some c) rest).or (next ⟨behind, c :: rest⟩)
    else next ⟨behind, c :: rest⟩

/-- Tries the empty run first, then ever longer ones. -/
def runLeast {α : Type} (ok : Char → Bool) (next : Cursor → Option α) :
    Option Char → Text → Option α
  | behind, [] => next ⟨behind, []⟩
  | behind, c :: rest =>
    (next ⟨behind, c :: rest⟩).or (if ok c then runLeast ok next (some c) rest else none)

/-- Tries one turn of a repetition, then further turns as long as each
consumes something. -/
def runAgain {α : Type} (turn : Cursor → Captures → (Cursor → Captures → Option α) → Option α)
    (next : Cursor → Captures → Option α) : Nat → Cursor → Captures → Option α
  | 0, _, _ => none
  | fuel + 1, c, kept =>
    turn c kept fun c' kept' =>
      if c'.rest.length < c.rest.length then
        (runAgain turn next fuel c' kept').or (next c' kept')
      else next c' kept'

/-- The first success of the pattern at the place, followed by `next`. -/
def run (p : Pattern) {α : Type} (c : Cursor) (kept : Captures)
    (next : Cursor → Captures → Option α) : Option α :=
  match p with
  | nothing => next c kept
  | one ok =>
    match c.rest with
    | [] => none
    | ch :: rest => if ok ch then next ⟨some ch, rest⟩ kept else none
  | seq p q => p.run c kept fun c kept => q.run c kept next
  | either p q => (p.run c kept next).or (q.run c kept next)
  | most ok => runMost ok (fun c => next c kept) c.behind c.rest
  | least ok => runLeast ok (fun c => next c kept) c.behind c.rest
  | again p => runAgain (fun c kept next => p.run c kept next) next (c.rest.length + 1) c kept
  | keep name p => p.run c kept fun c' kept' => next c' ((name, ⟨c, c'⟩) :: kept')
  | same name =>
    match kept.lookup name with
    | none => none
    | some stretch =>
      match c.past? stretch.text with
      | none => none
      | some c' => next c' kept
  | ahead p => if (p.run c kept fun _ _ => some ()).isSome then next c kept else none
  | wordEdge => if c.atWordEdge then next c kept else none
  | lineStart => if c.atLineStart then next c kept else none
  | textEnd => if c.rest.isEmpty then next c kept else none

/-! ## Patterns made of patterns -/

/-- The patterns one after another. -/
def all : List Pattern → Pattern
  | [] => nothing
  | [p] => p
  | p :: ps => seq p (all ps)

/-- The pattern or, failing that, nothing. -/
def maybe (p : Pattern) : Pattern := either p nothing

/-- One character that passes the test, then as many more as possible. -/
def some1 (ok : Char → Bool) : Pattern := seq (one ok) (most ok)

/-- Exactly this character. -/
def mark (c : Char) : Pattern := one (· = c)

/-- Exactly this text. -/
def exactly (text : Text) : Pattern := all (text.map mark)

end Pattern

end ImportLift
