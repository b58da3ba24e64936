-- All matches of a pattern in a text, from left to right. A match is taken at
-- the first place where there is one, and the search goes on behind it, so
-- matches never overlap. A match of the empty text does not count: the
-- library's rules have none.
import ImportLift.Pattern.Basic

namespace ImportLift

/-- The parts of a match that were kept, the newest first. -/
abbrev Parts := List (Capture × Text)

/-- A match: where it starts, what it covers and what it kept. -/
structure Match where
  start : Nat
  text : Text
  kept : Parts
deriving DecidableEq, Repr

namespace Match

/-- The offset just past the match. -/
def stop (m : Match) : Nat := m.start + m.text.length

/-- What the match kept under a name. -/
def kept? (m : Match) (name : Capture) : Option Text := m.kept.lookup name

/-- What the match kept under a name, unless it is blank. -/
def filled? (m : Match) (name : Capture) : Option Text :=
  (m.kept? name).filter fun value => !value.allBlank

end Match

namespace Pattern

/-- The match of the pattern that starts at a place: the text covered and what was kept. -/
def matchAt? (p : Pattern) (c : Cursor) : Option (Text × Parts) :=
  p.run c [] fun c' kept => some (c.upTo c', kept.map fun (name, stretch) => (name, stretch.text))

/-- The match at a place if it covers something. -/
def properAt? (p : Pattern) (c : Cursor) : Option (Text × Parts) :=
  (p.matchAt? c).filter fun found => !found.1.isEmpty

/-- The matches from a place on. The first argument counts the characters
still to skip because a match covered them, the second is the offset. -/
def findFrom (p : Pattern) : Nat → Nat → Option Char → Text → List Match
  | _, _, _, [] => []
  | 0, offset, behind, c :: rest =>
    match p.properAt? ⟨behind, c :: rest⟩ with
    | some (text, kept) =>
      ⟨offset, text, kept⟩ :: findFrom p (text.length - 1) (offset + 1) (some c) rest
    | none => findFrom p 0 (offset + 1) (some c) rest
  | skip + 1, offset, _, c :: rest => findFrom p skip (offset + 1) (some c) rest

/-- Every match in the text, in order. -/
def findAll (p : Pattern) (text : Text) : List Match := p.findFrom 0 0 none text

/-- The first match in the text. -/
def find? (p : Pattern) (text : Text) : Option Match := (p.findAll text).head?

/-- The text without its matches, from a place on. -/
def eraseFrom (p : Pattern) : Nat → Option Char → Text → Text
  | _, _, [] => []
  | 0, behind, c :: rest =>
    match p.properAt? ⟨behind, c :: rest⟩ with
    | some (text, _) => eraseFrom p (text.length - 1) (some c) rest
    | none => c :: eraseFrom p 0 (some c) rest
  | skip + 1, _, c :: rest => eraseFrom p skip (some c) rest

/-- The text without its matches. -/
def erase (p : Pattern) (text : Text) : Text := p.eraseFrom 0 none text

end Pattern

end ImportLift
