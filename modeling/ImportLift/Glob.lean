-- Globs: names with wild cards. A star stands for any text, slashes
-- included, a question mark for any character, and a bracket for one of a set
-- of characters or, after an exclamation mark, for one outside it. A bracket
-- that is not closed stands for itself.
import ImportLift.Text.Basic

namespace ImportLift

namespace Glob

/-- A part of a glob. -/
inductive Piece
  | one (c : Char)
  | any
  | star
  /-- A character in one of the closed ranges, or in none of them. -/
  | set (negated : Bool) (ranges : List (Char × Char))
deriving DecidableEq, Repr

/-! ## Sets -/

/-- A part of the content of a bracket: a character, or a dash that makes a range. -/
inductive SetMark
  | char (c : Char)
  | dash
deriving DecidableEq, Repr

/-- The parts of a bracket that ranges join. A dash joins the characters around
it; the first character of the bracket and the one behind a range are no
dashes. The first argument counts the characters that cannot be dashes. -/
def chunks : Nat → Text → List Text
  | _, [] => [[]]
  | 0, '-' :: rest => [] :: chunks 2 rest
  | n, c :: rest =>
    match chunks (n - 1) rest with
    | [] => [[c]]
    | chunk :: others => (c :: chunk) :: others

/-- A dash at the very end joins nothing and stands for itself. -/
def closeChunks : List Text → List Text
  | [chunk, []] => [chunk ++ ['-']]
  | chunk :: others => chunk :: closeChunks others
  | [] => []

/-- A range that runs backwards is dropped, with both its ends. The chunks
behind come in with their own backward ranges already dropped. -/
def dropBackward (chunk : Text) : List Text → List Text
  | [] => [chunk]
  | next :: others =>
    match chunk.getLast?, next with
    | some a, b :: behind =>
      if b < a then (chunk.dropLast ++ behind) :: others else chunk :: next :: others
    | _, _ => chunk :: next :: others

/-- The marks of a bracket's content. -/
def setMarks (content : Text) : List SetMark :=
  let first := if content.head? = some '!' then 2 else 1
  let parts := (closeChunks (chunks first content)).foldr dropBackward []
  List.intercalate [SetMark.dash] (parts.map (·.map SetMark.char))

/-- The ranges that marks make. -/
def rangesOf : List SetMark → List (Char × Char)
  | [] => []
  | .char a :: .dash :: .char b :: rest => (a, b) :: rangesOf rest
  | .char a :: rest => (a, a) :: rangesOf rest
  | .dash :: rest => ('-', '-') :: rangesOf rest

/-- The set that a bracket's content describes. -/
def setOf (content : Text) : Piece :=
  match setMarks content with
  | .char '!' :: marks => .set true (rangesOf marks)
  | marks => .set false (rangesOf marks)

/-! ## Reading and matching -/

/-- The content of a bracket and what follows its end, if it has one. A closing
bracket at the start, or behind an exclamation mark there, is part of the content. -/
def bracket? (t : Text) : Option (Text × Text) :=
  let lead := if t.head? = some '!' then 1 else 0
  let lead := if t[lead]? = some ']' then lead + 1 else lead
  let content := t.take lead ++ (t.drop lead).takeWhile (· ≠ ']')
  if content.length < t.length then some (content, t.drop (content.length + 1)) else none

/-- The pieces of a glob; the first argument bounds their number. -/
def piecesFrom : Nat → Text → List Piece
  | _, [] => []
  | 0, _ => []
  | fuel + 1, c :: rest =>
    if c = '*' then .star :: piecesFrom fuel rest
    else if c = '?' then .any :: piecesFrom fuel rest
    else if c = '[' then
      match bracket? rest with
      | some (content, rest) => setOf content :: piecesFrom fuel rest
      | none => .one '[' :: piecesFrom fuel rest
    else .one c :: piecesFrom fuel rest

/-- The pieces of a glob. -/
def pieces (glob : Text) : List Piece := piecesFrom glob.length glob

/-- The text, or what is left of it behind some beginning, passes the test. -/
def anySuffix (ok : Text → Bool) : Text → Bool
  | [] => ok []
  | c :: rest => ok (c :: rest) || anySuffix ok rest

/-- The piece matches the character. -/
def Piece.accepts (c : Char) : Piece → Bool
  | .one d => c = d
  | .any => true
  | .star => true
  | .set negated ranges => (ranges.any fun r => r.1 ≤ c && c ≤ r.2) != negated

/-- The pieces match the whole text. -/
def matchPieces : List Piece → Text → Bool
  | [], t => t.isEmpty
  | .star :: rest, t => anySuffix (matchPieces rest) t
  | piece :: rest, t =>
    match t with
    | [] => false
    | c :: t => piece.accepts c && matchPieces rest t

/-- The glob matches the whole text. -/
def covers (glob t : Text) : Bool := matchPieces (pieces glob) t

end Glob

/-- The relative path is excluded: a glob matches it, or names a directory it
lies below, or has no slash and matches one of its names. Slashes at the end
of a glob do not count. -/
def isExcluded (globs : List Text) (path : Text) : Bool :=
  globs.any fun glob =>
    let glob := Text.trimMarkEnd '/' glob
    Glob.covers glob path || (glob ++ ['/']).isPrefixOf path ||
      (!glob.contains '/' && (Text.cutAt '/' path).any (Glob.covers glob))

end ImportLift
