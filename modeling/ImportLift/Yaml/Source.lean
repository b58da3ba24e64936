-- A document that is being read: what is left of it and where in it the
-- reader stands. The column counts from the last line break. Line breaks are
-- the line feed, the next-line character and the two Unicode separators; a
-- carriage return has become a line feed before a document is read.
import ImportLift.Yaml.Fault

namespace ImportLift.Yaml

/-- The rest of a document and the place where it starts. -/
structure Source where
  rest : Text
  /-- The length of the whole document, which bounds every loop over the rest. -/
  size : Nat
  index : Nat := 0
  line : Nat := 0
  column : Nat := 0
deriving DecidableEq, Repr

/-- What stands behind the end of a document. -/
def ending : Char := '\x00'

/-- The character breaks a line. -/
def isBreak (c : Char) : Bool := c = '\n' || c = '\u0085' || c = '\u2028' || c = '\u2029'

/-- A line ends here. -/
def endsLine (c : Char) : Bool := c = ending || isBreak c

/-- A token ends here: white space or the end of a line. -/
def endsToken (c : Char) : Bool := endsLine c || c = ' ' || c = '\t'

/-- A directive or a tag ends here: a space or the end of a line. -/
def endsWord (c : Char) : Bool := endsLine c || c = ' '

namespace Source

/-- The character `n` places ahead. -/
def peekAt (s : Source) (n : Nat) : Char := s.rest.getD n ending

/-- The next character. -/
def peek (s : Source) : Char := s.rest.headD ending

/-- The source past one character. A byte-order mark takes no column. -/
def step (s : Source) : Source :=
  match s.rest with
  | [] => s
  | c :: rest =>
    if isBreak c then ⟨rest, s.size, s.index + 1, s.line + 1, 0⟩
    else if c = '\uFEFF' then ⟨rest, s.size, s.index + 1, s.line, s.column⟩
    else ⟨rest, s.size, s.index + 1, s.line, s.column + 1⟩

/-- The source past `n` characters. -/
def skip (s : Source) : Nat → Source
  | 0 => s
  | n + 1 => s.step.skip n

/-- The characters up to the first that fails the test. -/
def run (s : Source) (ok : Char → Bool) : Text := s.rest.takeWhile ok

/-- The source past the characters that pass the test. -/
def past (s : Source) (ok : Char → Bool) : Source := s.skip (s.run ok).length

/-- A line break, as it counts in a scalar, and the source past it; nothing
where no line ends. -/
def lineBreak (s : Source) : Text × Source :=
  if s.peek = '\n' || s.peek = '\u0085' then (['\n'], s.step)
  else if isBreak s.peek then ([s.peek], s.step)
  else ([], s)

/-- A mark of three characters stands here, with nothing joined to it. -/
def atMark (s : Source) (mark : Char) : Bool :=
  s.rest.take 3 = [mark, mark, mark] && endsToken (s.peekAt 3)

/-- A document starts or ends here. -/
def atDocumentMark (s : Source) : Bool := s.atMark '-' || s.atMark '.'

/-- The source past the rest of a line that may hold only a comment. -/
def restOfLine (s : Source) : Except Fault Source :=
  let s := s.past (· = ' ')
  let s := if s.peek = '#' then s.past (fun c => !endsLine c) else s
  if endsLine s.peek then .ok s.lineBreak.2 else .error .malformed

end Source

end ImportLift.Yaml
