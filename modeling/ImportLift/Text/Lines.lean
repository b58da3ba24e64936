-- Lines. A text is cut after each line break, and a carriage return with the
-- line feed after it is one break. The breaks kept on the lines join back to
-- the text.
import ImportLift.Text.Basic

namespace ImportLift.Text

/-- The character ends a line. -/
def isLineBreak (c : Char) : Bool :=
  (10 ≤ c.toNat && c.toNat ≤ 13) || (0x1C ≤ c.toNat && c.toNat ≤ 0x1E) || c.toNat = 0x85 ||
    c.toNat = 0x2028 || c.toNat = 0x2029

/-- A line and the break that ends it; only the last line may have none. -/
structure Line where
  body : Text
  ending : Text
deriving DecidableEq, Repr

/-- The line with its break. -/
def Line.whole (line : Line) : Text := line.body ++ line.ending

/-- One more character in front of the first line. -/
def Line.push (c : Char) : List Line → List Line
  | [] => [⟨[c], []⟩]
  | line :: rest => ⟨c :: line.body, line.ending⟩ :: rest

/-- The lines of a text. A break at the very end starts no further line. -/
def cutLines : Text → List Line
  | [] => []
  | '\r' :: '\n' :: rest => ⟨[], ['\r', '\n']⟩ :: cutLines rest
  | c :: rest => if isLineBreak c then ⟨[], [c]⟩ :: cutLines rest else Line.push c (cutLines rest)

/-- The lines without their breaks. -/
def lines (text : Text) : List Text := (cutLines text).map Line.body

/-- The lines with their breaks. -/
def wholeLines (text : Text) : List Text := (cutLines text).map Line.whole

/-- Each line feed, carriage return or pair of the two becomes one line feed. -/
def unifyBreaks : Text → Text
  | [] => []
  | '\r' :: '\n' :: rest => '\n' :: unifyBreaks rest
  | '\r' :: rest => '\n' :: unifyBreaks rest
  | c :: rest => c :: unifyBreaks rest

end ImportLift.Text
