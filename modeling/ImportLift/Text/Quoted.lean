-- Quoted texts, as messages show names of files. The quotation marks are
-- single unless the text holds a single one and no double one. The mark, the
-- backslash and every hidden character are written as escapes.
import ImportLift.Text.Blank
import ImportLift.Text.Hidden

namespace ImportLift.Text

/-- The character has no visible form of its own; the space has one. -/
def isHidden (c : Char) : Bool :=
  if c.toNat < 128 then c.toNat < 32 || c.toNat = 127 else inRanges hiddenRanges c.toNat

/-- A number in small hexadecimal digits, filled up with zeros. -/
def hex (width n : Nat) : Text :=
  let digits := Nat.toDigits 16 n
  List.replicate (width - digits.length) '0' ++ digits

/-- The escape of a hidden character. -/
def hiddenEscape (c : Char) : Text :=
  if c = '\n' then "\\n"
  else if c = '\r' then "\\r"
  else if c = '\t' then "\\t"
  else if c.toNat < 0x100 then "\\x" ++ hex 2 c.toNat
  else if c.toNat < 0x10000 then "\\u" ++ hex 4 c.toNat
  else "\\U" ++ hex 8 c.toNat

/-- The quotation mark for a text. -/
def quoteMark (text : Text) : Char :=
  if text.contains '\'' && !text.contains '"' then '"' else '\''

/-- A character inside quotation marks. -/
def quotedChar (mark c : Char) : Text :=
  if c = mark || c = '\\' then ['\\', c] else if isHidden c then hiddenEscape c else [c]

/-- The text in quotation marks. -/
def quoted (text : Text) : Text :=
  let mark := quoteMark text
  mark :: text.flatMap (quotedChar mark) ++ [mark]

/-- A list of texts, quoted, in square brackets. -/
def quotedList (texts : List Text) : Text := '[' :: join ", " (texts.map quoted) ++ [']']

end ImportLift.Text
