-- Integers in text. Digits of every script count as the ASCII ones, white
-- space may stand around a number, and single underscores between its digits.
-- In bases 2, 8 and 16 the mark of the base may stand in front. A decimal
-- number has a limited number of digits, in reading and in writing.
import ImportLift.Text.Blank
import ImportLift.Text.Digit
import ImportLift.Text.Quoted

namespace ImportLift.Integer

/-- The most digits of a decimal number in text. -/
def maxDigits : Nat := 4300

/-- Why a text is read as no integer, or an integer not written. -/
inductive Fault
  /-- The text writes no number in the base. -/
  | noNumber (base : Nat) (text : Text)
  /-- The text has too many digits. -/
  | tooLong (digits : Nat)
  /-- The integer would have too many digits. -/
  | unwritable
deriving DecidableEq, Repr

/-- The most characters of a quoted text in a message. -/
def maxQuoted : Nat := 200

def Fault.message : Fault → Text
  | noNumber base text =>
    "invalid literal for int() with base " ++ Text.ofNat base ++ ": " ++
      (Text.quoted text).take maxQuoted
  | tooLong digits =>
    "Exceeds the limit (4300 digits) for integer string conversion: value has " ++
      Text.ofNat digits ++ " digits; use sys.set_int_max_str_digits() to increase the limit"
  | unwritable =>
    "Exceeds the limit (4300 digits) for integer string conversion; " ++
      "use sys.set_int_max_str_digits() to increase the limit"

/-- The digit of a value below ten. -/
def digitChar (n : Nat) : Char := Char.ofNat ('0'.toNat + n)

/-- A character as it counts in a number: outside ASCII, white space is a
space, a digit the ASCII digit, and anything else a mark that no number has. -/
def plain (c : Char) : Char :=
  if c.toNat < 127 then c
  else if Text.isBlank c then ' '
  else
    match Text.digitValue? c with
    | some n => digitChar n
    | none => '?'

/-- White space around a number. -/
def isSpace (c : Char) : Bool := c = ' ' || ('\t' ≤ c && c ≤ '\r')

/-- The sign that a text starts with, as a factor, and what follows it. -/
def splitSign : Text → Int × Text
  | '-' :: rest => (-1, rest)
  | '+' :: rest => (1, rest)
  | rest => (1, rest)

/-- The letter behind a zero that marks a base. -/
def baseMark? : Nat → Option Char
  | 2 => some 'b'
  | 8 => some 'o'
  | 16 => some 'x'
  | _ => none

/-- The text behind the mark of its base, and behind one underscore after it. -/
def unmarked (base : Nat) : Text → Text
  | '0' :: c :: rest =>
    if baseMark? base = some c.toLower then
      match rest with
      | '_' :: rest => rest
      | rest => rest
    else '0' :: c :: rest
  | t => t

/-- The character is a digit of the base. -/
def isDigit (base : Nat) (c : Char) : Bool := (Text.hexValue? c).any (· < base)

/-- The number that digits of a base write. -/
def ofDigits (base : Nat) (digits : Text) : Nat :=
  digits.foldl (fun n c => n * base + (Text.hexValue? c).getD 0) 0

/-- The integer that a text writes in a base. -/
def read (base : Nat) (text : Text) : Except Fault Int :=
  let (sign, rest) := splitSign ((text.map plain).dropWhile isSpace)
  let rest := unmarked base rest
  let inNumber (c : Char) : Bool := isDigit base c || c = '_'
  let groups := Text.cutAt '_' (rest.takeWhile inNumber)
  let digits := groups.flatten
  if groups.any List.isEmpty then .error (.noNumber base text)
  else if base = 10 && maxDigits < digits.length then .error (.tooLong digits.length)
  else if (rest.dropWhile inNumber).all isSpace then .ok (sign * (ofDigits base digits : Nat))
  else .error (.noNumber base text)

/-- The integer in decimal digits. -/
def write (n : Int) : Except Fault Text :=
  if Nat.pow 10 maxDigits ≤ n.natAbs then .error .unwritable else .ok (Text.ofInt n)

end ImportLift.Integer
