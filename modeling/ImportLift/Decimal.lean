-- Decimal numbers in text: digits, a fraction behind a point, and an exponent.
-- A text is read as the nearest binary number.
import ImportLift.Binary64
import ImportLift.Integer

namespace ImportLift.Decimal

/-- The digits that a text starts with, and what follows. -/
def digits (t : Text) : Text × Text := (t.takeWhile Char.isDigit, t.dropWhile Char.isDigit)

/-- The exponent of a number, if digits follow its mark. -/
def exponent (t : Text) : Option Int × Text :=
  match t with
  | c :: rest =>
    if c = 'e' || c = 'E' then
      let (sign, rest) := Integer.splitSign rest
      match digits rest with
      | ([], _) => (none, t)
      | (found, rest) => (some (sign * (Text.toNat found : Nat)), rest)
    else (none, t)
  | [] => (none, t)

/-- The number of digits before and behind a point, with an exponent. -/
def value (negative : Bool) (whole places : Text) (power : Int) : Binary64 :=
  .ofDecimal negative (Text.toNat (whole ++ places)) (power - places.length)

/-- The number that a text writes without a sign: a point may stand before,
between or behind the digits, of which there is at least one. -/
def unsigned? (negative : Bool) (t : Text) : Option Binary64 :=
  let (whole, rest) := digits t
  let (places, rest) := match rest with
    | '.' :: rest => digits rest
    | rest => ([], rest)
  match exponent rest with
  | (power, []) =>
    if whole.isEmpty && places.isEmpty then none else some (value negative whole places (power.getD 0))
  | _ => none

/-- The number that a text writes. White space may stand around it, and the
values past the numbers have names, in any case. -/
def read? (text : Text) : Option Binary64 :=
  let bare := (text.map Integer.plain).dropWhile Integer.isSpace
  let bare := (bare.reverse.dropWhile Integer.isSpace).reverse
  let (sign, rest) := Integer.splitSign bare
  let word := rest.map Char.toLower
  if word = "inf".toList || word = "infinity".toList then some (.infinite (sign < 0))
  else if word = "nan".toList then some .notNumber
  else unsigned? (sign < 0) rest

end ImportLift.Decimal
