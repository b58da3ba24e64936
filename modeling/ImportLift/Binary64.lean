-- Numbers in binary floating point with 53 bits, as exact values. Reading a
-- decimal takes the nearest such number, a tie goes to the even mantissa.
-- Writing takes the fewest digits that read back as the same number.
import ImportLift.Text.Basic

namespace ImportLift

/-- A number: a sign and `mantissa * 2 ^ exponent`, or one of the values past the numbers. -/
inductive Binary64
  | finite (negative : Bool) (mantissa : Nat) (exponent : Int)
  | infinite (negative : Bool)
  | notNumber
deriving DecidableEq, Repr

namespace Binary64

/-! ## Rounding -/

/-- The quotient rounded to the nearest number, a tie to the even one. -/
def roundDiv (num den : Nat) : Nat :=
  let q := num / den
  let twice := 2 * (num % den)
  if twice < den then q else if den < twice then q + 1 else if q % 2 = 0 then q else q + 1

/-- `base ^ n` above the line for `n` from 0 on, and below it for a negative `n`. -/
def ratio (base : Nat) (n : Int) : Nat × Nat :=
  if 0 ≤ n then (Nat.pow base n.toNat, 1) else (1, Nat.pow base (-n).toNat)

/-- The quotient `num / den` counted in units of `2 ^ q`, rounded. -/
def inUnits (num den : Nat) (q : Int) : Nat :=
  let (up, down) := ratio 2 q
  roundDiv (num * down) (den * up)

/-- The least exponent. -/
def minExponent : Int := -1074

/-- The exponent at which `num / den` has 53 bits before rounding, if that is allowed. -/
def exponentFor (num den : Nat) : Int :=
  let q : Int := (num.log2 : Int) - (den.log2 : Int) - 53
  let (up, down) := ratio 2 q
  let found := if num * down / (den * up) < Nat.pow 2 53 then q else q + 1
  if found < minExponent then minExponent else found

/-- The number with the least exponent that has the value, so that equal values are equal. -/
def normal (negative : Bool) (mantissa : Nat) (q : Int) : Binary64 :=
  if mantissa = 0 then finite negative 0 minExponent
  else if Nat.pow 2 53 ≤ mantissa then finite negative (mantissa / 2) (q + 1)
  else finite negative mantissa q

/-- The nearest number to a quotient. -/
def ofRatio (negative : Bool) (num den : Nat) : Binary64 :=
  if num = 0 then finite negative 0 minExponent
  else
    let q := exponentFor num den
    match normal negative (inUnits num den q) q with
    | finite _ m q => if 971 < q then infinite negative else finite negative m q
    | other => other

/-- The nearest number to `digits * 10 ^ exponent`. Exponents so large or so
small that the answer is settled are not multiplied out. -/
def ofDecimal (negative : Bool) (digits : Nat) (exponent : Int) : Binary64 :=
  let size : Int := (Nat.toDigits 10 digits).length + exponent
  if digits = 0 || size < -400 then finite negative 0 minExponent
  else if 400 < size then infinite negative
  else
    let (up, down) := ratio 10 exponent
    ofRatio negative (digits * up) down

/-- The absolute value of a finite number as a quotient. -/
def magnitude (m : Nat) (q : Int) : Nat × Nat :=
  let (up, down) := ratio 2 q
  (m * up, down)

/-! ## Arithmetic -/

/-- The integer with a sign. -/
def signed (negative : Bool) (n : Nat) : Int := if negative then -(n : Int) else n

/-- The number nearest to a natural number. -/
def ofNat (n : Nat) : Binary64 := ofRatio false n 1

/-- The product, rounded. -/
def times : Binary64 → Binary64 → Binary64
  | finite s m q, finite s' m' q' =>
    let (a, b) := magnitude m q
    let (c, d) := magnitude m' q'
    ofRatio (s != s') (a * c) (b * d)
  | finite s m _, infinite s' => if m = 0 then notNumber else infinite (s != s')
  | infinite s, finite s' m _ => if m = 0 then notNumber else infinite (s != s')
  | infinite s, infinite s' => infinite (s != s')
  | notNumber, _ => notNumber
  | _, notNumber => notNumber

/-- The sum, rounded. A sum of zero is negative only if both numbers are. -/
def plus : Binary64 → Binary64 → Binary64
  | finite s m q, finite s' m' q' =>
    let (a, b) := magnitude m q
    let (c, d) := magnitude m' q'
    let sum := signed s (a * d) + signed s' (c * b)
    ofRatio (if sum = 0 then s && s' else sum < 0) sum.natAbs (b * d)
  | infinite s, infinite s' => if s = s' then infinite s else notNumber
  | finite .., other => other
  | infinite _, notNumber => notNumber
  | other, _ => other

/-- The number with the other sign. -/
def negate : Binary64 → Binary64
  | finite s m q => finite (!s) m q
  | infinite s => infinite (!s)
  | notNumber => notNumber

/-- The number is zero. -/
def isZero : Binary64 → Bool
  | finite _ m _ => m = 0
  | _ => false

/-- The integer that the number is, if it is one. -/
def toInt? : Binary64 → Option Int
  | finite s m q =>
    let (num, den) := magnitude m q
    if num % den = 0 then some (signed s (num / den)) else none
  | _ => none

/-! ## The fewest digits -/

/-- The number of digits before the point: the value is at least `10 ^ (n - 1)` and below `10 ^ n`. -/
def pointAfter (num den : Nat) : Int :=
  let guess : Int := ((num.log2 : Int) - (den.log2 : Int)) * 30103 / 100000
  let reaches (n : Int) : Bool :=
    let (up, down) := ratio 10 n
    den * up ≤ num * down
  ((List.range 4).map fun (i : Nat) => guess - 1 + i).foldl (fun n k => if reaches k then k + 1 else n)
    (guess - 1)

/-- The neighbours of the value among the decimals of `n` digits that read back
as the number, the nearer first. -/
def candidates (m : Nat) (q : Int) (point : Int) (n : Nat) : List Nat :=
  let (num, den) := magnitude m q
  let (up, down) := ratio 10 (point - n)
  let low := num * down / (den * up)
  let rest := num * down % (den * up)
  let pair := if 2 * rest ≤ den * up then [low, low + 1] else [low + 1, low]
  pair.filter fun d => ofDecimal false d (point - n) = finite false m q

/-- The fewest digits that read back as the number, and the place of the
point: the value is `0.digits * 10 ^ point`. -/
def shortest (m : Nat) (q : Int) : Text × Int :=
  let (num, den) := magnitude m q
  let point := pointAfter num den
  match (List.range 18).findSome? fun n => (candidates m q point (n + 1)).head?.map (n + 1, ·) with
  | none => ("0", 1)
  | some (n, d) =>
    let digits := Text.ofNat d
    let trimmed := Text.trimMarkEnd '0' digits
    (trimmed, point + ((digits.length : Int) - (n : Int)))

/-- An exponent with its sign and at least two digits. -/
def exponentText (e : Int) : Text :=
  let digits := Text.ofNat e.natAbs
  (if e < 0 then ['-'] else ['+']) ++ (if digits.length < 2 then '0' :: digits else digits)

/-- Digits with the point set in: positional from 0.0001 up to sixteen places,
and with an exponent outside. -/
def place (digits : Text) (point : Int) : Text :=
  if point ≤ -4 || 16 < point then
    let fraction := digits.drop 1
    digits.take 1 ++ (if fraction.isEmpty then [] else '.' :: fraction) ++
      'e' :: exponentText (point - 1)
  else if point ≤ 0 then "0." ++ List.replicate (-point).toNat '0' ++ digits
  else if digits.length ≤ point.toNat then
    digits ++ List.replicate (point.toNat - digits.length) '0' ++ ".0"
  else digits.take point.toNat ++ '.' :: digits.drop point.toNat

/-- The number as text. -/
def render : Binary64 → Text
  | finite s m q =>
    let text := if m = 0 then "0.0".toList else
      let (digits, point) := shortest m q
      place digits point
    if s then '-' :: text else text
  | infinite s => if s then "-inf" else "inf"
  | notNumber => "nan"

end Binary64

end ImportLift
