-- The value of a scalar. The text of a scalar is read by the rules of its kind,
-- which is wider than the form by which a plain scalar shows its kind: a tag
-- may ask for a number that is written in another way.
import ImportLift.Data
import ImportLift.Decimal
import ImportLift.Text.Base64
import ImportLift.Text.Case
import ImportLift.Yaml.Fault
import ImportLift.Yaml.Tag

namespace ImportLift.Yaml

/-! ## Numbers -/

/-- An integer in a base. -/
def intIn (base : Nat) (digits : Text) : Except Fault Int :=
  (Integer.read base digits).mapError fun fault => .noValue fault.message

/-- The integer whose digits in base 60 are given, the first the highest. -/
def ofSixties (parts : List Int) : Int := parts.foldl (fun n d => n * 60 + d) 0

/-- The integer of a text without underscores and without a sign in front. -/
def magnitude (digits : Text) : Except Fault Int :=
  match digits with
  | [] => .error .noDigits
  | ['0'] => .ok 0
  | '0' :: 'b' :: rest => intIn 2 rest
  | '0' :: 'x' :: rest => intIn 16 rest
  | '0' :: rest => intIn 8 ('0' :: rest)
  | digits => ((Text.cutAt ':' digits).mapM (intIn 10)).map ofSixties

/-- The integer of a scalar. -/
def intOf (t : Text) : Except Fault Int :=
  let (sign, digits) := Integer.splitSign (t.filter (· ≠ '_'))
  (magnitude digits).map (sign * ·)

/-- The number that a text writes in decimal digits. -/
def pointed (t : Text) : Except Fault Binary64 :=
  match Decimal.read? t with
  | some x => .ok x
  | none => .error (.noValue ("could not convert string to float: " ++ Text.quoted t))

/-- The sum of digits in base 60, the lowest first, added to a sum so far. -/
def sixtySum : Nat → Binary64 → List Binary64 → Except Fault Binary64
  | _, sum, [] => .ok sum
  | place, sum, d :: rest =>
    match Binary64.ofNat place with
    | .infinite _ => .error .hugePlace
    | factor => sixtySum (place * 60) (sum.plus (d.times factor)) rest

/-- The number of a scalar with a point. -/
def floatOf (t : Text) : Except Fault Binary64 := do
  let text := Text.lower (t.filter (· ≠ '_'))
  let (sign, rest) := Integer.splitSign text
  let signed (x : Binary64) : Binary64 := if sign < 0 then x.negate else x
  if text.isEmpty then .error .noDigits
  else if rest = ".inf".toList then return .infinite (sign < 0)
  else if rest = ".nan".toList then return .notNumber
  else if rest.contains ':' then
    let parts ← (Text.cutAt ':' rest).mapM pointed
    return signed (← sixtySum 1 (.ofNat 0) parts.reverse)
  else return signed (← pointed rest)

/-! ## Points in time -/

/-- The number of days of a month. -/
def daysOf (year month : Nat) : Nat :=
  if month = 2 then
    (if year % 4 = 0 && (year % 100 ≠ 0 || year % 400 = 0) then 29 else 28)
  else if month = 4 || month = 6 || month = 9 || month = 11 then 30
  else 31

/-- Days and seconds of a number of minutes. -/
def spanText (minutes : Int) : Text :=
  let days := minutes.fdiv (24 * 60)
  let seconds := minutes.fmod (24 * 60) * 60
  let rest : Text := if seconds = 0 then [] else ", seconds=" ++ Text.ofInt seconds
  "datetime.timedelta(days=" ++ Text.ofInt days ++ rest ++ ")"

/-- Why a point in time does not exist. -/
def momentFault? (m : Moment) : Option Text :=
  let (hour, minute, second) := m.clock.getD (0, 0, 0)
  let offset := m.offset.getD 0
  if 24 * 60 ≤ offset.natAbs then
    some ("offset must be a timedelta strictly between -timedelta(hours=24) and " ++
      "timedelta(hours=24), not " ++ spanText offset ++ ".")
  else if m.year = 0 then some "year 0 is out of range"
  else if m.month = 0 || 12 < m.month then some "month must be in 1..12"
  else if m.day = 0 || daysOf m.year m.month < m.day then some "day is out of range for month"
  else if 23 < hour then some "hour must be in 0..23"
  else if 59 < minute then some "minute must be in 0..59"
  else if 59 < second then some "second must be in 0..59"
  else none

/-- A point in time, which no setting takes. -/
def momentOf (t : Text) : Except Fault Data :=
  match moment? (withoutFinalBreak t) with
  | none => .error .noMoment
  | some m =>
    match momentFault? m with
    | some message => .error (.noValue message)
    | none => .ok .other

/-! ## All kinds -/

/-- The truth value of a scalar. -/
def truthOf (t : Text) : Except Fault Bool :=
  let word := Text.lower t
  match truthWords.lookup word with
  | some truth => .ok truth
  | none => .error (.unknownWord word)

/-- The bytes of a scalar. -/
def bytesOf (t : Text) : Except Fault (List UInt8) :=
  if t.all (·.toNat < 128) then
    match Text.Base64.decode? t with
    | some bytes => .ok bytes
    | none => .error .malformed
  else .error .malformed

/-- The value of a scalar of a kind. -/
def valueOf (tag : Tag) (t : Text) : Except Fault Data :=
  match tag with
  | .null => .ok .null
  | .bool => (truthOf t).map .bool
  | .int => (intOf t).map .int
  | .float => (floatOf t).map .real
  | .timestamp => momentOf t
  | .text => .ok (.text t)
  | .binary => (bytesOf t).map .bytes
  | _ => .error .malformed

end ImportLift.Yaml
