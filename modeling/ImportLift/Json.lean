-- Reading data from JSON text. Integers keep all digits, other numbers are
-- rounded, and the three names of values past the numbers are read as well.
-- Of several fields of one name the last counts. A reader sets limits, and
-- the first fault in the text is the one that is reported.
import ImportLift.Data
import ImportLift.Decimal

namespace ImportLift.Json

/-- What a reader puts up with. -/
structure Limits where
  /-- How deep lists and objects may be nested. -/
  nesting : Nat
  /-- How many digits an integer may have. -/
  digits : Nat
deriving DecidableEq, Repr

/-- Why a text is not read. -/
inductive Fault
  /-- It is no JSON text. -/
  | malformed
  /-- It goes past a limit. -/
  | excessive
deriving DecidableEq, Repr

/-- The white space between tokens. -/
def isSpace (c : Char) : Bool := c = ' ' || c = '\t' || c = '\n' || c = '\r'

/-- The text from its next token on. -/
def skip (t : Text) : Text := t.dropWhile isSpace

/-! ## Strings -/

/-- What stands for one half of a pair of surrogates that comes without the
other: no character does, so it is the code point that never is one. -/
def loneHalf : Char := Char.ofNat 0x10FFFF

/-- The character of an escape of one letter. -/
def escape? : Char → Option Char
  | '"' => some '"'
  | '\\' => some '\\'
  | '/' => some '/'
  | 'b' => some '\x08'
  | 'f' => some '\x0c'
  | 'n' => some '\n'
  | 'r' => some '\r'
  | 't' => some '\t'
  | _ => none

/-- The four digits of an escape by number, and what follows. -/
def fourDigits? (t : Text) : Option (Nat × Text) :=
  if t.length < 4 then none else (Text.hexNumber? (t.take 4)).map (·, t.drop 4)

/-- The number is the first half of a pair of surrogates. -/
def isHighHalf (unit : Nat) : Bool := 0xD800 ≤ unit && unit < 0xDC00

/-- The number is the second half of a pair of surrogates. -/
def isLowHalf (unit : Nat) : Bool := 0xDC00 ≤ unit && unit < 0xE000

/-- The character of a pair of surrogates. -/
def ofHalves (high low : Nat) : Char := Char.ofNat (0x10000 + (high - 0xD800) * 0x400 + (low - 0xDC00))

/-- The character of a number of 16 bits on its own. -/
def ofUnit (unit : Nat) : Char :=
  if isHighHalf unit || isLowHalf unit then loneHalf else Char.ofNat unit

/-- The rest of a string, up to its closing mark. A pair of surrogates is one
character. -/
def string? : Nat → Text → Option (Text × Text)
  | 0, _ => none
  | _, [] => none
  | _, '"' :: rest => some ([], rest)
  | fuel + 1, '\\' :: 'u' :: rest => do
    let (unit, rest) ← fourDigits? rest
    let pair := if isHighHalf unit && rest.take 2 = ['\\', 'u'] then
        (fourDigits? (rest.drop 2)).filter fun low => isLowHalf low.1
      else none
    match pair with
    | some (low, rest) =>
      let (text, rest) ← string? fuel rest
      return (ofHalves unit low :: text, rest)
    | none =>
      let (text, rest) ← string? fuel rest
      return (ofUnit unit :: text, rest)
  | fuel + 1, '\\' :: c :: rest => do
    let c ← escape? c
    let (text, rest) ← string? fuel rest
    return (c :: text, rest)
  | fuel + 1, c :: rest =>
    if c = '\\' || c.toNat < 32 then none
    else (string? fuel rest).map fun (text, rest) => (c :: text, rest)

/-- A string; the text is behind its opening mark. -/
def string (t : Text) : Except Fault (Text × Text) :=
  match string? (t.length + 1) t with
  | some found => .ok found
  | none => .error .malformed

/-! ## Numbers and names -/

/-- The fraction of a number, if digits follow a point. -/
def fraction (t : Text) : Text × Text :=
  match t with
  | '.' :: rest => match Decimal.digits rest with
    | ([], _) => ([], t)
    | found => found
  | _ => ([], t)

/-- A number and what follows it. A zero is the only number that starts with a zero. -/
def number (limits : Limits) (t : Text) : Except Fault (Data × Text) :=
  let (negative, unsigned) := match t with
    | '-' :: rest => (true, rest)
    | rest => (false, rest)
  let (whole, rest) := match unsigned with
    | '0' :: rest => (['0'], rest)
    | rest => Decimal.digits rest
  if whole.isEmpty then .error .malformed
  else
    let (places, rest) := fraction rest
    let (power, rest) := Decimal.exponent rest
    if places.isEmpty && power.isNone then
      if limits.digits < whole.length then .error .excessive
      else .ok (.int (Binary64.signed negative (Text.toNat whole)), rest)
    else .ok (.real (Decimal.value negative whole places (power.getD 0)), rest)

/-- The values that have names. -/
def names : List (Text × Data) :=
  [("null", .null), ("true", .bool true), ("false", .bool false), ("NaN", .real .notNumber),
    ("Infinity", .real (.infinite false)), ("-Infinity", .real (.infinite true))]

/-- A value with a name, and what follows it. -/
def named? (t : Text) : Option (Data × Text) :=
  (names.find? fun n => n.1.isPrefixOf t).map fun n => (n.2, t.drop n.1.length)

/-! ## Values -/

/-- Fields without those that a later one of the same name replaces. -/
def lastOnes : List (Text × Data) → List (Data × Data)
  | [] => []
  | (name, value) :: rest =>
    if rest.any (·.1 = name) then lastOnes rest else (.text name, value) :: lastOnes rest

mutual

/-- A value and what follows it, where lists and objects may still be nested
`room` deep; the first argument bounds the number of tokens. -/
def value (limits : Limits) : Nat → Nat → Text → Except Fault (Data × Text)
  | 0, _, _ => .error .malformed
  | fuel + 1, room, t =>
    match t with
    | '"' :: rest => (string rest).map fun (text, rest) => (.text text, rest)
    | '[' :: rest =>
      if room = 0 then .error .excessive
      else
        match skip rest with
        | ']' :: rest => .ok (.list [], rest)
        | rest => (items limits fuel (room - 1) rest).map fun (items, rest) => (.list items, rest)
    | '\x7b' :: rest =>
      if room = 0 then .error .excessive
      else
        match skip rest with
        | '\x7d' :: rest => .ok (.mapping [], rest)
        | rest =>
          (fields limits fuel (room - 1) rest).map fun (fields, rest) =>
            (.mapping (lastOnes fields), rest)
    | t =>
      match named? t with
      | some found => .ok found
      | none => number limits t

/-- The items of a list, up to its closing bracket. -/
def items (limits : Limits) : Nat → Nat → Text → Except Fault (List Data × Text)
  | 0, _, _ => .error .malformed
  | fuel + 1, room, t => do
    let (item, rest) ← value limits fuel room (skip t)
    match skip rest with
    | ']' :: rest => return ([item], rest)
    | ',' :: rest =>
      (items limits fuel room rest).map fun (items, rest) => (item :: items, rest)
    | _ => .error .malformed

/-- The fields of an object, up to its closing brace. -/
def fields (limits : Limits) : Nat → Nat → Text → Except Fault (List (Text × Data) × Text)
  | 0, _, _ => .error .malformed
  | fuel + 1, room, t => do
    let '"' :: rest := skip t | .error .malformed
    let (name, rest) ← string rest
    let ':' :: rest := skip rest | .error .malformed
    let (item, rest) ← value limits fuel room (skip rest)
    match skip rest with
    | '\x7d' :: rest => return ([(name, item)], rest)
    | ',' :: rest =>
      (fields limits fuel room rest).map fun (fields, rest) => ((name, item) :: fields, rest)
    | _ => .error .malformed

end

/-- The data of a JSON text. -/
def read (limits : Limits) (t : Text) : Except Fault Data := do
  let (data, rest) ← value limits (2 * t.length + 2) limits.nesting (skip t)
  if (skip rest).isEmpty then return data else .error .malformed

/-- The data of a JSON text that is read without limits. -/
def read? (t : Text) : Option Data := (read ⟨t.length, t.length⟩ t).toOption

end ImportLift.Json
