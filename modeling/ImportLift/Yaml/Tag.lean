-- The kind of a scalar or a collection. A plain scalar shows its kind by its
-- form; anything else is a text unless a tag says otherwise. The kinds and
-- forms are those of YAML 1.1.
import ImportLift.Text.Basic

namespace ImportLift.Yaml

/-- The kinds of values that have a meaning, and any other tag. -/
inductive Tag
  | null
  | bool
  | int
  | float
  | timestamp
  | text
  | binary
  | sequence
  | mapping
  | set
  | pairs
  | merge
  | value
  | unknown
deriving DecidableEq, Repr

namespace Tag

/-- The names of the tags, below the common beginning. -/
def names : List (Text × Tag) :=
  [("null", null), ("bool", bool), ("int", int), ("float", float), ("timestamp", timestamp),
    ("str", text), ("binary", binary), ("seq", sequence), ("map", mapping), ("set", set),
    ("pairs", pairs), ("omap", pairs), ("merge", merge), ("value", value)]

/-- How the tags with a meaning start. -/
def lead : Text := "tag:yaml.org,2002:"

/-- The kind that a tag names. -/
def ofName (name : Text) : Tag :=
  if lead.isPrefixOf name then (names.lookup (name.drop lead.length)).getD unknown else unknown

end Tag

/-! ## Forms of plain scalars -/

/-- The words for true and false. -/
def truthWords : List (Text × Bool) :=
  [("yes", true), ("no", false), ("true", true), ("false", false), ("on", true), ("off", false)]

/-- The word in small letters, with a capital, or in capitals. -/
def spellings (word : Text) : List Text :=
  [word, (word.take 1).map Char.toUpper ++ word.drop 1, word.map Char.toUpper]

def isTruthWord (t : Text) : Bool := truthWords.any fun w => (spellings w.1).contains t

def isNullWord (t : Text) : Bool := t = ['~'] || (spellings "null").contains t

/-- A digit or an underscore. -/
def isDigitMark (c : Char) : Bool := c.isDigit || c = '_'

/-- The text without a sign in front. -/
def unsigned : Text → Text
  | '+' :: rest => rest
  | '-' :: rest => rest
  | rest => rest

/-- Digits of base 60 behind a number: a colon and one or two digits below 60. -/
def isSixty (part : Text) : Bool :=
  match part with
  | [a] => a.isDigit
  | [a, b] => '0' ≤ a && a ≤ '5' && b.isDigit
  | _ => false

/-- A whole number, without its sign: binary, octal, decimal, hexadecimal or in base 60. -/
def isWhole (t : Text) : Bool :=
  match t with
  | '0' :: 'b' :: digits => !digits.isEmpty && digits.all fun c => c = '0' || c = '1' || c = '_'
  | '0' :: 'x' :: digits =>
    !digits.isEmpty && digits.all fun c =>
      isDigitMark c || ('a' ≤ c && c ≤ 'f') || ('A' ≤ c && c ≤ 'F')
  | '0' :: digits => digits.all fun c => ('0' ≤ c && c ≤ '7') || c = '_'
  | c :: rest =>
    c.isDigit &&
      match Text.cutAt ':' rest with
      | first :: sixties => first.all isDigitMark && sixties.all isSixty
      | [] => false
  | [] => false

/-- An exponent with its sign, or nothing. -/
def isExponent (t : Text) : Bool :=
  match t with
  | [] => true
  | e :: sign :: digits =>
    (e = 'e' || e = 'E') && (sign = '+' || sign = '-') && !digits.isEmpty && digits.all Char.isDigit
  | _ => false

/-- A number with a point, without its sign. -/
def isPointed (t : Text) : Bool :=
  let whole := t.takeWhile (· ≠ '.')
  let behind := (t.dropWhile (· ≠ '.')).drop 1
  let exponent := behind.dropWhile isDigitMark
  t.contains '.' &&
    match Text.cutAt ':' whole with
    | [[]] => behind.head?.any Char.isDigit && isExponent exponent
    | (c :: digits) :: sixties =>
      c.isDigit && digits.all isDigitMark && sixties.all isSixty &&
        (if sixties.isEmpty then isExponent exponent else exponent.isEmpty)
    | _ => false

/-- Infinity, without its sign. -/
def isInfinity (t : Text) : Bool :=
  ([".inf", ".Inf", ".INF"] : List Text).contains t

/-- The value that is no number. -/
def isNoNumber (t : Text) : Bool :=
  ([".nan", ".NaN", ".NAN"] : List Text).contains t

/-- A number with a point or a value past the numbers. A number that starts
with its point and the value that is no number have no sign. -/
def isFloat (t : Text) : Bool :=
  let bare := unsigned t
  isInfinity bare || isNoNumber t || (isPointed bare && (bare = t || bare.head? ≠ some '.'))

/-! ## Points in time -/

/-- A date and, with an hour, a time of day. All parts are as written. -/
structure Moment where
  year : Nat
  month : Nat
  day : Nat
  /-- Hour, minute and second. -/
  clock : Option (Nat × Nat × Nat)
  /-- The distance from universal time in minutes, where one is given. -/
  offset : Option Int
  /-- The date is written with all its digits. -/
  full : Bool
deriving DecidableEq, Repr

/-- A number of at least `least` and at most `most` digits, and what follows. -/
def number? (least most : Nat) (t : Text) : Option (Nat × Text) :=
  let digits := (t.take most).takeWhile Char.isDigit
  if digits.length < least then none
  else some (digits.foldl (fun n c => n * 10 + (c.toNat - '0'.toNat)) 0, t.drop digits.length)

/-- What follows a mark, if the mark comes next. -/
def after? (mark : Char) : Text → Option Text
  | c :: rest => if c = mark then some rest else none
  | [] => none

def isSpaceOrTab (c : Char) : Bool := c = ' ' || c = '\t'

/-- The distance from universal time at the end of a text: nothing, `Z`, or
a sign, hours and perhaps minutes. -/
def offset? (t : Text) : Option (Option Int) :=
  match t with
  | [] => some none
  | _ =>
    match t.dropWhile isSpaceOrTab with
    | ['Z'] => some (some 0)
    | sign :: rest =>
      if sign = '+' || sign = '-' then do
        let (hours, rest) ← number? 1 2 rest
        let minutes ← match rest with
          | [] => some 0
          | _ => do
            let (minutes, rest) ← number? 2 2 (← after? ':' rest)
            if rest.isEmpty then some minutes else none
        let total : Int := (hours * 60 + minutes : Nat)
        return some (if sign = '-' then -total else total)
      else none
    | [] => none

/-- The point in time that a text writes. -/
def moment? (t : Text) : Option Moment := do
  let (year, rest) ← number? 4 4 t
  let (month, r) ← number? 1 2 (← after? '-' rest)
  let (day, r') ← number? 1 2 (← after? '-' r)
  let full := t.length = r'.length + 10
  match r' with
  | [] => return ⟨year, month, day, none, none, full⟩
  | c :: behind =>
    let rest ← if c = 'T' || c = 't' then some behind
      else if isSpaceOrTab c then some (behind.dropWhile isSpaceOrTab) else none
    let (hour, rest) ← number? 1 2 rest
    let (minute, rest) ← number? 2 2 (← after? ':' rest)
    let (second, rest) ← number? 2 2 (← after? ':' rest)
    let rest := match rest with
      | '.' :: fraction => fraction.dropWhile Char.isDigit
      | rest => rest
    let offset ← offset? rest
    return ⟨year, month, day, some (hour, minute, second), offset, full⟩

/-- The text has the form of a point in time; a date alone has all its digits. -/
def isMoment (t : Text) : Bool :=
  match moment? t with
  | none => false
  | some m => m.full || m.clock.isSome

/-- A mark that no plain scalar starts with. -/
def isMark (t : Text) : Bool := t = ['!'] || t = ['&'] || t = ['*']

/-- The text without one line feed at its end. -/
def withoutFinalBreak (t : Text) : Text := if t.getLast? = some '\n' then t.dropLast else t

/-- The kind that the form of a text shows. -/
def Tag.ofForm (t : Text) : Tag :=
  if isNullWord t then .null
  else if isTruthWord t then .bool
  else if isFloat t then .float
  else if isWhole (unsigned t) then .int
  else if t = "<<".toList then .merge
  else if t = "=".toList then .value
  else if isMoment t then .timestamp
  else if isMark t then .unknown
  else .text

/-- The kind of a plain scalar. Nothing at all is null, and otherwise a line
feed at the end does not count. -/
def Tag.ofPlain (t : Text) : Tag :=
  if t.isEmpty then .null
  else
    match withoutFinalBreak t with
    | [] => .text
    | t => .ofForm t

end ImportLift.Yaml
