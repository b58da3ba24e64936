-- The text of JSON bytes. JSON starts with an ASCII character, so the zero
-- bytes among the first four show whether its characters take one, two or
-- four bytes, and in which order. A half of a pair of surrogates on its own
-- is let through.
import ImportLift.Json
import ImportLift.Text.Utf8

namespace ImportLift.Json

/-- How characters are written as bytes: in UTF-8, with or without a mark in
front, or in numbers of two or four bytes, the highest byte first or last. -/
inductive Encoding
  | marked
  | utf8
  | utf16 (highFirst : Bool)
  | utf32 (highFirst : Bool)
deriving DecidableEq, Repr

/-- The encoding that the first bytes show. -/
def Encoding.ofBytes : List UInt8 → Encoding
  | 0xEF :: 0xBB :: 0xBF :: _ => marked
  | a :: b :: c :: d :: _ =>
    if a = 0 then (if b = 0 then utf32 true else utf16 true)
    else if b = 0 then (if c = 0 && d = 0 then utf32 false else utf16 false)
    else utf8
  | [a, b] => if a = 0 then utf16 true else if b = 0 then utf16 false else utf8
  | _ => utf8

/-- The number that bytes make. -/
def ofBytes (highFirst : Bool) (bytes : List UInt8) : Nat :=
  (if highFirst then bytes else bytes.reverse).foldl (fun n b => n * 256 + b.toNat) 0

/-- The numbers of two bytes each, if the bytes come out even. -/
def pairs? (highFirst : Bool) : List UInt8 → Option (List Nat)
  | [] => some []
  | a :: b :: rest => (pairs? highFirst rest).map (ofBytes highFirst [a, b] :: ·)
  | _ => none

/-- The numbers of four bytes each, if the bytes come out even. -/
def fours? (highFirst : Bool) : List UInt8 → Option (List Nat)
  | [] => some []
  | a :: b :: c :: d :: rest => (fours? highFirst rest).map (ofBytes highFirst [a, b, c, d] :: ·)
  | _ => none

/-- The text of numbers of 16 bits. -/
def ofUnits : List Nat → Text
  | [] => []
  | [unit] => [ofUnit unit]
  | high :: low :: rest =>
    if isHighHalf high && isLowHalf low then ofHalves high low :: ofUnits rest
    else ofUnit high :: ofUnits (low :: rest)

/-- The text of code points, unless one is past the last. -/
def ofCodes? (codes : List Nat) : Option Text :=
  if codes.all (· < 0x110000) then some (codes.map ofUnit) else none

/-- The text of bytes in an encoding. -/
def Encoding.decode? (e : Encoding) (bytes : List UInt8) : Option Text :=
  match e with
  | marked => (Utf8.decode (bytes.drop 3)).toOption
  | utf8 => (Utf8.decode bytes).toOption
  | utf16 highFirst => (pairs? highFirst bytes).map ofUnits
  | utf32 highFirst => (fours? highFirst bytes).bind ofCodes?

/-- The text of JSON bytes. -/
def textOf? (bytes : List UInt8) : Option Text := (Encoding.ofBytes bytes).decode? bytes

end ImportLift.Json
