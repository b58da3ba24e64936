-- Text as bytes in UTF-8. Decoding is strict: it refuses the first sequence
-- that is no character and says where that sequence is and what is wrong
-- with it.
import ImportLift.Text.Quoted

namespace ImportLift

namespace Utf8

/-- The bytes of a text. -/
def encode (text : Text) : List UInt8 := text.flatMap String.utf8EncodeChar

/-- What is wrong with a sequence of bytes. -/
inductive Flaw
  | badStart
  | badContinuation
  | cutShort
deriving DecidableEq, Repr

/-- A refused sequence: its offset, its bytes and the flaw. -/
structure Fault where
  start : Nat
  bytes : List UInt8
  flaw : Flaw
deriving DecidableEq, Repr

def Flaw.message : Flaw → Text
  | badStart => "invalid start byte"
  | badContinuation => "invalid continuation byte"
  | cutShort => "unexpected end of data"

def Fault.message (f : Fault) : Text :=
  match f.bytes with
  | [b] =>
    "'utf-8' codec can't decode byte 0x" ++ Text.hex 2 b.toNat ++ " in position " ++
      Text.ofNat f.start ++ ": " ++ f.flaw.message
  | bytes =>
    "'utf-8' codec can't decode bytes in position " ++ Text.ofNat f.start ++ "-" ++
      Text.ofNat (f.start + bytes.length - 1) ++ ": " ++ f.flaw.message

/-- The byte continues a sequence. -/
def isTail (b : UInt8) : Bool := 0x80 ≤ b && b < 0xC0

/-- The byte may follow the first byte of a sequence of three or four bytes:
it makes neither a form that is too long nor a surrogate nor a number past
the last character. -/
def mayFollow (first second : UInt8) : Bool :=
  isTail second && !(first = 0xE0 && second < 0xA0) && !(first = 0xED && 0xA0 ≤ second) &&
    !(first = 0xF0 && second < 0x90) && !(first = 0xF4 && 0x90 ≤ second)

/-- The character whose bits are the first bits of a lead byte and six of each byte behind it. -/
def assemble (lead : Nat) (tails : List UInt8) : Char :=
  Char.ofNat (tails.foldl (fun n b => n * 64 + b.toNat % 64) lead)

/-- The text of a sequence of bytes that starts at an offset. -/
def decodeFrom : Nat → List UInt8 → Except Fault Text
  | _, [] => .ok []
  | at_, a :: rest =>
    if a < 0x80 then (decodeFrom (at_ + 1) rest).map (Char.ofNat a.toNat :: ·)
    else if a < 0xC2 || 0xF5 ≤ a then .error ⟨at_, [a], .badStart⟩
    else
      match rest with
      | [] => .error ⟨at_, [a], .cutShort⟩
      | b :: rest =>
        if a < 0xE0 then
          if isTail b then (decodeFrom (at_ + 2) rest).map (assemble (a.toNat % 32) [b] :: ·)
          else .error ⟨at_, [a], .badContinuation⟩
        else if !mayFollow a b then .error ⟨at_, [a], .badContinuation⟩
        else
          match rest with
          | [] => .error ⟨at_, [a, b], .cutShort⟩
          | c :: rest =>
            if !isTail c then .error ⟨at_, [a, b], .badContinuation⟩
            else if a < 0xF0 then
              (decodeFrom (at_ + 3) rest).map (assemble (a.toNat % 16) [b, c] :: ·)
            else
              match rest with
              | [] => .error ⟨at_, [a, b, c], .cutShort⟩
              | d :: rest =>
                if isTail d then
                  (decodeFrom (at_ + 4) rest).map (assemble (a.toNat % 8) [b, c, d] :: ·)
                else .error ⟨at_, [a, b, c], .badContinuation⟩

/-- The text of a sequence of bytes. -/
def decode (bytes : List UInt8) : Except Fault Text := decodeFrom 0 bytes

end Utf8

end ImportLift
