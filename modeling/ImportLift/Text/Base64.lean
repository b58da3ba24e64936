-- Bytes in base 64. Characters outside the alphabet do not count. Four
-- characters make three bytes, and a group that is cut short has to be filled
-- up by padding, behind which nothing counts any more.
import ImportLift.Text.Basic

namespace ImportLift.Text.Base64

/-- The value of a character of the alphabet. -/
def value? (c : Char) : Option Nat :=
  if 'A' ≤ c && c ≤ 'Z' then some (c.toNat - 'A'.toNat)
  else if 'a' ≤ c && c ≤ 'z' then some (c.toNat - 'a'.toNat + 26)
  else if '0' ≤ c && c ≤ '9' then some (c.toNat - '0'.toNat + 52)
  else if c = '+' then some 62
  else if c = '/' then some 63
  else none

/-- The bytes of a group of characters, given by their values: one byte less
than there are characters. -/
def groupBytes : List Nat → List UInt8
  | [a, b] => [.ofNat (a * 4 + b / 16)]
  | [a, b, c] => [.ofNat (a * 4 + b / 16), .ofNat (b % 16 * 16 + c / 4)]
  | [a, b, c, d] =>
    [.ofNat (a * 4 + b / 16), .ofNat (b % 16 * 16 + c / 4), .ofNat (c % 4 * 64 + d)]
  | _ => []

/-- The bytes of a text. `group` holds the values of the group that is being
read, of which there are three at most, and `pads` counts the padding since the
last of them. -/
def decodeFrom (group : List Nat) (pads : Nat) : Text → Option (List UInt8)
  | [] => if group.isEmpty then some [] else none
  | c :: rest =>
    if c = '=' then
      if 2 ≤ group.length then
        if 4 ≤ group.length + pads + 1 then some (groupBytes group)
        else decodeFrom group (pads + 1) rest
      else decodeFrom group pads rest
    else
      match value? c with
      | none => decodeFrom group pads rest
      | some v =>
        if group.length = 3 then (decodeFrom [] 0 rest).map (groupBytes (group ++ [v]) ++ ·)
        else decodeFrom (group ++ [v]) 0 rest

/-- The bytes that a text writes, unless a group is cut short. -/
def decode? (text : Text) : Option (List UInt8) := decodeFrom [] 0 text

end ImportLift.Text.Base64
