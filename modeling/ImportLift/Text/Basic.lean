-- Text is a list of characters. Every offset and length of the library
-- counts characters, and the small operations on text that the rest of the
-- library shares stand here: cutting at a mark, joining, looking for a part
-- and replacing it.

namespace ImportLift

/-- A document, a name or a message, character by character. -/
abbrev Text := List Char

scoped instance : Coe String Text := ⟨String.toList⟩

namespace Text

/-! ## Looking for a part -/

/-- The part stands somewhere in the text. -/
def holds (part : Text) : Text → Bool
  | [] => part.isEmpty
  | c :: rest => part.isPrefixOf (c :: rest) || holds part rest

/-! ## Replacing -/

/-- Replaces each occurrence of `old` from left to right. The first argument
counts the characters still to skip because an occurrence covered them. -/
def replaceFrom (old new : Text) : Nat → Text → Text
  | _, [] => []
  | 0, c :: rest =>
    if old.isPrefixOf (c :: rest) then new ++ replaceFrom old new (old.length - 1) rest
    else c :: replaceFrom old new 0 rest
  | skip + 1, _ :: rest => replaceFrom old new skip rest

/-- Every occurrence of a non-empty `old` becomes `new`; occurrences are taken
from left to right and do not overlap. An empty `old` changes nothing. -/
def replaceAll (text old new : Text) : Text :=
  if old.isEmpty then text else replaceFrom old new 0 text

/-! ## Cutting and joining -/

/-- The pieces between the marks; there is one piece more than marks. -/
def cutAt (mark : Char) : Text → List Text
  | [] => [[]]
  | c :: rest =>
    if c = mark then [] :: cutAt mark rest
    else
      match cutAt mark rest with
      | [] => [[c]]
      | piece :: pieces => (c :: piece) :: pieces

/-- The pieces with the separator between neighbours. -/
def join (separator : Text) (pieces : List Text) : Text := separator.intercalate pieces

/-- What follows the last mark, or the whole text when there is none. -/
def afterLast (mark : Char) (text : Text) : Text :=
  (text.reverse.takeWhile (· ≠ mark)).reverse

/-- What stands before the last mark, or the whole text when there is none. -/
def beforeLast (mark : Char) (text : Text) : Text :=
  if text.contains mark then
    ((text.reverse.dropWhile (· ≠ mark)).drop 1).reverse
  else text

/-- The text without the mark at either end. -/
def trimMark (mark : Char) (text : Text) : Text :=
  (((text.dropWhile (· = mark)).reverse).dropWhile (· = mark)).reverse

/-- The text without the marks at its end. -/
def trimMarkEnd (mark : Char) (text : Text) : Text :=
  (text.reverse.dropWhile (· = mark)).reverse

/-- The text `n` times in a row. -/
def times (text : Text) (n : Nat) : Text := (List.replicate n text).flatten

/-! ## Numbers in text -/

/-- A natural number in decimal digits. -/
def ofNat (n : Nat) : Text := Nat.toDigits 10 n

/-- An integer in decimal digits, with a minus sign when it is negative. -/
def ofInt : Int → Text
  | .ofNat n => ofNat n
  | .negSucc n => '-' :: ofNat (n + 1)

/-! ## Order -/

/-- Texts are ordered by code point, and a proper beginning comes first. -/
def le : Text → Text → Bool
  | [], _ => true
  | _ :: _, [] => false
  | a :: as, b :: bs => if a.val < b.val then true else if b.val < a.val then false else le as bs

end Text

end ImportLift
