-- White space. A character is blank when it has the White_Space property or
-- is one of the four separators U+001C to U+001F. Trimming, blank texts and
-- the words of a text all go by this one test.
import ImportLift.Text.Basic

namespace ImportLift.Text

/-- The blank characters outside ASCII, as closed ranges. -/
def blankRanges : List (Nat × Nat) :=
  [(0x85, 0x85), (0xA0, 0xA0), (0x1680, 0x1680), (0x2000, 0x200A), (0x2028, 0x2029),
   (0x202F, 0x202F), (0x205F, 0x205F), (0x3000, 0x3000)]

/-- The code point lies in one of the closed ranges. -/
def inRanges (ranges : List (Nat × Nat)) (n : Nat) : Bool :=
  ranges.any fun r => r.1 ≤ n && n ≤ r.2

/-- The character is white space. -/
def isBlank (c : Char) : Bool :=
  if c.toNat < 128 then
    c = ' ' || (9 ≤ c.toNat && c.toNat ≤ 13) || (0x1C ≤ c.toNat && c.toNat ≤ 0x1F)
  else inRanges blankRanges c.toNat

/-- Every character is white space; so the empty text is blank. -/
def allBlank (text : Text) : Bool := text.all isBlank

/-- The text without the white space it starts with. -/
def trimStart (text : Text) : Text := text.dropWhile isBlank

/-- The text without the white space it ends with. -/
def trimEnd (text : Text) : Text := (text.reverse.dropWhile isBlank).reverse

/-- The text without white space at either end. -/
def trim (text : Text) : Text := trimEnd (trimStart text)

/-- One more character in front of a list of words; `open?` says whether the
first word still grows to the left. -/
def pushWord (c : Char) : Bool × List Text → Bool × List Text
  | (grows, ws) =>
    if isBlank c then (false, ws)
    else
      match grows, ws with
      | true, w :: rest => (true, (c :: w) :: rest)
      | _, ws => (true, [c] :: ws)

/-- The maximal runs of characters that are not blank, in order. -/
def words (text : Text) : List Text := (text.foldr pushWord (false, [])).2

end ImportLift.Text
