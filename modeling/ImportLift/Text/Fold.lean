-- Letters compared without regard to case. A letter of a pattern is a small
-- ASCII letter; a character matches it when it is that letter in either case
-- or one of the four characters that fold to it: long s, dotless i, capital i
-- with a dot and the Kelvin sign.
import ImportLift.Text.Basic

namespace ImportLift.Text

/-- The characters outside ASCII that match a small letter. -/
def foldsInto : Char → List Char
  | 's' => ['ſ']
  | 'i' => ['ı', 'İ']
  | 'k' => ['\u212A']
  | _ => []

/-- The character matches the small letter or the mark, case disregarded. -/
def sameFolded (letter c : Char) : Bool := c.toLower = letter || (foldsInto letter).contains c

end ImportLift.Text
