-- Absolute paths as lists of names, from the root down. A path text is read
-- name by name: empty names and single dots are dropped, a double dot stays
-- until the path is resolved. The suffix of a name starts at its last dot,
-- unless that dot is the first or the last character.
import ImportLift.Text.Case

namespace ImportLift

/-- The names of a path, from the root down. -/
abbrev Path := List Text

namespace Path

/-- The path as text. -/
def render (p : Path) : Text := '/' :: Text.join "/" p

/-- The names of a path text; empty names and single dots do not count. -/
def namesOf (text : Text) : List Text :=
  (Text.cutAt '/' text).filter fun name => !name.isEmpty && name ≠ ['.']

/-- The name holds a character that no name can hold. -/
def isImpossible (name : Text) : Bool := name.contains '\x00'

/-- The path text starts at the root. -/
def isAbsolute (text : Text) : Bool := text.head? = some '/'

/-- The path that a text names when it is read in a directory. -/
def joined (dir : Path) (text : Text) : Path :=
  if isAbsolute text then namesOf text else dir ++ namesOf text

/-- A path as it is shown when it was read in a directory from a text: from that
directory on, and whole if the text starts at the root. -/
def shownAs (dir : Path) (text : Text) (p : Path) : Text :=
  if isAbsolute text then render p
  else
    match p.drop dir.length with
    | [] => ['.']
    | names => Text.join "/" names

/-- One more name of a path that is resolved: a double dot leads back up. -/
def climb (p : Path) (name : Text) : Path := if name = ['.', '.'] then p.dropLast else p ++ [name]

/-- The path without double dots. -/
def resolve (p : Path) : Path := p.foldl climb []

/-- The last name, empty for the root. -/
def name (p : Path) : Text := p.getLast?.getD []

/-- The directory that holds the path. -/
def parent (p : Path) : Path := p.dropLast

/-- The suffix of a name, its dot included; empty when there is none. -/
def suffixOf (name : Text) : Text :=
  let ending := Text.afterLast '.' name
  if name.contains '.' && !ending.isEmpty && ending.length + 1 < name.length then '.' :: ending
  else []

/-- The suffix of the last name. -/
def suffix (p : Path) : Text := suffixOf p.name

/-- The name with another suffix in place of its own. -/
def renamed (name suffix : Text) : Text :=
  name.take (name.length - (suffixOf name).length) ++ suffix

/-- The path with another suffix. -/
def withSuffix (p : Path) (suffix : Text) : Path := p.parent ++ [renamed p.name suffix]

/-- The path has the suffix, in any case. -/
def hasSuffix (p : Path) (suffix : Text) : Bool := Text.lower p.suffix = suffix

/-- The path in lower case, the key under which companions are found. -/
def key (p : Path) : Text := Text.lower p.render

/-- The path below a directory, if it lies there. -/
def below? (dir p : Path) : Option Path :=
  if dir.isPrefixOf p then some (p.drop dir.length) else none

end Path

end ImportLift
