-- What a request is aimed at: a reference, of which only the path counts. A
-- scheme, an authority, a query and a fragment are cut off, dots among the
-- names of the path are resolved, and escapes are decoded.
import ImportLift.Text.Digit

namespace ImportLift.Service.Target

/-- The character may stand in a scheme behind its first letter. -/
def isSchemeChar (c : Char) : Bool := c.isAlphanum || c = '+' || c = '.' || c = '-'

/-- The scheme of a reference, perhaps empty, and what follows its colon. -/
def splitScheme (t : Text) : Text × Text :=
  let scheme := t.takeWhile isSchemeChar
  match t.dropWhile isSchemeChar with
  | ':' :: rest => if scheme.head?.all Char.isAlpha then (scheme, rest) else ([], t)
  | _ => ([], t)

/-- The authority behind two slashes, perhaps empty, and what follows it. -/
def splitAuthority (t : Text) : Text × Text :=
  let inside (c : Char) : Bool := c ≠ '/' && c ≠ '?' && c ≠ '#'
  match t with
  | '/' :: '/' :: rest => (rest.takeWhile inside, rest.dropWhile inside)
  | t => ([], t)

/-- The host of an authority: behind the user, and before the port. -/
def hostOf (authority : Text) : Text := (Text.afterLast '@' authority).takeWhile (· ≠ ':')

/-- One more name of a path whose dots are resolved. A double dot takes the name
before it away, but not the slash that the path starts with. -/
def climb (names : List Text) (name : Text) : List Text :=
  if name = ['.'] then names
  else if name = ['.', '.'] then (if names = [[]] then names else names.dropLast)
  else names ++ [name]

/-- The path without single and double dots. -/
def normal (path : Text) : Text := Text.join ['/'] ((Text.cutAt '/' path).foldl climb [])

/-- The path that a reference leads to from the top of the service. -/
def located (reference : Text) : Text :=
  let (scheme, rest) := splitScheme reference
  let (authority, rest) := splitAuthority rest
  let path := rest.takeWhile fun c => c ≠ '?' && c ≠ '#'
  let path := if scheme.isEmpty && authority.isEmpty then path else normal path
  if scheme.isEmpty || (hostOf authority).isEmpty then normal ('/' :: path.dropWhile (· = '/'))
  else path

/-- What a decoded byte stands for; one that is no ASCII character, for the mark
of a character that cannot be read. -/
def ofByte (n : Nat) : Char := if n < 128 then Char.ofNat n else '\uFFFD'

/-- The text with its escapes decoded: a percent sign with two hexadecimal digits. -/
def decoded : Text → Text
  | '%' :: a :: b :: rest =>
    match Text.hexNumber? [a, b] with
    | some n => ofByte n :: decoded rest
    | none => '%' :: decoded (a :: b :: rest)
  | c :: rest => c :: decoded rest
  | [] => []

/-- The path that a reference is aimed at. Escapes are decoded once on the way
out and once on arrival. -/
def pathOf (reference : Text) : Text :=
  match decoded (decoded (located reference)) with
  | [] => ['/']
  | path => path

end ImportLift.Service.Target
