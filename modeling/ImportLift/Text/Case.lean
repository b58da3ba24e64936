-- Upper and lower case of whole texts. A character may change into several,
-- and a capital sigma at the end of a word has a lower-case form of its own.
-- Names of files and of components are compared in lower case.
import ImportLift.Text.Blank
import ImportLift.Text.CaseTable

namespace ImportLift.Text

/-- The image of a code point under a table of runs, if a run reaches it. -/
def imageOf? (runs : List (Nat × Nat × Nat × Nat)) (n : Nat) : Option Nat :=
  runs.findSome? fun (first, last, step, image) =>
    if first ≤ n && n ≤ last && (n - first) % step = 0 then some (image + (n - first)) else none

/-- The lower-case form of a character that stands alone. -/
def lowerOne (c : Char) : Text :=
  if c.toNat < 128 then [c.toLower]
  else if c = '\u0130' then ['i', '\u0307']
  else
    match imageOf? lowerRuns c.toNat with
    | some n => [Char.ofNat n]
    | none => [c]

/-- The upper-case form of a character. -/
def upperOne (c : Char) : Text :=
  if c.toNat < 128 then [c.toUpper]
  else
    match upperSpellings.lookup c.toNat with
    | some spelling => spelling.map Char.ofNat
    | none =>
      match imageOf? upperRuns c.toNat with
      | some n => [Char.ofNat n]
      | none => [c]

/-- The character has case and is not passed over. -/
def isCased (c : Char) : Bool := inRanges casedRanges c.toNat

/-- The character is passed over when case is looked for. -/
def isCaseIgnorable (c : Char) : Bool := inRanges caseIgnorableRanges c.toNat

/-- The first character that is not passed over has case. -/
def casedAhead (rest : Text) : Bool :=
  match rest.dropWhile isCaseIgnorable with
  | [] => false
  | c :: _ => isCased c

/-- Lower case from here on. The first argument says whether the last
character behind that is not passed over has case. -/
def lowerFrom : Bool → Text → Text
  | _, [] => []
  | behind, c :: rest =>
    let image := if c = 'Σ' then (if behind && !casedAhead rest then ['ς'] else ['σ']) else lowerOne c
    let behind := if c.toNat < 128 && c.isAlphanum then c.isAlpha
      else if isCaseIgnorable c then behind else isCased c
    image ++ lowerFrom behind rest

/-- The text in lower case. -/
def lower (text : Text) : Text := lowerFrom false text

/-- The two texts are equal in lower case. -/
def sameLower (a b : Text) : Bool := lower a = lower b

end ImportLift.Text
