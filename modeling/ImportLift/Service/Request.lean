-- What is asked of the service. The content of a request is data, and a
-- request for a conversion or a migration is read from its fields. Every field
-- that does not fit is a problem, and all problems are reported, in the order
-- of the fields.
import ImportLift.Json.Encoding

namespace ImportLift.Service

/-! ## Content -/

/-- The content of a request. -/
inductive Content
  | nothing
  /-- Content that is no JSON text. -/
  | malformed
  /-- Content that is no text, or goes past the limits. -/
  | unreadable
  | data (value : Data)

/-- What the service puts up with in JSON texts. -/
def limits : Json.Limits := ⟨960, Integer.maxDigits⟩

/-- The content that bytes make. -/
def Content.ofBytes (bytes : List UInt8) : Content :=
  if bytes.isEmpty then .nothing
  else
    match Json.textOf? bytes with
    | none => .unreadable
    | some text =>
      match Json.read limits text with
      | .ok value => .data value
      | .error .malformed => .malformed
      | .error .excessive => .unreadable

structure Request where
  method : Text
  /-- The reference that is asked for. -/
  target : Text
  content : Content := .nothing

/-- The method in capital letters. Names of methods are ASCII. -/
def Request.verb (r : Request) : Text := r.method.map Char.toUpper

/-! ## Problems -/

/-- What is wrong with content or with one of its fields. -/
inductive ProblemKind
  | missing
  | notJson
  | notObject
  | notText
  /-- Neither a truth value nor something that can spell one. -/
  | notTruth
  /-- A word or a number that spells no truth value. -/
  | unknownTruth
deriving DecidableEq, Repr

def ProblemKind.code : ProblemKind → Text
  | missing => "missing"
  | notJson => "json_invalid"
  | notObject => "model_attributes_type"
  | notText => "string_type"
  | notTruth => "bool_type"
  | unknownTruth => "bool_parsing"

structure Problem where
  /-- The field, or none when the content as a whole is at fault. -/
  field : Option Text
  kind : ProblemKind
  /-- What was found there. -/
  found : Data

/-- The problem of a field that could not be read. -/
def problem? {α : Type} : Except Problem α → Option Problem
  | .ok _ => none
  | .error problem => some problem

/-! ## Fields -/

/-- The fields of a request. -/
abbrev Fields := List (Data × Data)

/-- A field that must be there. -/
def required (fields : Fields) (name : Text) : Except Problem Data :=
  match Data.field? fields name with
  | none => .error ⟨some name, .missing, .mapping fields⟩
  | some value => .ok value

/-- The text that a field holds. -/
def textOf (name : Text) : Data → Except Problem Text
  | .text value => .ok value
  | value => .error ⟨some name, .notText, value⟩

/-- The text that a field holds, where null is allowed. -/
def textOrNull (name : Text) : Data → Except Problem (Option Text)
  | .null => .ok none
  | value => (textOf name value).map some

/-- The words for true and for false, in any case. -/
def truthWords : List (Text × Bool) :=
  [("0", false), ("off", false), ("f", false), ("false", false), ("n", false), ("no", false),
    ("1", true), ("on", true), ("t", true), ("true", true), ("y", true), ("yes", true)]

/-- The integer that a number of moderate size equals. -/
def integerOf? (x : Binary64) : Option Int := x.toInt?.filter (·.natAbs < Nat.pow 2 63)

/-- An integer that fits into 64 bits with its sign. -/
def isModerate (n : Int) : Bool := -(Nat.pow 2 63 : Int) ≤ n && n < (Nat.pow 2 63 : Int)

/-- The truth value that an integer spells. -/
def truthOfInt? (n : Int) : Option Bool := if n = 0 then some false else if n = 1 then some true else none

/-- The truth value that a field holds. -/
def truthOf (name : Text) (value : Data) : Except Problem Bool :=
  let spelled (found : Option Bool) : Except Problem Bool :=
    match found with
    | some truth => .ok truth
    | none => .error ⟨some name, .unknownTruth, value⟩
  match value with
  | .bool truth => .ok truth
  | .int n => if isModerate n then spelled (truthOfInt? n) else .error ⟨some name, .notTruth, value⟩
  | .text word => spelled (truthWords.lookup (word.map Char.toLower))
  | .real x =>
    match integerOf? x with
    | some n => spelled (truthOfInt? n)
    | none => .error ⟨some name, .notTruth, value⟩
  | value => .error ⟨some name, .notTruth, value⟩

/-! ## Requests -/

/-- A component to convert. -/
structure ConvertRequest where
  html : Text
  script : Option Text
  fileName : Text
  librarySegment : Option Text
deriving DecidableEq, Repr

def ConvertRequest.ofFields (fields : Fields) : Except (List Problem) ConvertRequest :=
  let html := (required fields "html").bind (textOf "html")
  let script := textOrNull "js" (Data.field fields "js")
  let fileName := textOf "filename" ((Data.field? fields "filename").getD (.text []))
  let segment := textOrNull "library_segment" (Data.field fields "library_segment")
  match html, script, fileName, segment with
  | .ok html, .ok script, .ok fileName, .ok segment => .ok ⟨html, script, fileName, segment⟩
  | html, script, fileName, segment =>
    .error ([problem? html, problem? script, problem? fileName, problem? segment].filterMap id)

/-- A file or a tree to migrate. -/
structure MigrateRequest where
  path : Text
  dryRun : Bool
deriving DecidableEq, Repr

def MigrateRequest.ofFields (fields : Fields) : Except (List Problem) MigrateRequest :=
  let path := (required fields "path").bind (textOf "path")
  let dryRun := truthOf "dry_run" ((Data.field? fields "dry_run").getD (.bool false))
  match path, dryRun with
  | .ok path, .ok dryRun => .ok ⟨path, dryRun⟩
  | path, dryRun => .error ([problem? path, problem? dryRun].filterMap id)

/-- The fields of content. -/
def Content.fields : Content → Except Problem Fields
  | .nothing => .error ⟨none, .missing, .null⟩
  | .data .null => .error ⟨none, .missing, .null⟩
  | .malformed | .unreadable => .error ⟨none, .notJson, .mapping []⟩
  | .data (.mapping fields) => .ok fields
  | .data value => .error ⟨none, .notObject, value⟩

end ImportLift.Service
