-- Why a component cannot be converted. A failure is a value: its kind, and a
-- detail that names what was looked for. The wording stands here only.
import ImportLift.Text.Basic

namespace ImportLift

/-- The reasons for which one component is left as it was. -/
inductive FailureKind
  /-- The script has no identity accessor. -/
  | noIdentity
  /-- The accessor returns something that is no component name. -/
  | unreadIdentity
  /-- There is no script to take the class from. -/
  | noScript
  /-- No template belongs to the identity. -/
  | noTemplate
  /-- The template of the identity is blank. -/
  | blankTemplate
  /-- The other file of the pair is missing. -/
  | noCompanion
  /-- The module was not written or the document not deleted. -/
  | notWritten
deriving DecidableEq, Repr

namespace FailureKind

/-- Every kind. -/
def every : List FailureKind :=
  [noIdentity, unreadIdentity, noScript, noTemplate, blankTemplate, noCompanion, notWritten]

/-- The code by which reports name the kind. -/
def code : FailureKind → Text
  | noIdentity => "MissingIdentity"
  | unreadIdentity => "IdentityCaptureEmpty"
  | noScript => "MissingJSContent"
  | noTemplate => "TemplateNotFound"
  | blankTemplate => "TemplateBodyMissing"
  | noCompanion => "MissingCompanionFile"
  | notWritten => "WriteFailed"

/-- The kind of a code. -/
def ofCode? (code : Text) : Option FailureKind := every.find? (·.code = code)

/-- The diagnosis for a reader. -/
def description : FailureKind → Text
  | noIdentity => "no identity declared"
  | unreadIdentity => "identity token not extracted"
  | noScript => "no component script content"
  | noTemplate => "no template found for identity"
  | blankTemplate => "template id matched but body missing"
  | noCompanion => "companion file not found"
  | notWritten => "converted module could not be written"

end FailureKind

/-- A failure: its kind and, where there is one, a detail. -/
structure Failure where
  kind : FailureKind
  detail : Option Text
deriving DecidableEq, Repr

/-- The diagnosis, followed by the detail unless that is missing or empty. -/
def Failure.message (f : Failure) : Text :=
  match f.detail with
  | none => f.kind.description
  | some [] => f.kind.description
  | some detail => f.kind.description ++ ": " ++ detail

end ImportLift
