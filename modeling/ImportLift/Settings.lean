-- The settings of a tree, read from a file at its top. Without the file, or
-- where it says nothing, the defaults hold. A value of the wrong kind is
-- ignored; what cannot be read at all is a fault.
import ImportLift.FileTree
import ImportLift.Options
import ImportLift.Yaml.Document

namespace ImportLift

/-- The settings that hold below a directory. -/
structure Settings where
  root : Path
  options : Options := {}
  exclude : List Text := []
deriving DecidableEq, Repr

/-- Why settings cannot be read. -/
inductive SettingsFault
  /-- The document in the file cannot be read. -/
  | document (fault : Yaml.Fault)
  /-- The document is no mapping. -/
  | noMapping
  /-- The assumed depth of the library is negative. -/
  | negativeDepth
  /-- The file cannot be read as text. -/
  | unreadable (fault : ReadFault)
  /-- A number is too long to be a text. -/
  | noText (fault : Integer.Fault)
  /-- The path holds a character that no path can hold. -/
  | impossiblePath
deriving DecidableEq, Repr

namespace Settings

/-- The name of the file. -/
def fileName : Text := ".htmlimport2esm.yml"

end Settings

namespace SettingsFault

def message : SettingsFault → Text
  | document .malformed => "Failed to parse " ++ Settings.fileName
  | document fault => fault.message
  | noMapping => Settings.fileName ++ " must contain a mapping at the root"
  | negativeDepth => "fallback_depth must not be negative"
  | unreadable fault => fault.message
  | noText fault => fault.message
  | impossiblePath => "embedded null byte"

end SettingsFault

namespace Settings

/-! ## Reading values -/

/-- A text, and the default where there is none or an empty one. -/
def orDefault (default : Text) : Option Text → Text
  | none => default
  | some [] => default
  | some text => text

/-- The text of a field. -/
def textField (fields : List (Data × Data)) (name : Text) : Except SettingsFault (Option Text) :=
  (Data.field fields name).asText?.mapError .noText

/-- The texts of a field. -/
def textsField (fields : List (Data × Data)) (name : Text) : Except SettingsFault (List Text) :=
  (Data.field fields name).asTexts.mapError .noText

/-- The texts of a field, and the default where the field is missing. -/
def textsOr (default : List Text) (fields : List (Data × Data)) (name : Text)
    (found : List Text) : List Text :=
  if (Data.field? fields name).isSome then found else default

/-- The library segment without slashes around it, and the default where none is given. -/
def segmentOf (default : Text) : Option Text → Text
  | none => default
  | some [] => default
  | some segment => Text.trimMark '/' segment

/-- The settings that the fields of a document say, for a tree. -/
def ofFields (root : Path) (fields : List (Data × Data)) : Except SettingsFault Settings := do
  let defaults : Options := {}
  let relocation := (Data.field fields "relocation").asFields
  let baseClass := (Data.field fields "base_class").asFields
  let segment ← textField fields "library_segment"
  let depth := ((Data.field fields "fallback_depth").asInt?).getD defaults.fallbackDepth
  if depth < 0 then throw .negativeDepth
  let deprecated ← textsField fields "deprecated_imports"
  let moving ← textsField relocation "prefixes"
  let templatesDir ← textField fields "templates_dir"
  let space ← textField relocation "namespace"
  let legacy ← textField baseClass "legacy"
  let modern ← textField baseClass "modern"
  let exclude ← textsField fields "exclude_paths"
  let options : Options :=
    { librarySegment := segmentOf defaults.librarySegment segment
      fallbackDepth := depth
      deprecatedImports := textsOr defaults.deprecatedImports fields "deprecated_imports" deprecated
      relocationNamespace := orDefault defaults.relocationNamespace space
      relocatedPrefixes := textsOr defaults.relocatedPrefixes relocation "prefixes" moving
      legacyBaseClass := orDefault defaults.legacyBaseClass legacy
      modernBaseClass := orDefault defaults.modernBaseClass modern
      templatesDir := (templatesDir.filter (!·.isEmpty)).map root.joined }
  return ⟨root, options, exclude⟩

/-- How deep settings are nested: a list of texts in a mapping in the document. -/
def depth : Nat := 4

/-- The fields that a settings document says. A document that says nothing has
none, whatever its kind. -/
def fieldsOf (text : Text) : Except SettingsFault (List (Data × Data)) :=
  if text.allBlank then .ok []
  else
    match Yaml.read depth text with
    | .error fault => .error (.document fault)
    | .ok data =>
      match data with
      | .mapping fields => .ok fields
      | data => if data.isVoid then .ok [] else .error .noMapping

/-! ## Finding the file -/

/-- The place of the settings file for a path: in the path itself when that is
a directory, the path itself when it has the right name, else beside it. -/
def place (t : FileTree) (p : Path) : Except FileFault Path :=
  (t.probe p).map fun found =>
    if found = some .directory then p ++ [fileName]
    else if p.name = fileName then p
    else p.parent ++ [fileName]

/-- The settings that hold for a path. A path that is too long is shown as given. -/
def load (t : FileTree) (shown : Text) (p : Path) : Except SettingsFault Settings :=
  match place t p with
  | .error _ => .error (.unreadable (.file (.tooLong shown)))
  | .ok named =>
    let file := named.resolve
    if named.any Path.isImpossible then .error .impossiblePath
    else
      match t.probe file with
      | .error fault => .error (.unreadable (.file fault))
      | .ok none => .ok { root := file.parent }
      | .ok (some _) =>
        match t.read file with
        | .error fault => .error (.unreadable fault)
        | .ok text => (fieldsOf text).bind (ofFields file.parent)

end Settings

end ImportLift
