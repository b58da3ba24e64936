-- From the references of a document to the imports of a module. A deprecated
-- reference is dropped, one to a shared style becomes a named import, any
-- other may move to a namespace below the library. Every import path starts
-- with a dot or a slash.
import ImportLift.Options
import ImportLift.Template

namespace ImportLift

/-- A linked document, with what is known about it. -/
structure Reference where
  href : Text
  deprecated : Bool := false
  styleInclude : Bool := false
deriving DecidableEq, Repr

/-- An import of a module. -/
structure Import where
  path : Text
  binding : Option Text := none
deriving DecidableEq, Repr

/-- The import as a statement. -/
def Import.statement (i : Import) : Text :=
  match i.binding with
  | some (c :: name) =>
    "import \x7b " ++ c :: name ++ " \x7d from '" ++ i.path ++ "';"
  | _ => "import '" ++ i.path ++ "';"

/-! ## Reference texts -/

/-- The path text, with `./` in front unless it starts with a dot or a slash. -/
def relative (path : Text) : Text :=
  match path with
  | '.' :: _ => path
  | '/' :: _ => path
  | _ => "./" ++ path

/-- The file name of a reference; a backslash counts as a slash. -/
def fileName (href : Text) : Text := Text.afterLast '/' (href.replaceAll "\\" "/")

/-- The file name of a reference up to its last dot. -/
def fileStem (href : Text) : Text := Text.beforeLast '.' (fileName href)

/-- The text ends in `.html`, in any case. -/
def endsInHtml (text : Text) : Bool := (text.drop (text.length - 5)).map Char.toLower = ".html".toList

/-- Another ending in place of a final `.html` in any case; a line feed may follow it. -/
def replaceHtml (ending href : Text) : Text :=
  if endsInHtml href then href.take (href.length - 5) ++ ending
  else if href.getLast? = some '\n' && endsInHtml href.dropLast then
    href.take (href.length - 6) ++ ending ++ ['\n']
  else href

/-! ## The library -/

/-- The offset just past the first library segment such that what follows it is
accepted. A segment starts where `fresh` says so or behind a slash; `offset` is
the offset of the text. -/
def segmentEnd? (segment : Text) (accept : Text → Bool) : Nat → Bool → Text → Option Nat
  | offset, fresh, [] =>
    if fresh && (segment ++ ['/']).isPrefixOf [] && accept [] then some offset else none
  | offset, fresh, c :: rest =>
    let whole := segment ++ ['/']
    if fresh && whole.isPrefixOf (c :: rest) && accept ((c :: rest).drop whole.length) then
      some (offset + whole.length)
    else segmentEnd? segment accept (offset + 1) (c = '/') rest

namespace Options

/-- Some import may have to move: prefixes are given, and not just one empty one. -/
def relocates (options : Options) : Bool :=
  options.relocatedPrefixes ≠ [] && options.relocatedPrefixes ≠ [[]]

/-- The path starts with one of the prefixes that move. -/
def moves (options : Options) (path : Text) : Bool :=
  options.relocatedPrefixes.any (·.isPrefixOf path)

/-- The path with the namespace put in behind the first library segment that
is followed by a prefix that moves. -/
def relocate (options : Options) (path : Text) : Text :=
  if options.relocates then
    match segmentEnd? options.librarySegment options.moves 0 true path with
    | none => path
    | some i => path.take i ++ options.relocationNamespace ++ ['/'] ++ path.drop i
  else path

/-- The beginning of a reference up to its first library segment. -/
def libraryRoot? (options : Options) (href : Text) : Option Text :=
  (segmentEnd? options.librarySegment (fun _ => true) 0 true href).map href.take

/-- The library root that is assumed when no reference shows it. -/
def assumedRoot (options : Options) : Text :=
  Text.times "../" options.fallbackDepth.toNat ++ options.librarySegment ++ ['/']

/-- The library root: the first that a reference shows, else the assumed one. -/
def libraryRoot (options : Options) (hrefs : List Text) : Text :=
  (hrefs.findSome? options.libraryRoot?).getD options.assumedRoot

/-- The path of the framework module, seen from a library root. -/
def frameworkPath (options : Options) (root : Text) : Text :=
  relative (root ++ options.relocationNamespace ++ "/polymer/polymer-element.js")

/-! ## References -/

/-- The file name of the reference is deprecated. -/
def isDeprecated (options : Options) (href : Text) : Bool :=
  options.deprecatedImports.any fun name => Text.sameLower name (fileName href)

/-- The reference with its marks set. -/
def tag (options : Options) (includes : List Text) (r : Reference) : Reference :=
  { r with
    deprecated := options.isDeprecated r.href
    styleInclude := includes.contains (fileStem (replaceHtml [] r.href)) }

/-- The import for a reference whose marks are set; none when it is deprecated. -/
def importOf? (options : Options) (r : Reference) : Option Import :=
  if r.deprecated then none
  else
    let path := replaceHtml ".js" r.href
    if r.styleInclude then some ⟨relative path, some (bindingName (fileStem path))⟩
    else some ⟨relative (options.relocate path), none⟩

/-- The import for a linked document. -/
def importFor? (options : Options) (includes : List Text) (href : Text) : Option Import :=
  options.importOf? (options.tag includes ⟨href, false, false⟩)

end Options

/-- The import for a script source. -/
def Import.ofScript (src : Text) : Import := ⟨relative src, none⟩

/-- The imports of a module: first the references that stay, then the scripts. -/
def Options.imports (options : Options) (includes hrefs scripts : List Text) : List Import :=
  hrefs.filterMap (options.importFor? includes) ++ scripts.map Import.ofScript

end ImportLift
