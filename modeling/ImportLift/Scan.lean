-- Finding the components of a tree. Excluded directories are not entered and
-- excluded files not seen. A script is paired with the document of the same
-- name, and a document without a script stands alone when it declares a
-- module element. Names are compared in lower case.
import ImportLift.FileTree
import ImportLift.Glob

namespace ImportLift

/-- A component's document and, where there is one, its script. -/
structure Pair where
  html : Path
  script : Option Path
deriving DecidableEq, Repr

namespace Pair

/-- The file that the module is written to. -/
def target (p : Pair) : Path := p.script.getD (p.html.withSuffix ".js")

/-- The name of that file. -/
def fileName (p : Pair) : Text := p.target.name

end Pair

/-- The document that belongs to a script. -/
def companion (script : Path) : Path := script.withSuffix ".html"

namespace Scan

/-- The directories that are never entered. -/
def skippedDirectories : List Text :=
  [".git", ".hg", ".svn", ".venv", "node_modules", "bower_components", "__pycache__",
    ".pytest_cache", ".idea"]

/-- Why a path cannot be scanned; the path is given as it was asked for. -/
inductive Fault
  | notFound (asked : Text)
  | notDirectory (asked : Text)
  | impossiblePath
  | file (fault : FileFault)
deriving DecidableEq, Repr

def Fault.message : Fault → Text
  | notFound asked => "Path not found: " ++ asked
  | notDirectory asked => "Path is not a directory: " ++ asked
  | impossiblePath => "embedded null byte"
  | file fault => fault.message

/-! ## The files that count -/

/-- The directory is entered; it is given from the scanned directory on. -/
def enters (exclude : List Text) (dir : Path) : Bool :=
  !skippedDirectories.contains dir.name && !isExcluded exclude (Text.join "/" dir)

/-- The file is seen: all directories on the way are entered, and the file
itself is not excluded. -/
def keeps (exclude : List Text) (file : Path) : Bool :=
  ((FileTree.ancestors file).drop 1).all (enters exclude) &&
    !isExcluded exclude (Text.join "/" file)

/-- The order of a walk: the files of a directory before its directories, each by name. -/
def walkLe : Path → Path → Bool
  | [], _ => true
  | _ :: _, [] => false
  | [a], [b] => Text.le a b
  | [_], _ :: _ :: _ => true
  | _ :: _ :: _, [_] => false
  | a :: c :: as, b :: d :: bs => if a = b then walkLe (c :: as) (d :: bs) else Text.le a b

/-- The files below a directory, from there on, in the order of a walk. -/
def filesBelow (t : FileTree) (root : Path) : List Path :=
  ((t.below root).filterMap fun (p, e) => match e with
    | .file _ => some p
    | .directory => none).mergeSort walkLe

/-- The files below a directory that are seen. -/
def files (t : FileTree) (root : Path) (exclude : List Text) : List Path :=
  ((filesBelow t root).filter (keeps exclude)).map (root ++ ·)

/-! ## Pairing -/

/-- The file with a path in lower case; of several the last. -/
def find? (files : List Path) (key : Text) : Option Path :=
  files.reverse.find? (·.key = key)

/-- The pair of a script and its document. -/
def scriptPair? (files : List Path) (file : Path) : Option Pair :=
  if file.hasSuffix ".js" then
    (find? files (companion file).key).map fun html => ⟨html, some file⟩
  else none

/-- The document declares a module element. -/
def declaresModule (t : FileTree) (file : Path) : Bool :=
  match t.read file with
  | .ok text => Text.holds "<dom-module" (Text.lower text)
  | .error _ => false

/-- The pair of a document that stands alone. -/
def lonePair? (t : FileTree) (files : List Path) (paired : List Text) (file : Path) : Option Pair :=
  if file.hasSuffix ".html" && !paired.contains file.key &&
      (find? files (file.withSuffix ".js").key).isNone && declaresModule t file then
    some ⟨file, none⟩
  else none

/-- The pairs among files, by the path of their targets. -/
def pairs (t : FileTree) (files : List Path) : List Pair :=
  let scripts := files.filterMap (scriptPair? files)
  let paired := scripts.map (·.html.key)
  let alone := files.filterMap (lonePair? t files paired)
  (scripts ++ alone).mergeSort fun a b => Text.le a.target.render b.target.render

/-- The pairs below a directory. `asked` is the path as it was asked for. -/
def run (t : FileTree) (root : Path) (asked : Text) (exclude : List Text) :
    Except Fault (List Pair) :=
  if root.any Path.isImpossible then .error .impossiblePath
  else
    match t.probe root.resolve with
    | .error fault => .error (.file fault)
    | .ok none => .error (.notFound asked)
    | .ok (some (.file _)) => .error (.notDirectory asked)
    | .ok (some .directory) => .ok (pairs t (files t root.resolve exclude))

end Scan

end ImportLift
