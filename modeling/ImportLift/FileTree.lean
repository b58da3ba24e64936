-- A tree of files as a value: which path holds which bytes, and which paths
-- are directories. Directories are listed too, so one that lost its last file
-- is still there. A path with double dots leads to the path that it resolves
-- to, over directories that all have to be there. Every operation that can
-- fail says why, in the words of the system, and then leaves the tree as it
-- was; only in making directories what was made before a fault stays.
import ImportLift.Path
import ImportLift.Text.Lines
import ImportLift.Text.Utf8

namespace ImportLift

/-- What a path holds. -/
inductive Entry
  | file (bytes : List UInt8)
  | directory
deriving DecidableEq, Repr

/-- Why an operation on a path fails; the path is given as it is shown. -/
inductive FileFault
  | missing (shown : Text)
  | denied (shown : Text)
  | exists (shown : Text)
  | notDirectory (shown : Text)
  | isDirectory (shown : Text)
  | tooLong (shown : Text)
deriving DecidableEq, Repr

def FileFault.message : FileFault → Text
  | missing shown => "[Errno 2] No such file or directory: " ++ Text.quoted shown
  | denied shown => "[Errno 13] Permission denied: " ++ Text.quoted shown
  | .exists shown => "[Errno 17] File exists: " ++ Text.quoted shown
  | notDirectory shown => "[Errno 20] Not a directory: " ++ Text.quoted shown
  | isDirectory shown => "[Errno 21] Is a directory: " ++ Text.quoted shown
  | tooLong shown => "[Errno 36] File name too long: " ++ Text.quoted shown

/-- Why a file cannot be read as text. -/
inductive ReadFault
  | file (fault : FileFault)
  | text (fault : Utf8.Fault)
deriving DecidableEq, Repr

def ReadFault.message : ReadFault → Text
  | file fault => fault.message
  | text fault => fault.message

/-- The files and directories below the root, and the files that cannot be deleted. -/
structure FileTree where
  entries : List (Path × Entry)
  locked : List Path := []
deriving DecidableEq, Repr

namespace FileTree

/-! ## The view -/

/-- What a path holds; the root is always a directory. -/
def get? (t : FileTree) (p : Path) : Option Entry :=
  if p.isEmpty then some .directory else t.entries.lookup p

/-- The tree without a path. -/
def erase (t : FileTree) (p : Path) : FileTree :=
  { t with entries := t.entries.filter (·.1 ≠ p) }

/-- The tree in which a path holds the entry. -/
def put (t : FileTree) (p : Path) (e : Entry) : FileTree :=
  { t with entries := (p, e) :: (t.erase p).entries }

/-- The path is a directory. -/
def isDirectory (t : FileTree) (p : Path) : Bool := t.get? p = some .directory

/-- The path is a file. -/
def isFile (t : FileTree) (p : Path) : Bool :=
  match t.get? p with
  | some (.file _) => true
  | _ => false

/-! ## Operations that can fail -/

/-- The directories on the way to a path, from the root down. -/
def ancestors (p : Path) : List Path := (List.range p.length).map p.take

/-- The most bytes of a name. -/
def maxName : Nat := 255

/-- The number of bytes that is too many for a whole path. -/
def pathLimit : Nat := 4096

/-- The name is longer than any name in a directory. -/
def isLongName (name : Text) : Bool := maxName < (Utf8.encode name).length

/-- The path is longer than any path that can be asked for. -/
def isLongPath (p : Path) : Bool := pathLimit ≤ (Utf8.encode p.render).length

/-- The fault of a way that leads over a given directory, if that is none. -/
def barrier? (t : FileTree) (shown : Text) (dir : Path) : Option FileFault :=
  if isLongName dir.name then some (.tooLong shown)
  else
    match t.get? dir.resolve with
    | some .directory => none
    | some (.file _) => some (.notDirectory shown)
    | none => some (.missing shown)

/-- Every directory on the way to a path is there, also one that a double dot
leaves again. -/
def leadsTo (t : FileTree) (p : Path) : Bool :=
  (ancestors p).all fun dir => t.isDirectory dir.resolve

/-- The first fault on the way to a path, which is shown as given. -/
def obstacle? (t : FileTree) (shown : Text) (p : Path) : Option FileFault :=
  if isLongPath p then some (.tooLong shown)
  else
    ((ancestors p).findSome? (t.barrier? shown)).or
      (if isLongName p.name then some (.tooLong shown) else none)

/-- What a path holds, or why nothing can be said. -/
def stat (t : FileTree) (p : Path) : Except FileFault Entry :=
  match t.obstacle? p.render p, t.get? p.resolve with
  | some fault, _ => .error fault
  | none, some e => .ok e
  | none, none => .error (.missing p.render)

/-- What a path holds, if it leads anywhere. Only a path that is too long cannot
be asked for. -/
def probe (t : FileTree) (p : Path) : Except FileFault (Option Entry) :=
  match t.stat p with
  | .ok e => .ok (some e)
  | .error (.tooLong shown) => .error (.tooLong shown)
  | .error _ => .ok none

/-- The bytes of a file. -/
def readBytes (t : FileTree) (p : Path) : Except FileFault (List UInt8) :=
  match t.stat p with
  | .error fault => .error fault
  | .ok .directory => .error (.isDirectory p.render)
  | .ok (.file bytes) => .ok bytes

/-- The text of a file, with every line break as one line feed. -/
def read (t : FileTree) (p : Path) : Except ReadFault Text :=
  match t.readBytes p with
  | .error fault => .error (.file fault)
  | .ok bytes =>
    match Utf8.decode bytes with
    | .error fault => .error (.text fault)
    | .ok text => .ok (Text.unifyBreaks text)

/-- The tree after the bytes are written to a file, which may be new. -/
def writeBytes (t : FileTree) (p : Path) (bytes : List UInt8) : Except FileFault FileTree :=
  match t.obstacle? p.render p with
  | some fault => .error fault
  | none =>
    if t.isDirectory p.resolve then .error (.isDirectory p.render)
    else .ok (t.put p.resolve (.file bytes))

/-- The tree after the text is written to a file, as it is. -/
def write (t : FileTree) (p : Path) (text : Text) : Except FileFault FileTree :=
  t.writeBytes p (Utf8.encode text)

/-- The tree after the text is added at the end of a file, which may be new. -/
def append (t : FileTree) (p : Path) (text : Text) : Except FileFault FileTree :=
  match t.readBytes p with
  | .ok bytes => t.writeBytes p (bytes ++ Utf8.encode text)
  | .error _ => t.writeBytes p (Utf8.encode text)

/-- The tree after a file is deleted. -/
def delete (t : FileTree) (p : Path) : Except FileFault FileTree :=
  match t.stat p with
  | .error fault => .error fault
  | .ok .directory => .error (.isDirectory p.render)
  | .ok (.file _) =>
    if t.locked.contains p.resolve then .error (.denied p.render) else .ok (t.erase p.resolve)

/-- The tree after one directory is made in a directory that is there. The path
is shown as given. -/
def makeOne (t : FileTree) (shown : Text) (p : Path) : Except FileFault FileTree :=
  match t.obstacle? shown p, t.get? p.resolve with
  | some fault, _ => .error fault
  | none, some _ => .error (.exists shown)
  | none, none => .ok (t.put p.resolve .directory)

/-- What is left of a fault in making a directory: none if the directory is there. -/
def settle (t : FileTree) (p : Path) (fault : FileFault) : Except FileFault Unit × FileTree :=
  match t.stat p with
  | .ok .directory => (.ok (), t)
  | _ => (.error fault, t)

/-- Makes the directory whose names are given from the last one up, and those on
the way to it that are missing, from the top down. What was made before a
fault stays. -/
def makeUpwards (t : FileTree) (label : Path → Text) :
    List Text → Except FileFault Unit × FileTree
  | [] => (.ok (), t)
  | name :: up =>
    let p := (name :: up).reverse
    match t.makeOne (label p) p with
    | .ok t => (.ok (), t)
    | .error (.missing _) =>
      match t.makeUpwards label up with
      | (.error fault, t) => (.error fault, t)
      | (.ok (), t) =>
        match t.makeOne (label p) p with
        | .ok t => (.ok (), t)
        | .error (.missing shown) => (.error (.missing shown), t)
        | .error fault => t.settle p fault
    | .error fault => t.settle p fault

/-- Makes a directory, and those on the way to it, also those that a double dot
leaves again. The second argument says how paths are shown. -/
def makeDirectory (t : FileTree) (label : Path → Text) (p : Path) :
    Except FileFault Unit × FileTree :=
  t.makeUpwards label p.reverse

/-- The tree without a path and all that lies below it. -/
def prune (t : FileTree) (p : Path) : FileTree :=
  { t with entries := t.entries.filter fun e => !p.isPrefixOf e.1 }

/-- The entries below a directory, with their paths seen from there. -/
def below (t : FileTree) (dir : Path) : List (Path × Entry) :=
  t.entries.filterMap fun (p, e) =>
    match Path.below? dir p with
    | some (name :: rest) => some (name :: rest, e)
    | _ => none

end FileTree

end ImportLift
