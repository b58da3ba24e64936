-- What a run notes on its way. A note has a level, the part of the program it
-- comes from and a text. The journal shows notes on the console and, when it
-- has a file, adds them to that file; debug notes count only when the journal
-- is verbose.
import ImportLift.FileTree

namespace ImportLift

inductive Level
  | debug
  | info
  | warning
  | error
  | critical
deriving DecidableEq, Repr

namespace Level

def name : Level → Text
  | debug => "DEBUG"
  | info => "INFO"
  | warning => "WARNING"
  | error => "ERROR"
  | critical => "CRITICAL"

/-- Every level. -/
def every : List Level := [debug, info, warning, error, critical]

/-- The level of a name. -/
def named? (name : Text) : Option Level := every.find? (·.name = name)

/-- The rank of a level, higher for graver notes. -/
def rank : Level → Nat
  | debug => 10
  | info => 20
  | warning => 30
  | error => 40
  | critical => 50

end Level

/-- A note: its level, the part of the program it comes from, and what it says. -/
structure Note where
  level : Level
  part : Text
  text : Text
deriving DecidableEq, Repr

/-- Where notes go: to the console, and to a file if there is one. -/
structure Journal where
  verbose : Bool
  file : Option Path
deriving DecidableEq, Repr

namespace Journal

/-- The name under which a part of the program writes notes. -/
def sourceName (part : Text) : Text :=
  if part.isEmpty then "htmlimport2esm" else "htmlimport2esm." ++ part

/-- The notes of a part go to the journal. The name of a part is a chain of names
joined by dots, and the chain is followed up from dot to dot, where of two
dots in a row the first is missed: so an odd number of dots in front of the
name leads past the journal. -/
def follows (part : Text) : Bool := (part.takeWhile (· = '.')).length % 2 = 0

/-- The least level of the notes that count. -/
def threshold (j : Journal) : Level := if j.verbose then .debug else .info

/-- The notes that count. -/
def heard (j : Journal) (notes : List Note) : List Note :=
  notes.filter fun n => follows n.part && j.threshold.rank ≤ n.level.rank

/-- A note on the console. -/
def consoleLine (n : Note) : Text := "[htmlimport2esm] " ++ n.level.name ++ " " ++ n.text ++ "\n"

/-- A note in a file, with the time of writing in front. -/
def fileLine (time : Text) (n : Note) : Text :=
  time ++ " " ++ n.level.name ++ " " ++ sourceName n.part ++ ": " ++ n.text ++ "\n"

/-- What the console shows of some notes. -/
def console (j : Journal) (notes : List Note) : Text := (j.heard notes).flatMap consoleLine

/-- The tree after some notes are added to the file. -/
def save (j : Journal) (time : Text) (notes : List Note) (t : FileTree) : FileTree :=
  match j.file with
  | none => t
  | some file => ((t.append file ((j.heard notes).flatMap (fileLine time))).toOption).getD t

/-- Why a journal cannot be started. -/
inductive Fault
  | file (fault : FileFault)
  /-- The path holds a character that no path can hold. -/
  | impossiblePath
deriving DecidableEq, Repr

def Fault.message : Fault → Text
  | file fault => fault.message
  | impossiblePath => "embedded null byte"

/-- Opens the file of a journal, which may be new. -/
def openFile (verbose : Bool) (place : Path) (t : FileTree) : Except Fault Journal × FileTree :=
  if place.any Path.isImpossible then (.error .impossiblePath, t)
  else
    match t.append place [] with
    | .error fault => (.error (.file fault), t)
    | .ok t => (.ok ⟨verbose, some place⟩, t)

/-- A journal, whose file is made if it is missing, with the directories on the
way to it. The path of the file is read in a directory. -/
def start (verbose : Bool) (file : Option Text) (cwd : Path) (t : FileTree) :
    Except Fault Journal × FileTree :=
  match file with
  | none => (.ok ⟨verbose, none⟩, t)
  | some path =>
    let place := Path.joined cwd path
    let dir := if (Path.namesOf path).isEmpty then place else place.parent
    if dir.any Path.isImpossible then (.error .impossiblePath, t)
    else
      match t.makeDirectory (Path.shownAs cwd path) dir with
      | (.error fault, t) => (.error (.file fault), t)
      | (.ok (), t) => openFile verbose place.resolve t

end Journal

end ImportLift
