-- Carrying out a command line on a tree of files: what it prints, how it
-- ends, and the tree afterwards.
import ImportLift.CommandLine
import ImportLift.Migration

namespace ImportLift.CommandLine

/-- What breaks a run off. -/
inductive Break
  /-- The file of the journal cannot be opened. -/
  | journal (fault : Journal.Fault)
  | migration (trouble : Migration.Trouble)
deriving DecidableEq, Repr

def Break.message : Break → Text
  | journal fault => fault.message
  | migration trouble => trouble.message

/-- A place where requests are to be answered. -/
structure Listener where
  host : Text
  port : Int
deriving DecidableEq, Repr

/-- How a run ends. -/
structure Ending where
  /-- The exit status, unless the run was broken off. -/
  status : Except Break Nat
  /-- What is printed. -/
  out : Text := []
  /-- What the console shows besides: notes and complaints. -/
  err : Text := []
  /-- Where requests are to be answered from now on. -/
  listener : Option Listener := none
  tree : FileTree

/-! ## The report in print -/

/-- A path as seen from a directory, whole when it lies elsewhere. -/
def seenFrom (dir p : Path) : Text :=
  match Path.below? dir p with
  | some names => Text.join "/" names
  | none => p.render

/-- The difference that a conversion makes, or a line that says there is none. -/
def diffText (dir : Path) (o : Outcome) : Text :=
  (if o.diff.isEmpty then "(no changes for ".toList ++ seenFrom dir o.pair.target ++ ")".toList
    else o.diff) ++ "\n".toList

/-- The line on a pair that was not converted. -/
def failureText (dir : Path) (o : Outcome) : Text :=
  match o.result with
  | .ok _ => []
  | .error failure =>
    "FAILED " ++ seenFrom dir o.pair.target ++ ": " ++ failure.kind.code ++
      " (" ++ failure.message ++ ")\n"

/-- The report as it is printed. -/
def reportText (dir : Path) (r : Report) : Text :=
  (if r.dryRun then r.converted.flatMap (diffText dir) else []) ++
    r.failed.flatMap (failureText dir) ++ r.summary ++ "\n"

/-! ## Running -/

/-- The complaint about trouble that is not the program's own. -/
def complaint? : Migration.Trouble → Option Text
  | .notFound asked => some (Migration.Trouble.notFound asked).message
  | .settings fault =>
    match fault with
    | .document .malformed | .noMapping | .negativeDepth =>
      some ("Invalid configuration: " ++ fault.message)
    | .unreadable (.file (.missing _)) | .unreadable (.file (.notDirectory _)) => some fault.message
    | _ => none
  | _ => none

/-- Carries out a migration, with a journal. -/
def runMigration (t : FileTree) (dir : Path) (journal : Journal) (time : Text)
    (request : Migration.Request) : Ending :=
  let notes := Migration.notes t request
  let err := journal.console notes
  match Migration.run t request with
  | .ok (report, after) =>
    { status := .ok (if report.success then 0 else 1)
      out := reportText dir report
      err
      tree := journal.save time notes after }
  | .error trouble =>
    let tree := journal.save time notes t
    match complaint? trouble with
    | some text => { status := .ok 1, err := err ++ text ++ "\n", tree }
    | none => { status := .error (.migration trouble), err, tree }

/-- Carries out what was asked for in a directory. -/
def Invocation.run (t : FileTree) (dir : Path) (time : Text) (i : Invocation) : Ending :=
  match Journal.start i.verbose i.logFile dir t with
  | (.error fault, t) => { status := .error (.journal fault), tree := t }
  | (.ok journal, t) =>
    match i.command with
    | .convert path dryRun librarySegment =>
      runMigration t dir journal time
        { path := Path.joined dir path, asked := path, dryRun, librarySegment }
    | .serve host port => { status := .ok 0, listener := some ⟨host, port⟩, tree := t }

/-- Carries out a command line in a directory. -/
def run (t : FileTree) (dir : Path) (time : Text) (words : List Text) : Ending :=
  match read words with
  | .ok invocation => invocation.run t dir time
  | .error (.help grammar) => { status := .ok 0, out := grammar.usage, tree := t }
  | .error (.misuse grammar cause) =>
    { status := .ok 2, err := grammar.name ++ ": error: " ++ cause.message ++ "\n", tree := t }

end ImportLift.CommandLine
