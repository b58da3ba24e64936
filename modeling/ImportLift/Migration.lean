-- Migration of a file or a tree: each component is converted, its module
-- written and its document deleted, in this order, so that a document is
-- never lost before its module is complete. A dry run reports the same and
-- changes nothing.
import ImportLift.Conversion.Notes
import ImportLift.Diff.Unified
import ImportLift.Layout.Choice
import ImportLift.Scan
import ImportLift.Settings

namespace ImportLift

/-- What became of a pair. -/
structure Outcome where
  pair : Pair
  result : Except Failure Module
  /-- The difference between the script and the module. -/
  diff : Text := []
  /-- The module was written. -/
  written : Bool := false

/-- The pair was converted. -/
def Outcome.ok (o : Outcome) : Bool := o.result.isOk

/-- What became of all pairs. -/
structure Report where
  root : Path
  dryRun : Bool
  outcomes : List Outcome

namespace Report

def converted (r : Report) : List Outcome := r.outcomes.filter (·.ok)

def failed (r : Report) : List Outcome := r.outcomes.filter fun o => !o.ok

def success (r : Report) : Bool := r.failed.isEmpty

/-- How many pairs were converted, of how many. -/
def summary (r : Report) : Text :=
  "Converted " ++ Text.ofNat r.converted.length ++ " of " ++ Text.ofNat r.outcomes.length ++
    " component(s)" ++ (if r.dryRun then " (dry-run)".toList else [])

end Report

namespace Migration

/-! ## One pair -/

/-- The texts of a pair: its document and, where there is one, its script. -/
def readPair (t : FileTree) (pair : Pair) : Except ReadFault (Text × Option Text) := do
  let html ← t.read pair.html
  match pair.script with
  | none => return (html, none)
  | some script => return (html, some (← t.read script))

/-- The failure of a pair that cannot be read. -/
def unread (fault : ReadFault) : Failure :=
  match fault with
  | .file (.missing _) => ⟨.noCompanion, some fault.message⟩
  | _ => ⟨.noScript, some fault.message⟩

/-- Writes the module of a pair, then deletes its document. -/
def store (t : FileTree) (pair : Pair) (m : Module) (diff : Text) : Outcome × FileTree :=
  match t.write pair.target m.text with
  | .error fault => (⟨pair, .error ⟨.notWritten, some fault.message⟩, diff, false⟩, t)
  | .ok written =>
    match written.delete pair.html with
    | .error fault => (⟨pair, .error ⟨.notWritten, some fault.message⟩, diff, true⟩, written)
    | .ok done => (⟨pair, .ok m, diff, true⟩, done)

/-- Converts a pair. Files change only after the module is complete. -/
def process (t : FileTree) (options : Options) (layout : Layout) (dryRun : Bool) (pair : Pair) :
    Outcome × FileTree :=
  match readPair t pair with
  | .error fault => (⟨pair, .error (unread fault), [], false⟩, t)
  | .ok (html, script) =>
    match Conversion.convert options layout script html pair.fileName with
    | .error failure => (⟨pair, .error failure, [], false⟩, t)
    | .ok m =>
      let diff := Diff.unified pair.fileName (script.getD []) m.text
      if dryRun then (⟨pair, .ok m, diff, false⟩, t) else store t pair m diff

/-- Why a pair cannot be tried at all. -/
inductive PairFault
  /-- The document has no name, so no module can stand beside it. -/
  | nameless
  /-- A path that is read holds a character that no path can hold. -/
  | impossiblePath
deriving DecidableEq, Repr

def PairFault.message : PairFault → Text
  | nameless => "PosixPath('/') has an empty name"
  | impossiblePath => "embedded null byte"

/-- The fault of a pair that cannot be tried. The script is read only if the document was. -/
def faultOf? (t : FileTree) (pair : Pair) : Option PairFault :=
  if pair.script.isNone && pair.html.isEmpty then some .nameless
  else if pair.html.any Path.isImpossible then some .impossiblePath
  else if (t.read pair.html).isOk && pair.script.any (·.any Path.isImpossible) then
    some .impossiblePath
  else none

/-- Converts a pair whose paths may be of any kind. -/
def attempt (t : FileTree) (options : Options) (layout : Layout) (dryRun : Bool) (pair : Pair) :
    Except PairFault (Outcome × FileTree) :=
  match faultOf? t pair with
  | some fault => .error fault
  | none => .ok (process t options layout dryRun pair)

/-- The pair can be read and has all pieces, so that a layout is needed. -/
def needsLayout (t : FileTree) (options : Options) (pair : Pair) : Bool :=
  match readPair t pair with
  | .error _ => false
  | .ok (html, script) => (Conversion.pieces options script html pair.fileName).isOk

/-- A note of a migration. -/
def note (level : Level) (text : Text) : Note := ⟨level, "migrator", text⟩

/-- The last note on a pair. -/
def closingNote (dryRun : Bool) (o : Outcome) : Note :=
  let target := o.pair.target.render
  match o.result with
  | .ok m =>
    note .info ((if dryRun then "Would convert ".toList else "Converted ") ++ target ++
      " (" ++ m.identity ++ ")")
  | .error ⟨.notWritten, detail⟩ =>
    note .error ("Unable to write " ++ target ++ ": " ++ detail.getD [])
  | .error failure => note .warning (target ++ ": " ++ failure.message)

/-- The first note on a pair. -/
def openingNote (pair : Pair) : Note := note .debug ("Parsing " ++ pair.target.render)

/-- The notes on a pair, given what became of it. -/
def pairNotes (t : FileTree) (options : Options) (dryRun : Bool) (o : Outcome) : List Note :=
  let target := o.pair.target.render
  openingNote o.pair ::
    match readPair t o.pair with
    | .error fault => [note .error ("Unable to read " ++ target ++ ": " ++ fault.message)]
    | .ok (html, script) =>
      Conversion.notes options script html o.pair.fileName ++ [closingNote dryRun o]

/-! ## All pairs -/

/-- Converts pairs one after another. -/
def processAll (options : Options) (layout : Layout) (dryRun : Bool) :
    FileTree → List Pair → List Outcome × FileTree
  | t, [] => ([], t)
  | t, pair :: rest =>
    let (outcome, t) := process t options layout dryRun pair
    let (outcomes, t) := processAll options layout dryRun t rest
    (outcome :: outcomes, t)

/-- The notes on pairs that are converted one after another. -/
def allNotes (options : Options) (layout : Layout) (dryRun : Bool) :
    FileTree → List Pair → List Note
  | _, [] => []
  | t, pair :: rest =>
    let (outcome, next) := process t options layout dryRun pair
    pairNotes t options dryRun outcome ++ allNotes options layout dryRun next rest

/-! ## A run -/

/-- What is asked of a run. -/
structure Request where
  /-- The file or directory to convert. -/
  path : Path
  /-- The path as it was asked for. -/
  asked : Text
  dryRun : Bool := false
  /-- A library segment that wins over the settings. -/
  librarySegment : Option Text := none
  /-- Options in place of those of the settings. -/
  options : Option Options := none
  /-- Exclusions in place of those of the settings. -/
  exclude : Option (List Text) := none

/-- Why a run cannot start or go on. -/
inductive Trouble
  | notFound (asked : Text)
  | impossiblePath
  | file (fault : FileFault)
  | settings (fault : SettingsFault)
  | layout (fault : LayoutFault)
deriving DecidableEq, Repr

def Trouble.message : Trouble → Text
  | notFound asked => (Scan.Fault.notFound asked).message
  | impossiblePath => Scan.Fault.impossiblePath.message
  | file fault => fault.message
  | settings fault => fault.message
  | layout fault => fault.message

/-- What a run has to do. -/
inductive Work
  /-- The pairs of a tree. -/
  | tree (pairs : List Pair)
  /-- The pair of one file. -/
  | single (pair : Pair)
  /-- A script whose document is missing. -/
  | incomplete (pair : Pair)
deriving DecidableEq, Repr

/-- What a run has to do, and with which options. -/
structure Plan where
  root : Path
  options : Options
  work : Work

/-- The work on one file. -/
def workOnFile (t : FileTree) (file : Path) : Except FileFault Work :=
  if file.hasSuffix ".html" then
    let script := file.withSuffix ".js"
    (t.probe script).map fun found => .single ⟨file, if found.isSome then some script else none⟩
  else
    let pair : Pair := ⟨companion file, some file⟩
    (t.probe pair.html).map fun found => if found.isSome then .single pair else .incomplete pair

/-- The work on a file or a directory. -/
def workOn (t : FileTree) (root : Path) (isTree : Bool) (exclude : List Text) :
    Except FileFault Work :=
  if isTree then .ok (.tree (Scan.pairs t (Scan.files t root exclude))) else workOnFile t root

/-- The plan of a run. -/
def plan (t : FileTree) (request : Request) : Except Trouble Plan :=
  let root := request.path.resolve
  if request.path.any Path.isImpossible then .error .impossiblePath
  else
    match t.probe root with
    | .error fault => .error (.file fault)
    | .ok none => .error (.notFound request.asked)
    | .ok (some entry) =>
      let isTree := entry = .directory
      match Settings.load t root.render (if isTree then root else root.parent) with
      | .error fault => .error (.settings fault)
      | .ok settings =>
        let options :=
          request.options.getD (settings.options.withLibrarySegment request.librarySegment)
        match workOn t root isTree (request.exclude.getD settings.exclude) with
        | .error fault => .error (.file fault)
        | .ok work => .ok ⟨root, options, work⟩

/-- The pairs that are converted. -/
def Work.pairs : Work → List Pair
  | tree pairs => pairs
  | single pair => [pair]
  | incomplete _ => []

/-- The outcome of a script whose document is missing. -/
def incompleteOutcome (pair : Pair) : Outcome :=
  ⟨pair, .error ⟨.noCompanion, some pair.html.render⟩, [], false⟩

/-- Carries out a plan by a layout. -/
def carryOut (t : FileTree) (plan : Plan) (layout : Layout) (dryRun : Bool) : Report × FileTree :=
  match plan.work with
  | .incomplete pair => (⟨plan.root, dryRun, [incompleteOutcome pair]⟩, t)
  | work =>
    let (outcomes, t) := processAll plan.options layout dryRun t work.pairs
    (⟨plan.root, dryRun, outcomes⟩, t)

/-- The layout for a plan. One that cannot be used is a fault only if a pair needs it. -/
def layoutFor (t : FileTree) (plan : Plan) : Except LayoutFault Layout :=
  match Layout.choose t plan.options.templatesDir with
  | .ok layout => .ok layout
  | .error fault =>
    if plan.work.pairs.any (needsLayout t plan.options) then .error fault else .ok .ofModules

/-- Converts what is asked for: the report and the tree afterwards. A run that
cannot start or go on leaves the tree as it was. -/
def run (t : FileTree) (request : Request) : Except Trouble (Report × FileTree) := do
  let plan ← plan t request
  match layoutFor t plan with
  | .error fault => .error (.layout fault)
  | .ok layout => return carryOut t plan layout request.dryRun

/-! ## The notes of a run -/

/-- The note that starts the work. -/
def startNotes (plan : Plan) : List Note :=
  match plan.work with
  | .tree pairs =>
    [note .info ("Found " ++ Text.ofNat pairs.length ++ " component(s) under " ++ plan.root.render)]
  | _ => []

/-- The notes of a run that the layout stops: those on the pairs before the
first that needs it, and the beginning of those on that pair. -/
def stoppedNotes (t : FileTree) (plan : Plan) (dryRun : Bool) : List Note :=
  let pairs := plan.work.pairs
  let before := pairs.takeWhile fun pair => !needsLayout t plan.options pair
  allNotes plan.options .ofModules dryRun t before ++
    match pairs.drop before.length with
    | [] => []
    | pair :: _ =>
      openingNote pair ::
        match readPair t pair with
        | .error _ => []
        | .ok (html, script) => Conversion.notes plan.options script html pair.fileName

/-- The notes of a run. -/
def notes (t : FileTree) (request : Request) : List Note :=
  match plan t request with
  | .error _ => []
  | .ok plan =>
    match layoutFor t plan, plan.work with
    | _, .incomplete pair =>
      let failure : Failure := ⟨.noCompanion, some pair.html.render⟩
      [note .warning (pair.target.render ++ ": " ++ failure.message)]
    | .error _, _ => startNotes plan ++ stoppedNotes t plan request.dryRun
    | .ok layout, work =>
      startNotes plan ++ allNotes plan.options layout request.dryRun t work.pairs ++
        [note .info (carryOut t plan layout request.dryRun).1.summary]

end Migration

end ImportLift
