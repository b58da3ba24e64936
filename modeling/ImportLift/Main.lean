-- The program. It loads the files that a command line is about into a tree,
-- carries the command line out there and brings the changes back to the disk.
-- After the command to serve it answers requests, each a line of JSON with the
-- method, the target and the content, by lines with the status and the body.
import ImportLift.CommandLine.Run
import ImportLift.Json.Printer
import ImportLift.Service
import Std.Time

namespace ImportLift.Program

/-! ## Loading files -/

/-- The tree with the directories on the way to a path. -/
def withAncestors (t : FileTree) (p : Path) : FileTree :=
  (FileTree.ancestors p).foldl (fun t dir => t.put dir .directory) t

/-- Loads what a path holds, down to a depth. -/
partial def load (depth : Nat) (t : FileTree) (p : Path) : IO FileTree := do
  let here ← IO.currentDir
  let place := here / String.ofList p.render
  if ← place.isDir then
    let mut t := t.put p .directory
    if 0 < depth then
      for entry in ← place.readDir do
        let name := entry.fileName.toList
        if !Scan.skippedDirectories.contains name then
          t ← load (depth - 1) t (p ++ [name])
    return t
  else if ← place.pathExists then
    return t.put p (.file (← IO.FS.readBinFile place).toList)
  else
    return t

/-- The depth down to which a tree is loaded. -/
def fullDepth : Nat := 4096

/-- Loads what a conversion of a path needs: the tree below it or, for a file,
the files beside it, and the directory that the settings name for layouts. -/
def loadFor (t : FileTree) (p : Path) : IO FileTree := do
  let root := p.resolve
  let here ← IO.currentDir
  let isTree ← (here / String.ofList root.render).isDir
  let base := if isTree then root else root.parent
  let t ← load (if isTree then fullDepth else 1) (withAncestors t base) base
  match (Settings.load t base.render base).toOption.bind (·.options.templatesDir) with
  | some dir => load 1 (withAncestors t dir.resolve) dir.resolve
  | none => return t

/-! ## Bringing changes back -/

/-- Makes the disk hold what the second tree holds, where it differs from the first. -/
def store (before after : FileTree) : IO Unit := do
  for (p, entry) in after.entries.reverse do
    if before.get? p ≠ some entry then
      match entry with
      | .directory => IO.FS.createDirAll (String.ofList p.render)
      | .file bytes => IO.FS.writeBinFile (String.ofList p.render) ⟨bytes.toArray⟩
  for (p, _) in before.entries do
    if (after.get? p).isNone then IO.FS.removeFile (String.ofList p.render)

/-! ## Serving -/

/-- The request that a line describes. -/
def requestOf (line : Text) : Service.Request :=
  let fields := ((Json.read? line).getD .null).asFields
  let text (name : Text) : Text := match Data.field fields name with
    | .text value => value
    | _ => []
  ⟨text "method".toList, text "target".toList, match Data.field fields "body".toList with
    | .null => .nothing
    | value => .data value⟩

/-- The path that a request is about, if it names one. -/
def pathOf? (request : Service.Request) : Option Text :=
  match request.content with
  | .data value => match Data.field value.asFields "path".toList with
    | .text path => some path
    | _ => none
  | _ => none

/-- The line that describes a response. -/
def responseLine (response : Service.Response) : Text :=
  let body : Data := match response.body with
    | .empty => .text []
    | .plain text => .text text
    | .data value => value
  Json.render (Service.object
    [("status".toList, .int response.status), ("body".toList, body)])

/-- Answers requests until there are no more. -/
partial def serve (dir : Path) (input output : IO.FS.Stream) : IO Unit := do
  let line ← input.getLine
  if line.isEmpty then return ()
  let request := requestOf line.toList
  let before ← match pathOf? request with
    | some path => loadFor ⟨[], []⟩ (Path.joined dir path)
    | none => pure ⟨[], []⟩
  let (response, after) := Service.answer before dir request
  store before after
  output.putStrLn (String.ofList (responseLine response))
  output.flush
  serve dir input output

/-! ## Running -/

/-- The files that an invocation is about. -/
def filesFor (dir : Path) (i : CommandLine.Invocation) : IO FileTree := do
  let t ← match i.command with
    | .convert path _ _ => loadFor ⟨[], []⟩ (Path.joined dir path)
    | .serve _ _ => pure ⟨[], []⟩
  let t := withAncestors t dir
  match i.logFile with
  | some file =>
    let place := (Path.joined dir file).resolve
    let t ← (FileTree.ancestors place).foldlM (load 0) t
    load 0 t place
  | none => return t

end ImportLift.Program

open ImportLift ImportLift.Program in
/-- Carries out the command line. -/
def main (args : List String) : IO UInt32 := do
  let dir := Path.namesOf (← IO.currentDir).toString.toList
  let time := ((← Std.Time.PlainDateTime.now).format "uuuu-MM-dd HH:mm:ss,SSS").toList
  let words := args.map String.toList
  let before ← match CommandLine.read words with
    | .ok invocation => filesFor dir invocation
    | .error _ => pure ⟨[], []⟩
  let ending := CommandLine.run before dir time words
  store before ending.tree
  IO.print (String.ofList ending.out)
  IO.eprint (String.ofList ending.err)
  match ending.status with
  | .error cause =>
    IO.eprintln (String.ofList cause.message)
    return 1
  | .ok status =>
    if ending.listener.isSome then serve dir (← IO.getStdin) (← IO.getStdout)
    return status.toUInt32
