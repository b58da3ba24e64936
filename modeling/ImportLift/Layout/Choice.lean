-- Which layout a conversion uses: the one in the directory that the options
-- name, if that directory holds one, else the library's own.
import ImportLift.FileTree
import ImportLift.Module

namespace ImportLift

/-- Why the layout of a directory cannot be used. -/
inductive LayoutFault
  | undecodable (fault : Utf8.Fault)
  | malformed
deriving DecidableEq, Repr

def LayoutFault.message : LayoutFault → Text
  | undecodable fault => fault.message
  | malformed => "malformed layout"

namespace Layout

/-- The name of the file that holds a layout. -/
def fileName : Text := "module.js.j2"

/-- The bytes of the file that a path leads to. -/
def fileAt? (t : FileTree) (p : Path) : Option (List UInt8) :=
  if t.leadsTo p then
    match t.get? p.resolve with
    | some (.file bytes) => some bytes
    | _ => none
  else none

/-- The layout that the bytes of a file describe. -/
def ofBytes (bytes : List UInt8) : Except LayoutFault Layout :=
  match Utf8.decode bytes with
  | .error fault => .error (.undecodable fault)
  | .ok source =>
    match ofText? source with
    | none => .error .malformed
    | some layout => .ok layout

/-- The layout for conversions in a tree. -/
def choose (t : FileTree) : Option Path → Except LayoutFault Layout
  | none => .ok ofModules
  | some dir =>
    match fileAt? t (dir ++ [fileName]) with
    | none => .ok ofModules
    | some bytes => ofBytes bytes

end Layout

end ImportLift
