-- Conversion of one component: from its script and its document to a module.
-- The class comes from the script file or, when there is none, from the first
-- script of the document that declares an identity. Every way to fail is a
-- failure value; nothing is put together before all pieces are found.
import ImportLift.Harvest
import ImportLift.Module

namespace ImportLift.Conversion

/-- The component in a script, with the base classes of the options. -/
def componentOf (options : Options) (script : Text) : Except Failure Component :=
  Component.ofScript options.legacyBaseClass options.modernBaseClass script

/-- The component among the scripts of a document, and the scripts that are
left. When none declares an identity, the first one says what is missing. -/
def pickComponent (options : Options) (scripts : List Text) :
    Except Failure (Component × List Text) :=
  match scripts.findIdx? Component.declares, scripts with
  | _, [] => .error ⟨.noScript, some "no inline <script> in HTML"⟩
  | none, first :: rest => (componentOf options first).map (·, first :: rest)
  | some i, first :: rest =>
    (componentOf options ((first :: rest).getD i [] ++ ['\n'])).map (·, (first :: rest).eraseIdx i)

/-- The component to convert and the scripts of the document that go before it. -/
def component (options : Options) (script : Option Text) (filename : Text) (inline : List Text) :
    Except Failure (Component × List Text) :=
  match script with
  | none => pickComponent options inline
  | some script =>
    if script.allBlank then
      .error ⟨.noScript, if filename.isEmpty then none else some filename⟩
    else (componentOf options script).map (·, inline)

/-- The pieces of the module. -/
def pieces (options : Options) (script : Option Text) (html filename : Text) :
    Except Failure Pieces := do
  let harvest := Harvest.ofDocument html filename
  let (component, scripts) ← component options script filename harvest.inlineScripts
  let template ← Template.ofDocument harvest.html component.identity
  let imports := options.imports template.styleIncludes harvest.imports harvest.scripts
  let root := options.libraryRoot harvest.imports
  return ⟨options.frameworkPath root, imports, scripts, template.preamble, component, template.markup⟩

/-- The module for a component. -/
def convert (options : Options) (layout : Layout) (script : Option Text) (html filename : Text) :
    Except Failure Module :=
  (pieces options script html filename).map (·.assemble layout)

end ImportLift.Conversion
