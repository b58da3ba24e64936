-- What a conversion notes on its way: what was passed over, what was found,
-- and why it failed if it did.
import ImportLift.Conversion
import ImportLift.Journal

namespace ImportLift.Conversion

/-- A debug note of a part of the program. -/
def debug (part text : Text) : Note := ⟨.debug, part, text⟩

/-- The notes on a harvest. -/
def harvestNotes (html filename : Text) : List Note :=
  let note := debug "rewrite.harvest"
  let harvest := Harvest.ofDocument html filename
  let unlinked := (Rule.linkImport.pattern.findAll html).filter fun m => (m.filled? .href).isNone
  let own := ((Rule.sourcedScript.pattern.findAll html).filterMap (·.filled? .src)).filter
    (Harvest.isOwn filename)
  (unlinked.map fun m => note ("Link import without href skipped: " ++ m.text)) ++
    (own.map fun src => note ("Skipping self-referencing script " ++ src)) ++
    [note ("Harvested " ++ Text.ofNat harvest.imports.length ++ " import(s), " ++
      Text.ofNat harvest.scripts.length ++ " script(s), " ++
      Text.ofNat harvest.inlineScripts.length ++ " inline script(s)")]

/-- The notes on a component that was found. -/
def componentNotes (c : Component) : List Note :=
  [debug "rewrite.identity"
      ("Resolved identity " ++ c.identity ++ " at offset " ++ Text.ofNat c.start),
    debug "converter" ("Component identity: " ++ c.identity)]

/-- The note on a template that was found. -/
def templateNote (t : Template) : Note :=
  let note := debug "rewrite.template"
  match t.style with
  | none => note ("Template for " ++ t.identity ++ " has no inline style")
  | some style =>
    let includes : Text := Text.join ", " style.includes
    note ("Lifted style from " ++ t.identity ++ " template (includes: " ++
      (if includes.isEmpty then "none".toList else includes) ++ ")")

/-- The notes on the imports of a module. -/
def importNotes (options : Options) (hrefs : List Text) : List Note :=
  let note := debug "rewrite.paths"
  let dropped := hrefs.filter options.isDeprecated
  (dropped.map fun href => note ("Dropping deprecated import " ++ href)) ++
    (if (hrefs.findSome? options.libraryRoot?).isSome then []
    else [note ("No " ++ options.librarySegment ++ "/ segment in imports; assuming " ++
      options.assumedRoot)])

/-- The note on a conversion that failed. -/
def failureNote (filename : Text) (f : Failure) : Note :=
  debug "converter" ("Conversion of " ++ (if filename.isEmpty then "<input>".toList else filename) ++
    " failed: " ++ f.message)

/-- The notes on a conversion. -/
def notes (options : Options) (script : Option Text) (html filename : Text) : List Note :=
  let harvest := Harvest.ofDocument html filename
  harvestNotes html filename ++
    match component options script filename harvest.inlineScripts with
    | .error f => [failureNote filename f]
    | .ok (component, _) =>
      componentNotes component ++
        match Template.ofDocument harvest.html component.identity with
        | .error f => [failureNote filename f]
        | .ok template => templateNote template :: importNotes options harvest.imports

end ImportLift.Conversion
