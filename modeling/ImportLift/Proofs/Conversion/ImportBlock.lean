-- The imports of a module, read back from its text. The values that a document
-- links hold no quotation mark and no white space, and nothing on the way to a
-- statement puts one in; so each statement is one line, its path stands between
-- the only two quotation marks of the line, and the first empty line ends them.
import ImportLift.Proofs.Conversion.Header

namespace ImportLift

/-! ## Texts that can be quoted -/

/-- The text can stand on one line between single quotation marks. -/
def Quotable (text : Text) : Prop := ∀ c ∈ text, c ≠ '\'' ∧ c ≠ '\n'

instance (text : Text) : Decidable (Quotable text) :=
  List.decidableBAll (fun c => c ≠ '\'' ∧ c ≠ '\n') text

namespace Quotable

theorem no_quote {text : Text} (h : Quotable text) : '\'' ∉ text := fun hmem => (h _ hmem).1 rfl

theorem no_break {text : Text} (h : Quotable text) : '\n' ∉ text := fun hmem => (h _ hmem).2 rfl

theorem mono {part text : Text} (h : Quotable text) (hpart : part ⊆ text) : Quotable part :=
  fun c hc => h c (hpart hc)

theorem append {a b : Text} (ha : Quotable a) (hb : Quotable b) : Quotable (a ++ b) :=
  List.forall_mem_append.mpr ⟨ha, hb⟩

theorem times {text : Text} (h : Quotable text) (n : Nat) : Quotable (text.times n) := by
  apply h.mono
  intro c hc
  obtain ⟨copy, hcopy, hmem⟩ := List.mem_flatten.mp hc
  rwa [List.eq_of_mem_replicate hcopy] at hmem

theorem bindingName {name : Text} (h : Quotable name) : Quotable (bindingName name) := by
  intro c hc
  constructor
  · rintro rfl
    exact h.no_quote (mem_of_bindingName (by decide) hc)
  · rintro rfl
    exact h.no_break (mem_of_bindingName (by decide) hc)

theorem relative {path : Text} (h : Quotable path) : Quotable (relative path) := by
  unfold ImportLift.relative
  split
  · exact h
  · exact h
  · exact append (by decide) h

theorem replaceHtml {href ending : Text} (h : Quotable href) (hending : Quotable ending) :
    Quotable (replaceHtml ending href) := by
  obtain ⟨dir, old, -, rfl, hnew⟩ | ⟨dir, old, -, rfl, -⟩ | ⟨-, -, hnew⟩ := replaceHtml_cases href
  · rw [hnew]
    exact (h.mono (List.subset_append_left _ _)).append hending
  · -- A line feed behind the ending is none of a text that can be quoted.
    exact absurd h.no_break (by simp)
  · rwa [hnew]

theorem fileStem {href : Text} (h : Quotable href) : Quotable (fileStem href) := by
  have hslashes : Quotable (href.replaceAll "\\" "/") := by
    intro c hc
    obtain ⟨d, hd, himage⟩ := List.mem_flatMap.mp (Text.replaceAll_mark '\\' ['/'] href ▸ hc)
    split at himage
    · rw [List.mem_singleton.mp himage]
      decide
    · rw [List.mem_singleton.mp himage]
      exact h d hd
  have hname : Quotable (fileName href) := hslashes.mono (Text.afterLast_subset _ _)
  exact hname.mono (Text.beforeLast_subset _ _)

theorem relocate {options : Options} {path : Text} (h : Quotable path)
    (hspace : Quotable options.relocationNamespace) : Quotable (options.relocate path) := by
  unfold Options.relocate
  split
  · split
    · exact h
    · rename_i stop _
      have hfront : Quotable (path.take stop) := h.mono (List.take_subset _ _)
      have hback : Quotable (path.drop stop) := h.mono (List.drop_subset _ _)
      exact ((hfront.append hspace).append (by decide)).append hback
  · exact h

theorem libraryRoot {options : Options} {hrefs : List Text} (h : ∀ href ∈ hrefs, Quotable href)
    (hlibrary : Quotable options.librarySegment) : Quotable (options.libraryRoot hrefs) := by
  unfold Options.libraryRoot
  cases hroot : hrefs.findSome? options.libraryRoot? with
  | none =>
    have hlevels : Quotable (Text.times "../" options.fallbackDepth.toNat) := times (by decide) _
    exact (hlevels.append hlibrary).append (by decide)
  | some root =>
    obtain ⟨href, hhref, hfound⟩ := List.exists_of_findSome?_eq_some hroot
    obtain ⟨stop, -, rfl⟩ := Option.map_eq_some_iff.mp hfound
    exact (h href hhref).mono (List.take_subset _ _)

theorem frameworkPath {options : Options} {root : Text} (h : Quotable root)
    (hspace : Quotable options.relocationNamespace) : Quotable (options.frameworkPath root) :=
  ((h.append hspace).append (by decide)).relative

end Quotable

/-! ## Harvested values -/

theorem quotable_of_insideValue {value : Text} (h : ∀ c ∈ value, Pattern.insideValue c = true) :
    Quotable value := by
  intro c hc
  have hinside := h c hc
  constructor
  · rintro rfl
    exact absurd hinside (by decide)
  · rintro rfl
    exact absurd hinside (by decide)

namespace Harvest

/-- What a rule keeps as the value of a reference can be quoted. -/
theorem quotable_filled? (p : Pattern) (name : Capture) {text value : Text}
    (hkeeps : ∀ q, (name, q) ∈ p.keeps → q = .most Pattern.insideValue)
    (h : value ∈ (p.findAll text).filterMap (·.filled? name)) : Quotable value := by
  obtain ⟨m, hm, hvalue⟩ := List.mem_filterMap.mp h
  have hkept := (Match.filled?_eq_some.mp hvalue).1
  exact quotable_of_insideValue ((Pattern.mem_findAll hm).kept?_run hkeeps hkept)

theorem quotable_imports (html filename : Text) :
    ∀ href ∈ (ofDocument html filename).imports, Quotable href := by
  intro href hhref
  have hkeeps : Pattern.linkImport.keeps =
      [(.quote, .maybe (.one Pattern.isQuote)), (.href, .most Pattern.insideValue)] := rfl
  apply quotable_filled? .linkImport .href _ hhref
  simp [hkeeps]

theorem quotable_scripts (html filename : Text) :
    ∀ src ∈ (ofDocument html filename).scripts, Quotable src := by
  intro src hsrc
  have hkeeps : Pattern.sourcedScript.keeps =
      [(.quote, .maybe (.one Pattern.isQuote)), (.src, .most Pattern.insideValue)] := rfl
  apply quotable_filled? .sourcedScript .src _ (List.mem_filter.mp hsrc).1
  simp [hkeeps]

end Harvest

/-! ## Statements -/

/-- The import can be written as one line and read back. -/
structure Import.Readable (i : Import) : Prop where
  path : Quotable i.path
  name : ∀ name, i.binding = some name → Quotable name

theorem Import.readable_ofScript {src : Text} (h : Quotable src) : (ofScript src).Readable :=
  ⟨h.relative, fun _ hname => nomatch hname⟩

theorem Options.readable_importFor? {options : Options}
    (hspace : Quotable options.relocationNamespace) {includes : List Text} {href : Text}
    {i : Import} (h : Quotable href) (hi : options.importFor? includes href = some i) :
    i.Readable := by
  have hpath : Quotable (replaceHtml ".js" href) := h.replaceHtml (by decide)
  rw [importFor?_eq] at hi
  split at hi
  · cases hi
  · split at hi
    · cases hi
      refine ⟨hpath.relative, ?_⟩
      rintro _ ⟨⟩
      exact h.fileStem.bindingName
    · cases hi
      exact ⟨(hpath.relocate hspace).relative, fun _ hname => nomatch hname⟩

theorem Options.readable_imports {options : Options}
    (hspace : Quotable options.relocationNamespace) (includes : List Text)
    {hrefs scripts : List Text} (hhrefs : ∀ href ∈ hrefs, Quotable href)
    (hscripts : ∀ src ∈ scripts, Quotable src) :
    ∀ i ∈ options.imports includes hrefs scripts, i.Readable := by
  intro i hi
  rcases List.mem_append.mp hi with hi | hi
  · obtain ⟨href, hhref, hi⟩ := List.mem_filterMap.mp hi
    exact readable_importFor? hspace (hhrefs href hhref) hi
  · obtain ⟨src, hsrc, rfl⟩ := List.mem_map.mp hi
    exact Import.readable_ofScript (hscripts src hsrc)

/-- No import is made of a deprecated reference, and one of any other. -/
theorem Options.importFor?_eq_none {options : Options} {includes : List Text} {href : Text} :
    options.importFor? includes href = none ↔ options.isDeprecated href = true := by
  rw [importFor?_eq]
  by_cases hold : options.isDeprecated href = true
  · simp [hold]
  · simp only [hold, Bool.false_eq_true, if_false, iff_false]
    split <;> simp

/-- The marks that a reference came with do not count. -/
theorem Options.importOf?_tag (options : Options) (includes : List Text) (r : Reference) :
    options.importOf? (options.tag includes r) = options.importFor? includes r.href := rfl

namespace Import

/-- What a statement says in front of its path when it binds this name, or none. -/
def opening : Option Text → Text
  | some name => "import \x7b " ++ name ++ " \x7d from "
  | none => "import "

theorem opening_some (name : Text) :
    opening (some name) = "import \x7b ".toList ++ name ++ " \x7d from ".toList := rfl

theorem statement_opening (i : Import) :
    i.statement = opening i.bound? ++ '\'' :: (i.path ++ '\'' :: [';']) := by
  have hend : ("';" : String).toList = ['\'', ';'] := by decide
  rw [statement_eq]
  cases i.bound? with
  | none =>
    have hopen : ("import '" : String).toList = "import " ++ ['\''] := by decide
    change _ = "import ".toList ++ _
    simp only [hopen, hend, List.append_assoc, List.cons_append, List.nil_append]
  | some name =>
    have hopen : (" \x7d from '" : String).toList = " \x7d from " ++ ['\''] := by decide
    simp only [opening_some, hopen, hend, List.append_assoc, List.cons_append, List.nil_append]

/-- The name in front of a path. Nine characters stand before it and eight behind; without a
name there are too few. -/
def nameIn? (opening : Text) : Option Text :=
  some ((opening.drop 9).take (opening.length - 17)) |>.filter (· ≠ [])

/-- The import that a line states: its path stands between two quotation marks. -/
def ofLine? (line : Text) : Option Import :=
  match Text.cutAt '\'' line with
  | [opening, path, _] => some ⟨path, nameIn? opening⟩
  | _ => none

theorem nameIn?_opening (i : Import) : nameIn? (opening i.bound?) = i.bound? := by
  cases hbound : i.bound? with
  | none => rfl
  | some name =>
    have hname : name ≠ [] := by
      have hfilter := (Option.filter_eq_some_iff.mp hbound).2
      simpa using hfilter
    have hfront : ("import \x7b " : String).toList.length = 9 := by decide
    have hback : (" \x7d from " : String).toList.length = 8 := by decide
    have hlength : (opening (some name)).length - 17 = name.length := by
      simp only [opening_some, List.length_append, hfront, hback]
      omega
    have hdrop : (opening (some name)).drop 9 = name ++ " \x7d from " := by
      rw [opening_some, List.append_assoc, List.drop_left' hfront]
    rw [nameIn?, hlength, hdrop, List.take_left]
    simp [hname]

namespace Readable

variable {i : Import}

theorem quotable_opening (h : i.Readable) : Quotable (opening i.bound?) := by
  cases hbound : i.bound? with
  | none => decide
  | some name =>
    have hname : Quotable name := h.name name (Option.filter_eq_some_iff.mp hbound).1
    exact (Quotable.append (by decide) hname).append (by decide)

/-- The path is the text between the two quotation marks of the statement. -/
theorem cutAt_statement (h : i.Readable) :
    Text.cutAt '\'' i.statement = [opening i.bound?, i.path, [';']] := by
  rw [statement_opening, Text.cutAt_append_cons h.quotable_opening.no_quote,
    Text.cutAt_append_cons h.path.no_quote, Text.cutAt_of_not_mem (by decide)]

theorem ofLine?_statement (h : i.Readable) : ofLine? i.statement = some ⟨i.path, i.bound?⟩ := by
  unfold ofLine?
  rw [h.cutAt_statement]
  simp only [nameIn?_opening]

theorem no_break_statement (h : i.Readable) : '\n' ∉ i.statement := by
  rw [statement_opening]
  simp [h.quotable_opening.no_break, h.path.no_break]

end Readable

theorem statement_ne_nil (i : Import) : i.statement ≠ [] := by
  rw [statement_opening]
  simp

end Import

/-! ## The lines of a module -/

/-- The line that imports the framework. -/
def frameworkLine (path : Text) : Text :=
  "import \x7b PolymerElement, html \x7d from '" ++ path ++ "';"

theorem frameworkLine_eq (path : Text) : frameworkLine path =
    "import \x7b PolymerElement, html \x7d from '".toList ++ path ++ "';".toList := rfl

/-- The text of a module starts with the directive, the framework import and the statements, each
on a line of its own, and an empty line. -/
theorem Pieces.lines_moduleText {p : Pieces} (hframework : Quotable p.frameworkPath)
    (himports : ∀ i ∈ p.imports, i.Readable) :
    ∃ rest, Text.cutAt '\n' p.moduleText = "// @ts-check".toList ::
      frameworkLine p.frameworkPath :: (p.imports.map Import.statement ++ [] :: rest) := by
  let head : List Text := "// @ts-check".toList :: frameworkLine p.frameworkPath ::
    (p.imports.map Import.statement ++ [[]])
  have hhead : ∀ line ∈ head, '\n' ∉ line := by
    have hline : '\n' ∉ frameworkLine p.frameworkPath := by
      rw [frameworkLine_eq, List.mem_append, List.mem_append]
      rintro ((hmem | hmem) | hmem)
      · exact absurd hmem (by decide)
      · exact hframework.no_break hmem
      · exact absurd hmem (by decide)
    have hstatements : ∀ line ∈ p.imports.map Import.statement, '\n' ∉ line := by
      intro line hmem
      obtain ⟨i, hi, rfl⟩ := List.mem_map.mp hmem
      exact (himports i hi).no_break_statement
    simp only [head, List.forall_mem_cons, List.forall_mem_append]
    exact ⟨by decide, hline, hstatements, by decide⟩
  -- The scripts and whatever follows them stand behind the empty line.
  obtain ⟨rest, htext⟩ : ∃ rest,
      p.moduleText = (head.flatMap fun line => line ++ ['\n']) ++ rest := by
    refine ⟨(p.scripts.flatMap fun script => script ++ ['\n', '\n']) ++
      ("const styleTemplate = html`" ++ p.preamble ++ "`;" ++ ['\n', '\n'] ++
        p.component.moduleHead ++ templateAccessor p.component.indent p.markup ++
        p.component.after), ?_⟩
    delta moduleText
    simp only [head, frameworkLine_eq, List.flatMap_cons, List.flatMap_append, List.flatMap_map,
      List.flatMap_nil, List.append_assoc, List.nil_append, List.append_nil]
  refine ⟨Text.cutAt '\n' rest, ?_⟩
  rw [htext, Text.cutAt_pieces hhead]
  simp only [head, List.cons_append, List.append_assoc, List.nil_append]

namespace Conversion

/-- The imports of a module are read back from its text. Cut at its line feeds, the text has the
directive and the framework import in front, and up to the first empty line it has one line for
each reference of the document that is not deprecated and then one for each script, in order and
as often as they come. The path of a line is the text between its two quotation marks; with it the
name that the line binds is read back, where an empty name counts as none. -/
theorem the_imports_of_a_module_are_read_back (options : Options) (script : Option Text)
    (html filename : Text) (m : Module) (hlibrary : Quotable options.librarySegment)
    (hspace : Quotable options.relocationNamespace)
    (h : convert options .ofModules script html filename = .ok m) :
    let harvest := Harvest.ofDocument html filename
    ∃ template, Template.ofDocument harvest.html m.identity = .ok template ∧
      let importFor? := options.importFor? template.styleIncludes
      let imports := harvest.imports.filterMap importFor? ++ harvest.scripts.map Import.ofScript
      let lines := Text.cutAt '\n' m.text
      lines.take 2 = ["// @ts-check".toList,
        frameworkLine (options.frameworkPath (options.libraryRoot harvest.imports))] ∧
      [] ∈ lines.drop 2 ∧
      ((lines.drop 2).takeWhile fun line => !line.isEmpty) = imports.map Import.statement ∧
      (∀ href, importFor? href = none ↔ options.isDeprecated href = true) ∧
      -- Marked as they may be, the references have the same imports all at once.
      (∀ references : List Reference, references.map Reference.href = harvest.imports →
        (references.map (options.tag template.styleIncludes)).filterMap options.importOf? =
          harvest.imports.filterMap importFor?) ∧
      ∀ i ∈ imports, (∃ opening, Text.cutAt '\'' i.statement = [opening, i.path, [';']]) ∧
        Import.ofLine? i.statement = some ⟨i.path, i.bound?⟩ := by
  intro harvest
  obtain ⟨p, template, hp, htext, ht, -, himports⟩ := document_of_convert h
  refine ⟨template, ht, ?_⟩
  intro importFor? imports lines
  have hhrefs : ∀ href ∈ harvest.imports, Quotable href := Harvest.quotable_imports html filename
  have hframework : p.frameworkPath =
      options.frameworkPath (options.libraryRoot harvest.imports) := by
    obtain ⟨c, scripts, template', -, -, rfl⟩ := pieces_eq_ok hp
    rfl
  have hreadable : ∀ i ∈ imports, i.Readable :=
    Options.readable_imports hspace _ hhrefs (Harvest.quotable_scripts html filename)
  obtain ⟨rest, hlines⟩ : ∃ rest, lines = "// @ts-check".toList ::
      frameworkLine p.frameworkPath :: (imports.map Import.statement ++ [] :: rest) := by
    have hquotable : Quotable p.frameworkPath := by
      rw [hframework]
      exact (Quotable.libraryRoot hhrefs hlibrary).frameworkPath hspace
    have hpieces := Pieces.lines_moduleText hquotable (himports ▸ hreadable)
    rw [himports, ← htext] at hpieces
    exact hpieces
  rw [hlines, hframework]
  refine ⟨rfl, by simp, ?_, fun href => Options.importFor?_eq_none, ?_, ?_⟩
  · have hfilled : ∀ line ∈ imports.map Import.statement, (!line.isEmpty) = true := by
      intro line hmem
      obtain ⟨i, -, rfl⟩ := List.mem_map.mp hmem
      simp [i.statement_ne_nil]
    change List.takeWhile _ (imports.map Import.statement ++ [] :: rest) = _
    rw [List.takeWhile_append_of_pos hfilled]
    simp
  · intro references hreferences
    have htag : options.importOf? ∘ options.tag template.styleIncludes =
        importFor? ∘ Reference.href := funext (options.importOf?_tag template.styleIncludes)
    rw [← hreferences, List.filterMap_map, List.filterMap_map, htag]
  · intro i hi
    exact ⟨⟨_, (hreadable i hi).cutAt_statement⟩, (hreadable i hi).ofLine?_statement⟩

/-- The imports of a closed document are read off its contents. -/
theorem imports_of_contents (options : Options) (html : Text) (hrefs styles : List Text)
    (imports : List Import) (h : contents? options html = some (hrefs, styles, imports)) :
    let harvest := Harvest.ofDocument html []
    ∃ m template, convert options .ofModules (some styledClass) html [] = .ok m ∧
      Template.ofDocument harvest.html m.identity = .ok template ∧
      harvest.imports.filterMap (options.importFor? template.styleIncludes) ++
        harvest.scripts.map Import.ofScript = imports := by
  intro harvest
  obtain ⟨m, p, template, hm, hp, -, ht, -, -, himports⟩ :=
    convert_of_contents options html hrefs styles imports h
  obtain ⟨p', template', hp', -, ht', -, himports'⟩ := document_of_convert hm
  obtain rfl : p = p' := Except.ok.inj (hp.symm.trans hp')
  obtain rfl : template = template' := Except.ok.inj (ht.symm.trans ht')
  exact ⟨m, template, hm, ht, himports'.symm.trans himports⟩

/-- A deprecated reference, a shared style and a script. -/
theorem a_style_and_a_script_are_read_back :
    let html := "<script src=z.js></script>" ++
      styledDocument ["polymer.html", "../s/my-css.html"] "my-css"
    ∃ m, convert {} .ofModules (some styledClass) html [] = .ok m ∧
      (((Text.cutAt '\n' m.text).drop 2).takeWhile fun line => !line.isEmpty) =
        ["import \x7b myCss \x7d from '../s/my-css.js';".toList, "import './z.js';".toList] := by
  intro html
  obtain ⟨m, template, hm, ht, himports⟩ := imports_of_contents {} html
    ["polymer.html", "../s/my-css.html"] ["my-css"]
    [⟨"../s/my-css.js", some "myCss"⟩, ⟨"./z.js", none⟩] (by decide +kernel)
  obtain ⟨template', ht', -, -, hblock, -⟩ := the_imports_of_a_module_are_read_back {}
    (some styledClass) html [] m (by decide) (by decide) hm
  obtain rfl : template = template' := Except.ok.inj (ht.symm.trans ht')
  refine ⟨m, hm, hblock.trans ?_⟩
  rw [himports]
  decide

/-- A style called `-` is imported under an empty name, which the statement leaves out: its line
is that of an import without a name. -/
theorem two_imports_can_share_a_line :
    let html := "<script src=-.js></script>" ++ styledDocument ["-.html"] "-"
    let harvest := Harvest.ofDocument html []
    let options : Options := {}
    Quotable options.librarySegment ∧ Quotable options.relocationNamespace ∧
    ∃ m template, convert options .ofModules (some styledClass) html [] = .ok m ∧
      Template.ofDocument harvest.html m.identity = .ok template ∧
      let imports := harvest.imports.filterMap (options.importFor? template.styleIncludes) ++
        harvest.scripts.map Import.ofScript
      ∃ i ∈ imports, ∃ j ∈ imports, i.statement = j.statement ∧ i.binding ≠ j.binding := by
  intro html harvest options
  obtain ⟨m, template, hm, ht, himports⟩ := imports_of_contents options html ["-.html"] ["-"]
    [⟨"./-.js", some []⟩, ⟨"./-.js", none⟩] (by decide +kernel)
  refine ⟨by decide, by decide, m, template, hm, ht, ?_⟩
  rw [himports]
  exact ⟨_, List.mem_cons_self, _, List.mem_cons_of_mem _ List.mem_cons_self, rfl, nofun⟩

end Conversion

end ImportLift
