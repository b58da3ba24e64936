-- The names in the head of a module. A shared style that the document links is
-- imported by name, so that the placeholder in the style constant is bound,
-- unless its file is deprecated or its name is made of dashes. The imports take
-- the references as they come: a reference that comes twice is imported twice.
import ImportLift.Proofs.Conversion
import ImportLift.Proofs.Import

namespace ImportLift

/-- The names that the head of a module binds: the two of the framework, the style constant and
those of the named imports. -/
def Pieces.headNames (p : Pieces) : List Text :=
  "PolymerElement".toList :: "html".toList :: styleConstant :: p.imports.filterMap Import.bound?

namespace Conversion

/-- The pieces of a module that come from its document. -/
theorem document_of_convert {options : Options} {script : Option Text} {html filename : Text}
    {m : Module} (h : convert options .ofModules script html filename = .ok m) :
    let harvest := Harvest.ofDocument html filename
    ∃ p template, pieces options script html filename = .ok p ∧ m.text = p.moduleText ∧
      Template.ofDocument harvest.html m.identity = .ok template ∧
      p.preamble = template.preamble ∧
      p.imports = options.imports template.styleIncludes harvest.imports harvest.scripts := by
  obtain ⟨p, hp, rfl⟩ := convert_eq_ok h
  obtain ⟨c, scripts, template, -, ht, rfl⟩ := pieces_eq_ok hp
  rw [Pieces.assemble_ofModules]
  exact ⟨_, template, hp, rfl, ht, rfl, rfl⟩

/-! ## A document that includes shared styles -/

/-- A document that links files and whose template includes shared styles. -/
def styledDocument (hrefs : List Text) (styles : Text) : Text :=
  (hrefs.flatMap fun href => ("<link rel=import href=" ++ href ++ ">" : Text)) ++
    "<dom-module id='a-b'>" ++ "<template>" ++ "<style include='" ++ styles ++ "'>" ++
    "p</style>" ++ "x</template>" ++ "</dom-module>"

/-- A class of the name that the document has a template for. -/
def styledClass : Text :=
  "class A\x7b" ++ "static get is()" ++ "\x7b" ++ "return 'a-b'\x7d" ++ "\x7d"

/-- The references of a document, the shared styles of its template and the imports that they
become. -/
def contents? (options : Options) (html : Text) : Option (List Text × List Text × List Import) := do
  let p ← (pieces options (some styledClass) html []).toOption
  let harvest := Harvest.ofDocument html []
  let template ← (Template.ofDocument harvest.html p.component.identity).toOption
  return (harvest.imports, template.styleIncludes, p.imports)

/-- A conversion is read off its contents, so that a closed document is evaluated once. -/
theorem convert_of_contents (options : Options) (html : Text) (hrefs styles : List Text)
    (imports : List Import) (h : contents? options html = some (hrefs, styles, imports)) :
    let harvest := Harvest.ofDocument html []
    ∃ m p template, convert options .ofModules (some styledClass) html [] = .ok m ∧
      pieces options (some styledClass) html [] = .ok p ∧ m.text = p.moduleText ∧
      Template.ofDocument harvest.html m.identity = .ok template ∧ harvest.imports = hrefs ∧
      template.styleIncludes = styles ∧ p.imports = imports := by
  unfold contents? at h
  cases hp : pieces options (some styledClass) html [] with
  | error f => simp [hp, Except.toOption] at h
  | ok p =>
    cases ht : Template.ofDocument (Harvest.ofDocument html []).html p.component.identity with
    | error f => simp [hp, ht, Except.toOption] at h
    | ok template =>
      simp only [hp, ht, Except.toOption, Option.bind_eq_bind, Option.bind_some, Option.pure_def,
        Option.some.injEq, Prod.mk.injEq] at h
      refine ⟨p.assemble .ofModules, p, template, ?_, rfl, ?_, ht, h⟩
      · rw [convert, hp, Except.map]
      · rw [Pieces.assemble_ofModules]

/-! ## Placeholders -/

theorem placeholder_of_include {template : Template} {name : Text}
    (h : name ∈ template.styleIncludes) :
    ∃ before after, template.preamble = before ++ placeholder (bindingName name) ++ after := by
  obtain ⟨identity, markup, style⟩ := template
  cases style with
  | none => cases h
  | some style =>
    obtain ⟨includes, css⟩ := style
    obtain ⟨before, after, rfl⟩ := List.append_of_mem (show name ∈ includes from h)
    exact ⟨_, _, Style.preamble_append before after name css⟩

/-- The placeholder of a shared style is bound wherever the document links the file of that name:
one of the imports has the name, and its statement says so unless the name is made of dashes. It
is asked of the file that it is not deprecated, and of the name that it has no dot. -/
theorem a_linked_style_is_imported_by_name (options : Options) (script : Option Text)
    (html filename : Text) (m : Module)
    (h : convert options .ofModules script html filename = .ok m) :
    let harvest := Harvest.ofDocument html filename
    ∃ p template, pieces options script html filename = .ok p ∧ m.text = p.moduleText ∧
      Template.ofDocument harvest.html m.identity = .ok template ∧
      ∀ style ∈ template.styleIncludes, '.' ∉ style →
        ∀ href ∈ harvest.imports, fileName href = style ++ ".html" →
          (∀ old ∈ options.deprecatedImports, Text.lower old ≠ Text.lower (style ++ ".html")) →
          (∃ i ∈ p.imports, i.binding = some (bindingName style) ∧
            ((∃ c ∈ style, c ≠ '-') → i.statement =
              "import \x7b " ++ bindingName style ++ " \x7d from '" ++ i.path ++ "';")) ∧
          ∃ before after, p.preamble = before ++ placeholder (bindingName style) ++ after := by
  intro harvest
  obtain ⟨p, template, hp, htext, ht, hpreamble, himports⟩ := document_of_convert h
  refine ⟨p, template, hp, htext, ht, ?_⟩
  intro style hstyle hdot href hhref hfile hold
  obtain ⟨hstem, hlookup⟩ := lookupName_of_fileName hfile hdot
  have hkept : options.isDeprecated href = false := by
    simpa [Options.isDeprecated, Text.sameLower, hfile] using hold
  let i : Import := ⟨relative (replaceHtml ".js" href), some (bindingName style)⟩
  have hi : options.importFor? template.styleIncludes href = some i := by
    rw [Options.importFor?_eq, hkept, hlookup, hstem]
    simp [hstyle, i]
  refine ⟨⟨i, ?_, rfl, ?_⟩, ?_⟩
  · rw [himports]
    exact List.mem_append_left _ (List.mem_filterMap.mpr ⟨href, hhref, hi⟩)
  · rintro ⟨c, hc, hne⟩
    have hnamed : bindingName style ≠ [] := fun hnil => hne (bindingName_eq_nil.mp hnil c hc)
    have hbound : i.bound? = some (bindingName style) := by simp [i, Import.bound?, hnamed]
    rw [Import.statement_eq, hbound]
  · rw [hpreamble]
    exact placeholder_of_include hstyle

/-- A shared style beside a deprecated file, linked from another directory. -/
theorem a_style_beside_a_deprecated_file_is_imported :
    let html := styledDocument ["polymer.html", "../s/my-css.html"] "my-css"
    ∃ m p i, convert {} .ofModules (some styledClass) html [] = .ok m ∧
      pieces {} (some styledClass) html [] = .ok p ∧ i ∈ p.imports ∧
      i.binding = some "myCss".toList := by
  intro html
  obtain ⟨m, -, template, hm, -, -, ht, hhrefs, hstyles, -⟩ :=
    convert_of_contents {} html ["polymer.html", "../s/my-css.html"] ["my-css"]
      [⟨"../s/my-css.js", some "myCss"⟩] (by decide +kernel)
  obtain ⟨p, template', hp, -, ht', himported⟩ :=
    a_linked_style_is_imported_by_name {} (some styledClass) html [] m hm
  obtain rfl : template = template' := Except.ok.inj (ht.symm.trans ht')
  obtain ⟨⟨i, hi, hbinding, -⟩, -⟩ := himported "my-css" (by simp [hstyles]) (by decide)
    "../s/my-css.html" (by simp [hhrefs]) (by decide) (by decide)
  exact ⟨m, p, i, hm, hp, hi, hbinding⟩

/-- A shared style whose file is deprecated has no import although the document links the file,
and the import of one whose name is a dash does not say the name: both placeholders stay unbound. -/
theorem a_linked_style_can_stay_unbound :
    let html := styledDocument ["iron-flex-layout.html", "-.html"] "iron-flex-layout -"
    let harvest := Harvest.ofDocument html []
    ∃ m p template, convert {} .ofModules (some styledClass) html [] = .ok m ∧
      pieces {} (some styledClass) html [] = .ok p ∧ m.text = p.moduleText ∧
      Template.ofDocument harvest.html m.identity = .ok template ∧
      template.styleIncludes = ["iron-flex-layout".toList, "-".toList] ∧
      (∀ style ∈ template.styleIncludes, (∃ href ∈ harvest.imports,
        fileName href = style ++ ".html") ∧ ∀ i ∈ p.imports, i.bound? ≠ some (bindingName style)) ∧
      ∀ i ∈ p.imports, i.binding ≠ some (bindingName "iron-flex-layout".toList) := by
  intro html harvest
  obtain ⟨m, p, template, hm, hp, htext, ht, hhrefs, hstyles, himports⟩ :=
    convert_of_contents {} html ["iron-flex-layout.html", "-.html"] ["iron-flex-layout", "-"]
      [⟨"./-.js", some []⟩] (by decide +kernel)
  refine ⟨m, p, template, hm, hp, htext, ht, hstyles, ?_⟩
  rw [hstyles, hhrefs, himports]
  decide

/-! ## Names bound twice -/

/-- No reference is imported under a name that starts with a capital. -/
theorem importName?_ne_capital (options : Options) (includes : List Text) (href : Text)
    {c : Char} {rest : Text} (hc : c.isUpper = true) :
    options.importName? includes href ≠ some (c :: rest) := by
  intro hname
  simp only [Options.importName?, Option.ite_none_right_eq_some, Option.some.injEq] at hname
  have hhead : (bindingName (fileStem href)).head? = some c := by rw [hname.2, List.head?_cons]
  rw [head?_bindingName hhead] at hc
  cases hc

/-- Names taken from a list differ when no two entries have one name. -/
theorem nodup_names {nameOf : Text → Option Text} {hrefs : List Text} :
    (hrefs.filterMap nameOf).Nodup ↔
      hrefs.Pairwise fun a b => nameOf a = nameOf b → nameOf a = none := by
  rw [List.Nodup, List.pairwise_filterMap]
  have hiff (a b : Text) : (∀ name, nameOf a = some name → ∀ other, nameOf b = some other →
      name ≠ other) ↔ (nameOf a = nameOf b → nameOf a = none) := by
    cases nameOf a <;> cases nameOf b <;> simp
  simp only [hiff]

/-- The head of a module binds the names of the framework, the style constant and the names under
which the references of the document are imported, in their order. A name is bound twice exactly
when two references are imported under one name, or one under the name of the template tag or of
the style constant; the base class is never bound again. -/
theorem a_head_binds_twice_what_two_references_name (options : Options) (script : Option Text)
    (html filename : Text) (m : Module)
    (h : convert options .ofModules script html filename = .ok m) :
    let harvest := Harvest.ofDocument html filename
    ∃ p template, pieces options script html filename = .ok p ∧ m.text = p.moduleText ∧
      Template.ofDocument harvest.html m.identity = .ok template ∧
      let nameOf := options.importName? template.styleIncludes
      p.headNames = "PolymerElement".toList :: "html".toList :: "styleTemplate".toList ::
        harvest.imports.filterMap nameOf ∧
      (∀ href ∈ harvest.imports, nameOf href ≠ some "PolymerElement".toList) ∧
      (p.headNames.Nodup ↔
        (harvest.imports.Pairwise fun a b => nameOf a = nameOf b → nameOf a = none) ∧
        ∀ href ∈ harvest.imports, nameOf href ≠ some "html".toList ∧
          nameOf href ≠ some "styleTemplate".toList) := by
  intro harvest
  obtain ⟨p, template, hp, htext, ht, -, himports⟩ := document_of_convert h
  refine ⟨p, template, hp, htext, ht, ?_⟩
  intro nameOf
  have hhead : p.headNames = "PolymerElement".toList :: "html".toList :: "styleTemplate".toList ::
      harvest.imports.filterMap nameOf := by
    rw [Pieces.headNames, himports, Options.bound?_imports]
    rfl
  have hbase : ∀ href ∈ harvest.imports, nameOf href ≠ some "PolymerElement".toList :=
    fun href _ => importName?_ne_capital options _ href (by decide)
  have hnot (name : Text) : name ∉ harvest.imports.filterMap nameOf ↔
      ∀ href ∈ harvest.imports, nameOf href ≠ some name := by
    simp
  refine ⟨hhead, hbase, ?_⟩
  rw [hhead, ← nodup_names]
  simp only [List.nodup_cons, List.mem_cons, not_or, hnot]
  constructor
  · rintro ⟨-, ⟨-, hhtml⟩, hstyle, hnodup⟩
    exact ⟨hnodup, fun href hhref => ⟨hhtml href hhref, hstyle href hhref⟩⟩
  · rintro ⟨hnodup, hothers⟩
    have hhtml : ∀ href ∈ harvest.imports, nameOf href ≠ some "html".toList :=
      fun href hhref => (hothers href hhref).1
    have hstyle : ∀ href ∈ harvest.imports, nameOf href ≠ some "styleTemplate".toList :=
      fun href hhref => (hothers href hhref).2
    exact ⟨⟨by decide, by decide, hbase⟩, ⟨by decide, hhtml⟩, hstyle, hnodup⟩

/-- Two shared styles of different names, one with its ending in capitals. -/
theorem two_styles_are_bound_once_each :
    let html := styledDocument ["my-css.html", "s/Theme.HTML"] "my-css Theme"
    ∃ m p, convert {} .ofModules (some styledClass) html [] = .ok m ∧
      pieces {} (some styledClass) html [] = .ok p ∧ p.headNames.Nodup := by
  intro html
  obtain ⟨m, -, template, hm, -, -, ht, hhrefs, hstyles, -⟩ :=
    convert_of_contents {} html ["my-css.html", "s/Theme.HTML"] ["my-css", "Theme"]
      [⟨"./my-css.js", some "myCss"⟩, ⟨"./s/Theme.js", some "theme"⟩] (by decide +kernel)
  obtain ⟨p, template', hp, -, ht', -, -, hnodup⟩ :=
    a_head_binds_twice_what_two_references_name {} (some styledClass) html [] m hm
  obtain rfl : template = template' := Except.ok.inj (ht.symm.trans ht')
  refine ⟨m, p, hm, hp, hnodup.mpr ?_⟩
  rw [hhrefs, hstyles]
  decide

/-- A style that is linked twice is imported twice, and one called `html` takes a name of the
framework. -/
theorem a_head_can_bind_a_name_twice :
    let html := styledDocument ["my-css.html", "my-css.html", "html.html"] "my-css html"
    ∃ m p, convert {} .ofModules (some styledClass) html [] = .ok m ∧
      pieces {} (some styledClass) html [] = .ok p ∧ m.text = p.moduleText ∧
      p.headNames = ["PolymerElement".toList, "html".toList, "styleTemplate".toList,
        "myCss".toList, "myCss".toList, "html".toList] ∧ ¬ p.headNames.Nodup := by
  intro html
  obtain ⟨m, p, -, hm, hp, htext, -, -, -, himports⟩ :=
    convert_of_contents {} html ["my-css.html", "my-css.html", "html.html"] ["my-css", "html"]
      [⟨"./my-css.js", some "myCss"⟩, ⟨"./my-css.js", some "myCss"⟩, ⟨"./html.js", some "html"⟩]
      (by decide +kernel)
  have hnames : p.headNames = ["PolymerElement".toList, "html".toList, "styleTemplate".toList,
      "myCss".toList, "myCss".toList, "html".toList] := by
    rw [Pieces.headNames, himports]
    decide
  refine ⟨m, p, hm, hp, htext, hnames, ?_⟩
  rw [hnames]
  decide

end Conversion

end ImportLift
