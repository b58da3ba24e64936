-- References and the names they are imported under. The ending `.html` of a
-- reference gives way to `.js`, and the stem of its file name stays what it
-- was. To find the reference among the shared styles the ending is taken off
-- first and the stem is read then: this cuts a name with a further dot twice.
import ImportLift.Import
import ImportLift.Proofs.Binding
import ImportLift.Proofs.Text.Fold

namespace ImportLift

/-! ## File names -/

/-- The text holds no dot and no slash of either kind. -/
def IsExtension (ending : Text) : Prop := '.' ∉ ending ∧ '/' ∉ ending ∧ '\\' ∉ ending

instance (ending : Text) : Decidable (IsExtension ending) := inferInstanceAs (Decidable (_ ∧ _))

theorem fileName_append {ending : Text} (hslash : '/' ∉ ending) (hback : '\\' ∉ ending)
    (dir : Text) : fileName (dir ++ ending) = fileName dir ++ ending := by
  have hreplace (text : Text) : text.replaceAll "\\" "/" =
      text.flatMap fun c => if c = '\\' then ['/'] else [c] :=
    Text.replaceAll_mark '\\' ['/'] text
  have hsame : (ending.flatMap fun c => if c = '\\' then ['/'] else [c]) = ending := by
    clear hslash
    induction ending with
    | nil => rfl
    | cons c rest ih =>
      rw [List.mem_cons, not_or] at hback
      rw [List.flatMap_cons, if_neg (Ne.symm hback.1), ih hback.2, List.singleton_append]
  unfold fileName
  rw [hreplace, hreplace, List.flatMap_append, hsame, Text.afterLast_append hslash]

theorem fileStem_append {ending : Text} (h : IsExtension ending) (dir : Text) :
    fileStem (dir ++ '.' :: ending) = fileName dir := by
  obtain ⟨hdot, hslash, hback⟩ := h
  have hname : fileName (dir ++ '.' :: ending) = fileName dir ++ '.' :: ending :=
    fileName_append (by simp [hslash]) (by simp [hback]) dir
  rw [fileStem, hname, Text.beforeLast_append_cons hdot]

/-! ## The ending of a reference -/

/-- The letters `html`, each in either case. -/
def IsHtml (ending : Text) : Prop := ending.map Char.toLower = "html".toList

theorem IsHtml.not_mem {ending : Text} (h : IsHtml ending) {c : Char} (hlower : c.toLower = c)
    (hc : c ∉ "html".toList) : c ∉ ending := by
  intro hmem
  have himage := List.mem_map_of_mem (f := Char.toLower) hmem
  rw [hlower, show ending.map Char.toLower = _ from h] at himage
  exact hc himage

theorem IsHtml.isExtension {ending : Text} (h : IsHtml ending) : IsExtension ending :=
  ⟨h.not_mem (by decide) (by decide), h.not_mem (by decide) (by decide),
    h.not_mem (by decide) (by decide)⟩

theorem IsHtml.length {ending : Text} (h : IsHtml ending) : ending.length = 4 := by
  have hlength := congrArg List.length (show ending.map Char.toLower = _ from h)
  simpa using hlength

theorem IsHtml.length_before {ending : Text} (h : IsHtml ending) (dir : Text) :
    (dir ++ '.' :: ending).length - 5 = dir.length := by
  simp [h.length]

theorem endsInHtml_iff {text : Text} :
    endsInHtml text = true ↔ ∃ dir ending, text = dir ++ '.' :: ending ∧ IsHtml ending := by
  unfold endsInHtml
  rw [decide_eq_true_iff]
  constructor
  · intro h
    have hsplit := List.take_append_drop (text.length - 5) text
    cases hlast : text.drop (text.length - 5) with
    | nil => simp [hlast] at h
    | cons c ending =>
      rw [hlast, List.map_cons, show ".html".toList = '.' :: "html".toList from rfl,
        List.cons.injEq] at h
      rw [hlast, Text.eq_of_toLower (by decide) h.1] at hsplit
      exact ⟨_, ending, hsplit.symm, h.2⟩
  · rintro ⟨dir, ending, rfl, h⟩
    rw [h.length_before, List.drop_left, List.map_cons, show ending.map Char.toLower = _ from h]
    decide

/-- What becomes of a reference when its ending is replaced: an ending `.html` gives way, also in
front of a final line feed, and any other reference stays. -/
theorem replaceHtml_cases (href : Text) :
    (∃ dir ending, IsHtml ending ∧ href = dir ++ '.' :: ending ∧
      ∀ new, replaceHtml new href = dir ++ new) ∨
    (∃ dir ending, IsHtml ending ∧ href = dir ++ '.' :: ending ++ ['\n'] ∧
      ∀ new, replaceHtml new href = dir ++ new ++ ['\n']) ∨
    (endsInHtml href = false ∧ (href.getLast? = some '\n' → endsInHtml href.dropLast = false) ∧
      ∀ new, replaceHtml new href = href) := by
  by_cases hhtml : endsInHtml href = true
  · obtain ⟨dir, ending, rfl, h⟩ := endsInHtml_iff.mp hhtml
    refine .inl ⟨dir, ending, h, rfl, fun new => ?_⟩
    rw [replaceHtml, if_pos hhtml, h.length_before, List.take_left]
  · by_cases hbreak : href.getLast? = some '\n' ∧ endsInHtml href.dropLast = true
    · obtain ⟨hlast, hdrop⟩ := hbreak
      obtain ⟨dir, ending, hdir, h⟩ := endsInHtml_iff.mp hdrop
      obtain ⟨front, rfl⟩ := List.getLast?_eq_some_iff.mp hlast
      rw [List.dropLast_concat] at hdir hdrop
      have hhref : front ++ ['\n'] = dir ++ '.' :: ending ++ ['\n'] := by rw [hdir]
      refine .inr (.inl ⟨dir, ending, h, hhref, fun new => ?_⟩)
      have hlength : (front ++ ['\n']).length - 6 = dir.length := by simp [hdir, h.length]
      have htake : (front ++ ['\n']).take dir.length = dir := by simp [hdir]
      rw [replaceHtml, if_neg hhtml, if_pos (by simp [hlast, hdrop]), hlength, htake]
    · have hother : (decide (href.getLast? = some '\n') && endsInHtml href.dropLast) = false := by
        simpa using hbreak
      refine .inr (.inr ⟨by simpa using hhtml, by simpa using hbreak, fun new => ?_⟩)
      rw [replaceHtml, if_neg hhtml, if_neg (by simp [hother])]

/-! ## The stem of a reference -/

theorem IsHtml.stem {ending : Text} (h : IsHtml ending) (dir : Text) :
    fileStem (dir ++ '.' :: ending) = fileName dir :=
  fileStem_append h.isExtension dir

theorem IsHtml.stem_break {ending : Text} (h : IsHtml ending) (dir : Text) :
    fileStem (dir ++ '.' :: ending ++ ['\n']) = fileName dir := by
  obtain ⟨hdot, hslash, hback⟩ := h.isExtension
  have hbreak : IsExtension (ending ++ ['\n']) := by simp [IsExtension, hdot, hslash, hback]
  rw [List.append_assoc, List.cons_append, fileStem_append hbreak]

/-- With its new ending a reference has the stem that it had. -/
theorem fileStem_replaceHtml (href : Text) : fileStem (replaceHtml ".js" href) = fileStem href := by
  obtain ⟨dir, ending, h, rfl, hnew⟩ | ⟨dir, ending, h, rfl, hnew⟩ | ⟨-, -, hnew⟩ :=
    replaceHtml_cases href
  · have hnewer : fileStem (dir ++ '.' :: ['j', 's']) = fileName dir :=
      fileStem_append (by decide) dir
    rw [hnew, h.stem]
    exact hnewer
  · have hnewer : fileStem (dir ++ '.' :: ['j', 's', '\n']) = fileName dir :=
      fileStem_append (by decide) dir
    rw [hnew, h.stem_break, List.append_assoc]
    exact hnewer
  · rw [hnew]

/-- The name by which a reference is looked up among the shared styles. -/
def lookupName (href : Text) : Text := fileStem (replaceHtml [] href)

/-- Looking the reference up cuts its file name twice: there is a dot in front of its ending
`.html`, or a line feed behind it. -/
def cutTwice (href : Text) : Bool :=
  (endsInHtml href && (fileStem href).contains '.') ||
    (href.getLast? = some '\n' && endsInHtml href.dropLast)

theorem lookupName_cases (href : Text) :
    (cutTwice href = false ∧ lookupName href = fileStem href) ∨
    (cutTwice href = true ∧
      ∃ mark ∈ ['.', '\n'], (lookupName href).count mark ≠ (fileStem href).count mark) := by
  -- Two names are told apart by their dots and line feeds: a binding loses the
  -- dashes and the case of a name, but has as many of these as the name.
  unfold lookupName
  obtain ⟨dir, ending, h, rfl, hnew⟩ | ⟨dir, ending, h, rfl, hnew⟩ | ⟨hhtml, hbreak, hnew⟩ :=
    replaceHtml_cases href
  · have hstem := h.stem dir
    have hends : endsInHtml (dir ++ '.' :: ending) = true :=
      endsInHtml_iff.mpr ⟨dir, ending, rfl, h⟩
    have hlast : ('.' :: ending).getLast? ≠ some '\n' := by
      intro hlast
      have hmem := List.mem_of_getLast? hlast
      simp [h.not_mem (c := '\n') (by decide) (by decide)] at hmem
    have hlookup : fileStem (replaceHtml [] (dir ++ '.' :: ending)) =
        Text.beforeLast '.' (fileName dir) := by
      rw [hnew, List.append_nil, fileStem]
    rw [hlookup, hstem]
    by_cases hdot : '.' ∈ fileName dir
    · have hcount := Text.count_beforeLast hdot
      exact .inr ⟨by simp [cutTwice, hends, hstem, hdot], '.', by simp, by omega⟩
    · exact .inl ⟨by simp [cutTwice, hstem, hdot, hlast], Text.beforeLast_of_not_mem hdot⟩
  · have hends : endsInHtml (dir ++ '.' :: ending) = true :=
      endsInHtml_iff.mpr ⟨dir, ending, rfl, h⟩
    have hlookup : fileStem (dir ++ ['\n']) = Text.beforeLast '.' (fileName dir ++ ['\n']) := by
      rw [fileStem, fileName_append (by decide) (by decide)]
    refine .inr ⟨by simp [cutTwice, hends, -List.append_assoc], ?_⟩
    rw [hnew, List.append_nil, hlookup, h.stem_break]
    by_cases hdot : '.' ∈ fileName dir
    · have hcount : _ = (fileName dir ++ ['\n']).count '.' :=
        Text.count_beforeLast (List.mem_append_left _ hdot)
      rw [List.count_append] at hcount
      exact ⟨'.', by simp, by simp at hcount; omega⟩
    · rw [Text.beforeLast_of_not_mem (by simp [hdot])]
      exact ⟨'\n', by simp, by simp⟩
  · left
    rw [hnew]
    refine ⟨?_, rfl⟩
    simp only [cutTwice, hhtml, Bool.false_and, Bool.false_or]
    simpa using hbreak

/-- A reference to the file of a name without dots is looked up by that name. -/
theorem lookupName_of_fileName {href name : Text} (hfile : fileName href = name ++ ".html")
    (hdot : '.' ∉ name) : fileStem href = name ∧ lookupName href = name := by
  have hstem : fileStem href = name := by
    rw [fileStem, hfile]
    exact Text.beforeLast_append_cons (by decide) name
  refine ⟨hstem, ?_⟩
  rcases lookupName_cases href with ⟨-, hname⟩ | ⟨hcut, -⟩
  · rw [hname, hstem]
  · exfalso
    simp only [cutTwice, hstem, List.contains_eq_mem, hdot, decide_false, Bool.and_false,
      Bool.false_or, Bool.and_eq_true, decide_eq_true_eq] at hcut
    obtain ⟨front, rfl⟩ := List.getLast?_eq_some_iff.mp hcut.1
    rw [fileName_append (by decide) (by decide)] at hfile
    have hlast := congrArg List.getLast? hfile
    simp at hlast

/-! ## The import for a reference -/

/-- A deprecated reference has no import. One that is found among the shared styles is imported
under the name of its stem, and any other one without a name. -/
theorem Options.importFor?_eq (options : Options) (includes : List Text) (href : Text) :
    options.importFor? includes href =
      if options.isDeprecated href then none
      else if includes.contains (lookupName href) then
        some ⟨relative (replaceHtml ".js" href), some (bindingName (fileStem href))⟩
      else some ⟨relative (options.relocate (replaceHtml ".js" href)), none⟩ := by
  simp only [importFor?, importOf?, tag, lookupName, fileStem_replaceHtml]
  rfl

theorem Options.importFor?_named {options : Options} {includes : List Text} {href name : Text}
    {i : Import} (hi : options.importFor? includes href = some i) (hname : i.binding = some name) :
    lookupName href ∈ includes ∧ name = bindingName (fileStem href) := by
  rw [importFor?_eq] at hi
  split at hi
  · cases hi
  · split at hi
    · rename_i hmem
      cases hi
      exact ⟨by simpa using hmem, (Option.some.inj hname).symm⟩
    · cases hi
      cases hname

/-- The name that the statement of an import binds; an empty one is left out. -/
def Import.bound? (i : Import) : Option Text := i.binding.filter (· ≠ [])

/-- The statement names what the import binds, and only its path when it binds nothing. -/
theorem Import.statement_eq (i : Import) :
    i.statement =
      match i.bound? with
      | some name => "import \x7b " ++ name ++ " \x7d from '" ++ i.path ++ "';"
      | none => "import '" ++ i.path ++ "';" := by
  obtain ⟨path, binding⟩ := i
  cases binding with
  | none => rfl
  | some name => cases name <;> rfl

/-- The name that a reference is imported under: its stem as a binding, if it is found among the
shared styles, is not deprecated and has more than dashes in its stem. -/
def Options.importName? (options : Options) (includes : List Text) (href : Text) : Option Text :=
  if !options.isDeprecated href && includes.contains (lookupName href) &&
      bindingName (fileStem href) ≠ [] then
    some (bindingName (fileStem href))
  else none

theorem Options.bound?_importFor? (options : Options) (includes : List Text) (href : Text) :
    (options.importFor? includes href).bind Import.bound? = options.importName? includes href := by
  rw [importFor?_eq, importName?]
  cases options.isDeprecated href with
  | true => rfl
  | false =>
    cases includes.contains (lookupName href) with
    | false => rfl
    | true => cases bindingName (fileStem href) <;> rfl

/-- The names that the imports of a module bind, in the order of the references. -/
theorem Options.bound?_imports (options : Options) (includes hrefs scripts : List Text) :
    (options.imports includes hrefs scripts).filterMap Import.bound? =
      hrefs.filterMap (options.importName? includes) := by
  have hscripts : (scripts.map Import.ofScript).filterMap Import.bound? = [] := by
    rw [List.filterMap_map]
    exact List.filterMap_eq_nil_iff.mpr fun _ _ => rfl
  rw [imports, List.filterMap_append, hscripts, List.append_nil, List.filterMap_filterMap]
  congr 1
  funext href
  exact options.bound?_importFor? includes href

/-- Only a reference that is cut once is looked up by a name with its own binding. -/
theorem bindingName_lookupName {href : Text} :
    bindingName (fileStem href) = bindingName (lookupName href) ↔ cutTwice href = false := by
  rcases lookupName_cases href with ⟨hcut, hname⟩ | ⟨hcut, mark, hmark, hcount⟩
  · simp [hcut, hname]
  · rw [hcut]
    refine ⟨fun h => ?_, nofun⟩
    obtain ⟨hmark, hdash⟩ : Text.IsMark mark ∧ mark ≠ '-' := by
      simp only [List.mem_cons, List.not_mem_nil, or_false] at hmark
      rcases hmark with rfl | rfl <;> decide
    have hkeeps (text : Text) : (text.filter (· ≠ '-')).count mark = text.count mark :=
      List.count_filter (by simpa using hdash)
    have hbindings := congrArg (List.count mark) h
    rw [count_bindingName hmark, count_bindingName hmark, hkeeps, hkeeps] at hbindings
    exact absurd hbindings.symm hcount

/-- The preamble has a placeholder for each shared style, in order. -/
theorem Style.preamble_append (before after : List Text) (name css : Text) :
    Style.preamble ⟨before ++ name :: after, css⟩ =
      before.flatMap (fun other => placeholder (bindingName other)) ++
        placeholder (bindingName name) ++ Style.preamble ⟨after, css⟩ := by
  simp [Style.preamble]

/-- A named import is bound to the stem of its reference. The shared style that the reference was
found under has this name too, and a placeholder for it stands in the preamble, unless the
reference is cut twice; then the style that it was found under has another name. -/
theorem a_named_import_fills_a_placeholder_unless_cut_twice (options : Options)
    (includes : List Text) (href css : Text) (i : Import) (name : Text)
    (hi : options.importFor? includes href = some i) (hname : i.binding = some name) :
    name = bindingName (fileStem href) ∧
    (∃ style ∈ includes, style = lookupName href ∧
      (name = bindingName style ↔ cutTwice href = false)) ∧
    (cutTwice href = false →
      ∃ before style after, includes = before ++ style :: after ∧ name = bindingName style ∧
        Style.preamble ⟨includes, css⟩ =
          before.flatMap (fun other => placeholder (bindingName other)) ++
            placeholder name ++ Style.preamble ⟨after, css⟩) := by
  obtain ⟨hmem, rfl⟩ := Options.importFor?_named hi hname
  refine ⟨rfl, ⟨_, hmem, rfl, bindingName_lookupName⟩, fun hcut => ?_⟩
  obtain ⟨before, after, hsplit⟩ := List.append_of_mem hmem
  have hsame := bindingName_lookupName.mpr hcut
  refine ⟨before, lookupName href, after, hsplit, hsame, ?_⟩
  rw [hsplit, hsame]
  exact Style.preamble_append before after _ css

/-- A name with a dash in a directory with dots, among several shared styles. -/
theorem a_named_import_fills_the_second_placeholder :
    let includes : List Text := ["base", "shared-styles"]
    let href : Text := "../v1.2/shared-styles.HTML"
    let i : Import := ⟨"../v1.2/shared-styles.js", some "sharedStyles"⟩
    ({} : Options).importFor? includes href = some i ∧ cutTwice href = false ∧
      ∃ style ∈ includes, ("sharedStyles" : Text) = bindingName style := by
  intro includes href i
  have hi : ({} : Options).importFor? includes href = some i := by decide
  have hcut : cutTwice href = false := by decide
  obtain ⟨-, ⟨style, hmem, -, hiff⟩, -⟩ :=
    a_named_import_fills_a_placeholder_unless_cut_twice {} includes href [] i "sharedStyles" hi rfl
  exact ⟨hi, hcut, style, hmem, hiff.mpr hcut⟩

/-- A file with a dot in its name is taken for a shared style of another name, and is bound to a
name that no placeholder has. -/
theorem a_dotted_file_is_bound_to_no_placeholder :
    let includes : List Text := ["shared"]
    let href : Text := "x/shared.styles.html"
    ∃ i name, ({} : Options).importFor? includes href = some i ∧ i.binding = some name ∧
      name = "shared.styles".toList ∧ ∀ style ∈ includes, name ≠ bindingName style := by
  intro includes href
  exact ⟨⟨"./x/shared.styles.js", some "shared.styles"⟩, _, by decide, rfl, rfl, by decide⟩

end ImportLift
