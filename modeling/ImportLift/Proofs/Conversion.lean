-- The laws of one conversion. A module is its pieces in a fixed order, each
-- copied as it is. A conversion that fails says why, and of several defects
-- the first in a fixed order decides; cutting the scripts out of a document
-- never fails.
import ImportLift.Conversion
import ImportLift.Proofs.Component
import ImportLift.Proofs.Module

namespace ImportLift.Conversion

/-! ## The pieces of a module -/

theorem pieces_eq_ok {options : Options} {script : Option Text} {html filename : Text}
    {p : Pieces} (h : pieces options script html filename = .ok p) :
    let harvest := Harvest.ofDocument html filename
    ∃ c scripts template,
      component options script filename harvest.inlineScripts = .ok (c, scripts) ∧
      Template.ofDocument harvest.html c.identity = .ok template ∧
      p = ⟨options.frameworkPath (options.libraryRoot harvest.imports),
        options.imports template.styleIncludes harvest.imports harvest.scripts, scripts,
        template.preamble, c, template.markup⟩ := by
  intro harvest
  unfold pieces at h
  cases hc : component options script filename harvest.inlineScripts with
  | error f => simp [harvest, hc, bind, Except.bind] at h
  | ok found =>
    obtain ⟨c, scripts⟩ := found
    cases ht : Template.ofDocument harvest.html c.identity with
    | error f => simp [harvest, hc, ht, bind, Except.bind] at h
    | ok template =>
      simp only [harvest] at hc ht
      simp only [hc, ht, bind, Except.bind, pure, Except.pure, Except.ok.injEq] at h
      exact ⟨c, scripts, template, rfl, ht, h.symm⟩

theorem convert_eq_ok {options : Options} {layout : Layout} {script : Option Text}
    {html filename : Text} {m : Module} (h : convert options layout script html filename = .ok m) :
    ∃ p, pieces options script html filename = .ok p ∧ m = p.assemble layout := by
  cases hp : pieces options script html filename with
  | error f => simp [convert, hp, Except.map] at h
  | ok p =>
    simp only [convert, hp, Except.map, Except.ok.injEq] at h
    exact ⟨p, rfl, h.symm⟩

theorem component_of_script {options : Options} {script filename : Text} {inline : List Text}
    {c : Component} {scripts : List Text}
    (h : component options (some script) filename inline = .ok (c, scripts)) :
    componentOf options script = .ok c ∧ scripts = inline := by
  simp only [component] at h
  split at h
  · cases h
  · cases hc : componentOf options script with
    | error f => simp [hc, Except.map] at h
    | ok c' =>
      simp only [hc, Except.map, Except.ok.injEq, Prod.mk.injEq] at h
      exact ⟨by rw [h.1], h.2.symm⟩

/-- A module is put together from the whole script and the pieces of its document. The
script is cut where its first accessor ends; the part before the cut is normalised, the
template accessor goes in at the cut, and the part behind it is copied. Every other piece
has its own place and is copied too, whatever it holds. -/
theorem a_module_is_its_pieces_in_order (options : Options) (script html filename : Text)
    (m : Module) (h : convert options .ofModules (some script) html filename = .ok m) :
    let harvest := Harvest.ofDocument html filename
    ∃ found before head suffix template,
      Rule.accessor.pattern.find? script = some found ∧
      found.kept? .identity = some m.identity ∧
      script = head ++ suffix ∧ head = before ++ found.text ∧ before.length = found.start ∧
      Template.ofDocument harvest.html m.identity = .ok template ∧
      m.text =
        "// @ts-check" ++ ['\n'] ++
        "import \x7b PolymerElement, html \x7d from '" ++
          options.frameworkPath (options.libraryRoot harvest.imports) ++ "';" ++ ['\n'] ++
        ((options.imports template.styleIncludes harvest.imports harvest.scripts).flatMap
          fun i => i.statement ++ ['\n']) ++ ['\n'] ++
        (harvest.inlineScripts.flatMap fun inline => inline ++ ['\n', '\n']) ++
        "const styleTemplate = html`" ++ template.preamble ++ "`;" ++ ['\n', '\n'] ++
        Component.normalise options.legacyBaseClass options.modernBaseClass head ++
        templateAccessor
          ((Text.afterLast '\n' before).takeWhile fun ch => ch = ' ' || ch = '\t')
          template.markup ++
        suffix := by
  intro harvest
  cases hp : pieces options (some script) html filename with
  | error f => simp [convert, hp, Except.map] at h
  | ok p =>
    simp only [convert, hp, Except.map, Except.ok.injEq] at h
    obtain ⟨c, scripts, template, hc, ht, rfl⟩ := pieces_eq_ok hp
    obtain ⟨hof, rfl⟩ := component_of_script hc
    obtain ⟨found, before, hfind, hid, hlen, hbefore, hhead, hsplit, hnormal⟩ :=
      Component.ofScript_eq_ok hof
    rw [Pieces.assemble_ofModules] at h
    subst h
    refine ⟨found, before, c.head, c.after, template, hfind, hid, hsplit, hhead, hlen, ht, ?_⟩
    rw [← hnormal, ← hbefore]
    rfl

/-- Layout marks in the script and in the document are copied like any other text. -/
theorem a_module_copies_the_marks_of_layouts :
    let script : Text := "class A\x7bstatic get is()\x7breturn 'a-b'\x7d \x7b\x7b suffix \x7d\x7d\x7d"
    let html : Text := "<script>\x7b% endfor %\x7d</script>" ++
      "<dom-module id='a-b'><template>\x7b\x7b prefix \x7d\x7d</template></dom-module>"
    ∃ m head suffix, convert {} .ofModules (some script) html [] = .ok m ∧
      m.identity = "a-b".toList ∧ script = head ++ suffix ∧ suffix <:+ m.text := by
  intro script html
  have hok : ((convert {} .ofModules (some script) html []).toOption.map Module.identity) =
      some "a-b".toList := by decide +kernel
  obtain ⟨m, hm, hid⟩ := Option.map_eq_some_iff.mp hok
  have hm : convert {} .ofModules (some script) html [] = .ok m := by
    revert hm
    cases convert {} .ofModules (some script) html [] <;> simp [Except.toOption]
  obtain ⟨_, _, head, suffix, _, _, _, hsplit, _, _, _, htext⟩ :=
    a_module_is_its_pieces_in_order {} script html [] m hm
  exact ⟨m, head, suffix, hm, hid, hsplit, htext ▸ List.suffix_append _ _⟩

/-! ## Why a conversion fails -/

/-- The kind of the failure, if there is one. -/
def reason? {α : Type} : Except Failure α → Option FailureKind
  | .ok _ => none
  | .error f => some f.kind

theorem reason?_map {α β : Type} (f : α → β) (r : Except Failure α) :
    reason? (r.map f) = reason? r := by
  cases r <;> rfl

/-- The text that the class is taken from: the script unless it is blank and, when there is
no script, the first inline script that declares a name or else the first of all. -/
def classText : Option Text → List Text → Option Text
  | some script, _ => if script.allBlank then none else some script
  | none, inline => (inline.find? Component.declares).or inline.head?

/-- The name of the class, or why there is none. -/
def className (script : Option Text) (inline : List Text) : Except FailureKind Text :=
  match classText script inline with
  | none => .error .noScript
  | some text => Component.nameIn text

theorem componentOf_name (options : Options) (script : Text) (scripts : List Text) :
    (((componentOf options script).map (·, scripts)).map (·.1.identity)).mapError Failure.kind =
      Component.nameIn script := by
  rw [← Component.ofScript_name options.legacyBaseClass options.modernBaseClass script, componentOf]
  cases Component.ofScript options.legacyBaseClass options.modernBaseClass script <;> rfl

theorem pickComponent_name (options : Options) (inline : List Text) :
    ((pickComponent options inline).map (·.1.identity)).mapError Failure.kind =
      className none inline := by
  cases inline with
  | nil => rfl
  | cons first rest =>
    have hclass : classText none (first :: rest) =
        ((first :: rest).find? Component.declares).or (some first) := rfl
    rw [className, hclass, List.find?_eq_bind_findIdx?_getElem?]
    unfold pickComponent
    cases hi : (first :: rest).findIdx? Component.declares with
    | none => exact componentOf_name options first _
    | some i =>
      obtain ⟨hlt, _, _⟩ := List.findIdx?_eq_some_iff_getElem.mp hi
      simp only [Option.bind_some, List.getElem?_eq_getElem hlt, Option.some_or,
        List.getD_eq_getElem?_getD, Option.getD_some]
      rw [componentOf_name, Component.nameIn_break]

/-- A component is found exactly where the class has a name. -/
theorem component_name (options : Options) (script : Option Text) (filename : Text)
    (inline : List Text) :
    ((component options script filename inline).map (·.1.identity)).mapError Failure.kind =
      className script inline := by
  cases script with
  | none => exact pickComponent_name options inline
  | some script =>
    simp only [component, className, classText]
    split
    · rfl
    · exact componentOf_name options script inline

/-- The class is looked for first, then the template of its name. -/
theorem convert_reason (options : Options) (layout : Layout) (script : Option Text)
    (html filename : Text) :
    let harvest := Harvest.ofDocument html filename
    reason? (convert options layout script html filename) =
      match className script harvest.inlineScripts with
      | .error kind => some kind
      | .ok name => reason? (Template.bodyOf harvest.html name) := by
  intro harvest
  rw [convert, reason?_map, pieces, ← component_name options script filename]
  cases component options script filename harvest.inlineScripts with
  | error f => rfl
  | ok found =>
    obtain ⟨c, scripts⟩ := found
    have hname : (((Except.ok (c, scripts) : Except Failure (Component × List Text)).map
        (·.1.identity)).mapError Failure.kind) = .ok c.identity := rfl
    rw [hname]
    simp only [bind, Except.bind, harvest]
    rw [← reason?_map (Template.ofBody c.identity), ← Template.ofDocument]
    cases Template.ofDocument (Harvest.ofDocument html filename).html c.identity <;> rfl

/-- What is wrong with the template of a name among module elements: the first element of the
name decides. -/
def templateDefect (modules : List Match) (name : Text) : Option FailureKind :=
  match modules.find? (·.kept? .id = some name) with
  | none => some .noTemplate
  | some m => if (m.filled? .template).isNone then some .blankTemplate else none

/-- What is wrong with a class text, or else with the template of its class. -/
def classDefect (modules : List Match) (text : Text) : Option FailureKind :=
  match Rule.accessor.pattern.find? text with
  | none => some .noIdentity
  | some found =>
    match found.kept? .identity with
    | none => some .unreadIdentity
    | some name => templateDefect modules name

theorem templateDefect_mem (modules : List Match) (name : Text) :
    templateDefect modules name ∈ [none, some .noTemplate, some .blankTemplate] := by
  unfold templateDefect
  split
  · simp
  · split <;> simp

theorem classDefect_mem (modules : List Match) (text : Text) :
    classDefect modules text ∈
      [none, some .noIdentity, some .unreadIdentity, some .noTemplate, some .blankTemplate] := by
  unfold classDefect
  split
  · simp
  · split
    · simp
    · rename_i name _
      exact (show [none, some .noTemplate, some .blankTemplate] ⊆ _ by decide)
        (templateDefect_mem modules name)

theorem templateDefect_eq_noTemplate {modules : List Match} {name : Text} :
    templateDefect modules name = some .noTemplate ↔ ∀ m ∈ modules, m.kept? .id ≠ some name := by
  have hnone : modules.find? (·.kept? .id = some name) = none ↔
      ∀ m ∈ modules, m.kept? .id ≠ some name := by simp
  rw [← hnone, templateDefect]
  cases modules.find? (·.kept? .id = some name) with
  | none => simp
  | some m =>
    simp only
    split <;> simp

theorem classDefect_eq_noIdentity {modules : List Match} {text : Text} :
    classDefect modules text = some .noIdentity ↔ Rule.accessor.pattern.find? text = none := by
  unfold classDefect
  cases Rule.accessor.pattern.find? text with
  | none => simp
  | some found =>
    simp only
    split
    · simp
    · rename_i name _
      have hmem := templateDefect_mem modules name
      refine ⟨fun h => ?_, nofun⟩
      rw [h] at hmem
      simp at hmem

theorem classDefect_eq_unreadIdentity {modules : List Match} {text : Text} {found : Match}
    (hfound : Rule.accessor.pattern.find? text = some found) :
    classDefect modules text = some .unreadIdentity ↔ found.kept? .identity = none := by
  simp only [classDefect, hfound]
  cases found.kept? .identity with
  | none => simp
  | some name =>
    have hmem := templateDefect_mem modules name
    refine ⟨fun h => ?_, nofun⟩
    rw [show templateDefect modules name = _ from h] at hmem
    simp at hmem

theorem bodyOf_reason {html name : Text} (hname : name.allBlank = false) :
    reason? (Template.bodyOf html name) =
      templateDefect (Rule.templateBlock.pattern.findAll html) name := by
  have hsame : (fun m : Match => decide (m.filled? .id = some name)) =
      fun m => decide (m.kept? .id = some name) := by
    funext m
    simp [Match.filled?_eq_some, hname]
  unfold Template.bodyOf templateDefect
  rw [hsame]
  cases (Rule.templateBlock.pattern.findAll html).find? (·.kept? .id = some name) with
  | none => rfl
  | some m => cases hb : m.filled? .template <;> simp [hb, reason?]

theorem templateBlock_keeps_template {html : Text} {m : Match}
    (h : m ∈ Rule.templateBlock.pattern.findAll html) : ∃ body, m.kept? .template = some body :=
  (Pattern.mem_findAll h).kept?_of_alwaysKeeps (by decide)

/-- No script is harvested exactly when every script of the document is blank. -/
theorem bodies_eq_nil {found : List Match} :
    Harvest.bodies found = [] ↔
      ∀ m ∈ found, ∀ body, m.kept? .body = some body → body.allBlank := by
  simp only [Harvest.bodies, List.map_eq_nil_iff, List.filterMap_eq_nil_iff, Match.filled?_eq_none]

theorem classText_eq_none {script : Option Text} {inline : List Text} :
    classText script inline = none ↔
      (∃ text, script = some text ∧ text.allBlank) ∨ (script = none ∧ inline = []) := by
  cases script with
  | none => cases inline <;> simp [classText]
  | some text => simp [classText]

/-- The reason of a conversion, read off the class text and the document. -/
theorem convert_verdict (options : Options) (layout : Layout) (script : Option Text)
    (html filename : Text) :
    let harvest := Harvest.ofDocument html filename
    reason? (convert options layout script html filename) =
      match classText script harvest.inlineScripts with
      | none => some .noScript
      | some text => classDefect (Rule.templateBlock.pattern.findAll harvest.html) text := by
  intro harvest
  rw [convert_reason, className]
  cases classText script harvest.inlineScripts with
  | none => rfl
  | some text =>
    simp only [Component.nameIn, classDefect]
    cases hfound : Rule.accessor.pattern.find? text with
    | none => rfl
    | some found =>
      simp only
      cases hname : found.kept? .identity with
      | none => rfl
      | some name => exact bodyOf_reason (Component.identity_not_blank hfound hname)

theorem reason?_mem (options : Options) (layout : Layout) (script : Option Text)
    (html filename : Text) :
    reason? (convert options layout script html filename) ∈
      [none, some .noScript, some .noIdentity, some .unreadIdentity, some .noTemplate,
        some .blankTemplate] := by
  rw [convert_verdict]
  split
  · simp
  · rename_i text _
    exact (show [none, some .noIdentity, some .unreadIdentity, some .noTemplate,
      some .blankTemplate] ⊆ _ by decide) (classDefect_mem _ text)

theorem kind_ne_notWritten {options : Options} {layout : Layout} {script : Option Text}
    {html filename : Text} {f : Failure}
    (h : convert options layout script html filename = .error f) : f.kind ≠ .notWritten := by
  intro hkind
  have hmem := reason?_mem options layout script html filename
  simp [h, reason?, hkind] at hmem

/-- A conversion always gives a module or a reason, and the first defect decides: no text to
take the class from, no accessor in it, no name in its first accessor, no module element of
that name, a blank template in the first such element. -/
theorem the_first_defect_decides (options : Options) (script : Option Text)
    (html filename : Text) :
    let sourced := Rule.sourcedScript.pattern.findAll html
    let unsourced := Harvest.without html sourced
    let inline := Rule.inlineScript.pattern.findAll unsourced
    let harvest := Harvest.ofDocument html filename
    let modules := Rule.templateBlock.pattern.findAll harvest.html
    let result := convert options .ofModules script html filename
    -- Cutting the scripts out never fails.
    Span.remove html (sourced.map Harvest.spanOf) = .ok unsourced ∧
    Span.remove unsourced (inline.map Harvest.spanOf) = .ok harvest.html ∧
    -- Either a module or a reason is given, and never one of the two reasons of a migration.
    ((∃ m, result = .ok m) ↔ reason? result = none) ∧
    reason? result ≠ some .noCompanion ∧ reason? result ≠ some .notWritten ∧
    -- The defects, the first one first.
    (reason? result = some .noScript ↔ classText script harvest.inlineScripts = none) ∧
    (classText script harvest.inlineScripts = none ↔
      (∃ text, script = some text ∧ text.allBlank) ∨
        (script = none ∧ ∀ m ∈ inline, ∀ body, m.kept? .body = some body → body.allBlank)) ∧
    ∀ text, classText script harvest.inlineScripts = some text →
      (reason? result = some .noIdentity ↔ Rule.accessor.pattern.find? text = none) ∧
      ∀ found, Rule.accessor.pattern.find? text = some found →
        (reason? result = some .unreadIdentity ↔ found.kept? .identity = none) ∧
        ∀ name, found.kept? .identity = some name →
          (reason? result = some .noTemplate ↔ ∀ m ∈ modules, m.kept? .id ≠ some name) ∧
          ∀ first, modules.find? (·.kept? .id = some name) = some first →
            ∃ body, first.kept? .template = some body ∧
              (reason? result = some .blankTemplate ↔ body.allBlank) ∧
              ((∃ m, result = .ok m) ↔ ¬ body.allBlank) := by
  intro sourced unsourced inline harvest modules result
  have hkinds := reason?_mem options .ofModules script html filename
  have hok : (∃ m, result = .ok m) ↔ reason? result = none := by
    cases result <;> simp [reason?]
  have hverdict : reason? result = _ := convert_verdict options .ofModules script html filename
  refine ⟨Harvest.remove_findAll _ _, Harvest.remove_findAll _ _, hok, ?_, ?_, ?_, ?_, ?_⟩
  · intro h
    rw [h] at hkinds
    simp at hkinds
  · intro h
    rw [h] at hkinds
    simp at hkinds
  · rw [hverdict]
    cases classText script harvest.inlineScripts with
    | none => simp
    | some text =>
      have hmem := classDefect_mem modules text
      refine ⟨fun h => ?_, nofun⟩
      rw [show classDefect modules text = some .noScript from h] at hmem
      simp at hmem
  · rw [classText_eq_none, ← bodies_eq_nil]
    rfl
  intro text htext
  have hverdict : reason? result = classDefect modules text := by
    rw [hverdict, htext]
  refine ⟨?_, fun found hfound => ?_⟩
  · rw [hverdict]
    exact classDefect_eq_noIdentity
  refine ⟨?_, fun name hname => ?_⟩
  · rw [hverdict]
    exact classDefect_eq_unreadIdentity hfound
  have hverdict : reason? result = templateDefect modules name := by
    rw [hverdict, classDefect, hfound]
    simp only [hname]
  refine ⟨?_, fun first hfirst => ?_⟩
  · rw [hverdict]
    exact templateDefect_eq_noTemplate
  obtain ⟨body, hbody⟩ := templateBlock_keeps_template (List.mem_of_find?_eq_some hfirst)
  have hverdict : reason? result = if body.allBlank then some .blankTemplate else none := by
    rw [hverdict, templateDefect, hfirst]
    cases hblank : body.allBlank <;> simp [Match.filled?, hbody, hblank]
  refine ⟨body, hbody, ?_, ?_⟩
  · rw [hverdict]
    cases body.allBlank <;> simp
  · rw [hok, hverdict]
    cases body.allBlank <;> simp

end ImportLift.Conversion
