-- A component without a script file. Its class is the first script of the
-- document that declares a name, and every other script goes before the class
-- as it was. The class text is taken with a line feed behind it, which moves
-- nothing in it. Where no script declares a name, the first one says why.
import ImportLift.Proofs.Conversion

namespace ImportLift

namespace Component

/-- A text that declares a name is split at the same place with a line feed behind it. -/
theorem ofScript_of_declares (oldBase newBase : Text) {script : Text} (h : declares script = true) :
    ∃ c whole, ofScript oldBase newBase script = .ok c ∧
      ofScript oldBase newBase (script ++ ['\n']) = .ok whole ∧ whole.text = script ++ ['\n'] ∧
      whole.identity = c.identity ∧ whole.start = c.start ∧ whole.stop = c.stop := by
  unfold declares at h
  unfold ofScript
  rw [find?_break]
  cases hfound : Rule.accessor.pattern.find? script with
  | none => simp [hfound] at h
  | some found =>
    simp only [hfound] at h
    obtain ⟨identity, hidentity⟩ := Option.isSome_iff_exists.mp h
    simp only [hidentity]
    exact ⟨_, _, rfl, rfl, rfl, rfl, rfl, rfl⟩

/-- A text that declares no name has no accessor, or one that returns no name. -/
theorem ofScript_of_not_declares (oldBase newBase : Text) {script : Text}
    (h : declares script = false) :
    ∃ f, ofScript oldBase newBase script = .error f ∧
      (f = ⟨.noIdentity, none⟩ ∨ ∃ found, Rule.accessor.pattern.find? script = some found ∧
        f = ⟨.unreadIdentity, some found.text.trim⟩) := by
  unfold declares at h
  unfold ofScript
  cases hfound : Rule.accessor.pattern.find? script with
  | none => exact ⟨_, rfl, .inl rfl⟩
  | some found =>
    simp only [hfound] at h
    have hidentity : found.filled? .identity = none := by simpa using h
    simp only [hidentity]
    exact ⟨_, rfl, .inr ⟨found, rfl, rfl⟩⟩

end Component

namespace Conversion

/-- The first script that declares a name is taken out, and the others stay in their order. -/
theorem pickComponent_append (options : Options) {before after : List Text} {script : Text}
    (hbefore : ∀ other ∈ before, Component.declares other = false)
    (hscript : Component.declares script = true) :
    pickComponent options (before ++ script :: after) =
      (componentOf options (script ++ ['\n'])).map (·, before ++ after) := by
  have hindex : (before ++ script :: after).findIdx? Component.declares = some before.length := by
    rw [List.findIdx?_append, List.findIdx?_eq_none_iff.mpr hbefore]
    simp [List.findIdx?_cons, hscript]
  have hpick : (before ++ script :: after).getD before.length [] = script := by simp
  have hrest : (before ++ script :: after).eraseIdx before.length = before ++ after := by
    simp [List.eraseIdx_append_of_length_le]
  unfold pickComponent
  rw [hindex]
  cases hscripts : before ++ script :: after with
  | nil => simp at hscripts
  | cons first rest =>
    rw [hscripts] at hpick hrest
    simp only [hpick, hrest]

/-- Where no script declares a name, the first one is looked at and fails. -/
theorem pickComponent_of_none (options : Options) {first : Text} {rest : List Text}
    (h : ∀ script ∈ first :: rest, Component.declares script = false) :
    ∃ f, componentOf options first = .error f ∧ pickComponent options (first :: rest) = .error f ∧
      (f = ⟨.noIdentity, none⟩ ∨ ∃ found, Rule.accessor.pattern.find? first = some found ∧
        f = ⟨.unreadIdentity, some found.text.trim⟩) := by
  obtain ⟨f, hf, hkind⟩ := Component.ofScript_of_not_declares options.legacyBaseClass
    options.modernBaseClass (h first List.mem_cons_self)
  refine ⟨f, hf, ?_, hkind⟩
  unfold pickComponent
  rw [List.findIdx?_eq_none_iff.mpr h]
  simp only [componentOf, hf, Except.map]

theorem pieces_of_error {options : Options} {html filename : Text} {f : Failure}
    (h : pickComponent options (Harvest.ofDocument html filename).inlineScripts = .error f) :
    pieces options none html filename = .error f := by
  simp only [pieces, component, h]
  rfl

/-- Without a script file, the class is the first script of the document that declares a name.
With the line feed put behind it, it is split at the same place under the same name; and a module
that comes of it has all other scripts of the document, each once and in their order. When there
are scripts and none of them declares a name, the conversion fails, for the reason that the first
script gives. -/
theorem an_inline_class_leaves_the_other_scripts (options : Options) (html filename : Text) :
    let scripts := (Harvest.ofDocument html filename).inlineScripts
    (∀ before script after, scripts = before ++ script :: after →
      (∀ other ∈ before, Component.declares other = false) → Component.declares script = true →
      ∃ c whole, componentOf options script = .ok c ∧
        componentOf options (script ++ ['\n']) = .ok whole ∧
        whole.identity = c.identity ∧ whole.start = c.start ∧ whole.stop = c.stop ∧
        ∀ layout m, convert options layout none html filename = .ok m →
          ∃ p, pieces options none html filename = .ok p ∧ m = p.assemble layout ∧
            p.component = whole ∧ p.component.text = script ++ ['\n'] ∧
            p.scripts = before ++ after) ∧
    (∀ first rest, scripts = first :: rest →
      (∀ script ∈ scripts, Component.declares script = false) →
      ∃ f, componentOf options first = .error f ∧ pickComponent options scripts = .error f ∧
        (f = ⟨.noIdentity, none⟩ ∨ ∃ found, Rule.accessor.pattern.find? first = some found ∧
          f = ⟨.unreadIdentity, some found.text.trim⟩) ∧
        ∀ layout, convert options layout none html filename = .error f) := by
  intro scripts
  constructor
  · intro before script after hscripts hbefore hscript
    obtain ⟨c, whole, hc, hwhole, htext, hidentity, hstart, hstop⟩ :=
      Component.ofScript_of_declares options.legacyBaseClass options.modernBaseClass hscript
    refine ⟨c, whole, hc, hwhole, hidentity, hstart, hstop, fun layout m hm => ?_⟩
    obtain ⟨p, hp, hm⟩ := convert_eq_ok hm
    obtain ⟨picked, others, template, hpicked, -, rfl⟩ := pieces_eq_ok hp
    have hpick : pickComponent options scripts = .ok (whole, before ++ after) := by
      rw [hscripts, pickComponent_append options hbefore hscript, componentOf, hwhole, Except.map]
    obtain ⟨rfl, rfl⟩ := Prod.mk.inj (Except.ok.inj (hpick.symm.trans hpicked))
    exact ⟨_, hp, hm, rfl, htext, rfl⟩
  · intro first rest hscripts hnone
    rw [hscripts] at hnone ⊢
    obtain ⟨f, hf, hpick, hkind⟩ := pickComponent_of_none options hnone
    refine ⟨f, hf, hpick, hkind, fun layout => ?_⟩
    rw [convert, pieces_of_error (hscripts ▸ hpick), Except.map]

/-- Of two classes in a document the first is taken, and the second stays among the scripts. -/
theorem the_first_of_two_inline_classes_is_taken :
    let first : Text := "class A\x7b" ++ "static get is()" ++ "\x7breturn 'a-b'\x7d" ++ "\x7d"
    let second : Text := "class B\x7b" ++ "static get is()" ++ "\x7breturn 'c-d'\x7d" ++ "\x7d"
    let html : Text := "<script>x</script>" ++ "<script>" ++ first ++ "</script>" ++ "<script>" ++
      second ++ "</script>" ++ "<dom-module id='a-b'>" ++ "<template>y</template>" ++
      "</dom-module>"
    ∃ m p, convert {} .ofModules none html [] = .ok m ∧ pieces {} none html [] = .ok p ∧
      p.component.text = first ++ ['\n'] ∧ p.scripts = [['x'], second] := by
  intro first second html
  have hscripts : (Harvest.ofDocument html []).inlineScripts = [['x']] ++ first :: [second] := by
    decide +kernel
  have hok : (convert {} .ofModules none html []).toOption.isSome = true := by
    decide +kernel
  cases hm : convert {} .ofModules none html [] with
  | error f =>
    rw [hm] at hok
    cases hok
  | ok m =>
    obtain ⟨c, whole, -, -, -, -, -, hmodule⟩ :=
      (an_inline_class_leaves_the_other_scripts {} html []).1 _ _ _ hscripts
        (by decide +kernel) (by decide +kernel)
    obtain ⟨p, hp, -, -, htext, hothers⟩ := hmodule .ofModules m hm
    exact ⟨m, p, rfl, hp, htext, hothers⟩

end Conversion

end ImportLift
