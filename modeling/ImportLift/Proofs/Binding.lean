-- Names of bindings. The name of a binding is a dashed name without its dashes,
-- so it has the marks of that name and no others; it is empty only for a name
-- of dashes, and never starts with a capital.
import ImportLift.Template
import ImportLift.Proofs.Text.Mark

namespace ImportLift

/-- The parts of a dashed name, as its binding has them. -/
theorem bindingName_cases (name : Text) :
    ((∀ c ∈ name, c = '-') ∧ bindingName name = []) ∨
      ∃ (first : Text) (others : List Text), first ≠ [] ∧
        first ++ others.flatten = name.filter (· ≠ '-') ∧
        bindingName name = Text.lower first ++
          others.flatMap fun part => (part.take 1).flatMap Text.upperOne ++ part.drop 1 := by
  have hflat : ((Text.cutAt '-' name).filter fun part => !part.isEmpty).flatten =
      name.filter (· ≠ '-') := by
    rw [List.flatten_filter_not_isEmpty, Text.flatten_cutAt]
  unfold bindingName
  split
  · rename_i hparts
    left
    rw [hparts, List.flatten_nil, eq_comm, List.filter_eq_nil_iff] at hflat
    refine ⟨fun c hc => ?_, rfl⟩
    simpa using hflat c hc
  · rename_i first others hparts
    right
    have hfirst : first ∈ (Text.cutAt '-' name).filter fun part => !part.isEmpty := by
      rw [hparts]
      exact List.mem_cons_self
    rw [hparts, List.flatten_cons] at hflat
    refine ⟨first, others, ?_, hflat, rfl⟩
    simpa using (List.mem_filter.mp hfirst).2

theorem bindingName_eq_nil {name : Text} : bindingName name = [] ↔ ∀ c ∈ name, c = '-' := by
  rcases bindingName_cases name with ⟨hdashes, hnil⟩ | ⟨first, others, hfirst, hparts, hname⟩
  · exact ⟨fun _ => hdashes, fun _ => hnil⟩
  · rw [hname]
    constructor
    · intro h
      exact absurd (List.append_eq_nil_iff.mp h).1 (Text.lowerFrom_ne_nil hfirst false)
    · intro hdashes
      rw [List.filter_eq_nil_iff.mpr (by simpa using hdashes)] at hparts
      exact absurd (List.append_eq_nil_iff.mp hparts).1 hfirst

/-- A binding has the marks of its name, dashes apart, and no others. -/
theorem count_bindingName {mark : Char} (hmark : Text.IsMark mark) (name : Text) :
    (bindingName name).count mark = (name.filter (· ≠ '-')).count mark := by
  have hpart (part : Text) :
      ((part.take 1).flatMap Text.upperOne ++ part.drop 1).count mark = part.count mark := by
    cases part with
    | nil => rfl
    | cons c rest =>
      have hfirst := Text.count_image hmark (Text.upperOne_cases c)
      simp [hfirst, List.count_cons, Nat.add_comm]
  rcases bindingName_cases name with ⟨hdashes, hnil⟩ | ⟨first, others, -, hparts, hname⟩
  · rw [hnil, List.filter_eq_nil_iff.mpr (by simpa using hdashes)]
  · rw [hname, ← hparts, List.count_append, List.count_append, Text.lower,
      Text.count_lowerFrom hmark, List.count_flatMap, List.count_flatten]
    simp only [Function.comp_def, hpart]

theorem mem_of_bindingName {mark : Char} (hmark : Text.IsMark mark) {name : Text}
    (h : mark ∈ bindingName name) : mark ∈ name := by
  rw [← List.count_pos_iff, count_bindingName hmark, List.count_pos_iff] at h
  exact (List.mem_filter.mp h).1

/-- No binding starts with a capital. -/
theorem head?_bindingName {name : Text} {c : Char} (h : (bindingName name).head? = some c) :
    c.isUpper = false := by
  rcases bindingName_cases name with ⟨-, hnil⟩ | ⟨first, others, hfirst, -, hname⟩
  · rw [hnil] at h
    cases h
  · obtain ⟨d, rest, hlower⟩ := List.exists_cons_of_ne_nil (Text.lowerFrom_ne_nil hfirst false)
    have hd : d ∈ Text.lowerFrom false first := hlower ▸ List.mem_cons_self
    rw [hname, Text.lower, hlower, List.cons_append, List.head?_cons, Option.some.injEq] at h
    exact h ▸ Text.not_isUpper_of_lowerFrom hd

end ImportLift
