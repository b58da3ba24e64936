-- The steps between two lists of lines. Whatever run is found at a turn, it
-- stands in both lists, so the steps take all the old lines and give all the
-- new ones. Between equal lists there is one step, which keeps every line.
import ImportLift.Diff.Edit

namespace ImportLift.Diff

/-! ## Common runs -/

/-- The run stands in both lists, at the places that it names. -/
def Run.IsCommon (r : Run) (as bs : List Text) : Prop :=
  ∃ front run back front' back', as = front ++ run ++ back ∧ bs = front' ++ run ++ back' ∧
    front.length = r.old ∧ front'.length = r.new ∧ run.length = r.size

/-- The lines of a common run are the same in both lists. -/
theorem Run.IsCommon.take_drop {r : Run} {as bs : List Text} (h : r.IsCommon as bs) :
    (as.drop r.old).take r.size = (bs.drop r.new).take r.size := by
  obtain ⟨old, new, size⟩ := r
  obtain ⟨front, run, back, front', back', rfl, rfl, rfl, rfl, rfl⟩ := h
  simp only [List.append_assoc, List.drop_left, List.take_left]

theorem exists_common (ok : Text → Bool) (as bs : List Text) :
    ∃ run back back', as = run ++ back ∧ bs = run ++ back' ∧
      run.length = commonLength ok as bs := by
  induction as generalizing bs with
  | nil => exact ⟨[], [], bs, rfl, rfl, by simp [commonLength]⟩
  | cons a as ih =>
    cases bs with
    | nil => exact ⟨[], a :: as, [], rfl, rfl, rfl⟩
    | cons b bs =>
      rw [commonLength]
      split
      · rename_i hsame
        rw [Bool.and_eq_true, decide_eq_true_eq] at hsame
        obtain rfl : a = b := hsame.1
        obtain ⟨run, back, back', rfl, rfl, hlength⟩ := ih bs
        exact ⟨a :: run, back, back', rfl, rfl, by rw [List.length_cons, hlength]⟩
      · exact ⟨[], a :: as, b :: bs, rfl, rfl, rfl⟩

theorem Run.size_better (a b : Run) : (a.better b).size = max a.size b.size := by
  unfold better
  split <;> omega

theorem Run.better_cases (a b : Run) : a.better b = a ∨ a.better b = b := by
  unfold better
  split
  · exact .inr rfl
  · exact .inl rfl

section

variable (ok : Text → Bool) {as bs : List Text} {best r : Run}

theorem isCommon_bestInNew (front front' : List Text)
    (h : best.IsCommon (front ++ as) (front' ++ bs)) :
    (bestInNew ok front.length as front'.length best bs).IsCommon (front ++ as) (front' ++ bs) := by
  induction bs generalizing front' best with
  | nil => exact h
  | cons b bs ih =>
    have hfront : front' ++ b :: bs = (front' ++ [b]) ++ bs := by simp
    have hlength : front'.length + 1 = (front' ++ [b]).length := by simp
    rw [bestInNew, hlength, hfront]
    apply ih
    rw [← hfront]
    rcases Run.better_cases best ⟨front.length, front'.length, commonLength ok as (b :: bs)⟩ with
      hbest | hfound
    · rwa [hbest]
    · rw [hfound]
      obtain ⟨run, back, back', has, hbs, hrun⟩ := exists_common ok as (b :: bs)
      refine ⟨front, run, back, front', back', ?_, ?_, rfl, rfl, hrun⟩
      · rw [List.append_assoc, ← has]
      · rw [List.append_assoc, ← hbs]

theorem isCommon_bestRun (front : List Text) (h : best.IsCommon (front ++ as) bs) :
    (bestRun ok bs front.length best as).IsCommon (front ++ as) bs := by
  induction as generalizing front best with
  | nil => exact h
  | cons a as ih =>
    have hfront : front ++ a :: as = (front ++ [a]) ++ as := by simp
    have hlength : front.length + 1 = (front ++ [a]).length := by simp
    rw [bestRun, hlength, hfront]
    apply ih
    rw [← hfront]
    exact isCommon_bestInNew ok front [] h

/-- How far a run grows, by the parts of both lists about it. -/
theorem Run.grow_eq (front run back front' back' : List Text) :
    Run.grow (front ++ run ++ back) (front' ++ run ++ back')
        ⟨front.length, front'.length, run.length⟩ =
      let before := commonLength (fun _ => true) front.reverse front'.reverse
      let ahead := commonLength (fun _ => true) back back'
      ⟨front.length - before, front'.length - before, before + run.length + ahead⟩ := by
  have hdrop (front back : List Text) :
      (front ++ run ++ back).drop (front.length + run.length) = back := by
    rw [← List.length_append, List.drop_left]
  have htake (front back : List Text) : (front ++ run ++ back).take front.length = front := by
    rw [List.append_assoc, List.take_left]
  simp only [grow, hdrop, htake]

/-- A run stays common when it grows over equal lines. -/
theorem Run.IsCommon.grow (h : r.IsCommon as bs) : (r.grow as bs).IsCommon as bs := by
  obtain ⟨old, new, size⟩ := r
  obtain ⟨front, run, back, front', back', rfl, rfl, rfl, rfl, rfl⟩ := h
  rw [Run.grow_eq]
  obtain ⟨ahead, after, after', rfl, rfl, hahead⟩ := exists_common (fun _ => true) back back'
  obtain ⟨behind, before, before', hfront, hfront', hbehind⟩ :=
    exists_common (fun _ => true) front.reverse front'.reverse
  have hturned : front = before.reverse ++ behind.reverse := by
    rw [← List.reverse_append, ← hfront, List.reverse_reverse]
  have hturned' : front' = before'.reverse ++ behind.reverse := by
    rw [← List.reverse_append, ← hfront', List.reverse_reverse]
  have hlength := congrArg List.length hturned
  have hlength' := congrArg List.length hturned'
  rw [List.length_append, List.length_reverse, List.length_reverse] at hlength hlength'
  dsimp only
  rw [← hbehind, ← hahead]
  refine ⟨before.reverse, behind.reverse ++ run ++ ahead, after, before'.reverse, after',
    ?_, ?_, ?_, ?_, ?_⟩
  · conv => lhs; rw [hturned]
    simp only [List.append_assoc]
  · conv => lhs; rw [hturned']
    simp only [List.append_assoc]
  · rw [List.length_reverse, hlength, Nat.add_sub_cancel]
  · rw [List.length_reverse, hlength', Nat.add_sub_cancel]
  · rw [List.length_append, List.length_append, List.length_reverse]

theorem isCommon_longestRun (as bs : List Text) : (longestRun ok as bs).IsCommon as bs := by
  refine (isCommon_bestRun ok [] ?_).grow
  exact ⟨[], [], as, [], bs, rfl, rfl, rfl, rfl, rfl⟩

/-! ## What the steps take and give -/

theorem old_stepsFrom (fuel : Nat) (as bs : List Text) :
    (stepsFrom ok fuel as bs).flatMap Edit.old = as := by
  induction fuel generalizing as bs with
  | zero => simp [stepsFrom, Edit.old]
  | succ fuel ih =>
    rw [stepsFrom]
    split
    · simp [Edit.old]
    · rw [List.flatMap_append, List.flatMap_cons, ih, ih, Edit.old, ← List.drop_drop,
        List.take_append_drop, List.take_append_drop]

theorem new_stepsFrom (fuel : Nat) (as bs : List Text) :
    (stepsFrom ok fuel as bs).flatMap Edit.new = bs := by
  induction fuel generalizing as bs with
  | zero => simp [stepsFrom, Edit.new]
  | succ fuel ih =>
    rw [stepsFrom]
    split
    · simp [Edit.new]
    · have hsame := (isCommon_longestRun ok as bs).take_drop
      rw [List.flatMap_append, List.flatMap_cons, ih, ih, Edit.new, hsame, ← List.drop_drop,
        List.take_append_drop, List.take_append_drop]

end

theorem old_pushStep (step : Edit) (steps : List Edit) :
    (pushStep step steps).flatMap Edit.old = step.old ++ steps.flatMap Edit.old := by
  unfold pushStep
  split
  · rfl
  · simp [Edit.old]
  · rfl

theorem new_pushStep (step : Edit) (steps : List Edit) :
    (pushStep step steps).flatMap Edit.new = step.new ++ steps.flatMap Edit.new := by
  unfold pushStep
  split
  · rfl
  · simp [Edit.new]
  · rfl

/-- The steps take all the old lines. -/
theorem old_steps (as bs : List Text) : (steps as bs).flatMap Edit.old = as := by
  have hpush (l : List Edit) : (l.foldr pushStep []).flatMap Edit.old = l.flatMap Edit.old := by
    induction l with
    | nil => rfl
    | cons step l ih => rw [List.foldr_cons, old_pushStep, ih, List.flatMap_cons]
  rw [steps, hpush, old_stepsFrom]

/-- The steps give all the new lines. -/
theorem new_steps (as bs : List Text) : (steps as bs).flatMap Edit.new = bs := by
  have hpush (l : List Edit) : (l.foldr pushStep []).flatMap Edit.new = l.flatMap Edit.new := by
    induction l with
    | nil => rfl
    | cons step l ih => rw [List.foldr_cons, new_pushStep, ih, List.flatMap_cons]
  rw [steps, hpush, new_stepsFrom]

/-! ## Equal lists -/

theorem commonLength_self (as : List Text) : commonLength (fun _ => true) as as = as.length := by
  induction as with
  | nil => rfl
  | cons a as ih => simp [commonLength, ih]

section

variable (ok : Text → Bool)

/-- No line of a run keeps the first list from being compared with itself. -/
theorem commonLength_le_left (as bs : List Text) :
    commonLength ok as bs ≤ commonLength ok as as := by
  induction as generalizing bs with
  | nil => simp [commonLength]
  | cons a as ih =>
    cases bs with
    | nil => exact Nat.zero_le _
    | cons b bs =>
      by_cases hok : ok a = true
      · by_cases hsame : a = b
        · subst hsame
          simpa [commonLength, hok] using ih bs
        · simp [commonLength, hsame]
      · simp [commonLength, hok]

theorem commonLength_comm (as bs : List Text) : commonLength ok as bs = commonLength ok bs as := by
  induction as generalizing bs with
  | nil => cases bs <;> rfl
  | cons a as ih =>
    cases bs with
    | nil => rfl
    | cons b bs =>
      by_cases hsame : a = b
      · subst hsame
        simp [commonLength, ih bs]
      · simp [commonLength, hsame, Ne.symm hsame]

theorem commonLength_le_right (as bs : List Text) :
    commonLength ok as bs ≤ commonLength ok bs bs := by
  rw [commonLength_comm]
  exact commonLength_le_left ok bs as

/-- How far the lines from a place on may be kept against themselves. -/
def diagonal (whole : List Text) (place : Nat) : Nat :=
  commonLength ok (whole.drop place) (whole.drop place)

variable {ok} {whole : List Text}

/-- The best run so far starts at the same line in both of two equal lists. It is no shorter than
what any line met so far keeps against itself: the lines before the old one, and the old one if the
new ones are past it. -/
structure Even (ok : Text → Bool) (whole : List Text) (old new : Nat) (best : Run) : Prop where
  same : best.old = best.new
  before : ∀ place < old, diagonal ok whole place ≤ best.size
  here : old < new → diagonal ok whole old ≤ best.size

variable {old new : Nat} {best : Run} {as bs : List Text}

/-- One turn. A run between two different lines is no longer than what the earlier of the two keeps
against itself, and that was met before. -/
theorem Even.better (h : Even ok whole old new best) :
    Even ok whole old (new + 1)
      (best.better ⟨old, new, commonLength ok (whole.drop old) (whole.drop new)⟩) := by
  let found : Run := ⟨old, new, commonLength ok (whole.drop old) (whole.drop new)⟩
  have hold : found.size ≤ diagonal ok whole old := commonLength_le_left ok _ _
  have hnew : found.size ≤ diagonal ok whole new := commonLength_le_right ok _ _
  have hsize : (best.better found).size = max best.size found.size := best.size_better found
  change Even ok whole old (new + 1) (best.better found)
  refine ⟨?_, fun place hplace => ?_, fun hlt => ?_⟩
  · unfold Run.better
    split
    · rename_i hlonger
      rcases Nat.lt_trichotomy old new with hlt | heq | hgt
      · have hmet := h.here hlt
        omega
      · exact heq
      · have hmet := h.before new hgt
        omega
    · exact h.same
  · have hmet := h.before place hplace
    omega
  · rcases Nat.lt_or_eq_of_le (Nat.le_of_lt_succ hlt) with hless | rfl
    · have hmet := h.here hless
      omega
    · have hfound : found.size = diagonal ok whole old := rfl
      omega

theorem Even.bestInNew (h : Even ok whole old new best) (hbs : bs = whole.drop new) :
    Even ok whole old (new + bs.length) (bestInNew ok old (whole.drop old) new best bs) := by
  induction bs generalizing new best with
  | nil => exact h
  | cons b bs ih =>
    have hnext : bs = whole.drop (new + 1) := by
      rw [← List.tail_drop, ← hbs]
      rfl
    rw [Diff.bestInNew, List.length_cons, Nat.add_comm bs.length, ← Nat.add_assoc, hbs]
    exact ih h.better hnext

/-- The best run of equal lists starts at the same line in both. -/
theorem Even.bestRun (h : Even ok whole old 0 best) (has : as = whole.drop old) :
    (bestRun ok whole old best as).old = (bestRun ok whole old best as).new := by
  induction as generalizing old best with
  | nil => exact h.same
  | cons a as ih =>
    have hinside : old < whole.length := by
      have hlength := congrArg List.length has
      rw [List.length_cons, List.length_drop] at hlength
      omega
    have hnext : as = whole.drop (old + 1) := by
      rw [← List.tail_drop, ← has]
      rfl
    have hmet := h.bestInNew (show whole = whole.drop 0 from rfl)
    rw [Nat.zero_add] at hmet
    rw [Diff.bestRun, has]
    refine ih ⟨hmet.same, fun place hplace => ?_, fun hlt => absurd hlt (Nat.not_lt_zero _)⟩ hnext
    rcases Nat.lt_or_eq_of_le (Nat.le_of_lt_succ hplace) with hless | rfl
    · exact hmet.before place hless
    · exact hmet.here hinside

/-- The longest common run of equal lists is the whole of them. -/
theorem longestRun_self (whole : List Text) :
    longestRun ok whole whole = ⟨0, 0, whole.length⟩ := by
  have hcommon : (bestRun ok whole 0 ⟨0, 0, 0⟩ whole).IsCommon whole whole := by
    refine isCommon_bestRun ok [] ?_
    exact ⟨[], [], whole, [], whole, rfl, rfl, rfl, rfl, rfl⟩
  have hsame :
      (bestRun ok whole 0 ⟨0, 0, 0⟩ whole).old = (bestRun ok whole 0 ⟨0, 0, 0⟩ whole).new :=
    Even.bestRun ⟨rfl, fun place hlt => absurd hlt (Nat.not_lt_zero place),
      fun hlt => absurd hlt (Nat.not_lt_zero 0)⟩ rfl
  rw [longestRun]
  generalize bestRun ok whole 0 ⟨0, 0, 0⟩ whole = best at hcommon hsame
  obtain ⟨old, new, size⟩ := best
  obtain rfl : old = new := hsame
  obtain ⟨front, run, back, front', back', hwhole, hwhole', rfl, hfront, rfl⟩ := hcommon
  -- Both places are the same, so the lines about the run are the same, too.
  have hparts : front ++ (run ++ back) = front' ++ (run ++ back') := by
    rw [← List.append_assoc, ← List.append_assoc, ← hwhole, ← hwhole']
  obtain ⟨rfl, hbehind⟩ := List.append_inj hparts hfront.symm
  obtain rfl : back = back' := List.append_cancel_left hbehind
  rw [hwhole, Run.grow_eq, commonLength_self, commonLength_self]
  simp [Nat.add_assoc]

theorem stepsFrom_nil (fuel : Nat) : stepsFrom ok fuel [] [] = [.change [] []] := by
  cases fuel <;> rfl

theorem stepsFrom_self {as : List Text} (h : as ≠ []) (fuel : Nat) :
    stepsFrom ok (fuel + 1) as as = [.change [] [], .keep as, .change [] []] := by
  have hlength : as.length ≠ 0 := fun hzero => h (List.length_eq_zero_iff.mp hzero)
  rw [stepsFrom, longestRun_self]
  simp [hlength, stepsFrom_nil]

end

/-- Between equal lists there is one step at most, and it keeps every line. -/
theorem steps_self (as : List Text) : steps as as = if as = [] then [] else [.keep as] := by
  by_cases h : as = []
  · subst h
    rfl
  · rw [steps, stepsFrom_self h, if_neg h]
    rfl

end ImportLift.Diff
