-- Replacing a part of a text by another. A pass over the text takes the
-- occurrences from left to right and keeps every other character, and this
-- relation determines its result. An occurrence does not run over a character
-- that only the first place of the part can have, so a text is replaced in
-- pieces. Where a part and its replacement start with one character that
-- neither holds again, no occurrence comes about.
import ImportLift.Text.Basic

namespace ImportLift.Text

/-! ## A pass over a text -/

/-- The second text is the first one with the occurrences of `old` replaced from left to right. -/
inductive Replaced (old new : Text) : Text → Text → Prop
  | nil : Replaced old new [] []
  | found {text result : Text} :
      Replaced old new text result → Replaced old new (old ++ text) (new ++ result)
  | kept {c : Char} {text result : Text} :
      ¬ old <+: c :: text → Replaced old new text result → Replaced old new (c :: text) (c :: result)

variable {old new text result front back : Text} {mark : Char}

theorem replaceFrom_skip (old new : Text) (skip : Nat) (text : Text) :
    replaceFrom old new skip text = replaceFrom old new 0 (text.drop skip) := by
  induction text generalizing skip with
  | nil => simp [replaceFrom]
  | cons c text ih =>
    cases skip with
    | zero => rfl
    | succ skip => rw [replaceFrom, ih, List.drop_succ_cons]

theorem replaced_replaceFrom (hold : old ≠ []) (new text : Text) :
    Replaced old new text (replaceFrom old new 0 text) := by
  induction hlength : text.length using Nat.strongRecOn generalizing text with
  | ind n ih =>
    cases text with
    | nil => exact .nil
    | cons c text =>
      rw [replaceFrom]
      split
      · rename_i hbegins
        obtain ⟨rest, hrest⟩ := List.isPrefixOf_iff_prefix.mp hbegins
        obtain ⟨d, more, rfl⟩ := List.exists_cons_of_ne_nil hold
        have htext : text = more ++ rest := (List.cons.inj hrest).2.symm
        rw [replaceFrom_skip, List.length_cons, Nat.add_sub_cancel, ← hrest, htext, List.drop_left]
        refine .found (ih rest.length ?_ rest rfl)
        rw [← hlength, htext, List.length_cons, List.length_append]
        omega
      · rename_i hbegins
        rw [List.isPrefixOf_iff_prefix] at hbegins
        refine .kept hbegins (ih text.length ?_ text rfl)
        rw [← hlength, List.length_cons]
        omega

/-- A pass replaces the occurrences from left to right. -/
theorem replaced_replaceAll (hold : old ≠ []) (text new : Text) :
    Replaced old new text (replaceAll text old new) := by
  rw [replaceAll, if_neg (by simpa using hold)]
  exact replaced_replaceFrom hold new text

/-- Nothing else is the text with the occurrences replaced. -/
theorem Replaced.eq_replaceAll (hold : old ≠ []) (h : Replaced old new text result) :
    result = replaceAll text old new := by
  rw [replaceAll, if_neg (by simpa using hold)]
  induction h with
  | nil => rfl
  | @found text result _ ih =>
    obtain ⟨c, more, rfl⟩ := List.exists_cons_of_ne_nil hold
    have hbegins : (c :: more).isPrefixOf (c :: (more ++ text)) = true := by simp
    rw [List.cons_append, replaceFrom, if_pos hbegins, replaceFrom_skip, List.length_cons,
      Nat.add_sub_cancel, List.drop_left, ih]
  | kept hbegins _ ih =>
    rw [replaceFrom, if_neg (by rwa [List.isPrefixOf_iff_prefix]), ih]

@[simp] theorem replaceAll_nil (old new : Text) : replaceAll [] old new = [] := by
  unfold replaceAll
  split <;> rfl

theorem replaceAll_old (hold : old ≠ []) (text new : Text) :
    replaceAll (old ++ text) old new = new ++ replaceAll text old new :=
  ((replaced_replaceAll hold text new).found.eq_replaceAll hold).symm

theorem replaceAll_cons {c : Char} (h : ¬ old <+: c :: text) (new : Text) :
    replaceAll (c :: text) old new = c :: replaceAll text old new := by
  have hold : old ≠ [] := by
    rintro rfl
    exact h List.nil_prefix
  exact (((replaced_replaceAll hold text new).kept h).eq_replaceAll hold).symm

/-! ## Replacing in pieces -/

/-- An occurrence that starts in front of a character which is not among its further ones ends
in front of it. -/
theorem prefix_of_not_mem_tail {c : Char} (hmark : mark ∉ old.tail)
    (h : old <+: c :: front ++ mark :: back) : old <+: c :: front := by
  obtain ⟨rest, hrest⟩ := h
  rcases List.append_eq_append_iff.mp hrest with ⟨more, hfront, -⟩ | ⟨more, rfl, hmore⟩
  · exact ⟨more, hfront.symm⟩
  · cases more with
    | nil => simp
    | cons d more =>
      obtain ⟨rfl, -⟩ := List.cons.inj hmore
      exact absurd (by simp) hmark

/-- In front of a character that is not among the further ones of `old` a text is replaced by
itself. -/
theorem replaceAll_append_cons (hold : old ≠ []) (hmark : mark ∉ old.tail) (new front back : Text) :
    replaceAll (front ++ mark :: back) old new =
      replaceAll front old new ++ replaceAll (mark :: back) old new := by
  have hfront := replaced_replaceAll hold front new
  generalize replaceAll front old new = result at hfront
  induction hfront with
  | nil => rfl
  | found _ ih => rw [List.append_assoc, replaceAll_old hold, ih, List.append_assoc]
  | @kept c text result hbegins _ ih =>
    have hnone : ¬ old <+: c :: (text ++ mark :: back) :=
      fun h => hbegins (prefix_of_not_mem_tail hmark h)
    rw [List.cons_append, replaceAll_cons hnone, ih, List.cons_append]

/-- A text is replaced piece by piece around a character that `old` does not hold. -/
theorem replaceAll_append_mark (hold : old ≠ []) (hmark : mark ∉ old) (new front back : Text) :
    replaceAll (front ++ mark :: back) old new =
      replaceAll front old new ++ mark :: replaceAll back old new := by
  have hnone : ¬ old <+: mark :: back := by
    obtain ⟨c, more, rfl⟩ := List.exists_cons_of_ne_nil hold
    intro h
    obtain ⟨rfl, -⟩ := List.cons_prefix_cons.mp h
    exact hmark List.mem_cons_self
  rw [replaceAll_append_cons hold (fun h => hmark (List.mem_of_mem_tail h)),
    replaceAll_cons hnone]

/-- A text without an occurrence stays as it is. -/
theorem replaceAll_of_not_infix (hold : old ≠ []) (h : ¬ old <:+: text) (new : Text) :
    replaceAll text old new = text := by
  have hpass := replaced_replaceAll hold text new
  generalize replaceAll text old new = result at hpass
  induction hpass with
  | nil => rfl
  | found _ _ => exact absurd (List.prefix_append _ _).isInfix h
  | kept _ _ ih => rw [ih fun hinside => h (List.infix_cons hinside)]

/-- What replaces an occurrence is held by the result. -/
theorem mem_replaceAll {c : Char} (hold : old ≠ []) (hc : c ∈ new) (h : old <:+: text) :
    c ∈ replaceAll text old new := by
  have hpass := replaced_replaceAll hold text new
  generalize replaceAll text old new = result at hpass
  induction hpass with
  | nil => exact absurd (List.infix_nil.mp h) hold
  | found _ _ => exact List.mem_append_left _ hc
  | kept hbegins _ ih =>
    rcases List.infix_cons_iff.mp h with hhere | hlater
    · exact absurd hhere hbegins
    · exact List.mem_cons_of_mem _ (ih hlater)

/-- The result holds characters of the text and of the replacement only. -/
theorem mem_of_mem_replaceAll {c : Char} (hold : old ≠ []) (h : c ∈ replaceAll text old new) :
    c ∈ text ∨ c ∈ new := by
  have hpass := replaced_replaceAll hold text new
  generalize replaceAll text old new = result at hpass h
  induction hpass with
  | nil => cases h
  | found _ ih =>
    rcases List.mem_append.mp h with hnew | hlater
    · exact .inr hnew
    · exact (ih hlater).imp_left (List.mem_append_right _)
  | kept _ _ ih =>
    rcases List.mem_cons.mp h with rfl | hlater
    · exact .inl List.mem_cons_self
    · exact (ih hlater).imp_left (List.mem_cons_of_mem _)

theorem replaceAll_ne_nil (hold : old ≠ []) (hnew : new ≠ []) (htext : text ≠ []) :
    replaceAll text old new ≠ [] := by
  have hpass := replaced_replaceAll hold text new
  generalize replaceAll text old new = result at hpass
  cases hpass with
  | nil => contradiction
  | found _ => exact List.append_ne_nil_of_left_ne_nil hnew _
  | kept _ _ => exact List.cons_ne_nil _ _

/-! ## No occurrence is left -/

/-- Before the next replacement the result is the text: a beginning of the result that does not
hold the first character of the replacement is one of the text. -/
theorem Replaced.prefix_of_prefix {first : Char} {more start : Text}
    (h : Replaced old (first :: more) text result) (hstart : first ∉ start)
    (hbegins : start <+: result) : start <+: text := by
  induction h generalizing start with
  | nil => exact hbegins
  | found _ _ =>
    cases start with
    | nil => exact List.nil_prefix
    | cons c start =>
      obtain ⟨rfl, -⟩ := List.cons_prefix_cons.mp hbegins
      exact absurd List.mem_cons_self hstart
  | kept _ _ ih =>
    cases start with
    | nil => exact List.nil_prefix
    | cons c start =>
      obtain ⟨rfl, hlater⟩ := List.cons_prefix_cons.mp hbegins
      rw [List.mem_cons, not_or] at hstart
      exact List.cons_prefix_cons.mpr ⟨rfl, ih hstart.2 hlater⟩

/-- An occurrence does not start in a text without its first character. -/
theorem infix_of_not_mem {first : Char} {more : Text} (hfront : first ∉ front)
    (h : first :: more <:+: front ++ back) : first :: more <:+: back := by
  induction front with
  | nil => exact h
  | cons c front ih =>
    rw [List.mem_cons, not_or] at hfront
    rcases List.infix_cons_iff.mp h with hhere | hlater
    · exact absurd (List.cons_prefix_cons.mp hhere).1 hfront.1
    · exact ih hfront.2 hlater

/-- No occurrence is left, if a part and its replacement start with one character that neither
holds again, and neither is a beginning of the other. -/
theorem not_infix_replaceAll {first : Char} {more more' : Text} (hmore : first ∉ more)
    (hmore' : first ∉ more') (hapart : ¬ more <+: more' ∧ ¬ more' <+: more) (text : Text) :
    ¬ first :: more <:+: replaceAll text (first :: more) (first :: more') := by
  have hold : first :: more ≠ [] := List.cons_ne_nil _ _
  have hpass := replaced_replaceAll hold text (first :: more')
  generalize replaceAll text (first :: more) (first :: more') = result at hpass
  intro h
  induction hpass with
  | nil => exact hold (List.infix_nil.mp h)
  | @found text result _ ih =>
    rw [List.cons_append] at h
    rcases List.infix_cons_iff.mp h with hhere | hlater
    · have hlater := (List.cons_prefix_cons.mp hhere).2
      exact (List.prefix_or_prefix_of_prefix hlater (List.prefix_append more' result)).elim
        hapart.1 hapart.2
    · exact ih (infix_of_not_mem hmore' hlater)
  | @kept c text result hbegins hpass ih =>
    rcases List.infix_cons_iff.mp h with hhere | hlater
    · -- Such an occurrence would stand in the text as well.
      obtain ⟨rfl, hlater⟩ := List.cons_prefix_cons.mp hhere
      exact hbegins (List.cons_prefix_cons.mpr ⟨rfl, hpass.prefix_of_prefix hmore hlater⟩)
    · exact ih hlater

end ImportLift.Text
