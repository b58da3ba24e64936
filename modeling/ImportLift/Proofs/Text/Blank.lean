-- White space around a text and between its words. A text is its trimmed part
-- between two blank texts, and the trimmed part neither starts nor ends with a
-- blank character. Trimming keeps the characters that are not blank. No
-- character of a word is blank. A text is cut into the parts that white space
-- keeps apart, and into no others.
import ImportLift.Text.Word
import ImportLift.Text.Blank

namespace ImportLift.Text

/-! ## Trimming -/

theorem head?_trimStart {text : Text} {c : Char} (h : (trimStart text).head? = some c) :
    isBlank c = false := by
  have hhead := List.head?_dropWhile_not isBlank text
  unfold trimStart at h
  rw [h] at hhead
  exact hhead

/-- The first character that is not blank stands in the first part or behind it. -/
theorem head?_trimStart_append {text rest : Text} {c : Char}
    (h : (trimStart (text ++ rest)).head? = some c) :
    c ∈ text ∨ (trimStart rest).head? = some c := by
  induction text with
  | nil => exact .inr h
  | cons d text ih =>
    rw [trimStart, List.cons_append, List.dropWhile_cons] at h
    split at h
    · exact (ih h).imp_left (List.mem_cons_of_mem d)
    · exact .inl (by simp_all)

theorem getLast?_trimEnd {text : Text} {c : Char} (h : (trimEnd text).getLast? = some c) :
    isBlank c = false := by
  have hhead := List.head?_dropWhile_not isBlank text.reverse
  unfold trimEnd at h
  rw [List.getLast?_reverse] at h
  rw [h] at hhead
  exact hhead

theorem trimEnd_append (text : Text) :
    ∃ after, after.allBlank = true ∧ text = trimEnd text ++ after := by
  refine ⟨(text.reverse.takeWhile isBlank).reverse, ?_, ?_⟩
  · rw [allBlank, List.all_reverse]
    exact List.all_takeWhile
  · have hsplit := List.takeWhile_append_dropWhile (p := isBlank) (l := text.reverse)
    rw [trimEnd, ← List.reverse_append, hsplit, List.reverse_reverse]

/-- A text is blank, then its trimmed part, then blank again. -/
theorem trim_append (text : Text) :
    ∃ before after, before.allBlank = true ∧ after.allBlank = true ∧
      trimStart text = trim text ++ after ∧ text = before ++ (trim text ++ after) := by
  obtain ⟨after, hafter, hend⟩ := trimEnd_append (trimStart text)
  refine ⟨text.takeWhile isBlank, after, List.all_takeWhile, hafter, hend, ?_⟩
  have hsplit := List.takeWhile_append_dropWhile (p := isBlank) (l := text)
  change _ = _ ++ (trimEnd (trimStart text) ++ after)
  rw [← hend]
  exact hsplit.symm

theorem allBlank_trim (text : Text) : (trim text).allBlank = text.allBlank := by
  obtain ⟨before, after, hbefore, hafter, -, htext⟩ := trim_append text
  have hall : text.allBlank = (before ++ (trim text ++ after)).allBlank := congrArg allBlank htext
  unfold allBlank at *
  rw [hall, List.all_append, List.all_append, hbefore, hafter, Bool.true_and, Bool.and_true]

/-- A trimmed text does not end in a blank part. -/
theorem allBlank_of_trim {text front more : Text} {c : Char} (h : trim text = front ++ c :: more) :
    allBlank (c :: more) = false := by
  obtain ⟨last, hlast⟩ : ∃ last, (c :: more).getLast? = some last :=
    ⟨_, List.getLast?_eq_some_getLast (by simp)⟩
  have hend : isBlank last = false := by
    have htrim : (trim text).getLast? = some last := by
      rw [h, List.getLast?_append, hlast, Option.some_or]
    exact getLast?_trimEnd htrim
  rw [allBlank, List.all_eq_false]
  exact ⟨last, List.mem_of_getLast? hlast, by simp [hend]⟩

/-- A text that neither starts nor ends with a blank is trimmed. -/
theorem trim_of_ends {text : Text} (hfirst : ∀ c, text.head? = some c → isBlank c = false)
    (hlast : ∀ c, text.getLast? = some c → isBlank c = false) : trim text = text := by
  have hkeep {text : Text} (h : ∀ c, text.head? = some c → isBlank c = false) :
      text.dropWhile isBlank = text := by
    cases text with
    | nil => rfl
    | cons c rest => simp [h c rfl]
  rw [trim, trimStart, hkeep hfirst, trimEnd, hkeep (by simpa using hlast), List.reverse_reverse]

/-! ## Trimming the end -/

/-- Behind the end nothing blank counts. -/
theorem trimEnd_append_blank {after : Text} (h : after.allBlank = true) (text : Text) :
    trimEnd (text ++ after) = trimEnd text := by
  have hblank : ∀ c ∈ after.reverse, isBlank c = true := fun c hc =>
    List.all_eq_true.mp h c (List.mem_reverse.mp hc)
  rw [trimEnd, List.reverse_append, List.dropWhile_append_of_pos hblank, trimEnd]

theorem trimEnd_of_allBlank {text : Text} (h : text.allBlank = true) : trimEnd text = [] :=
  trimEnd_append_blank h []

theorem trimEnd_subset (text : Text) : trimEnd text ⊆ text := by
  obtain ⟨after, -, htext⟩ := trimEnd_append text
  conv => rhs; rw [htext]
  exact List.subset_append_left _ _

theorem allBlank_trimEnd (text : Text) : (trimEnd text).allBlank = text.allBlank := by
  obtain ⟨after, hafter, htext⟩ := trimEnd_append text
  have hall := congrArg allBlank htext
  rw [hall]
  unfold allBlank at *
  rw [List.all_append, hafter, Bool.and_true]

theorem head?_trimEnd {text : Text} {c : Char} (h : text.head? = some c) (hc : isBlank c = false) :
    (trimEnd text).head? = some c := by
  obtain ⟨after, hafter, htext⟩ := trimEnd_append text
  rw [htext, List.head?_append, Option.or_eq_some_iff] at h
  rcases h with hfirst | ⟨-, hlater⟩
  · exact hfirst
  · -- The white space behind the end does not hold the character.
    rw [List.all_eq_true.mp hafter c (List.mem_of_head? hlater)] at hc
    cases hc

/-- A part that is not blank keeps what stands in front of it. -/
theorem trimEnd_append_of_not_blank {last : Text} (h : last.allBlank = false) (front : Text) :
    trimEnd (front ++ last) = front ++ trimEnd last := by
  have hstops : (last.reverse.dropWhile isBlank).isEmpty = false := by
    have hkept := allBlank_trimEnd last
    rw [h] at hkept
    cases hrest : last.reverse.dropWhile isBlank with
    | nil => simp [trimEnd, hrest, allBlank] at hkept
    | cons c rest => rfl
  rw [trimEnd, List.reverse_append, List.dropWhile_append, hstops, if_neg (by simp),
    List.reverse_append, List.reverse_reverse, trimEnd]

/-! ## Characters that are not blank -/

/-- The characters that are not blank, in order. -/
def ink (text : Text) : Text := text.filter fun c => !isBlank c

theorem ink_append (a b : Text) : ink (a ++ b) = ink a ++ ink b := List.filter_append ..

theorem ink_flatMap {α : Type} (parts : List α) (f : α → Text) :
    ink (parts.flatMap f) = parts.flatMap fun part => ink (f part) := List.filter_flatMap ..

theorem ink_eq_nil_iff {text : Text} : ink text = [] ↔ text.allBlank = true := by
  simp [ink, allBlank]

theorem ink_trimEnd (text : Text) : ink (trimEnd text) = ink text := by
  obtain ⟨after, hafter, htext⟩ := trimEnd_append text
  have hink := congrArg ink htext
  rw [hink, ink_append, ink_eq_nil_iff.mpr hafter, List.append_nil]

/-! ## Words -/

theorem not_blank_of_ascii {n : Nat} (hn : n < 128) (h : isWord (Char.ofNat n) = true) :
    isBlank (Char.ofNat n) = false := by
  revert n
  decide +kernel

theorem isBlank_of_isWord {c : Char} (h : isWord c = true) : isBlank c = false := by
  by_cases hascii : c.toNat < 128
  · rw [← Char.ofNat_toNat c] at h ⊢
    exact not_blank_of_ascii hascii h
  · have hapart : ∀ w ∈ wordRanges, ∀ b ∈ blankRanges, w.2 < b.1 ∨ b.2 < w.1 := by
      decide +kernel
    rw [isWord, if_neg hascii, inRanges, List.any_eq_true] at h
    obtain ⟨w, hw, hword⟩ := h
    rw [isBlank, if_neg hascii, inRanges, List.any_eq_false]
    intro b hb hblank
    have hdisjoint := hapart w hw b hb
    simp only [Bool.and_eq_true, decide_eq_true_eq] at hword hblank
    omega

theorem not_isWord_of_isBlank {c : Char} (h : isBlank c = true) : isWord c = false := by
  rw [Bool.eq_false_iff]
  intro hword
  rw [isBlank_of_isWord hword] at h
  cases h

/-! ## Cutting into words -/

/-- The text is blank but for these parts, in this order. No part is empty or has a blank
character, and none touches the next. -/
inductive IsWords : Text → List Text → Prop
  | nil {gap : Text} (hgap : gap.allBlank = true) : IsWords gap []
  | cons {gap part rest : Text} {parts : List Text} (hgap : gap.allBlank = true) (hne : part ≠ [])
      (hpart : ∀ c ∈ part, isBlank c = false) (hrest : ∀ c, rest.head? = some c → isBlank c = true)
      (h : IsWords rest parts) : IsWords (gap ++ part ++ rest) (part :: parts)

/-- The first word still grows to the left when the text starts with one. -/
theorem grows_pushWord (text : Text) :
    (text.foldr pushWord (false, [])).1 = text.head?.any fun c => !isBlank c := by
  cases text with
  | nil => rfl
  | cons c text =>
    rw [List.foldr_cons, List.head?_cons, Option.any_some]
    unfold pushWord
    by_cases hc : isBlank c = true
    · simp [hc]
    · simp only [hc, Bool.false_eq_true, if_false, Bool.not_false]
      split <;> rfl

theorem pushWord_gap {gap : Text} (hgap : gap.allBlank = true) (state : Bool × List Text) :
    (gap.foldr pushWord state).2 = state.2 := by
  induction gap with
  | nil => rfl
  | cons c gap ih =>
    rw [allBlank, List.all_cons, Bool.and_eq_true] at hgap
    simp only [List.foldr_cons, pushWord, hgap.1, if_true]
    exact ih hgap.2

/-- In front of a text that does not start with a word, a part becomes the first word. -/
theorem pushWord_part {part : Text} (hne : part ≠ []) (hpart : ∀ c ∈ part, isBlank c = false)
    (parts : List Text) : part.foldr pushWord (false, parts) = (true, part :: parts) := by
  induction part with
  | nil => contradiction
  | cons c part ih =>
    obtain ⟨hc, hpart⟩ := List.forall_mem_cons.mp hpart
    rw [List.foldr_cons]
    cases part with
    | nil => simp [pushWord, hc]
    | cons d part =>
      rw [ih (List.cons_ne_nil d part) hpart]
      simp [pushWord, hc]

theorem IsWords.eq_words {text : Text} {parts : List Text} (h : IsWords text parts) :
    parts = words text := by
  induction h with
  | nil hgap => exact (pushWord_gap hgap (false, [])).symm
  | @cons gap part rest parts hgap hne hpart hrest _ ih =>
    have hshut : rest.foldr pushWord (false, []) = (false, parts) := by
      refine Prod.ext ?_ ih.symm
      rw [grows_pushWord]
      cases rest with
      | nil => rfl
      | cons c rest => simp [hrest c rfl]
    rw [words, List.append_assoc, List.foldr_append, List.foldr_append, pushWord_gap hgap, hshut,
      pushWord_part hne hpart]

theorem exists_isWords (text : Text) : ∃ parts, IsWords text parts := by
  induction hlength : text.length using Nat.strongRecOn generalizing text with
  | ind n ih =>
    have hgap : allBlank (text.takeWhile isBlank) = true := List.all_takeWhile
    have htext : text.takeWhile isBlank ++ trimStart text = text := List.takeWhile_append_dropWhile
    cases htrim : trimStart text with
    | nil =>
      rw [htrim, List.append_nil] at htext
      rw [htext] at hgap
      exact ⟨[], .nil hgap⟩
    | cons c rest =>
      -- The first word is what comes before the next blank character.
      have hc : isBlank c = false := head?_trimStart (by rw [htrim]; rfl)
      let part : Text := c :: rest.takeWhile fun d => !isBlank d
      let later : Text := rest.dropWhile fun d => !isBlank d
      have hsplit : part ++ later = c :: rest :=
        congrArg (c :: ·) List.takeWhile_append_dropWhile
      have hless : later.length < n := by
        have hlengths := congrArg List.length htext
        have hparts := congrArg List.length hsplit
        simp only [htrim, List.length_append, List.length_cons, part] at hlengths hparts
        omega
      obtain ⟨parts, hparts⟩ := ih later.length hless later rfl
      refine ⟨part :: parts, ?_⟩
      rw [← htext, htrim, ← hsplit, ← List.append_assoc]
      refine .cons hgap (List.cons_ne_nil c _) ?_ ?_ hparts
      · refine List.forall_mem_cons.mpr ⟨hc, fun d hd => ?_⟩
        simpa using List.all_eq_true.mp List.all_takeWhile d hd
      · intro d hd
        have hstop := List.head?_dropWhile_not (fun d => !isBlank d) rest
        rw [show (rest.dropWhile fun d => !isBlank d).head? = some d from hd] at hstop
        simpa using hstop

/-- A text is cut into words in one way only. -/
theorem isWords_iff {text : Text} {parts : List Text} :
    IsWords text parts ↔ parts = words text := by
  refine ⟨IsWords.eq_words, ?_⟩
  rintro rfl
  obtain ⟨parts, hparts⟩ := exists_isWords text
  rwa [← hparts.eq_words]

end ImportLift.Text
