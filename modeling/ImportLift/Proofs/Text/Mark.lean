-- Marks in a text: ASCII characters that are no letters, such as dots, dashes
-- and slashes. A text is cut at a mark or behind its last one, trimmed of the
-- marks around it, and joined with a separator in between. No case map makes a
-- mark or takes one away.
import ImportLift.Proofs.Text.Case

namespace ImportLift.Text

/-! ## Cutting at a mark -/

/-- To replace a single character is to replace it wherever it stands. -/
theorem replaceAll_mark (mark : Char) (new text : Text) :
    text.replaceAll [mark] new = text.flatMap fun c => if c = mark then new else [c] := by
  unfold replaceAll
  rw [if_neg (by simp)]
  induction text with
  | nil => rfl
  | cons c rest ih =>
    by_cases h : c = mark
    · simp [replaceFrom, h, ih]
    · simp [replaceFrom, h, Ne.symm h, ih]

/-- The pieces hold everything but the mark. -/
theorem flatten_cutAt (mark : Char) (text : Text) :
    (cutAt mark text).flatten = text.filter (· ≠ mark) := by
  induction text with
  | nil => rfl
  | cons c rest ih =>
    unfold cutAt
    by_cases h : c = mark
    · simp [h, ih]
    · simp only [h, if_false, ne_eq, not_false_eq_true, decide_true, List.filter_cons_of_pos, ← ih]
      cases cutAt mark rest <;> simp

/-- A piece without the mark is cut off at the mark behind it. -/
theorem cutAt_append_cons {mark : Char} {piece : Text} (h : mark ∉ piece) (rest : Text) :
    cutAt mark (piece ++ mark :: rest) = piece :: cutAt mark rest := by
  induction piece with
  | nil => simp [cutAt]
  | cons c piece ih =>
    rw [List.mem_cons, not_or] at h
    simp [cutAt, Ne.symm h.1, ih h.2]

theorem cutAt_of_not_mem {mark : Char} {text : Text} (h : mark ∉ text) :
    cutAt mark text = [text] := by
  induction text with
  | nil => rfl
  | cons c rest ih =>
    rw [List.mem_cons, not_or] at h
    simp [cutAt, Ne.symm h.1, ih h.2]

/-- Pieces that each end in the mark are cut off one by one. -/
theorem cutAt_pieces {mark : Char} {pieces : List Text} (h : ∀ piece ∈ pieces, mark ∉ piece)
    (rest : Text) :
    cutAt mark ((pieces.flatMap fun piece => piece ++ [mark]) ++ rest) =
      pieces ++ cutAt mark rest := by
  induction pieces with
  | nil => rfl
  | cons piece pieces ih =>
    have hfirst := h piece List.mem_cons_self
    have hlater := ih fun piece hpiece => h piece (List.mem_cons_of_mem _ hpiece)
    rw [List.flatMap_cons, List.append_assoc, List.append_assoc, List.singleton_append,
      cutAt_append_cons hfirst, hlater, List.cons_append]

theorem ne_of_not_mem {mark : Char} {ending : Text} (h : mark ∉ ending) :
    ∀ c ∈ ending.reverse, decide (c ≠ mark) = true := by
  intro c hc
  have hne : c ≠ mark := by
    rintro rfl
    exact h (List.mem_reverse.mp hc)
  simpa using hne

theorem afterLast_append {mark : Char} {ending : Text} (h : mark ∉ ending) (text : Text) :
    afterLast mark (text ++ ending) = afterLast mark text ++ ending := by
  unfold afterLast
  rw [List.reverse_append, List.takeWhile_append_of_pos (ne_of_not_mem h), List.reverse_append,
    List.reverse_reverse]

theorem afterLast_append_cons {mark : Char} {ending : Text} (h : mark ∉ ending) (text : Text) :
    afterLast mark (text ++ mark :: ending) = ending := by
  have hlast : afterLast mark (text ++ [mark]) = [] := by simp [afterLast]
  rw [List.append_cons, afterLast_append h, hlast, List.nil_append]

theorem afterLast_subset (mark : Char) (text : Text) : afterLast mark text ⊆ text := by
  intro c hc
  exact List.mem_reverse.mp ((List.takeWhile_sublist _).subset (List.mem_reverse.mp hc))

theorem beforeLast_subset (mark : Char) (text : Text) : beforeLast mark text ⊆ text := by
  intro c hc
  unfold beforeLast at hc
  split at hc
  · have hbehind := List.drop_subset _ _ (List.mem_reverse.mp hc)
    exact List.mem_reverse.mp ((List.dropWhile_sublist _).subset hbehind)
  · exact hc

theorem beforeLast_of_not_mem {mark : Char} {text : Text} (h : mark ∉ text) :
    beforeLast mark text = text := by
  simp [beforeLast, h]

theorem beforeLast_append_cons {mark : Char} {ending : Text} (h : mark ∉ ending) (text : Text) :
    beforeLast mark (text ++ mark :: ending) = text := by
  unfold beforeLast
  rw [if_pos (by simp)]
  simp only [List.reverse_append, List.reverse_cons, List.append_assoc, List.singleton_append]
  rw [List.dropWhile_append_of_pos (ne_of_not_mem h)]
  simp

/-- A text that holds a mark holds a last one. -/
theorem exists_last {mark : Char} {text : Text} (h : mark ∈ text) :
    ∃ before ending, text = before ++ mark :: ending ∧ mark ∉ ending := by
  obtain ⟨ending, before, hsplit, hending⟩ := List.eq_append_cons_of_mem (List.mem_reverse.mpr h)
  refine ⟨before.reverse, ending.reverse, ?_, fun hmem => hending (List.mem_reverse.mp hmem)⟩
  rw [← List.reverse_reverse text, hsplit]
  simp

theorem count_beforeLast {mark : Char} {text : Text} (h : mark ∈ text) :
    (beforeLast mark text).count mark + 1 = text.count mark := by
  obtain ⟨before, ending, rfl, hending⟩ := exists_last h
  rw [beforeLast_append_cons hending, List.count_append, List.count_cons_self,
    List.count_eq_zero_of_not_mem hending]

/-! ## Marks around a text -/

theorem takeWhile_mark (mark : Char) (text : Text) :
    ∃ n, text.takeWhile (· = mark) = List.replicate n mark := by
  refine ⟨_, List.eq_replicate_of_mem fun c hc => ?_⟩
  simpa using List.all_eq_true.mp List.all_takeWhile c hc

theorem trimMarkEnd_append (mark : Char) (text : Text) :
    ∃ n, text = trimMarkEnd mark text ++ List.replicate n mark := by
  obtain ⟨n, hmarks⟩ := takeWhile_mark mark text.reverse
  refine ⟨n, ?_⟩
  have hsplit := List.takeWhile_append_dropWhile (p := (· = mark)) (l := text.reverse)
  rw [hmarks] at hsplit
  rw [trimMarkEnd, ← List.reverse_replicate, ← List.reverse_append, hsplit, List.reverse_reverse]

theorem getLast?_trimMarkEnd (mark : Char) (text : Text) :
    (trimMarkEnd mark text).getLast? ≠ some mark := by
  intro hlast
  have hhead := List.head?_dropWhile_not (· = mark) text.reverse
  rw [trimMarkEnd, List.getLast?_reverse] at hlast
  rw [hlast] at hhead
  simp at hhead

theorem trimMark_eq (mark : Char) (text : Text) :
    trimMark mark text = trimMarkEnd mark (text.dropWhile (· = mark)) := rfl

/-- A text is its trimmed part between two runs of the mark. -/
theorem trimMark_append (mark : Char) (text : Text) :
    ∃ before after,
      text = List.replicate before mark ++ trimMark mark text ++ List.replicate after mark := by
  obtain ⟨before, hbefore⟩ := takeWhile_mark mark text
  obtain ⟨after, hafter⟩ := trimMarkEnd_append mark (text.dropWhile (· = mark))
  refine ⟨before, after, ?_⟩
  rw [trimMark_eq, List.append_assoc, ← hafter, ← hbefore, List.takeWhile_append_dropWhile]

theorem getLast?_trimMark (mark : Char) (text : Text) :
    (trimMark mark text).getLast? ≠ some mark :=
  getLast?_trimMarkEnd mark (text.dropWhile (· = mark))

theorem head?_trimMark (mark : Char) (text : Text) : (trimMark mark text).head? ≠ some mark := by
  intro hfirst
  obtain ⟨after, hafter⟩ := trimMarkEnd_append mark (text.dropWhile (· = mark))
  have hhead := List.head?_dropWhile_not (· = mark) text
  rw [trimMark_eq] at hfirst
  rw [hafter, List.head?_append, hfirst, Option.some_or] at hhead
  simp at hhead

/-! ## Joining -/

theorem join_append_cons (separator : Text) (before : List Text) (piece : Text)
    (after : List Text) :
    join separator (before ++ piece :: after) =
      (before.flatMap fun next => next ++ separator) ++ join separator (piece :: after) := by
  unfold join
  induction before with
  | nil => rfl
  | cons first before ih =>
    rw [List.cons_append, List.intercalate_cons_of_ne_nil (by simp), ih, List.flatMap_cons]
    simp only [List.append_assoc]

theorem join_cons (separator piece : Text) (pieces : List Text) :
    join separator (piece :: pieces) = piece ++ pieces.flatMap fun next => separator ++ next := by
  unfold join
  induction pieces generalizing piece with
  | nil => simp
  | cons next pieces ih =>
    rw [List.intercalate_cons_of_ne_nil (List.cons_ne_nil next pieces), ih, List.flatMap_cons]
    simp only [List.append_assoc]

/-! ## Marks and case -/

/-- An ASCII character that is no letter. -/
def IsMark (c : Char) : Prop := c.toNat < 128 ∧ c.isAlpha = false

instance (c : Char) : Decidable (IsMark c) := inferInstanceAs (Decidable (_ ∧ _))

/-- Each image of the run is a character outside ASCII, or the only one and an accepted letter. -/
def Lands (letter : Char → Bool) (run : Nat × Nat × Nat × Nat) : Prop :=
  (128 ≤ run.2.2.2 ∧ run.2.2.2 + (run.2.1 - run.1) < 0xD800) ∨
    (0xE000 ≤ run.2.2.2 ∧ run.2.2.2 + (run.2.1 - run.1) < 0x110000) ∨
    (run.1 = run.2.1 ∧ letter (Char.ofNat run.2.2.2) = true)

instance (letter : Char → Bool) (run : Nat × Nat × Nat × Nat) : Decidable (Lands letter run) :=
  inferInstanceAs (Decidable (_ ∨ _))

theorem imageOf?_lands {letter : Char → Bool} {runs : List (Nat × Nat × Nat × Nat)} {n image : Nat}
    (hruns : ∀ run ∈ runs, Lands letter run) (h : imageOf? runs n = some image) :
    128 ≤ (Char.ofNat image).toNat ∨ letter (Char.ofNat image) = true := by
  obtain ⟨run, hrun, himage⟩ := List.exists_of_findSome?_eq_some h
  have hlands := hruns run hrun
  obtain ⟨first, last, step, start⟩ := run
  simp only [Option.ite_none_right_eq_some, Option.some.injEq, Bool.and_eq_true,
    decide_eq_true_eq] at himage
  simp only [Lands] at hlands
  have hcode : image.isValidChar → (Char.ofNat image).toNat = image := by
    intro hvalid
    rw [Char.ofNat, dif_pos hvalid]
    rfl
  rcases hlands with hlow | hhigh | ⟨honly, hletter⟩
  · left
    rw [hcode (.inl (by omega))]
    omega
  · left
    rw [hcode (.inr (by omega))]
    omega
  · right
    rw [show image = start by omega]
    exact hletter

theorem lowerRuns_land : ∀ run ∈ lowerRuns, Lands Char.isLower run := by
  decide +kernel

theorem upperRuns_land : ∀ run ∈ upperRuns, Lands Char.isUpper run := by
  decide +kernel

theorem upperSpellings_land : ∀ entry ∈ upperSpellings, ∀ code ∈ entry.2,
    128 ≤ (Char.ofNat code).toNat ∨ (Char.ofNat code).isUpper = true := by
  decide +kernel

theorem ascii_toLower {n : Nat} (hn : n < 128) :
    let c := Char.ofNat n
    (c.toLower = c ∧ c.isUpper = false) ∨ (c.isAlpha = true ∧ c.toLower.isLower = true) := by
  revert n
  decide +kernel

theorem ascii_toUpper {n : Nat} (hn : n < 128) :
    let c := Char.ofNat n
    c.toUpper = c ∨ (c.isAlpha = true ∧ c.toUpper.isUpper = true) := by
  revert n
  decide +kernel

theorem not_isMark {c : Char} (h : 128 ≤ c.toNat ∨ c.isAlpha = true) : ¬ IsMark c := by
  rintro ⟨hcode, halpha⟩
  rcases h with h | h
  · omega
  · rw [halpha] at h
    cases h

theorem isLower_iff {c : Char} : c.isLower = true ↔ 97 ≤ c.toNat ∧ c.toNat ≤ 122 := by
  delta Char.isLower
  simp [UInt32.le_iff_toNat_le, ← Char.toNat_val]

theorem not_isUpper {c : Char} (h : 128 ≤ c.toNat ∨ c.isLower = true) : c.isUpper = false := by
  have hupper : c.isUpper = true ↔ 65 ≤ c.toNat ∧ c.toNat ≤ 90 := by
    delta Char.isUpper
    simp [UInt32.le_iff_toNat_le, ← Char.toNat_val]
  rw [Bool.eq_false_iff, Ne, hupper]
  rw [isLower_iff] at h
  omega

/-- In lower case a character stays and is no capital, or it is no mark and becomes characters
that are neither marks nor capitals. -/
theorem lowerOne_cases (c : Char) :
    (lowerOne c = [c] ∧ c.isUpper = false) ∨
      (¬ IsMark c ∧ lowerOne c ≠ [] ∧ ∀ e ∈ lowerOne c, ¬ IsMark e ∧ e.isUpper = false) := by
  have hletter {e : Char} (h : 128 ≤ e.toNat ∨ e.isLower = true) :
      ¬ IsMark e ∧ e.isUpper = false :=
    ⟨not_isMark (h.imp_right fun h => show (e.isUpper || e.isLower) = true by simp [h]),
      not_isUpper h⟩
  unfold lowerOne
  split
  · rename_i hascii
    have hcases := ascii_toLower (n := c.toNat) (by simpa using hascii)
    simp only [Char.ofNat_toNat] at hcases
    rcases hcases with ⟨hsame, hupper⟩ | ⟨halpha, hlower⟩
    · exact .inl ⟨by rw [hsame], hupper⟩
    · refine .inr ⟨not_isMark (.inr halpha), by simp, fun e he => ?_⟩
      rw [List.mem_singleton.mp he]
      exact hletter (.inr hlower)
  · rename_i hascii
    have hcode : 128 ≤ c.toNat := by simpa using hascii
    split
    · refine .inr ⟨not_isMark (.inl hcode), by simp, fun e he => ?_⟩
      simp only [List.mem_cons, List.not_mem_nil, or_false] at he
      rcases he with rfl | rfl <;> decide
    · split
      · rename_i image himage
        refine .inr ⟨not_isMark (.inl hcode), by simp, fun e he => ?_⟩
        rw [List.mem_singleton.mp he]
        exact hletter (imageOf?_lands lowerRuns_land himage)
      · exact .inl ⟨rfl, not_isUpper (.inl hcode)⟩

/-- In upper case a character stays, or it is no mark and becomes characters that are no marks. -/
theorem upperOne_cases (c : Char) :
    upperOne c = [c] ∨ (¬ IsMark c ∧ ∀ e ∈ upperOne c, ¬ IsMark e) := by
  have hletter {e : Char} (h : 128 ≤ e.toNat ∨ e.isUpper = true) : ¬ IsMark e :=
    not_isMark (h.imp_right fun h => show (e.isUpper || e.isLower) = true by simp [h])
  unfold upperOne
  split
  · rename_i hascii
    have hcases := ascii_toUpper (n := c.toNat) (by simpa using hascii)
    simp only [Char.ofNat_toNat] at hcases
    rcases hcases with hsame | ⟨halpha, hupper⟩
    · exact .inl (by rw [hsame])
    · refine .inr ⟨not_isMark (.inr halpha), fun e he => ?_⟩
      rw [List.mem_singleton.mp he]
      exact hletter (.inr hupper)
  · rename_i hascii
    have hcode : 128 ≤ c.toNat := by simpa using hascii
    refine Or.symm ?_
    split
    · rename_i spelling hspelling
      obtain ⟨l₁, l₂, hl, -⟩ := List.lookup_eq_some_iff.mp hspelling
      have hmem : (c.toNat, spelling) ∈ upperSpellings := by simp [hl]
      refine .inl ⟨not_isMark (.inl hcode), fun e he => ?_⟩
      obtain ⟨code, hmemCode, rfl⟩ := List.mem_map.mp he
      exact hletter (upperSpellings_land _ hmem code hmemCode)
    · split
      · rename_i image himage
        refine .inl ⟨not_isMark (.inl hcode), fun e he => ?_⟩
        rw [List.mem_singleton.mp he]
        exact hletter (imageOf?_lands upperRuns_land himage)
      · exact .inr rfl

/-- A case map that leaves marks alone and makes none keeps their number. -/
theorem count_image {mark c : Char} {image : Text} (hmark : IsMark mark)
    (h : image = [c] ∨ (¬ IsMark c ∧ ∀ e ∈ image, ¬ IsMark e)) :
    image.count mark = if c == mark then 1 else 0 := by
  rcases h with rfl | ⟨hc, himage⟩
  · exact List.count_singleton
  · have hne : c ≠ mark := by
      rintro rfl
      exact hc hmark
    have hno : mark ∉ image := fun hmem => himage mark hmem hmark
    rw [List.count_eq_zero_of_not_mem hno, if_neg (by simpa using hne)]

/-- A text holds a mark as often in lower case as before. -/
theorem count_lowerFrom {mark : Char} (hmark : IsMark mark) (behind : Bool) (text : Text) :
    (lowerFrom behind text).count mark = text.count mark := by
  induction text generalizing behind with
  | nil => rfl
  | cons c rest ih =>
    simp only [lowerFrom, List.count_append, ih, List.count_cons]
    rw [Nat.add_comm, Nat.add_left_cancel_iff]
    apply count_image hmark
    by_cases hc : c = 'Σ'
    · right
      rw [if_pos hc, hc]
      refine ⟨by decide, fun e he => ?_⟩
      split at he <;> rw [List.mem_singleton.mp he] <;> decide
    · rw [if_neg hc]
      exact (lowerOne_cases c).imp And.left fun h => ⟨h.1, fun e he => (h.2.2 e he).1⟩

theorem lowerFrom_ne_nil {text : Text} (h : text ≠ []) (behind : Bool) :
    lowerFrom behind text ≠ [] := by
  obtain ⟨c, rest, rfl⟩ := List.exists_cons_of_ne_nil h
  simp only [lowerFrom]
  apply List.append_ne_nil_of_left_ne_nil
  by_cases hc : c = 'Σ'
  · rw [if_pos hc]
    split <;> simp
  · rw [if_neg hc]
    rcases lowerOne_cases c with ⟨hsame, -⟩ | ⟨-, hne, -⟩
    · simp [hsame]
    · exact hne

/-- Lower case has no ASCII capitals. -/
theorem not_isUpper_of_lowerFrom {c : Char} {text : Text} {behind : Bool}
    (h : c ∈ lowerFrom behind text) : c.isUpper = false := by
  induction text generalizing behind with
  | nil => cases h
  | cons d rest ih =>
    simp only [lowerFrom, List.mem_append] at h
    rcases h with h | h
    · by_cases hd : d = 'Σ'
      · rw [if_pos hd] at h
        split at h <;> rw [List.mem_singleton.mp h] <;> decide
      · rw [if_neg hd] at h
        rcases lowerOne_cases d with ⟨hsame, hupper⟩ | ⟨-, -, himage⟩
        · rw [hsame] at h
          rwa [List.mem_singleton.mp h]
        · exact (himage c h).2
    · exact ih h

/-- A text that starts with a mark in lower case starts with it. -/
theorem exists_of_lowerFrom {mark : Char} (hmark : IsMark mark) {behind : Bool} {text rest : Text}
    (h : lowerFrom behind text = mark :: rest) : ∃ more, text = mark :: more := by
  cases text with
  | nil => cases h
  | cons c more =>
    rw [lowerFrom] at h
    by_cases hc : c = 'Σ'
    · exfalso
      rw [if_pos hc] at h
      split at h <;> obtain ⟨rfl, -⟩ := List.cons.inj h <;> revert hmark <;> decide
    · rw [if_neg hc] at h
      rcases lowerOne_cases c with ⟨hsame, -⟩ | ⟨-, hne, himage⟩
      · rw [hsame] at h
        exact ⟨more, by rw [(List.cons.inj h).1]⟩
      · exfalso
        obtain ⟨d, image, hd⟩ := List.exists_cons_of_ne_nil hne
        rw [hd] at h himage
        obtain ⟨rfl, -⟩ := List.cons.inj h
        exact (himage d List.mem_cons_self).1 hmark

end ImportLift.Text
