-- Words found without regard to case. A word stands at a place when its
-- letters match one by one, and such a word cannot run over a character that
-- none of its letters matches. So a text is searched in parts: an occurrence
-- lies on one side of a bracket that the word does not hold, and one that
-- starts with a bracket lies on one side of the next bracket.
import ImportLift.Text.Blank
import ImportLift.Text.Fold

namespace ImportLift.Text

/-- The text starts with the word, case disregarded; the word is given in small letters. -/
def startsFolded : Text → Text → Bool
  | [], _ => true
  | _ :: _, [] => false
  | letter :: word, c :: rest => sameFolded letter c && startsFolded word rest

/-- The word stands somewhere in the text, case disregarded. -/
def holdsFolded (word : Text) : Text → Bool
  | [] => word.isEmpty
  | c :: rest => startsFolded word (c :: rest) || holdsFolded word rest

/-- No letter of the word matches the character. -/
def bars (c : Char) (word : Text) : Bool := word.all fun letter => !sameFolded letter c

/-- What holds of every character of a text is decided on its own characters, not on all
characters there are. -/
instance decidableForallMem (text : Text) (p : Char → Prop) [DecidablePred p] :
    Decidable (∀ c ∈ text, p c) := List.decidableBAll p text

/-! ## A word at the start of a text -/

/-- A word does not start at a character that its first letter does not match. -/
theorem startsFolded_of_head? (letter : Char) {word : Text} {c : Char}
    (hword : word.head? = some letter) (hc : sameFolded letter c = false) (text : Text) :
    startsFolded word (c :: text) = false := by
  cases word with
  | nil => cases hword
  | cons l word =>
    cases hword
    rw [startsFolded, hc, Bool.false_and]

/-- A word does not run over a character that bars it. -/
theorem startsFolded_append {c : Char} {word : Text} (h : bars c word) (text rest : Text) :
    startsFolded word (text ++ c :: rest) = startsFolded word text := by
  induction word generalizing text with
  | nil => simp [startsFolded]
  | cons letter word ih =>
    simp only [bars, List.all_cons, Bool.and_eq_true, Bool.not_eq_true'] at h
    cases text with
    | nil => simp [startsFolded, h.1]
    | cons d text => rw [List.cons_append, startsFolded, startsFolded, ih h.2]

/-- A word that starts before a character does not run over it when it bars the further letters. -/
theorem startsFolded_cons_append {c : Char} {word : Text} (h : bars c word) (letter d : Char)
    (text rest : Text) :
    startsFolded (letter :: word) (d :: text ++ c :: rest) =
      startsFolded (letter :: word) (d :: text) := by
  rw [List.cons_append, startsFolded, startsFolded, startsFolded_append h]

/-- Behind a character that bars a word, more text makes no difference. -/
theorem startsFolded_of_mem {c : Char} {word text : Text} (h : bars c word) (hc : c ∈ text)
    (rest : Text) : startsFolded word (text ++ rest) = startsFolded word text := by
  obtain ⟨before, after, rfl⟩ := List.append_of_mem hc
  rw [List.append_assoc, List.cons_append, startsFolded_append h, startsFolded_append h]

/-- More text behind leaves a word where it stands. -/
theorem startsFolded_of_prefix {word text : Text} (h : startsFolded word text) (rest : Text) :
    startsFolded word (text ++ rest) = true := by
  induction word generalizing text with
  | nil => cases text <;> cases rest <;> rfl
  | cons letter word ih =>
    cases text with
    | nil => cases h
    | cons d text =>
      rw [startsFolded, Bool.and_eq_true] at h
      rw [List.cons_append, startsFolded, h.1, ih h.2]
      rfl

/-- The beginning of a word stands where the word stands. -/
theorem startsFolded_left {word more text : Text} (h : startsFolded (word ++ more) text) :
    startsFolded word text = true := by
  induction word generalizing text with
  | nil => rfl
  | cons letter word ih =>
    cases text with
    | nil => cases h
    | cons d text =>
      rw [List.cons_append, startsFolded, Bool.and_eq_true] at h
      rw [startsFolded, h.1, ih h.2]
      rfl

/-- A text that starts with a word is no shorter. -/
theorem length_of_startsFolded {word text : Text} (h : startsFolded word text) :
    word.length ≤ text.length := by
  induction word generalizing text with
  | nil => exact Nat.zero_le _
  | cons letter word ih =>
    cases text with
    | nil => cases h
    | cons c text =>
      rw [startsFolded, Bool.and_eq_true] at h
      exact Nat.succ_le_succ (ih h.2)

/-- What a word covers holds no character that bars it. -/
theorem not_mem_take {c : Char} {word text : Text} (hstarts : startsFolded word text)
    (h : bars c word) : c ∉ text.take word.length := by
  induction word generalizing text with
  | nil => simp
  | cons letter word ih =>
    cases text with
    | nil => simp
    | cons d text =>
      simp only [bars, List.all_cons, Bool.and_eq_true, Bool.not_eq_true'] at h
      rw [startsFolded, Bool.and_eq_true] at hstarts
      simp only [List.length_cons, List.take_succ_cons, List.mem_cons, not_or]
      refine ⟨?_, ih hstarts.2 h.2⟩
      rintro rfl
      rw [h.1] at hstarts
      cases hstarts.1

/-! ## A word somewhere in a text -/

/-- A word that a text does not hold starts at none of its places. -/
theorem startsFolded_of_not_held {letter : Char} {word before after : Text}
    (h : holdsFolded (letter :: word) (before ++ after) = false) :
    startsFolded (letter :: word) after = false := by
  induction before with
  | nil =>
    cases after with
    | nil => rfl
    | cons c after =>
      rw [List.nil_append, holdsFolded, Bool.or_eq_false_iff] at h
      exact h.1
  | cons c before ih =>
    rw [List.cons_append, holdsFolded, Bool.or_eq_false_iff] at h
    exact ih h.2

/-- A text that no place of which starts with the word does not hold it. -/
theorem holdsFolded_eq_false {letter : Char} {word text : Text}
    (h : ∀ before c after, text = before ++ c :: after →
      startsFolded (letter :: word) (c :: after) = false) :
    holdsFolded (letter :: word) text = false := by
  induction text with
  | nil => rfl
  | cons c text ih =>
    rw [holdsFolded, Bool.or_eq_false_iff]
    refine ⟨h [] c text rfl, ih fun before d after htext => ?_⟩
    exact h (c :: before) d after (by rw [htext]; rfl)

theorem holdsFolded_of_suffix {letter : Char} {word before after : Text}
    (h : holdsFolded (letter :: word) (before ++ after) = false) :
    holdsFolded (letter :: word) after = false := by
  apply holdsFolded_eq_false
  intro before' c after' hafter
  rw [hafter, ← List.append_assoc] at h
  exact startsFolded_of_not_held h

/-- A part of a text that does not hold the word does not hold it either. -/
theorem holdsFolded_of_infix {letter : Char} {word part text : Text} (hpart : part <:+: text)
    (h : holdsFolded (letter :: word) text = false) :
    holdsFolded (letter :: word) part = false := by
  obtain ⟨before, after, rfl⟩ := hpart
  apply holdsFolded_eq_false
  intro front c back hsplit
  rw [hsplit, ← List.append_assoc, List.append_assoc] at h
  have hnone := startsFolded_of_not_held h
  rw [Bool.eq_false_iff] at hnone ⊢
  intro hstarts
  apply hnone
  exact startsFolded_of_prefix hstarts after

/-- An occurrence lies on one side of a character that bars the word. -/
theorem holdsFolded_append {c letter : Char} {word : Text} (h : bars c (letter :: word))
    (text rest : Text) :
    holdsFolded (letter :: word) (text ++ c :: rest) =
      (holdsFolded (letter :: word) text || holdsFolded (letter :: word) rest) := by
  induction text with
  | nil =>
    have hc : startsFolded (letter :: word) (c :: rest) = false := startsFolded_append h [] rest
    simp only [List.nil_append, holdsFolded, hc]
    rfl
  | cons d text ih =>
    have hd := startsFolded_append h (d :: text) rest
    simp only [List.cons_append] at hd ⊢
    simp only [holdsFolded, ih, hd, Bool.or_assoc]

/-- An occurrence lies on one side of a character that bars the further letters of the word. -/
theorem holdsFolded_append_cons {c letter : Char} {word : Text} (h : bars c word)
    (text rest : Text) :
    holdsFolded (letter :: word) (text ++ c :: rest) =
      (holdsFolded (letter :: word) text || holdsFolded (letter :: word) (c :: rest)) := by
  induction text with
  | nil => rfl
  | cons d text ih =>
    have hd := startsFolded_cons_append h letter d text rest
    simp only [List.cons_append] at hd ⊢
    simp only [holdsFolded, ih, hd, Bool.or_assoc]

/-- A text without the first letter does not hold the word. -/
theorem holdsFolded_of_forall {letter : Char} {word text : Text}
    (h : ∀ c ∈ text, sameFolded letter c = false) : holdsFolded (letter :: word) text = false := by
  apply holdsFolded_eq_false
  intro before c after htext
  rw [startsFolded, h c (by rw [htext]; simp), Bool.false_and]

/-! ## A word that starts nowhere in a part -/

/-- The word starts at no place of the text, also when more text follows. -/
def Quiet (word text rest : Text) : Prop :=
  ∀ before c after, text = before ++ c :: after → startsFolded word (c :: after ++ rest) = false

/-- A text that ends in a character which bars the word is quiet if it does not hold the word. -/
theorem quiet_of_getLast? {c letter : Char} {word text : Text} (hbars : bars c (letter :: word))
    (hlast : text.getLast? = some c) (h : holdsFolded (letter :: word) text = false)
    (rest : Text) : Quiet (letter :: word) text rest := by
  intro before d after htext
  have hmem : c ∈ d :: after := by
    apply List.mem_of_getLast?
    simpa [htext, List.getLast?_cons] using hlast
  rw [startsFolded_of_mem hbars hmem]
  rw [htext] at h
  exact startsFolded_of_not_held h

/-- A text that nothing follows, or a character which bars the further letters of the word, is
quiet if it does not hold the word. -/
theorem quiet_of_head? {letter : Char} {word text rest : Text}
    (hrest : ∀ c, rest.head? = some c → bars c word)
    (h : holdsFolded (letter :: word) text = false) : Quiet (letter :: word) text rest := by
  intro before d after htext
  rw [htext] at h
  have hhere := startsFolded_of_not_held h
  cases rest with
  | nil => rwa [List.append_nil]
  | cons c rest => rwa [startsFolded_cons_append (hrest c rfl)]

/-! ## Marks and blank characters -/

theorem toLower_eq_self {c : Char} (h : c.toNat < 65 ∨ 90 < c.toNat) : c.toLower = c := by
  unfold Char.toLower
  split
  · rename_i hupper
    have hcode : 65 ≤ c.toNat ∧ c.toNat ≤ 90 := hupper
    omega
  · rfl

theorem isLower_toLower {n : Nat} (hn : n < 91) (h : 65 ≤ n) :
    (Char.ofNat n).toLower.isLower = true := by
  revert n
  decide

theorem eq_of_toLower {mark c : Char} (hmark : mark.isLower = false) (h : c.toLower = mark) :
    c = mark := by
  by_cases hcode : c.toNat < 65 ∨ 90 < c.toNat
  · rwa [toLower_eq_self hcode] at h
  · have himage := isLower_toLower (n := c.toNat) (by omega) (by omega)
    rw [Char.ofNat_toNat, h, hmark] at himage
    cases himage

/-- Only the mark itself matches a mark that is no small letter. -/
theorem sameFolded_mark {mark c : Char} (hmark : mark.isLower = false) (h : c ≠ mark) :
    sameFolded mark c = false := by
  have hlower : c.toLower ≠ mark := fun hc => h (eq_of_toLower hmark hc)
  have hnone : foldsInto mark = [] := by
    unfold foldsInto
    split
    · cases hmark
    · cases hmark
    · cases hmark
    · rfl
  simp [sameFolded, hlower, hnone]

theorem mem_foldsInto {letter c : Char} (h : c ∈ foldsInto letter) :
    (letter = 's' ∧ c = 'ſ') ∨ (letter = 'i' ∧ (c = 'ı' ∨ c = 'İ')) ∨
      (letter = 'k' ∧ c = '\u212A') := by
  unfold foldsInto at h
  split at h
  · exact .inl ⟨rfl, by simpa using h⟩
  · exact .inr (.inl ⟨rfl, by simpa using h⟩)
  · exact .inr (.inr ⟨rfl, by simpa using h⟩)
  · cases h

/-- A character that folds to a letter has no small letter of its own in ASCII. -/
theorem toLower_of_mem_foldsInto {letter c : Char} (h : c ∈ foldsInto letter) :
    128 ≤ c.toLower.toNat := by
  rcases mem_foldsInto h with ⟨-, rfl⟩ | ⟨-, rfl | rfl⟩ | ⟨-, rfl⟩ <;> decide

/-- A character matches one ASCII letter at most. -/
theorem sameFolded_unique {a b c : Char} (ha : a.toNat < 128) (hb : b.toNat < 128)
    (hca : sameFolded a c = true) (hcb : sameFolded b c = true) : a = b := by
  simp only [sameFolded, Bool.or_eq_true, decide_eq_true_eq, List.contains_iff_mem] at hca hcb
  rcases hca with hca | hca
  · rcases hcb with hcb | hcb
    · exact hca.symm.trans hcb
    · have hfar := toLower_of_mem_foldsInto hcb
      rw [hca] at hfar
      omega
  · rcases hcb with hcb | hcb
    · have hfar := toLower_of_mem_foldsInto hca
      rw [hcb] at hfar
      omega
    · have hfirst := mem_foldsInto hca
      have hsecond := mem_foldsInto hcb
      grind

/-- In ASCII only the two cases of a letter match it. -/
theorem sameFolded_ascii {c : Char} (hc : c.toNat < 128) (letter : Char) :
    sameFolded letter c = decide (c.toLower = letter) := by
  have hnone : (foldsInto letter).contains c = false := by
    rw [List.contains_eq_mem, decide_eq_false_iff_not]
    intro hmem
    rcases mem_foldsInto hmem with ⟨-, rfl⟩ | ⟨-, rfl | rfl⟩ | ⟨-, rfl⟩ <;> revert hc <;> decide
  rw [sameFolded, hnone, Bool.or_false]

/-- An ASCII text starts with a word, case disregarded, if it does in small letters. -/
theorem startsFolded_ascii {word text : Text} (htext : ∀ c ∈ text, c.toNat < 128) :
    startsFolded word text = true ↔ word <+: text.map Char.toLower := by
  induction word generalizing text with
  | nil => simp [startsFolded]
  | cons letter word ih =>
    cases text with
    | nil => simp [startsFolded]
    | cons c text =>
      obtain ⟨hc, htext⟩ := List.forall_mem_cons.mp htext
      rw [startsFolded, Bool.and_eq_true, ih htext, sameFolded_ascii hc, List.map_cons,
        List.cons_prefix_cons, decide_eq_true_eq, eq_comm]

theorem toLower_of_blank {c : Char} (h : isBlank c = true) : c.toLower = c := by
  apply toLower_eq_self
  unfold isBlank at h
  split at h
  · simp only [Bool.or_eq_true, Bool.and_eq_true, decide_eq_true_eq] at h
    rcases h with (rfl | h) | h
    · left
      decide
    · omega
    · omega
  · omega

/-- A blank character matches blank letters only. -/
theorem sameFolded_of_blank {letter c : Char} (hletter : isBlank letter = false)
    (hc : isBlank c = true) : sameFolded letter c = false := by
  rw [sameFolded, toLower_of_blank hc, Bool.or_eq_false_iff]
  refine ⟨?_, ?_⟩
  · rw [decide_eq_false_iff_not]
    rintro rfl
    rw [hc] at hletter
    cases hletter
  · unfold foldsInto
    split
    all_goals
      rw [List.contains_eq_mem, decide_eq_false_iff_not]
      intro hmem
      simp only [List.mem_cons, List.not_mem_nil, or_false] at hmem
    · rw [hmem] at hc
      revert hc
      decide
    · rcases hmem with rfl | rfl
      · revert hc
        decide
      · revert hc
        decide
    · rw [hmem] at hc
      revert hc
      decide

/-! ## Brackets -/

theorem startsFolded_bracket {word text : Text} (h : startsFolded ('<' :: word) text = true) :
    ∃ more, text = '<' :: more ∧ startsFolded word more = true := by
  cases text with
  | nil => cases h
  | cons c text =>
    rw [startsFolded, Bool.and_eq_true] at h
    by_cases hc : c = '<'
    · exact ⟨text, by rw [hc], h.2⟩
    · rw [sameFolded_mark rfl hc] at h
      cases h.1

theorem bracket_not_mem {run : Text} (h : ∀ ch ∈ run, isBlank ch = true) : '<' ∉ run := by
  intro hmem
  have hbracket := h _ hmem
  revert hbracket
  decide

/-- The first bracket of a text stands at the end of its first part or inside of it. -/
theorem first_bracket {before after text rest : Text} (hbefore : '<' ∉ before)
    (h : text ++ '<' :: rest = before ++ '<' :: after) :
    (text = before ∧ rest = after) ∨
      ∃ more, text = before ++ '<' :: more ∧ more ++ '<' :: rest = after := by
  induction before generalizing text with
  | nil =>
    cases text with
    | nil => exact .inl ⟨rfl, (List.cons.inj h).2⟩
    | cons c text =>
      obtain ⟨rfl, hafter⟩ := List.cons.inj h
      exact .inr ⟨text, rfl, hafter⟩
  | cons b before ih =>
    rw [List.mem_cons, not_or] at hbefore
    cases text with
    | nil => exact absurd (List.cons.inj h).1 hbefore.1
    | cons c text =>
      obtain ⟨rfl, hlater⟩ := List.cons.inj h
      rcases ih hbefore.2 hlater with ⟨rfl, hrest⟩ | ⟨more, rfl, hmore⟩
      · exact .inl ⟨rfl, hrest⟩
      · exact .inr ⟨more, rfl, hmore⟩

theorem holdsFolded_free {word text : Text} (h : '<' ∉ text) :
    holdsFolded ('<' :: word) text = false := by
  apply holdsFolded_of_forall
  intro c hc
  apply sameFolded_mark rfl
  rintro rfl
  exact h hc

theorem holdsFolded_tag {word text : Text} (h : '<' ∉ text)
    (hstarts : startsFolded word text = false) :
    holdsFolded ('<' :: word) ('<' :: text) = false := by
  rw [holdsFolded, startsFolded, hstarts, holdsFolded_free h, Bool.and_false]
  rfl

end ImportLift.Text
