-- What the ways of a pattern cover. Each kind of pattern has one lemma that
-- reads a way backwards: what text lies between its two ends, and what was
-- kept. A longer pattern is read part by part, so the text that a rule has
-- matched is known piece by piece.
import ImportLift.Proofs.Pattern.Place

namespace ImportLift

/-- A word as it may be written, in any case; the word is given in small letters. -/
abbrev Text.Spelling (word : Text) :=
  {text : Text // text.length = word.length ∧ Text.startsFolded word text = true}

namespace Pattern

section

variable {p q : Pattern} {ps : List Pattern} {c c' : Cursor} {kept kept' : Captures}
  {ok : Char → Bool} {behind : Option Char} {rest : Text}

/-! ## One part after another -/

theorem Reaches.of_all_cons (h : (all (p :: ps)).Reaches c kept c' kept') :
    ∃ c₁ kept₁, p.Reaches c kept c₁ kept₁ ∧ (all ps).Reaches c₁ kept₁ c' kept' := by
  cases ps with
  | nil => exact ⟨c', kept', h, .nothing c' kept'⟩
  | cons q ps =>
    cases h with
    | seq hp hps => exact ⟨_, _, hp, hps⟩

theorem Reaches.of_nil (h : (all []).Reaches c kept c' kept') : c' = c ∧ kept' = kept := by
  cases h with
  | nothing => exact ⟨rfl, rfl⟩

theorem Reaches.of_maybe (h : (maybe p).Reaches c kept c' kept') :
    p.Reaches c kept c' kept' ∨ (c' = c ∧ kept' = kept) := by
  cases h with
  | left _ hp => exact .inl hp
  | right _ hnothing =>
    cases hnothing with
    | nothing => exact .inr ⟨rfl, rfl⟩

/-! ## Characters and words -/

theorem Reaches.of_one (h : (Pattern.one ok).Reaches c kept c' kept') :
    ∃ ch, ok ch = true ∧ c.rest = ch :: c'.rest ∧ kept' = kept := by
  cases h with
  | one behind rest kept hok => exact ⟨_, hok, rfl, rfl⟩

theorem Reaches.of_mark {m : Char} (h : (mark m).Reaches c kept c' kept') :
    c.rest = m :: c'.rest ∧ kept' = kept := by
  obtain ⟨ch, hch, hrest, hkept⟩ := h.of_one
  rw [of_decide_eq_true hch] at hrest
  exact ⟨hrest, hkept⟩

theorem Reaches.of_most (h : (Pattern.most ok).Reaches c kept c' kept') :
    ∃ run : Text, (∀ ch ∈ run, ok ch = true) ∧ c.rest = run ++ c'.rest ∧ kept' = kept := by
  cases h with
  | most behind rest kept hrun => exact ⟨_, hrun, rfl, rfl⟩

theorem Reaches.of_some1 (h : (some1 ok).Reaches c kept c' kept') :
    ∃ run : Text, run ≠ [] ∧ (∀ ch ∈ run, ok ch = true) ∧ c.rest = run ++ c'.rest ∧
      kept' = kept := by
  cases h with
  | seq hone hmost =>
    obtain ⟨ch, hch, hfirst, rfl⟩ := hone.of_one
    obtain ⟨run, hrun, hrest, rfl⟩ := hmost.of_most
    refine ⟨ch :: run, by simp, List.forall_mem_cons.mpr ⟨hch, hrun⟩, ?_, rfl⟩
    rw [hfirst, hrest, List.cons_append]

theorem Reaches.of_folded {word : Text} (h : (folded word).Reaches c kept c' kept') :
    ∃ text : Text.Spelling word, c.rest = text.val ++ c'.rest ∧ kept' = kept := by
  induction word generalizing c kept with
  | nil =>
    obtain ⟨rfl, rfl⟩ := h.of_nil
    exact ⟨⟨[], rfl, rfl⟩, rfl, rfl⟩
  | cons letter word ih =>
    obtain ⟨c₁, kept₁, hletter, hword⟩ := h.of_all_cons
    obtain ⟨ch, hch, hfirst, rfl⟩ := hletter.of_one
    obtain ⟨⟨text, hlength, hstarts⟩, hrest, rfl⟩ := ih hword
    refine ⟨⟨ch :: text, by simp [hlength], ?_⟩, ?_, rfl⟩
    · rw [Text.startsFolded, hch, hstarts]
      rfl
    · rw [hfirst, hrest, List.cons_append]

theorem Reaches.of_exactly {text : Text} (h : (exactly text).Reaches c kept c' kept') :
    c.rest = text ++ c'.rest ∧ kept' = kept := by
  induction text generalizing c kept with
  | nil =>
    obtain ⟨rfl, rfl⟩ := h.of_nil
    exact ⟨rfl, rfl⟩
  | cons m text ih =>
    obtain ⟨c₁, kept₁, hmark, htext⟩ := h.of_all_cons
    obtain ⟨hfirst, rfl⟩ := hmark.of_mark
    obtain ⟨hrest, rfl⟩ := ih htext
    exact ⟨by rw [hfirst, hrest, List.cons_append], rfl⟩

/-! ## What was kept -/

theorem Reaches.of_keep {name : Capture} (h : (Pattern.keep name p).Reaches c kept c' kept') :
    ∃ kept₁, p.Reaches c kept c' kept₁ ∧ kept' = (name, ⟨c, c'⟩) :: kept₁ := by
  cases h with
  | keep _ hp => exact ⟨_, hp, rfl⟩

theorem Reaches.of_same {name : Capture} (h : (Pattern.same name).Reaches c kept c' kept') :
    ∃ stretch, kept.lookup name = some stretch ∧ c.rest = stretch.text ++ c'.rest ∧
      kept' = kept := by
  cases h with
  | same hkept hpast => exact ⟨_, hkept, past?_eq_some hpast, rfl⟩

/-- The text of a stretch, when what lies between its ends is known. -/
theorem Stretch.text_eq {text : Text} (h : c.rest = text ++ c'.rest) :
    (⟨c, c'⟩ : Stretch).text = text := by
  simp [Stretch.text, Cursor.upTo, h]

/-! ## Words in any case -/

theorem spelling_ne_nil {word : Text} (text : Text.Spelling word) (h : word ≠ []) :
    text.val ≠ [] := by
  intro hnil
  have hlength := text.property.1
  rw [hnil] at hlength
  exact h (List.length_eq_zero_iff.mp hlength.symm)

/-- A word matches each of its spellings, and nothing else does. -/
theorem forced_spelling {word : Text} (text : Text.Spelling word) (h : word ≠ [])
    (kept : Captures) :
    Forced (folded word) ⟨behind, text.val ++ rest⟩ kept ⟨text.val.getLast?, rest⟩ kept := by
  have hlast : text.val.getLast? = text.val.getLast?.or behind := by
    rw [List.getLast?_eq_some_getLast (spelling_ne_nil text h), Option.some_or]
  rw [hlast]
  clear hlast h
  obtain ⟨text, hlength, hstarts⟩ := text
  induction word generalizing behind text with
  | nil =>
    obtain rfl : text = [] := List.length_eq_zero_iff.mp hlength
    exact forced_nothing _ _
  | cons letter word ih =>
    cases text with
    | nil => cases hlength
    | cons ch text =>
      rw [Text.startsFolded, Bool.and_eq_true] at hstarts
      rw [getLast?_or_cons]
      exact .all (.seq (forced_one hstarts.1 kept) (ih text (by simpa using hlength) hstarts.2))

end

end Pattern

end ImportLift
