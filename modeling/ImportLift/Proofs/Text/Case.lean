-- Lower case in front of an ending. Only a capital sigma looks at its
-- neighbours, and all it asks of what follows is whether the first character
-- that is not passed over has case. So all endings that begin with a dot and a
-- letter leave the same lower case in front of them.
import ImportLift.Text.Case

namespace ImportLift.Text

/-! ## Splitting off an ending -/

/-- Lower case from here on, for a text that a character with case follows. -/
def lowerBefore : Bool → Text → Text
  | _, [] => []
  | behind, c :: rest =>
    let ahead := rest.all isCaseIgnorable || casedAhead rest
    let image := if c = 'Σ' then (if behind && !ahead then ['ς'] else ['σ']) else lowerOne c
    let behind := if c.toNat < 128 && c.isAlphanum then c.isAlpha
      else if isCaseIgnorable c then behind else isCased c
    image ++ lowerBefore behind rest

/-- The text starts with case and is the same in lower case behind any text. -/
def IsEnding (ending : Text) : Prop :=
  casedAhead ending = true ∧ ∀ behind, lowerFrom behind ending = lower ending

theorem casedAhead_append (text : Text) {ending : Text} (h : casedAhead ending = true) :
    casedAhead (text ++ ending) = (text.all isCaseIgnorable || casedAhead text) := by
  induction text with
  | nil => simpa using h
  | cons c rest ih =>
    unfold casedAhead at ih ⊢
    cases hc : isCaseIgnorable c with
    | true => simpa [hc] using ih
    | false => simp [hc]

theorem lowerFrom_append {ending : Text} (h : IsEnding ending) (behind : Bool) (text : Text) :
    lowerFrom behind (text ++ ending) = lowerBefore behind text ++ lower ending := by
  induction text generalizing behind with
  | nil => exact h.2 behind
  | cons c rest ih =>
    simp only [List.cons_append, lowerFrom, lowerBefore, casedAhead_append rest h.1, ih,
      List.append_assoc]

/-! ## Letters that only they themselves lead to -/

/-- Outside ASCII, no character has an image in front of `k`. -/
theorem imageOf?_lowerRuns {n image : Nat} (h : imageOf? lowerRuns n = some image) :
    107 ≤ image := by
  obtain ⟨run, hrun, himage⟩ := List.exists_of_findSome?_eq_some h
  have hruns : ∀ run ∈ lowerRuns, 107 ≤ run.2.2.2 := by decide +kernel
  have hfirst := hruns run hrun
  obtain ⟨first, last, step, start⟩ := run
  simp only [Option.ite_none_right_eq_some, Option.some.injEq] at himage
  simp only at hfirst
  omega

theorem toNat_ofNat (n : Nat) : (Char.ofNat n).toNat = n ∨ (Char.ofNat n).toNat = 0 := by
  by_cases hvalid : n.isValidChar
  · left
    rw [Char.ofNat, dif_pos hvalid]
    rfl
  · right
    rw [Char.ofNat, dif_neg hvalid]
    rfl

theorem ascii_letter {n : Nat} (hn : n < 128)
    (h : (Char.ofNat n).toLower = 'j' ∨ (Char.ofNat n).toLower = 'h') :
    isCased (Char.ofNat n) = true ∧ isCaseIgnorable (Char.ofNat n) = false := by
  revert n
  decide +kernel

/-- A character whose lower case begins with one of the two letters has case. -/
theorem cased_of_lowerOne {c l : Char} {text rest : Text} (hl : l = 'j' ∨ l = 'h')
    (h : lowerOne c ++ text = l :: rest) : isCased c = true ∧ isCaseIgnorable c = false := by
  have hsmall : l.toNat < 107 := by
    rcases hl with rfl | rfl <;> decide
  unfold lowerOne at h
  split at h
  · rename_i hascii
    have hlower : c.toLower = l := by
      simpa using congrArg List.head? h
    rw [← Char.ofNat_toNat c] at hlower ⊢
    exact ascii_letter (by simpa using hascii) (by rw [hlower]; exact hl)
  · split at h
    · have hi : l = 'i' := by
        simpa using (congrArg List.head? h).symm
      rcases hl with rfl | rfl <;> simp at hi
    · rename_i hascii _
      split at h
      · rename_i image himage
        have hle := imageOf?_lowerRuns himage
        have hc : Char.ofNat image = l := by
          simpa using congrArg List.head? h
        have hcode := toNat_ofNat image
        rw [hc] at hcode
        rcases hl with rfl | rfl <;> simp at hcode <;> omega
      · have hc : c = l := by
          simpa using congrArg List.head? h
        rw [hc] at hascii
        omega

/-! ## Suffixes are endings -/

/-- Where lower case holds no small sigma, what stands behind does not count. -/
theorem lowerFrom_congr {b b' : Bool} {text : Text} (hsigma : 'σ' ∉ lowerFrom b text)
    (hfinal : 'ς' ∉ lowerFrom b text) : lowerFrom b' text = lowerFrom b text := by
  induction text generalizing b b' with
  | nil => rfl
  | cons c rest ih =>
    simp only [lowerFrom, List.mem_append, not_or] at hsigma hfinal ⊢
    rw [ih hsigma.2 hfinal.2]
    by_cases hc : c = 'Σ'
    · -- Either form of its image is one that the text does not hold.
      exfalso
      simp only [hc, if_true] at hsigma hfinal
      split at hsigma
      · simp_all
      · simp at hsigma
    · simp only [if_neg hc]

theorem isEnding_of_lower {letters rest : Text} {l : Char} (hl : l = 'j' ∨ l = 'h')
    (h : lower ('.' :: letters) = '.' :: l :: rest) (hsigma : 'σ' ∉ rest) (hfinal : 'ς' ∉ rest) :
    IsEnding ('.' :: letters) := by
  have hletters : lowerFrom false letters = l :: rest := by
    have hdot : lower ('.' :: letters) = '.' :: lowerFrom false letters := rfl
    rw [hdot] at h
    exact (List.cons.inj h).2
  have hne : l ≠ 'σ' ∧ l ≠ 'ς' := by
    rcases hl with rfl | rfl <;> decide
  constructor
  · cases letters with
    | nil => simp [lowerFrom] at hletters
    | cons c more =>
      by_cases hc : c = 'Σ'
      · subst hc
        have : 'σ' = l := by simpa [lowerFrom] using congrArg List.head? hletters
        exact absurd this.symm hne.1
      · simp only [lowerFrom, if_neg hc] at hletters
        obtain ⟨hcased, hseen⟩ := cased_of_lowerOne hl hletters
        have hdot : isCaseIgnorable '.' = true := by decide
        simp [casedAhead, hdot, hseen, hcased]
  · intro behind
    apply lowerFrom_congr
    · rw [← lower, h]
      simp [hsigma, hne.1.symm]
    · rw [← lower, h]
      simp [hfinal, hne.2.symm]

end ImportLift.Text
