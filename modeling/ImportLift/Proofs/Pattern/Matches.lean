-- The matches that a search gives. Each stands in the text at its offset, is
-- not empty and was found along a way of the pattern; they come in order and
-- do not overlap. So cutting them out of the text never fails.
import ImportLift.Harvest
import ImportLift.Proofs.Pattern.Reach
import ImportLift.Proofs.Span

namespace ImportLift

/-- The pattern has the match in front of the given rest: it is not empty, and what it
kept was kept on the way. -/
def Pattern.HasMatch (p : Pattern) (m : Match) (after : Text) : Prop :=
  m.text ≠ [] ∧ ∃ behind stop kept, stop.rest = after ∧
    p.Reaches ⟨behind, m.text ++ after⟩ [] stop kept ∧
    m.kept = kept.map fun (name, stretch) => (name, stretch.text)

/-- The match stands in the text at its offset. -/
def Match.StandsIn (m : Match) (text : Text) (p : Pattern) : Prop :=
  ∃ before after, text = before ++ m.text ++ after ∧ before.length = m.start ∧ p.HasMatch m after

namespace Pattern

/-! ## One match -/

theorem hasMatch_of_properAt? {p : Pattern} {c : Cursor} {text : Text} {kept : Parts}
    (h : p.properAt? c = some (text, kept)) (start : Nat) :
    ∃ after, c.rest = text ++ after ∧ p.HasMatch ⟨start, text, kept⟩ after := by
  obtain ⟨hm, hne⟩ := Option.filter_eq_some_iff.mp h
  obtain ⟨stop, found, hr, hs⟩ := reaches_of_run hm
  simp only [Option.some.injEq, Prod.mk.injEq] at hs
  obtain ⟨rfl, rfl⟩ := hs
  refine ⟨stop.rest, hr.upTo_append.symm, ?_, c.behind, stop, found, rfl, ?_, rfl⟩
  · simpa using hne
  · rw [hr.upTo_append]
    exact hr

/-! ## All matches -/

/-- A search that first skips some characters finds what stands behind these only, and each match
where it stands. -/
theorem properAt?_of_mem_findFrom {p : Pattern} {skip offset : Nat} {behind : Option Char}
    {text : Text} {m : Match} (h : m ∈ p.findFrom skip offset behind text) :
    ∃ before rest behind', text = before ++ rest ∧ m.start = offset + before.length ∧
      skip ≤ before.length ∧ p.properAt? ⟨behind', rest⟩ = some (m.text, m.kept) := by
  induction text generalizing skip offset behind with
  | nil => simp [findFrom] at h
  | cons ch text ih =>
    have later : ∀ skip', skip ≤ skip' + 1 → m ∈ p.findFrom skip' (offset + 1) (some ch) text →
        ∃ before rest behind', ch :: text = before ++ rest ∧ m.start = offset + before.length ∧
          skip ≤ before.length ∧ p.properAt? ⟨behind', rest⟩ = some (m.text, m.kept) := by
      intro skip' hskip hm
      obtain ⟨before, rest, behind', rfl, hstart, hle, hfound⟩ := ih hm
      refine ⟨ch :: before, rest, behind', rfl, ?_, ?_, hfound⟩
      · simp only [List.length_cons]
        omega
      · simp only [List.length_cons]
        omega
    cases skip with
    | succ skip => exact later skip (Nat.le_refl _) h
    | zero =>
      simp only [findFrom] at h
      split at h
      · rename_i found kept hfound
        rcases List.mem_cons.mp h with rfl | h
        · exact ⟨[], ch :: text, behind, rfl, rfl, Nat.le_refl _, hfound⟩
        · exact later _ (Nat.zero_le _) h
      · exact later 0 (Nat.zero_le _) h

theorem mem_findFrom {p : Pattern} {skip offset : Nat} {behind : Option Char} {text : Text}
    {m : Match} (h : m ∈ p.findFrom skip offset behind text) :
    ∃ before after, text = before ++ m.text ++ after ∧ m.start = offset + before.length ∧
      skip ≤ before.length ∧ p.HasMatch m after := by
  obtain ⟨before, rest, behind', rfl, hstart, hle, hfound⟩ := properAt?_of_mem_findFrom h
  obtain ⟨after, hrest, hhas⟩ := hasMatch_of_properAt? hfound m.start
  exact ⟨before, after, by rw [List.append_assoc, ← hrest], hstart, hle, hhas⟩

theorem findFrom_ordered (p : Pattern) (skip offset : Nat) (behind : Option Char) (text : Text) :
    (p.findFrom skip offset behind text).Pairwise fun a b => a.stop ≤ b.start := by
  induction text generalizing skip offset behind with
  | nil => simp [findFrom]
  | cons ch text ih =>
    cases skip with
    | succ skip => exact ih skip (offset + 1) (some ch)
    | zero =>
      simp only [findFrom]
      split
      · rename_i found kept hfound
        refine List.pairwise_cons.mpr ⟨fun m hm => ?_, ih _ _ _⟩
        obtain ⟨before, _, _, hstart, hle, _⟩ := mem_findFrom hm
        simp only [Match.stop]
        omega
      · exact ih _ _ _

theorem mem_findAll {p : Pattern} {text : Text} {m : Match} (h : m ∈ p.findAll text) :
    m.StandsIn text p := by
  obtain ⟨before, after, htext, hstart, _, hhas⟩ := mem_findFrom h
  exact ⟨before, after, htext, by omega, hhas⟩

theorem find?_standsIn {p : Pattern} {text : Text} {m : Match} (h : p.find? text = some m) :
    m.StandsIn text p :=
  mem_findAll (List.mem_of_head? h)

theorem findAll_ordered (p : Pattern) (text : Text) :
    (p.findAll text).Pairwise fun a b => a.stop ≤ b.start :=
  p.findFrom_ordered 0 0 none text

end Pattern

/-! ## The parts of a match -/

namespace Match

theorem StandsIn.hasMatch {m : Match} {text : Text} {p : Pattern} (h : m.StandsIn text p) :
    ∃ after, p.HasMatch m after :=
  let ⟨_, after, _, _, hhas⟩ := h
  ⟨after, hhas⟩

/-- What a match keeps is the text of a stretch that was captured on the way. -/
theorem exists_stretch {m : Match} {kept : Captures}
    (hkept : m.kept = kept.map fun (name, stretch) => (name, stretch.text)) {name : Capture}
    {value : Text} (hv : m.kept? name = some value) :
    ∃ s, (name, s) ∈ kept ∧ s.text = value := by
  obtain ⟨l₁, l₂, hl, -⟩ := List.lookup_eq_some_iff.mp hv
  have hmem : (name, value) ∈ m.kept := by rw [hl]; simp
  rw [hkept, List.mem_map] at hmem
  obtain ⟨⟨_, s⟩, hs, heq⟩ := hmem
  cases heq
  exact ⟨s, hs, rfl⟩

/-- What a match keeps under a name was matched by a pattern that keeps that name. -/
theorem StandsIn.kept?_matched {m : Match} {text : Text} {p : Pattern} (h : m.StandsIn text p)
    {name : Capture} {value : Text} (hv : m.kept? name = some value) :
    ∃ q, (name, q) ∈ p.keeps ∧
      ∃ c c' kept kept', q.Reaches c kept c' kept' ∧ value = c.upTo c' := by
  obtain ⟨_, _, _, _, kept, _, hr, hkept⟩ := h.hasMatch
  obtain ⟨s, hs, rfl⟩ := exists_stretch hkept hv
  rcases hr.kept_matched hs with h0 | ⟨q, hq, k, k', hqr⟩
  · cases h0
  · exact ⟨q, hq, s.start, s.stop, k, k', hqr, rfl⟩

/-- What a match keeps under a name that is only given to runs of some characters is such a run. -/
theorem StandsIn.kept?_run {m : Match} {text : Text} {p : Pattern} (h : m.StandsIn text p)
    {name : Capture} {ok : Char → Bool} (hkeeps : ∀ q, (name, q) ∈ p.keeps → q = .most ok)
    {value : Text} (hv : m.kept? name = some value) : ∀ ch ∈ value, ok ch = true := by
  obtain ⟨q, hq, c, c', kept, kept', hr, rfl⟩ := h.kept?_matched hv
  rw [hkeeps q hq] at hr
  cases hr with
  | most behind rest _ hrun => simpa [Cursor.upTo] using hrun

/-- What a match keeps is a part of the text that was searched. -/
theorem StandsIn.kept?_infix {m : Match} {text : Text} {p : Pattern} (h : m.StandsIn text p)
    {name : Capture} {value : Text} (hv : m.kept? name = some value) : value <:+: text := by
  obtain ⟨before, after, rfl, -, -, behind, _, kept, -, hr, hkept⟩ := h
  obtain ⟨s, hs, rfl⟩ := exists_stretch hkept hv
  rcases hr.kept_within hs with h0 | hwithin
  · cases h0
  · have hvalue : s.text <+: s.start.rest := List.take_prefix _ _
    have hrest : s.start.rest <:+ before ++ (m.text ++ after) :=
      hwithin.trans (List.suffix_append _ _)
    rw [List.append_assoc]
    exact hvalue.isInfix.trans hrest.isInfix

theorem StandsIn.kept?_of_alwaysKeeps {m : Match} {text : Text} {p : Pattern}
    (h : m.StandsIn text p) {name : Capture} (hp : p.alwaysKeeps name) :
    ∃ value, m.kept? name = some value := by
  obtain ⟨_, _, _, _, kept, _, hr, hkept⟩ := h.hasMatch
  obtain ⟨s, hs⟩ := hr.mem_of_alwaysKeeps hp
  apply Option.isSome_iff_exists.mp
  refine List.lookup_isSome_iff.mpr ⟨(name, s.text), ?_, by simp⟩
  rw [hkept]
  exact List.mem_map.mpr ⟨(name, s), hs, rfl⟩

theorem filled?_eq_some {m : Match} {name : Capture} {value : Text} :
    m.filled? name = some value ↔ m.kept? name = some value ∧ value.allBlank = false := by
  simp [filled?, Option.filter_eq_some_iff]

theorem filled?_eq_none {m : Match} {name : Capture} :
    m.filled? name = none ↔ ∀ value, m.kept? name = some value → value.allBlank := by
  simp [filled?, Option.filter_eq_none_iff]

end Match

/-! ## Cutting matches out -/

namespace Harvest

/-- The matches of a search stand in the text that was searched, one behind the other. -/
theorem fitIn_findAll (p : Pattern) (text : Text) :
    Span.FitIn ((p.findAll text).map spanOf) text := by
  have hplace : ∀ m ∈ p.findAll text, m.start < m.stop ∧ m.stop ≤ text.length := by
    intro m hm
    obtain ⟨before, after, htext, hstart, hne, _⟩ := Pattern.mem_findAll hm
    have hlength := congrArg List.length htext
    have hpos := List.length_pos_iff.mpr hne
    simp only [List.length_append] at hlength
    simp only [Match.stop]
    omega
  constructor
  · intro s hs
    obtain ⟨m, hm, rfl⟩ := List.mem_map.mp hs
    have hm := hplace m hm
    simp only [spanOf]
    omega
  · rw [List.pairwise_map]
    refine (p.findAll_ordered text).imp_of_mem fun {a b} ha _ hab => ?_
    have ha := hplace a ha
    simp only [spanOf]
    omega

/-- The matches of a search can be cut out of the text that was searched. -/
theorem remove_findAll (p : Pattern) (text : Text) :
    Span.remove text ((p.findAll text).map spanOf) = .ok (without text (p.findAll text)) :=
  (fitIn_findAll p text).remove

end Harvest

end ImportLift
