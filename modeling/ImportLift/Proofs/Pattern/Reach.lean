-- What a pattern may match, without the order in which its choices are tried.
-- `Reaches` says from which place a pattern leads to which other place and
-- what it keeps on the way. Every success of `run` follows such a way, so
-- what holds of every way holds of every match: text is only consumed, and
-- what is kept under a name was matched by a pattern that keeps that name.
import ImportLift.Rule

namespace ImportLift

namespace Pattern

/-! ## The ways through a text -/

/-- The pattern leads from one place to another, and the captures grow on the way. -/
inductive Reaches : Pattern → Cursor → Captures → Cursor → Captures → Prop
  | nothing (c : Cursor) (kept : Captures) : Reaches nothing c kept c kept
  | one {ok : Char → Bool} (behind : Option Char) {ch : Char} (rest : Text) (kept : Captures) :
      ok ch → Reaches (one ok) ⟨behind, ch :: rest⟩ kept ⟨some ch, rest⟩ kept
  | seq {p q : Pattern} {c c₁ c₂ : Cursor} {kept kept₁ kept₂ : Captures} :
      Reaches p c kept c₁ kept₁ → Reaches q c₁ kept₁ c₂ kept₂ → Reaches (seq p q) c kept c₂ kept₂
  | left {p : Pattern} (q : Pattern) {c c' : Cursor} {kept kept' : Captures} :
      Reaches p c kept c' kept' → Reaches (either p q) c kept c' kept'
  | right (p : Pattern) {q : Pattern} {c c' : Cursor} {kept kept' : Captures} :
      Reaches q c kept c' kept' → Reaches (either p q) c kept c' kept'
  | most {ok : Char → Bool} (behind : Option Char) {run : Text} (rest : Text) (kept : Captures) :
      (∀ ch ∈ run, ok ch) →
      Reaches (most ok) ⟨behind, run ++ rest⟩ kept ⟨run.getLast?.or behind, rest⟩ kept
  | least {ok : Char → Bool} (behind : Option Char) {run : Text} (rest : Text) (kept : Captures) :
      (∀ ch ∈ run, ok ch) →
      Reaches (least ok) ⟨behind, run ++ rest⟩ kept ⟨run.getLast?.or behind, rest⟩ kept
  | once {p : Pattern} {c c' : Cursor} {kept kept' : Captures} :
      Reaches p c kept c' kept' → Reaches (again p) c kept c' kept'
  | more {p : Pattern} {c c₁ c₂ : Cursor} {kept kept₁ kept₂ : Captures} :
      Reaches p c kept c₁ kept₁ → Reaches (again p) c₁ kept₁ c₂ kept₂ →
      Reaches (again p) c kept c₂ kept₂
  | keep (name : Capture) {p : Pattern} {c c' : Cursor} {kept kept' : Captures} :
      Reaches p c kept c' kept' → Reaches (keep name p) c kept c' ((name, ⟨c, c'⟩) :: kept')
  | same {name : Capture} {stretch : Stretch} {c c' : Cursor} {kept : Captures} :
      kept.lookup name = some stretch → c.past? stretch.text = some c' →
      Reaches (same name) c kept c' kept
  | ahead {p : Pattern} {c c' : Cursor} {kept kept' : Captures} :
      Reaches p c kept c' kept' → Reaches (ahead p) c kept c kept
  | wordEdge {c : Cursor} (kept : Captures) : c.atWordEdge → Reaches wordEdge c kept c kept
  | lineStart {c : Cursor} (kept : Captures) : c.atLineStart → Reaches lineStart c kept c kept
  | textEnd (behind : Option Char) (kept : Captures) :
      Reaches textEnd ⟨behind, []⟩ kept ⟨behind, []⟩ kept

/-! ## Every success follows a way -/

/-- Some run of characters that pass the test ends where `next` gives the answer. -/
def RunEnds {α : Type} (ok : Char → Bool) (next : Cursor → Option α) (behind : Option Char)
    (text : Text) (a : α) : Prop :=
  ∃ run rest, text = run ++ rest ∧ (∀ ch ∈ run, ok ch) ∧
    next ⟨run.getLast?.or behind, rest⟩ = some a

theorem RunEnds.here {α : Type} {ok : Char → Bool} {next : Cursor → Option α}
    {behind : Option Char} {text : Text} {a : α} (h : next ⟨behind, text⟩ = some a) :
    RunEnds ok next behind text a :=
  ⟨[], text, rfl, by simp, by simpa using h⟩

theorem RunEnds.push {α : Type} {ok : Char → Bool} {next : Cursor → Option α}
    {behind : Option Char} {ch : Char} {text : Text} {a : α} (hok : ok ch)
    (h : RunEnds ok next (some ch) text a) : RunEnds ok next behind (ch :: text) a := by
  obtain ⟨run, rest, rfl, hall, hn⟩ := h
  refine ⟨ch :: run, rest, rfl, List.forall_mem_cons.mpr ⟨hok, hall⟩, ?_⟩
  cases run with
  | nil => simpa using hn
  | cons r run => simpa [List.getLast?_cons] using hn

theorem runEnds_of_runMost {α : Type} {ok : Char → Bool} {next : Cursor → Option α}
    {behind : Option Char} {text : Text} {a : α} (h : runMost ok next behind text = some a) :
    RunEnds ok next behind text a := by
  induction text generalizing behind with
  | nil => exact .here h
  | cons ch text ih =>
    rw [runMost] at h
    split at h
    · rename_i hok
      rcases Option.or_eq_some_iff.mp h with h1 | ⟨_, h1⟩
      · exact .push hok (ih h1)
      · exact .here h1
    · exact .here h

theorem runEnds_of_runLeast {α : Type} {ok : Char → Bool} {next : Cursor → Option α}
    {behind : Option Char} {text : Text} {a : α} (h : runLeast ok next behind text = some a) :
    RunEnds ok next behind text a := by
  induction text generalizing behind with
  | nil => exact .here h
  | cons ch text ih =>
    rw [runLeast] at h
    rcases Option.or_eq_some_iff.mp h with h1 | ⟨_, h1⟩
    · exact .here h1
    · split at h1
      · rename_i hok
        exact .push hok (ih h1)
      · cases h1

/-- A repetition succeeds along a way when each of its turns does. -/
theorem reaches_of_runAgain {α : Type} {p : Pattern}
    {turn : Cursor → Captures → (Cursor → Captures → Option α) → Option α}
    (hturn : ∀ {c kept next a}, turn c kept next = some a →
      ∃ c' kept', Reaches p c kept c' kept' ∧ next c' kept' = some a)
    {next : Cursor → Captures → Option α} {fuel : Nat} {c : Cursor} {kept : Captures} {a : α}
    (h : runAgain turn next fuel c kept = some a) :
    ∃ c' kept', Reaches (again p) c kept c' kept' ∧ next c' kept' = some a := by
  induction fuel generalizing c kept with
  | zero => cases h
  | succ fuel ih =>
    rw [runAgain] at h
    obtain ⟨c₁, kept₁, hr, h1⟩ := hturn h
    have stop : next c₁ kept₁ = some a →
        ∃ c' kept', Reaches (again p) c kept c' kept' ∧ next c' kept' = some a :=
      fun hn => ⟨c₁, kept₁, .once hr, hn⟩
    split at h1
    · rcases Option.or_eq_some_iff.mp h1 with h2 | ⟨_, h2⟩
      · obtain ⟨c₂, kept₂, hr₂, hn⟩ := ih h2
        exact ⟨c₂, kept₂, .more hr hr₂, hn⟩
      · exact stop h2
    · exact stop h1

/-- What `run` finds it finds along a way, and what follows succeeds at its end. -/
theorem reaches_of_run {p : Pattern} {α : Type} {c : Cursor} {kept : Captures}
    {next : Cursor → Captures → Option α} {a : α} (h : p.run c kept next = some a) :
    ∃ c' kept', Reaches p c kept c' kept' ∧ next c' kept' = some a := by
  induction p generalizing α c kept with
  | nothing => exact ⟨c, kept, .nothing c kept, h⟩
  | one ok =>
    obtain ⟨behind, rest⟩ := c
    cases rest with
    | nil => simp [run] at h
    | cons ch rest =>
      simp only [run] at h
      split at h
      · rename_i hok
        exact ⟨_, _, .one behind rest kept hok, h⟩
      · cases h
  | seq p q ihp ihq =>
    obtain ⟨c₁, kept₁, h1, hq⟩ := ihp h
    obtain ⟨c₂, kept₂, h2, hn⟩ := ihq hq
    exact ⟨c₂, kept₂, .seq h1 h2, hn⟩
  | either p q ihp ihq =>
    rcases Option.or_eq_some_iff.mp h with h1 | ⟨_, h1⟩
    · obtain ⟨c', kept', hr, hn⟩ := ihp h1
      exact ⟨c', kept', .left q hr, hn⟩
    · obtain ⟨c', kept', hr, hn⟩ := ihq h1
      exact ⟨c', kept', .right p hr, hn⟩
  | most ok =>
    obtain ⟨behind, text⟩ := c
    obtain ⟨run, rest, rfl, hall, hn⟩ := runEnds_of_runMost h
    exact ⟨_, _, .most behind rest kept hall, hn⟩
  | least ok =>
    obtain ⟨behind, text⟩ := c
    obtain ⟨run, rest, rfl, hall, hn⟩ := runEnds_of_runLeast h
    exact ⟨_, _, .least behind rest kept hall, hn⟩
  | again p ih => exact reaches_of_runAgain ih h
  | keep name p ih =>
    obtain ⟨c', kept', hr, hn⟩ := ih h
    exact ⟨c', _, .keep name hr, hn⟩
  | same name =>
    simp only [run] at h
    split at h
    · cases h
    · rename_i stretch hl
      split at h
      · cases h
      · rename_i c' hp
        exact ⟨c', kept, .same hl hp, h⟩
  | ahead p ih =>
    simp only [run] at h
    split at h
    · rename_i hs
      obtain ⟨u, hu⟩ := Option.isSome_iff_exists.mp hs
      obtain ⟨c', kept', hr, _⟩ := ih hu
      exact ⟨c, kept, .ahead hr, h⟩
    · cases h
  | wordEdge =>
    simp only [run] at h
    split at h
    · exact ⟨c, kept, .wordEdge kept ‹_›, h⟩
    · cases h
  | lineStart =>
    simp only [run] at h
    split at h
    · exact ⟨c, kept, .lineStart kept ‹_›, h⟩
    · cases h
  | textEnd =>
    obtain ⟨behind, rest⟩ := c
    cases rest with
    | nil => exact ⟨_, _, .textEnd behind kept, h⟩
    | cons ch rest => simp [run] at h

/-! ## What every way does -/

theorem past?_eq_some {c c' : Cursor} {text : Text} (h : c.past? text = some c') :
    c.rest = text ++ c'.rest := by
  unfold Cursor.past? at h
  split at h
  · rename_i hp
    cases h
    obtain ⟨rest, hrest⟩ := List.isPrefixOf_iff_prefix.mp hp
    rw [← hrest]
    simp
  · cases h

/-- A way only consumes text. -/
theorem Reaches.rest_suffix {p : Pattern} {c c' : Cursor} {kept kept' : Captures}
    (h : Reaches p c kept c' kept') : c'.rest <:+ c.rest := by
  induction h with
  | nothing | ahead | wordEdge | lineStart | textEnd => exact List.suffix_rfl
  | one behind rest kept _ => exact List.suffix_cons _ _
  | seq _ _ ih₁ ih₂ => exact ih₂.trans ih₁
  | left _ _ ih | right _ _ ih | once _ ih | keep _ _ ih => exact ih
  | most behind rest kept _ | least behind rest kept _ => exact List.suffix_append _ _
  | more _ _ ih₁ ih₂ => exact ih₂.trans ih₁
  | same _ hp => exact ⟨_, (past?_eq_some hp).symm⟩

/-- What lies between the two ends of a way, then what is left, is the text at its start. -/
theorem Reaches.upTo_append {p : Pattern} {c c' : Cursor} {kept kept' : Captures}
    (h : Reaches p c kept c' kept') : c.upTo c' ++ c'.rest = c.rest := by
  obtain ⟨run, hrun⟩ := h.rest_suffix
  unfold Cursor.upTo
  rw [← hrun]
  simp

/-- Captures are only added. -/
theorem Reaches.kept_suffix {p : Pattern} {c c' : Cursor} {kept kept' : Captures}
    (h : Reaches p c kept c' kept') : kept <:+ kept' := by
  induction h with
  | nothing | one | most | least | same | ahead | wordEdge | lineStart | textEnd =>
    exact List.suffix_rfl
  | seq _ _ ih₁ ih₂ | more _ _ ih₁ ih₂ => exact ih₁.trans ih₂
  | left _ _ ih | right _ _ ih | once _ ih => exact ih
  | keep _ _ ih => exact ih.trans (List.suffix_cons _ _)

/-! ## What is kept, and by which pattern -/

/-- The patterns whose matches are kept, each with its name. -/
def keeps : Pattern → List (Capture × Pattern)
  | seq p q | either p q => p.keeps ++ q.keeps
  | again p => p.keeps
  | keep name p => (name, p) :: p.keeps
  | _ => []

/-- What is kept on a way was matched by one of the patterns that keep its name. -/
theorem Reaches.kept_matched {p : Pattern} {c c' : Cursor} {kept kept' : Captures}
    (h : Reaches p c kept c' kept') {name : Capture} {s : Stretch} (hs : (name, s) ∈ kept') :
    (name, s) ∈ kept ∨ ∃ q, (name, q) ∈ p.keeps ∧ ∃ k k', Reaches q s.start k s.stop k' := by
  induction h with
  | nothing | one | most | least | same | ahead | wordEdge | lineStart | textEnd => exact .inl hs
  | seq _ _ ih₁ ih₂ =>
    rcases ih₂ hs with h1 | ⟨q, hq, hr⟩
    · rcases ih₁ h1 with h2 | ⟨q, hq, hr⟩
      · exact .inl h2
      · exact .inr ⟨q, List.mem_append_left _ hq, hr⟩
    · exact .inr ⟨q, List.mem_append_right _ hq, hr⟩
  | left _ _ ih =>
    rcases ih hs with h1 | ⟨q, hq, hr⟩
    · exact .inl h1
    · exact .inr ⟨q, List.mem_append_left _ hq, hr⟩
  | right _ _ ih =>
    rcases ih hs with h1 | ⟨q, hq, hr⟩
    · exact .inl h1
    · exact .inr ⟨q, List.mem_append_right _ hq, hr⟩
  | once _ ih => exact ih hs
  | more _ _ ih₁ ih₂ =>
    rcases ih₂ hs with h1 | h1
    · exact ih₁ h1
    · exact .inr h1
  | keep name p ih =>
    rcases List.mem_cons.mp hs with h1 | h1
    · cases h1
      exact .inr ⟨_, List.mem_cons_self, _, _, p⟩
    · rcases ih h1 with h2 | ⟨q, hq, hr⟩
      · exact .inl h2
      · exact .inr ⟨q, List.mem_cons_of_mem _ hq, hr⟩

/-- What is kept on a way starts no earlier than the way. -/
theorem Reaches.kept_within {p : Pattern} {c c' : Cursor} {kept kept' : Captures}
    (h : Reaches p c kept c' kept') {entry : Capture × Stretch} (hs : entry ∈ kept') :
    entry ∈ kept ∨ entry.2.start.rest <:+ c.rest := by
  induction h with
  | nothing | one | most | least | same | ahead | wordEdge | lineStart | textEnd => exact .inl hs
  | seq h₁ _ ih₁ ih₂ | more h₁ _ ih₁ ih₂ =>
    rcases ih₂ hs with h1 | h1
    · exact ih₁ h1
    · exact .inr (h1.trans h₁.rest_suffix)
  | left _ _ ih | right _ _ ih | once _ ih => exact ih hs
  | keep _ _ ih =>
    rcases List.mem_cons.mp hs with rfl | h1
    · exact .inr List.suffix_rfl
    · exact ih h1

/-- The pattern keeps the name whichever way it takes. -/
def alwaysKeeps (name : Capture) : Pattern → Bool
  | seq p q => p.alwaysKeeps name || q.alwaysKeeps name
  | either p q => p.alwaysKeeps name && q.alwaysKeeps name
  | again p => p.alwaysKeeps name
  | keep other p => other = name || p.alwaysKeeps name
  | _ => false

theorem Reaches.mem_of_alwaysKeeps {p : Pattern} {c c' : Cursor} {kept kept' : Captures}
    (h : Reaches p c kept c' kept') {name : Capture} (hp : p.alwaysKeeps name) :
    ∃ s, (name, s) ∈ kept' := by
  induction h with
  | nothing | one | most | least | same | ahead | wordEdge | lineStart | textEnd => cases hp
  | seq _ h₂ ih₁ ih₂ =>
    rcases Bool.or_eq_true_iff.mp hp with hp | hp
    · obtain ⟨s, hs⟩ := ih₁ hp
      exact ⟨s, h₂.kept_suffix.subset hs⟩
    · exact ih₂ hp
  | left _ _ ih => exact ih (Bool.and_eq_true_iff.mp hp).1
  | right _ _ ih => exact ih (Bool.and_eq_true_iff.mp hp).2
  | once _ ih => exact ih hp
  | more _ _ _ ih₂ => exact ih₂ hp
  | keep other _ ih =>
    rcases Bool.or_eq_true_iff.mp hp with hp | hp
    · exact ⟨_, List.mem_cons.mpr (.inl (by rw [of_decide_eq_true hp]))⟩
    · obtain ⟨s, hs⟩ := ih hp
      exact ⟨s, List.mem_cons_of_mem _ hs⟩

end Pattern

end ImportLift
