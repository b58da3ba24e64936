-- What a pattern does at a place whose text is known. It leads to another
-- place when that is the first end at which what follows can succeed; it is
-- forced there when it has no other end; it is stuck when it has none. Each
-- kind of pattern has one lemma for each of the three, so a longer pattern is
-- followed step by step along the text. A run of characters is followed
-- together with what comes behind it, because that decides where the run ends.
import ImportLift.Proofs.Pattern.Reach
import ImportLift.Proofs.Text.Fold

namespace ImportLift

/-- What lies between two places, when the text is known. -/
@[simp] theorem Cursor.upTo_append (behind behind' : Option Char) (text rest : Text) :
    (⟨behind, text ++ rest⟩ : Cursor).upTo ⟨behind', rest⟩ = text := by
  simp [upTo]

@[simp] theorem Cursor.upTo_cons (behind behind' : Option Char) (ch : Char) (rest : Text) :
    (⟨behind, ch :: rest⟩ : Cursor).upTo ⟨behind', rest⟩ = [ch] :=
  Cursor.upTo_append behind behind' [ch] rest

theorem getLast?_or_cons (ch : Char) (text : Text) (behind : Option Char) :
    (ch :: text).getLast?.or behind = text.getLast?.or (some ch) := by
  cases text <;> simp [List.getLast?_cons]

namespace Pattern

/-- The first success of the pattern ends at the second place, if what follows succeeds there. -/
def Leads (p : Pattern) (c : Cursor) (kept : Captures) (c' : Cursor) (kept' : Captures) : Prop :=
  ∀ (α : Type) (next : Cursor → Captures → Option α) (a : α),
    next c' kept' = some a → p.run c kept next = some a

/-- The pattern has no end but the second place. -/
def Forced (p : Pattern) (c : Cursor) (kept : Captures) (c' : Cursor) (kept' : Captures) : Prop :=
  ∀ (α : Type) (next : Cursor → Captures → Option α), p.run c kept next = next c' kept'

/-- The pattern does not match at the place. -/
def Stuck (p : Pattern) (c : Cursor) (kept : Captures) : Prop :=
  ∀ (α : Type) (next : Cursor → Captures → Option α), p.run c kept next = none

/-- The text does not start with a character that passes the test. -/
def Stops (ok : Char → Bool) (text : Text) : Prop := ∀ ch, text.head? = some ch → ok ch = false

theorem takeWhile_of_stops {ok : Char → Bool} {run rest : Text} (hrun : ∀ ch ∈ run, ok ch = true)
    (hrest : Stops ok rest) : (run ++ rest).takeWhile ok = run := by
  rw [List.takeWhile_append_of_pos hrun]
  cases rest with
  | nil => exact List.append_nil run
  | cons ch rest =>
    rw [List.takeWhile_cons_of_neg (by rw [hrest ch rfl]; decide), List.append_nil]

/-- A text starts with one whole run only. -/
theorem eq_of_stops {ok : Char → Bool} {run run' rest rest' : Text}
    (hrun : ∀ ch ∈ run, ok ch = true) (hrest : Stops ok rest) (hrun' : ∀ ch ∈ run', ok ch = true)
    (hrest' : Stops ok rest') (h : run ++ rest = run' ++ rest') : run = run' := by
  rw [← takeWhile_of_stops hrun hrest, h, takeWhile_of_stops hrun' hrest']

section

variable {p q : Pattern} {ps : List Pattern} {c c₁ c₂ : Cursor} {kept kept₁ kept₂ : Captures}
  {ok : Char → Bool} {behind : Option Char} {run rest : Text}

theorem Forced.leads (h : Forced p c kept c₁ kept₁) : Leads p c kept c₁ kept₁ := by
  intro α next a ha
  rw [h α next, ha]

/-! ## One after another -/

theorem Leads.seq (hp : Leads p c kept c₁ kept₁) (hq : Leads q c₁ kept₁ c₂ kept₂) :
    Leads (seq p q) c kept c₂ kept₂ :=
  fun α next a ha => hp α _ a (hq α next a ha)

theorem Forced.seq (hp : Forced p c kept c₁ kept₁) (hq : Forced q c₁ kept₁ c₂ kept₂) :
    Forced (seq p q) c kept c₂ kept₂ :=
  fun α next => (hp α _).trans (hq α next)

theorem Stuck.seq_of_forced (hp : Forced p c kept c₁ kept₁) (hq : Stuck q c₁ kept₁) :
    Stuck (.seq p q) c kept :=
  fun α next => (hp α _).trans (hq α next)

theorem Stuck.assoc {r : Pattern} (h : Stuck (.seq p (.seq q r)) c kept) :
    Stuck (.seq (.seq p q) r) c kept :=
  fun α next => h α next

theorem Stuck.seq (hp : Stuck p c kept) : Stuck (seq p q) c kept := fun α _ => hp α _

theorem run_all_cons (p : Pattern) (ps : List Pattern) (c : Cursor) (kept : Captures)
    {α : Type} (next : Cursor → Captures → Option α) :
    (all (p :: ps)).run c kept next = (Pattern.seq p (all ps)).run c kept next := by
  cases ps <;> rfl

theorem run_all_append (ps qs : List Pattern) (c : Cursor) (kept : Captures)
    {α : Type} (next : Cursor → Captures → Option α) :
    (all (ps ++ qs)).run c kept next =
      (all ps).run c kept fun c kept => (all qs).run c kept next := by
  induction ps generalizing c kept with
  | nil => rfl
  | cons p ps ih =>
    rw [List.cons_append, run_all_cons, run_all_cons]
    simp only [run, ih]

theorem Leads.all (h : Leads (.seq p (all ps)) c kept c₁ kept₁) :
    Leads (all (p :: ps)) c kept c₁ kept₁ := by
  intro α next a ha
  rw [run_all_cons]
  exact h α next a ha

theorem Forced.all (h : Forced (.seq p (all ps)) c kept c₁ kept₁) :
    Forced (all (p :: ps)) c kept c₁ kept₁ := by
  intro α next
  rw [run_all_cons]
  exact h α next

theorem Stuck.all (h : Stuck (.seq p (all ps)) c kept) : Stuck (all (p :: ps)) c kept := by
  intro α next
  rw [run_all_cons]
  exact h α next

theorem forced_nothing (c : Cursor) (kept : Captures) : Forced (all []) c kept c kept :=
  fun _ _ => rfl

/-! ## Single characters and words -/

theorem forced_one {ch : Char} (h : ok ch = true) (kept : Captures) :
    Forced (one ok) ⟨behind, ch :: rest⟩ kept ⟨some ch, rest⟩ kept := by
  intro α next
  simp [Pattern.run, h]

theorem stuck_one (h : Stops ok rest) (kept : Captures) : Stuck (one ok) ⟨behind, rest⟩ kept := by
  intro α next
  cases rest with
  | nil => rfl
  | cons ch rest => simp [Pattern.run, h ch rfl]

theorem forced_folded {word : Text} (hword : word.all fun letter => Text.sameFolded letter letter)
    (kept : Captures) :
    Forced (folded word) ⟨behind, word ++ rest⟩ kept ⟨word.getLast?.or behind, rest⟩ kept := by
  induction word generalizing behind with
  | nil => exact forced_nothing _ _
  | cons letter word ih =>
    rw [List.all_cons, Bool.and_eq_true] at hword
    rw [getLast?_or_cons]
    exact .all (.seq (forced_one hword.1 kept) (ih hword.2))

theorem stuck_folded {word : Text} (h : Text.startsFolded word rest = false) (kept : Captures) :
    Stuck (folded word) ⟨behind, rest⟩ kept := by
  induction word generalizing behind rest with
  | nil => cases h
  | cons letter word ih =>
    apply Stuck.all
    cases rest with
    | nil => exact .seq (stuck_one (by simp [Stops]) kept)
    | cons ch rest =>
      rw [Text.startsFolded, Bool.and_eq_false_iff] at h
      by_cases hch : Text.sameFolded letter ch = true
      · refine .seq_of_forced (forced_one hch kept) (ih ?_)
        simpa [hch] using h
      · refine .seq (stuck_one ?_ kept)
        rintro _ ⟨⟩
        simpa using hch

/-- A word that is written as it is given matches, and nothing else does. -/
theorem forced_word {word : Text} (last : Char)
    (hword : (word.all fun letter => Text.sameFolded letter letter) = true ∧
      word.getLast? = some last) (kept : Captures) :
    Forced (folded word) ⟨behind, word ++ rest⟩ kept ⟨some last, rest⟩ kept := by
  have hlast : word.getLast?.or behind = some last := by rw [hword.2, Option.some_or]
  rw [← hlast]
  exact forced_folded hword.1 kept

/-- A text that is asked for exactly matches itself, and nothing else does. -/
theorem forced_exactly (text : Text) (behind : Option Char) (rest : Text) (kept : Captures) :
    Forced (exactly text) ⟨behind, text ++ rest⟩ kept ⟨text.getLast?.or behind, rest⟩ kept := by
  induction text generalizing behind with
  | nil => exact forced_nothing _ _
  | cons ch text ih =>
    rw [getLast?_or_cons]
    exact .all (.seq (forced_one (decide_eq_true rfl) kept) (ih (some ch)))

/-- Where a word matches, the text starts with it. -/
theorem startsFolded_of_run {word : Text} {α : Type} {next : Cursor → Captures → Option α} {a : α}
    (h : (folded word).run ⟨behind, rest⟩ kept next = some a) :
    Text.startsFolded word rest = true ∧
      ∃ behind', next ⟨behind', rest.drop word.length⟩ kept = some a := by
  induction word generalizing behind rest with
  | nil => exact ⟨by cases rest <;> rfl, behind, h⟩
  | cons letter word ih =>
    rw [folded, List.map_cons, run_all_cons] at h
    cases rest with
    | nil => simp [Pattern.run] at h
    | cons ch rest =>
      by_cases hch : Text.sameFolded letter ch = true
      · simp only [Pattern.run, hch, if_true] at h
        obtain ⟨hstarts, hnext⟩ := ih h
        exact ⟨by rw [Text.startsFolded, hch, hstarts]; rfl, hnext⟩
      · simp [Pattern.run, hch] at h

/-- A word that the text starts with matches, and nothing else does. -/
theorem forced_of_startsFolded (behind : Option Char) {word : Text}
    (h : Text.startsFolded word rest = true) (kept : Captures) :
    ∃ behind', Forced (folded word) ⟨behind, rest⟩ kept ⟨behind', rest.drop word.length⟩ kept := by
  induction word generalizing behind rest with
  | nil => exact ⟨behind, forced_nothing _ _⟩
  | cons letter word ih =>
    cases rest with
    | nil => cases h
    | cons ch rest =>
      rw [Text.startsFolded, Bool.and_eq_true] at h
      obtain ⟨behind', hword⟩ := ih (some ch) h.2
      exact ⟨behind', .all (.seq (forced_one h.1 kept) hword)⟩

/-- A word is stuck when what follows does not match behind it. -/
theorem stuck_folded_seq {word : Text}
    (hq : Text.startsFolded word rest = true →
      ∀ behind, Stuck q ⟨behind, rest.drop word.length⟩ kept) :
    Stuck (.seq (folded word) q) ⟨behind, rest⟩ kept := by
  intro α next
  rw [Option.eq_none_iff_forall_ne_some]
  intro a ha
  obtain ⟨hstarts, behind', hnext⟩ := startsFolded_of_run ha
  have hnone : q.run ⟨behind', rest.drop word.length⟩ kept next = none := hq hstarts behind' α next
  rw [hnone] at hnext
  cases hnext

/-! ## Runs of characters -/

/-- A greedy run goes as far as it can. -/
theorem leads_most (hrun : ∀ ch ∈ run, ok ch) (hstop : Stops ok rest) (kept : Captures) :
    Leads (most ok) ⟨behind, run ++ rest⟩ kept ⟨run.getLast?.or behind, rest⟩ kept := by
  intro α next a ha
  simp only [Pattern.run]
  induction run generalizing behind with
  | nil =>
    cases rest with
    | nil => exact ha
    | cons ch rest =>
      simp only [List.nil_append, runMost, hstop ch rfl]
      exact ha
  | cons ch run ih =>
    obtain ⟨hch, hrun⟩ := List.forall_mem_cons.mp hrun
    rw [getLast?_or_cons] at ha
    simp only [List.cons_append, runMost, hch, if_true, ih hrun ha, Option.some_or]

theorem leads_some1 (hne : run ≠ []) (hrun : ∀ ch ∈ run, ok ch) (hstop : Stops ok rest)
    (kept : Captures) :
    Leads (some1 ok) ⟨behind, run ++ rest⟩ kept ⟨run.getLast?.or behind, rest⟩ kept := by
  cases run with
  | nil => contradiction
  | cons ch run =>
    obtain ⟨hch, hrun⟩ := List.forall_mem_cons.mp hrun
    rw [getLast?_or_cons]
    exact .seq (forced_one hch kept).leads (leads_most hrun hstop kept)

/-- A greedy run of no character at all. -/
theorem forced_most_nil (hstop : Stops ok rest) (kept : Captures) :
    Forced (most ok) ⟨behind, rest⟩ kept ⟨behind, rest⟩ kept := by
  intro α next
  cases rest with
  | nil => rfl
  | cons ch rest => simp [Pattern.run, runMost, hstop ch rfl]

/-- A greedy run is stuck when what follows matches behind no part of it. -/
theorem stuck_most_seq
    (hq : ∀ run after, rest = run ++ after → (∀ ch ∈ run, ok ch) →
      ∀ behind, Stuck q ⟨behind, after⟩ kept) :
    Stuck (.seq (most ok) q) ⟨behind, rest⟩ kept := by
  intro α next
  simp only [Pattern.run]
  induction rest generalizing behind with
  | nil => exact hq [] [] rfl (by simp) behind α next
  | cons ch rest ih =>
    have hhere : q.run ⟨behind, ch :: rest⟩ kept next = none :=
      hq [] (ch :: rest) rfl (by simp) behind α next
    by_cases hch : ok ch = true
    · have hlater : runMost ok (fun c => q.run c kept next) (some ch) rest = none := by
        apply ih
        intro run after hsplit hrun
        exact hq (ch :: run) after (by rw [hsplit]; rfl) (List.forall_mem_cons.mpr ⟨hch, hrun⟩)
      simp only [runMost, hch, if_true, hlater, hhere, Option.or_none]
    · simp only [runMost, hch, hhere]
      rfl

/-- A greedy run is stuck when what follows matches neither behind it nor in front of one of
its characters. -/
theorem stuck_run_seq (hrun : ∀ ch ∈ run, ok ch) (hstop : Stops ok rest)
    (hq : ∀ behind ch text, ok ch → Stuck q ⟨behind, ch :: text⟩ kept)
    (h : ∀ behind, Stuck q ⟨behind, rest⟩ kept) :
    Stuck (.seq (most ok) q) ⟨behind, run ++ rest⟩ kept := by
  intro α next
  simp only [Pattern.run]
  induction run generalizing behind with
  | nil =>
    cases rest with
    | nil => exact h behind α next
    | cons ch rest =>
      simp only [List.nil_append, runMost, hstop ch rfl]
      exact h behind α next
  | cons ch run ih =>
    obtain ⟨hch, hrun⟩ := List.forall_mem_cons.mp hrun
    simp only [List.cons_append, runMost, hch, if_true, ih hrun, hq _ ch _ hch α, Option.or_none]

/-- A lazy run goes on to the first place where what follows succeeds. -/
theorem runLeast_eq_some {α : Type} {next : Cursor → Option α} {a : α} (hrun : ∀ ch ∈ run, ok ch)
    (hearly : ∀ before ch after, run = before ++ ch :: after →
      next ⟨before.getLast?.or behind, ch :: after ++ rest⟩ = none)
    (ha : next ⟨run.getLast?.or behind, rest⟩ = some a) :
    runLeast ok next behind (run ++ rest) = some a := by
  induction run generalizing behind with
  | nil =>
    have hhere : next ⟨behind, rest⟩ = some a := ha
    cases rest with
    | nil => exact hhere
    | cons ch rest => simp [runLeast, hhere]
  | cons ch run ih =>
    obtain ⟨hch, hrun⟩ := List.forall_mem_cons.mp hrun
    rw [getLast?_or_cons] at ha
    have hhere : next ⟨behind, ch :: (run ++ rest)⟩ = none := hearly [] ch run rfl
    have hlater : runLeast ok next (some ch) (run ++ rest) = some a := by
      refine ih hrun (fun before d after hsplit => ?_) ha
      have hthere := hearly (ch :: before) d after (by rw [hsplit]; rfl)
      rwa [getLast?_or_cons] at hthere
    simp only [List.cons_append, runLeast, hhere, hch, if_true, Option.none_or]
    exact hlater

/-- What a lazy run finds it finds at the first place where what follows succeeds. -/
theorem exists_of_runLeast {α : Type} {next : Cursor → Option α} {text : Text} {a : α}
    (h : runLeast ok next behind text = some a) :
    ∃ run rest behind', text = run ++ rest ∧ next ⟨behind', rest⟩ = some a ∧
      ∀ before ch after, run = before ++ ch :: after →
        ∃ behind', next ⟨behind', ch :: after ++ rest⟩ = none := by
  induction text generalizing behind with
  | nil => exact ⟨[], [], behind, rfl, h, by simp⟩
  | cons c text ih =>
    rw [runLeast] at h
    cases hhere : next ⟨behind, c :: text⟩ with
    | some b =>
      rw [hhere, Option.some_or] at h
      exact ⟨[], c :: text, behind, rfl, hhere.trans h, by simp⟩
    | none =>
      rw [hhere, Option.none_or] at h
      split at h
      · obtain ⟨run, rest, behind', rfl, hfound, hearly⟩ := ih h
        refine ⟨c :: run, rest, behind', rfl, hfound, ?_⟩
        intro before ch after hsplit
        cases before with
        | nil =>
          obtain ⟨rfl, rfl⟩ := List.cons.inj hsplit
          exact ⟨behind, hhere⟩
        | cons d before => exact hearly before ch after (List.cons.inj hsplit).2
      · cases h

theorem leads_least_seq (hrun : ∀ ch ∈ run, ok ch)
    (hq : ∀ before ch after, run = before ++ ch :: after →
      ∀ behind, Stuck q ⟨behind, ch :: after ++ rest⟩ kept)
    (h : Leads q ⟨run.getLast?.or behind, rest⟩ kept c₁ kept₁) :
    Leads (.seq (least ok) q) ⟨behind, run ++ rest⟩ kept c₁ kept₁ := by
  intro α next a ha
  apply runLeast_eq_some hrun
  · intro before ch after hsplit
    exact hq before ch after hsplit _ α next
  · exact h α next a ha

/-- A lazy run that is kept. -/
theorem leads_keep_least_seq (name : Capture) (hrun : ∀ ch ∈ run, ok ch)
    (hq : ∀ before ch after, run = before ++ ch :: after →
      ∀ behind kept, Stuck q ⟨behind, ch :: after ++ rest⟩ kept)
    (h : Leads q ⟨run.getLast?.or behind, rest⟩
      ((name, ⟨⟨behind, run ++ rest⟩, ⟨run.getLast?.or behind, rest⟩⟩) :: kept) c₁ kept₁) :
    Leads (.seq (keep name (least ok)) q) ⟨behind, run ++ rest⟩ kept c₁ kept₁ := by
  intro α next a ha
  apply runLeast_eq_some hrun
  · intro before ch after hsplit
    exact hq before ch after hsplit _ _ α next
  · exact h α next a ha

/-- A lazy run is stuck when what follows matches neither here nor anywhere before the first
character that does not pass the test. -/
theorem stuck_least_seq (hstop : Stops ok rest) (hq : Stuck q ⟨behind, rest⟩ kept) :
    Stuck (.seq (least ok) q) ⟨behind, rest⟩ kept := by
  intro α next
  cases rest with
  | nil => exact hq α next
  | cons ch rest => simp [Pattern.run, runLeast, hstop ch rfl, hq α next]

/-! ## Places that a pattern misses -/

/-- The pattern matches at no place of the text, when the rest follows it. -/
def Misses (q : Pattern) (behind : Option Char) (text rest : Text) (kept : Captures) : Prop :=
  ∀ before ch after, text = before ++ ch :: after →
    Stuck q ⟨before.getLast?.or behind, ch :: after ++ rest⟩ kept

theorem misses_nil (q : Pattern) (behind : Option Char) (rest : Text) (kept : Captures) :
    Misses q behind [] rest kept := by
  intro before ch after hsplit
  simp at hsplit

theorem Misses.append {text more : Text} (hq : Misses q behind text (more ++ rest) kept)
    (hmore : Misses q (text.getLast?.or behind) more rest kept) :
    Misses q behind (text ++ more) rest kept := by
  intro before ch after hsplit
  rcases List.append_eq_append_iff.mp hsplit with ⟨mid, rfl, hmid⟩ | ⟨mid, rfl, hmid⟩
  · rw [List.getLast?_append, Option.or_assoc]
    exact hmore mid ch after hmid
  · cases mid with
    | nil =>
      -- The place is the first one of the second text.
      rw [List.nil_append] at hmid
      have hfirst := hmore [] ch after hmid.symm
      rwa [List.append_nil] at hfirst
    | cons d mid =>
      obtain ⟨rfl, hafter⟩ := List.cons.inj hmid
      have hhere := hq before ch mid rfl
      rw [hafter]
      rwa [← List.append_assoc] at hhere

/-- A lazy run goes over a text that what follows misses. -/
theorem Misses.leads_least (hq : Misses q behind run rest kept) (hrun : ∀ ch ∈ run, ok ch)
    (h : Leads q ⟨run.getLast?.or behind, rest⟩ kept c₁ kept₁) :
    Leads (.seq (least ok) q) ⟨behind, run ++ rest⟩ kept c₁ kept₁ := by
  intro α next a ha
  apply runLeast_eq_some hrun
  · intro before ch after hsplit
    exact hq before ch after hsplit α next
  · exact h α next a ha

/-- A lazy run is stuck on a text that what follows misses, if it ends there at the latest. -/
theorem Misses.stuck_least (hq : Misses q behind run rest kept) (hstop : Stops ok rest)
    (h : Stuck q ⟨run.getLast?.or behind, rest⟩ kept) :
    Stuck (.seq (least ok) q) ⟨behind, run ++ rest⟩ kept := by
  induction run generalizing behind with
  | nil => exact stuck_least_seq hstop h
  | cons ch run ih =>
    intro α next
    have hhere : q.run ⟨behind, ch :: (run ++ rest)⟩ kept next = none := hq [] ch run rfl α next
    have hlater : Stuck (.seq (least ok) q) ⟨some ch, run ++ rest⟩ kept := by
      apply ih
      · intro before d after hsplit
        have hthere := hq (ch :: before) d after (by rw [hsplit]; rfl)
        rwa [getLast?_or_cons] at hthere
      · rwa [getLast?_or_cons] at h
    have hlater : runLeast ok (fun c => q.run c kept next) (some ch) (run ++ rest) = none :=
      hlater α next
    simp only [List.cons_append, Pattern.run, runLeast, hhere, hlater, ite_self, Option.or_none]

/-! ## Repetitions -/

/-- Any number of turns that covers the text will do. -/
theorem runAgain_fuel {α : Type}
    (turn : Cursor → Captures → (Cursor → Captures → Option α) → Option α)
    (next : Cursor → Captures → Option α) {fuel fuel' : Nat} {c : Cursor} (kept : Captures)
    (hf : c.rest.length < fuel) (hf' : c.rest.length < fuel') :
    runAgain turn next fuel c kept = runAgain turn next fuel' c kept := by
  induction fuel generalizing fuel' c kept with
  | zero => omega
  | succ fuel ih =>
    cases fuel' with
    | zero => omega
    | succ fuel' =>
      simp only [runAgain]
      congr 1
      funext c₁ kept₁
      split
      · rw [ih kept₁ (by omega) (show _ < fuel' by omega)]
      · rfl

/-- A repetition ends after a turn behind which there is no other. -/
theorem leads_again_last (hp : Leads p c kept c₁ kept₁) (hless : c₁.rest.length < c.rest.length)
    (hlast : Stuck p c₁ kept₁) : Leads (again p) c kept c₁ kept₁ := by
  intro α next a ha
  have hnone : runAgain (fun c kept next => p.run c kept next) next c.rest.length c₁ kept₁ =
      none := by
    cases c.rest.length with
    | zero => rfl
    | succ fuel => exact hlast α _
  simp only [Pattern.run, runAgain]
  apply hp
  rw [if_pos hless, hnone, Option.none_or, ha]

/-- A repetition goes on behind a turn when it can. -/
theorem leads_again_more (hp : Leads p c kept c₁ kept₁) (hless : c₁.rest.length < c.rest.length)
    (hmore : Leads (again p) c₁ kept₁ c₂ kept₂) : Leads (again p) c kept c₂ kept₂ := by
  intro α next a ha
  have hlater : runAgain (fun c kept next => p.run c kept next) next c.rest.length c₁ kept₁ =
      some a := by
    rw [runAgain_fuel _ next kept₁ hless (Nat.lt_succ_self _)]
    exact hmore α next a ha
  simp only [Pattern.run, runAgain]
  apply hp
  rw [if_pos hless, hlater, Option.some_or]

/-! ## Choices, captures and conditions -/

theorem Leads.either (h : Leads p c kept c₁ kept₁) (q : Pattern) :
    Leads (either p q) c kept c₁ kept₁ := by
  intro α next a ha
  simp only [Pattern.run, h α next a ha, Option.some_or]

/-- The second choice is taken when the first does not match together with what follows. -/
theorem Leads.either_second {r : Pattern} (hp : Stuck (.seq p r) c kept)
    (hq : Leads (.seq q r) c kept c₁ kept₁) : Leads (.seq (.either p q) r) c kept c₁ kept₁ := by
  intro α next a ha
  have hnone : p.run c kept (fun c kept => r.run c kept next) = none := hp α next
  have hfound : q.run c kept (fun c kept => r.run c kept next) = some a := hq α next a ha
  simp only [Pattern.run, hnone, hfound, Option.none_or]

theorem Leads.either_right (hp : Stuck p c kept) (hq : Leads q c kept c₁ kept₁) :
    Leads (.either p q) c kept c₁ kept₁ := by
  intro α next a ha
  simp only [Pattern.run, hp α next, hq α next a ha, Option.none_or]

theorem Stuck.either (hp : Stuck p c kept) (hq : Stuck q c kept) : Stuck (either p q) c kept := by
  intro α next
  simp only [Pattern.run, hp α next, hq α next, Option.or_none]

theorem Stuck.either_seq {r : Pattern} (hp : Stuck (.seq p r) c kept)
    (hq : Stuck (.seq q r) c kept) : Stuck (.seq (.either p q) r) c kept := by
  intro α next
  have hfirst : p.run c kept (fun c kept => r.run c kept next) = none := hp α next
  have hsecond : q.run c kept (fun c kept => r.run c kept next) = none := hq α next
  simp only [Pattern.run, hfirst, hsecond, Option.or_none]

theorem Forced.maybe_absent (h : Stuck p c kept) : Forced (maybe p) c kept c kept := by
  intro α next
  simp only [maybe, Pattern.run, h α next, Option.none_or]

theorem Stuck.maybe (hp : Stuck (.seq p q) c kept) (hq : Stuck q c kept) :
    Stuck (.seq (maybe p) q) c kept := by
  intro α next
  have hp : p.run c kept (fun c kept => q.run c kept next) = none := hp α next
  have hq : q.run c kept next = none := hq α next
  simp only [Pattern.maybe, Pattern.run, hp, hq, Option.or_none]

theorem Leads.keep (name : Capture) (h : Leads p c kept c₁ kept₁) :
    Leads (keep name p) c kept c₁ ((name, ⟨c, c₁⟩) :: kept₁) :=
  fun α _ a ha => h α _ a ha

theorem Forced.keep (name : Capture) (h : Forced p c kept c₁ kept₁) :
    Forced (keep name p) c kept c₁ ((name, ⟨c, c₁⟩) :: kept₁) :=
  fun α _ => h α _

theorem Stuck.keep (name : Capture) (h : Stuck p c kept) : Stuck (keep name p) c kept :=
  fun α _ => h α _

theorem forced_same (text : Text) {name : Capture} {stretch : Stretch}
    (hkept : kept.lookup name = some stretch) (htext : stretch.text = text) :
    Forced (same name) ⟨behind, text ++ rest⟩ kept ⟨text.getLast?.or behind, rest⟩ kept := by
  intro α next
  have hprefix : text.isPrefixOf (text ++ rest) = true := by simp
  simp [Pattern.run, hkept, htext, Cursor.past?, hprefix]

theorem Leads.ahead (h : Leads p c kept c₁ kept₁) : Leads (ahead p) c kept c kept := by
  intro α next a ha
  simp only [Pattern.run, h Unit (fun _ _ => some ()) () rfl, Option.isSome_some, if_true, ha]

theorem forced_lineStart (h : c.atLineStart = true) (kept : Captures) :
    Forced lineStart c kept c kept := by
  intro α next
  simp [Pattern.run, h]

theorem stuck_lineStart (h : c.atLineStart = false) (kept : Captures) :
    Stuck lineStart c kept := by
  intro α next
  simp [Pattern.run, h]

theorem forced_textEnd (behind : Option Char) (kept : Captures) :
    Forced textEnd ⟨behind, []⟩ kept ⟨behind, []⟩ kept :=
  fun _ _ => rfl

theorem Stuck.ahead (h : Stuck p c kept) : Stuck (ahead p) c kept := by
  intro α next
  simp only [Pattern.run, h Unit (fun _ _ => some ())]
  rfl

theorem forced_wordEdge (h : c.atWordEdge = true) (kept : Captures) :
    Forced wordEdge c kept c kept := by
  intro α next
  simp [Pattern.run, h]

end

end Pattern

end ImportLift
