-- Text put behind a text. A pattern that ends in a character which the new
-- text does not hold finds the same matches with it as without it. The proof
-- compares two runs choice by choice: where the longer text offers a choice
-- that the shorter one lacks, that choice ends inside the new text and fails.
import ImportLift.Proofs.Pattern.Matches

namespace ImportLift

/-- The place with more text behind it. -/
def Cursor.extend (more : Text) (c : Cursor) : Cursor := ⟨c.behind, c.rest ++ more⟩

/-- The stretch with more text behind it. -/
def Stretch.extend (more : Text) (s : Stretch) : Stretch :=
  ⟨s.start.extend more, s.stop.extend more⟩

/-- The captures with more text behind them. -/
def Captures.extend (more : Text) (kept : Captures) : Captures :=
  kept.map fun (name, s) => (name, s.extend more)

@[simp] theorem Cursor.upTo_extend (more : Text) (c c' : Cursor) :
    (c.extend more).upTo (c'.extend more) = c.upTo c' := by
  simp only [upTo, extend, List.length_append, Nat.add_sub_add_right]
  exact List.take_append_of_le_length (Nat.sub_le _ _)

@[simp] theorem Stretch.text_extend (more : Text) (s : Stretch) :
    (s.extend more).text = s.text :=
  Cursor.upTo_extend more s.start s.stop

theorem Captures.lookup_extend (more : Text) (kept : Captures) (name : Capture) :
    (Captures.extend more kept).lookup name = (kept.lookup name).map (Stretch.extend more) := by
  induction kept with
  | nil => rfl
  | cons entry kept ih =>
    obtain ⟨other, s⟩ := entry
    simp only [Captures.extend, List.map_cons, List.lookup_cons]
    split
    · rfl
    · exact ih

namespace Pattern

/-- The pattern does not look beyond what it consumes. -/
def plain : Pattern → Bool
  | seq p q | either p q => p.plain && q.plain
  | again p | keep _ p => p.plain
  | ahead _ | wordEdge | textEnd => false
  | _ => true

/-- The pattern is plain and ends in a character that the text does not hold. -/
def shutOut (more : Text) : Pattern → Bool
  | one ok => more.all fun ch => !ok ch
  | seq p q => p.plain && q.shutOut more
  | _ => false

section

variable {α : Type} {more : Text}

/-! ## What follows, with and without more text -/

/-- What follows fails at every place inside the new text. -/
def Fails (more : Text) (next : Cursor → Captures → Option α) : Prop :=
  ∀ c kept, c.rest <:+ more → c.rest ≠ more → next c kept = none

/-- What follows gives the same answer with more text behind. -/
def Agrees (more : Text) (next next' : Cursor → Captures → Option α) : Prop :=
  ∀ c kept, next' (c.extend more) (Captures.extend more kept) = next c kept

/-- A place that is reached from inside the new text is inside it. -/
theorem inside_of_reaches {p : Pattern} {c c' : Cursor} {kept kept' : Captures}
    (hr : Reaches p c kept c' kept') (hin : c.rest <:+ more) (hne : c.rest ≠ more) :
    c'.rest <:+ more ∧ c'.rest ≠ more := by
  refine ⟨hr.rest_suffix.trans hin, fun heq => hne ?_⟩
  exact hin.eq_of_length_le (heq ▸ hr.rest_suffix.length_le)

theorem Fails.run {next : Cursor → Captures → Option α} (h : Fails more next) (p : Pattern) :
    Fails more fun c kept => p.run c kept next := by
  intro c kept hin hne
  apply Option.eq_none_iff_forall_ne_some.mpr
  intro a ha
  obtain ⟨c', kept', hr, hn⟩ := reaches_of_run ha
  obtain ⟨hin', hne'⟩ := inside_of_reaches hr hin hne
  rw [h c' kept' hin' hne'] at hn
  cases hn

theorem Fails.runAgain {next : Cursor → Captures → Option α} (h : Fails more next) (p : Pattern)
    (fuel : Nat) : Fails more (runAgain (fun c kept next => p.run c kept next) next fuel) := by
  intro c kept hin hne
  apply Option.eq_none_iff_forall_ne_some.mpr
  intro a ha
  obtain ⟨c', kept', hr, hn⟩ := reaches_of_runAgain reaches_of_run ha
  obtain ⟨hin', hne'⟩ := inside_of_reaches hr hin hne
  rw [h c' kept' hin' hne'] at hn
  cases hn

/-! ## Runs of characters -/

/-- No run that starts behind the first new character succeeds. -/
theorem not_runEnds {ok : Char → Bool} {next : Cursor → Option α} {behind : Option Char}
    {ch : Char} {text : Text} {a : α} (hin : ch :: text <:+ more)
    (hfail : ∀ c : Cursor, c.rest <:+ more → c.rest ≠ more → next c = none) :
    ¬ RunEnds ok next behind text a := by
  rintro ⟨run, rest, rfl, _, hn⟩
  have hsuf : rest <:+ ch :: (run ++ rest) := (List.suffix_append _ _).trans (List.suffix_cons _ _)
  rw [hfail _ (hsuf.trans hin)] at hn
  · cases hn
  · intro heq
    have hle : (ch :: (run ++ rest)).length ≤ rest.length := by
      rw [show rest.length = more.length from congrArg List.length heq]
      exact hin.length_le
    have hlength : (ch :: (run ++ rest)).length = run.length + rest.length + 1 := by
      rw [List.length_cons, List.length_append]
    omega

theorem runMost_extend {ok : Char → Bool} {next next' : Cursor → Option α}
    (hag : ∀ c : Cursor, next' (c.extend more) = next c)
    (hfail : ∀ c : Cursor, c.rest <:+ more → c.rest ≠ more → next' c = none)
    (behind : Option Char) (text : Text) :
    runMost ok next' behind (text ++ more) = runMost ok next behind text := by
  induction text generalizing behind with
  | nil =>
    cases more with
    | nil => exact hag ⟨behind, []⟩
    | cons ch rest =>
      have hnone : runMost ok next' (some ch) rest = none :=
        Option.eq_none_iff_forall_ne_some.mpr fun a ha =>
          not_runEnds List.suffix_rfl hfail (runEnds_of_runMost ha)
      have hhere := hag ⟨behind, []⟩
      simp only [List.nil_append, runMost, hnone, Option.none_or, ite_self]
      exact hhere
  | cons ch text ih =>
    have hhere := hag ⟨behind, ch :: text⟩
    simp only [Cursor.extend, List.cons_append] at hhere
    simp only [List.cons_append, runMost, ih, hhere]

theorem runLeast_extend {ok : Char → Bool} {next next' : Cursor → Option α}
    (hag : ∀ c : Cursor, next' (c.extend more) = next c)
    (hfail : ∀ c : Cursor, c.rest <:+ more → c.rest ≠ more → next' c = none)
    (behind : Option Char) (text : Text) :
    runLeast ok next' behind (text ++ more) = runLeast ok next behind text := by
  induction text generalizing behind with
  | nil =>
    cases more with
    | nil => exact hag ⟨behind, []⟩
    | cons ch rest =>
      have hnone : runLeast ok next' (some ch) rest = none :=
        Option.eq_none_iff_forall_ne_some.mpr fun a ha =>
          not_runEnds List.suffix_rfl hfail (runEnds_of_runLeast ha)
      have hhere := hag ⟨behind, []⟩
      simp only [List.nil_append, runLeast, hnone, ite_self, Option.or_none]
      exact hhere
  | cons ch text ih =>
    have hhere := hag ⟨behind, ch :: text⟩
    simp only [Cursor.extend, List.cons_append] at hhere
    simp only [List.cons_append, runLeast, ih, hhere]

/-! ## One pattern -/

/-- A repetition agrees when each of its turns does. Any number of turns that covers the
text will do, so the longer text may be given more of them. -/
theorem runAgain_extend {p : Pattern}
    (hturn : ∀ {next next' : Cursor → Captures → Option α}, Agrees more next next' →
      Fails more next' → Agrees more (fun c kept => p.run c kept next)
        fun c kept => p.run c kept next')
    {next next' : Cursor → Captures → Option α} (hag : Agrees more next next')
    (hfail : Fails more next') (fuel fuel' : Nat) (c : Cursor) (kept : Captures)
    (hf : c.rest.length < fuel) (hf' : (c.extend more).rest.length < fuel') :
    runAgain (fun c kept next => p.run c kept next) next' fuel' (c.extend more)
        (Captures.extend more kept) =
      runAgain (fun c kept next => p.run c kept next) next fuel c kept := by
  induction fuel generalizing fuel' c kept with
  | zero => omega
  | succ fuel ih =>
    cases fuel' with
    | zero => omega
    | succ fuel' =>
      simp only [runAgain]
      refine hturn ?_ ?_ c kept
      · intro c₁ kept₁
        have hlen : (c₁.extend more).rest.length < (c.extend more).rest.length ↔
            c₁.rest.length < c.rest.length := by simp [Cursor.extend]
        simp only [hlen, hag c₁ kept₁]
        split
        · rename_i hlt
          have hlt' := hlen.mpr hlt
          rw [ih fuel' c₁ kept₁ (by omega) (by omega)]
        · rfl
      · intro c₁ kept₁ hin hne
        simp [hfail c₁ kept₁ hin hne, hfail.runAgain p fuel' c₁ kept₁ hin hne]

theorem past?_extend_of_some {c c' : Cursor} {text : Text} (h : c.past? text = some c') :
    (c.extend more).past? text = some (c'.extend more) := by
  unfold Cursor.past? at h
  split at h
  · rename_i hp
    obtain ⟨rest, hrest⟩ := List.isPrefixOf_iff_prefix.mp hp
    cases h
    simp only [Cursor.past?, Cursor.extend, ← hrest]
    simp
  · cases h

/-- A kept text that reaches into the new text ends inside it. -/
theorem past?_extend_of_none {c c' : Cursor} {text : Text} (h : c.past? text = none)
    (h' : (c.extend more).past? text = some c') : c'.rest <:+ more ∧ c'.rest ≠ more := by
  have hrest := past?_eq_some h'
  simp only [Cursor.extend] at hrest
  have hnot : ¬ text <+: c.rest := by
    intro hp
    simp [Cursor.past?, List.isPrefixOf_iff_prefix.mpr hp] at h
  rcases List.append_eq_append_iff.mp hrest with ⟨mid, htext, hmore⟩ | ⟨mid, hc, _⟩
  · refine ⟨⟨mid, hmore.symm⟩, fun heq => hnot ?_⟩
    rw [heq] at hmore
    have hmid : mid = [] := by simpa using hmore
    simp [htext, hmid]
  · exact absurd ⟨mid, hc.symm⟩ hnot

/-- A plain pattern succeeds with more text behind as it does without, if what follows does
and never succeeds inside the new text. -/
theorem run_extend {p : Pattern} (hp : p.plain) {next next' : Cursor → Captures → Option α}
    (hag : Agrees more next next') (hfail : Fails more next') :
    Agrees more (fun c kept => p.run c kept next) fun c kept => p.run c kept next' := by
  induction p generalizing next next' with
  | nothing => exact hag
  | one ok =>
    intro c kept
    obtain ⟨behind, rest⟩ := c
    cases rest with
    | cons ch rest =>
      have hthere := hag ⟨some ch, rest⟩ kept
      simp only [Cursor.extend] at hthere
      simp only [run, Cursor.extend, List.cons_append, hthere]
    | nil =>
      -- Only the longer text has a character here, and behind it nothing succeeds.
      cases more with
      | nil => rfl
      | cons ch rest =>
        have hthere : next' ⟨some ch, rest⟩ (Captures.extend (ch :: rest) kept) = none :=
          hfail _ _ (List.suffix_cons _ _) (by simp)
        simp [run, Cursor.extend, hthere]
  | seq p q ihp ihq =>
    obtain ⟨hp, hq⟩ := Bool.and_eq_true_iff.mp hp
    exact ihp hp (ihq hq hag hfail) (hfail.run q)
  | either p q ihp ihq =>
    obtain ⟨hp, hq⟩ := Bool.and_eq_true_iff.mp hp
    intro c kept
    have h₁ := ihp hp hag hfail c kept
    have h₂ := ihq hq hag hfail c kept
    simp only [run] at h₁ h₂ ⊢
    rw [h₁, h₂]
  | most ok =>
    intro c kept
    exact runMost_extend (fun c => hag c kept) (fun c => hfail c _) c.behind c.rest
  | least ok =>
    intro c kept
    exact runLeast_extend (fun c => hag c kept) (fun c => hfail c _) c.behind c.rest
  | again p ih =>
    intro c kept
    exact runAgain_extend (ih hp) hag hfail _ _ c kept (Nat.lt_succ_self _) (Nat.lt_succ_self _)
  | keep name p ih =>
    intro c kept
    refine ih hp (fun c₁ kept₁ => ?_) (fun c₁ kept₁ => hfail c₁ _) c kept
    exact hag c₁ ((name, ⟨c, c₁⟩) :: kept₁)
  | same name =>
    intro c kept
    simp only [run, Captures.lookup_extend]
    cases hl : kept.lookup name with
    | none => rfl
    | some s =>
      simp only [Option.map_some, Stretch.text_extend]
      cases hpast : c.past? s.text with
      | some c' =>
        rw [past?_extend_of_some hpast]
        exact hag c' kept
      | none =>
        cases hpast' : (c.extend more).past? s.text with
        | none => rfl
        | some c' =>
          obtain ⟨hin, hne⟩ := past?_extend_of_none hpast hpast'
          exact hfail c' _ hin hne
  | lineStart =>
    intro c kept
    have hhere := hag c kept
    simp only [run]
    rw [hhere]
    rfl
  | ahead | wordEdge | textEnd => cases hp

/-- A pattern that shuts the new text out does not match inside it. -/
theorem run_inside {p : Pattern} (hp : p.shutOut more) (next : Cursor → Captures → Option α)
    {c : Cursor} (kept : Captures) (hin : c.rest <:+ more) : p.run c kept next = none := by
  induction p generalizing c kept with
  | one ok =>
    obtain ⟨behind, rest⟩ := c
    cases rest with
    | nil => rfl
    | cons ch rest =>
      have hch := List.all_eq_true.mp hp ch (hin.subset List.mem_cons_self)
      simp only [Bool.not_eq_true'] at hch
      simp [run, hch]
  | seq p q _ ihq =>
    obtain ⟨_, hq⟩ := Bool.and_eq_true_iff.mp hp
    apply Option.eq_none_iff_forall_ne_some.mpr
    intro a ha
    obtain ⟨c', kept', hr, hn⟩ := reaches_of_run (p := p) ha
    rw [ihq hq kept' (hr.rest_suffix.trans hin)] at hn
    cases hn
  | _ => cases hp

/-- A pattern that shuts the new text out asks nothing of what follows inside it. -/
theorem run_extend_of_shutOut {p : Pattern} (hp : p.shutOut more)
    {next next' : Cursor → Captures → Option α} (hag : Agrees more next next') :
    Agrees more (fun c kept => p.run c kept next) fun c kept => p.run c kept next' := by
  induction p with
  | one ok =>
    intro c kept
    obtain ⟨behind, rest⟩ := c
    cases rest with
    | nil => exact run_inside hp next' _ List.suffix_rfl
    | cons ch rest =>
      have hthere := hag ⟨some ch, rest⟩ kept
      simp only [Cursor.extend] at hthere
      simp only [run, Cursor.extend, List.cons_append, hthere]
  | seq p q _ ihq =>
    obtain ⟨hp, hq⟩ := Bool.and_eq_true_iff.mp hp
    exact run_extend hp (ihq hq) fun c kept hin _ => run_inside hq next' kept hin
  | _ => cases hp

end

/-! ## All matches -/

section

variable {p : Pattern} {more : Text}

theorem properAt?_extend (hp : p.shutOut more) (c : Cursor) :
    p.properAt? (c.extend more) = p.properAt? c := by
  have hag : Agrees more
      (fun c' kept => some (c.upTo c', kept.map fun (name, stretch) => (name, stretch.text)))
      (fun c' kept => some ((c.extend more).upTo c',
        kept.map fun (name, stretch) => (name, stretch.text))) := by
    intro c' kept
    simp [Captures.extend, Function.comp_def]
  have hmatch : p.matchAt? (c.extend more) = p.matchAt? c := run_extend_of_shutOut hp hag c []
  simp only [properAt?, hmatch]

theorem properAt?_inside (hp : p.shutOut more) {c : Cursor} (hin : c.rest <:+ more) :
    p.properAt? c = none := by
  have hno : p.matchAt? c = none := run_inside hp _ [] hin
  simp [properAt?, hno]

theorem findFrom_inside (hp : p.shutOut more) (skip offset : Nat) (behind : Option Char)
    {text : Text} (hin : text <:+ more) : p.findFrom skip offset behind text = [] := by
  induction text generalizing skip offset behind with
  | nil => cases skip <;> rfl
  | cons ch text ih =>
    have hlater := (List.suffix_cons ch text).trans hin
    cases skip with
    | zero =>
      simp only [findFrom, properAt?_inside hp (c := ⟨behind, ch :: text⟩) hin]
      exact ih _ _ _ hlater
    | succ skip => exact ih _ _ _ hlater

theorem findFrom_extend (hp : p.shutOut more) (skip offset : Nat) (behind : Option Char)
    (text : Text) : p.findFrom skip offset behind (text ++ more) =
      p.findFrom skip offset behind text := by
  induction text generalizing skip offset behind with
  | nil =>
    rw [List.nil_append, findFrom_inside hp _ _ _ List.suffix_rfl]
    cases skip <;> rfl
  | cons ch text ih =>
    cases skip with
    | zero =>
      have hhere := properAt?_extend hp ⟨behind, ch :: text⟩
      simp only [Cursor.extend, List.cons_append] at hhere
      simp only [List.cons_append, findFrom, hhere, ih]
    | succ skip => exact ih _ _ _

/-- The first match is the same with more text behind. -/
theorem find?_extend (hp : p.shutOut more) (text : Text) :
    p.find? (text ++ more) = p.find? text := by
  simp only [find?, findAll, findFrom_extend hp]

end

/-- An accessor ends in a brace, so a line feed put behind a script changes none of its matches. -/
theorem accessor_shutOut_break : accessor.shutOut ['\n'] = true := by
  decide

end Pattern

end ImportLift
