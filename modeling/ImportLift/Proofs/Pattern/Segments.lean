-- Searching a text that is known segment by segment. Each segment is either
-- one whole match or a stretch in which no match starts. Then the matches are
-- those segments, in order, and cutting them out leaves the other segments.
import ImportLift.Proofs.Pattern.Matches
import ImportLift.Proofs.Pattern.Place

namespace ImportLift

/-- A part of a text: what a match on the whole part keeps, or none when no match starts in it. -/
structure Segment where
  text : Text
  found : Option Parts

namespace Segment

/-- The text that the segments make up. -/
def whole (segments : List Segment) : Text := segments.flatMap text

/-- The segments that are not matches, put together. -/
def remaining (segments : List Segment) : Text := whole (segments.filter (·.found.isNone))

/-- The segments that are matches, the first of all starting at an offset. -/
def matchesFrom : Nat → List Segment → List Match
  | _, [] => []
  | offset, ⟨text, none⟩ :: segments => matchesFrom (offset + text.length) segments
  | offset, ⟨text, some kept⟩ :: segments =>
    ⟨offset, text, kept⟩ :: matchesFrom (offset + text.length) segments

@[simp] theorem whole_cons (s : Segment) (segments : List Segment) :
    whole (s :: segments) = s.text ++ whole segments := rfl

theorem map_kept_matchesFrom (offset : Nat) (segments : List Segment) :
    (matchesFrom offset segments).map Match.kept = segments.filterMap found := by
  fun_induction matchesFrom offset segments with
  | case1 => rfl
  | case2 offset text segments ih => simpa using ih
  | case3 offset text kept segments ih => simpa using ih

/-! ## Cutting the matches out -/

/-- Some text is done, and so much was cut out of it; the matches among the further segments
are cut out and nothing else. -/
theorem foldl_cut (done : Text) (removed : Int) (offset : Nat) (segments : List Segment)
    (hoffset : (done.length : Int) + removed = offset) :
    (((matchesFrom offset segments).map Harvest.spanOf).foldl Span.Cut.next
      ⟨done ++ whole segments, removed⟩).text = done ++ remaining segments := by
  fun_induction matchesFrom offset segments generalizing done removed with
  | case1 => rfl
  | case2 offset text segments ih =>
    have hlater := ih (done ++ text) removed (by simp; omega)
    simpa [remaining] using hlater
  | case3 offset text kept segments ih =>
    have hcut : Span.Cut.next ⟨done ++ (text ++ whole segments), removed⟩
        (Harvest.spanOf ⟨offset, text, kept⟩) =
        ⟨done ++ whole segments, removed + text.length⟩ := by
      have hstart : ((offset : Int) - removed).toNat = done.length := by omega
      have hstop : (((offset + text.length : Nat) : Int) - removed).toNat =
          done.length + text.length := by omega
      have htext : (done ++ (text ++ whole segments)).drop (done.length + text.length) =
          whole segments := by
        rw [← List.append_assoc, ← List.length_append, List.drop_left]
      simp only [Span.Cut.next, Harvest.spanOf, Match.stop, hstart, hstop, List.take_left, htext,
        Span.Cut.mk.injEq, true_and]
      omega
    have hlater := ih done (removed + text.length) (by omega)
    simpa [remaining, hcut] using hlater

theorem without_matchesFrom (segments : List Segment) :
    Harvest.without (whole segments) (matchesFrom 0 segments) = remaining segments :=
  foldl_cut [] 0 0 segments rfl

end Segment

namespace Pattern

/-- The pattern matches the segments that are said to be matches, and no match starts in the
others. -/
inductive Scans (p : Pattern) : List Segment → Prop
  | nil : Scans p []
  | quiet {text : Text} {segments : List Segment} :
      (∀ before ch after, text = before ++ ch :: after →
        ∀ behind, p.properAt? ⟨behind, ch :: after ++ Segment.whole segments⟩ = none) →
      Scans p segments → Scans p (⟨text, none⟩ :: segments)
  | found {text : Text} {kept : Parts} {segments : List Segment} :
      (∀ behind, p.properAt? ⟨behind, text ++ Segment.whole segments⟩ = some (text, kept)) →
      Scans p segments → Scans p (⟨text, some kept⟩ :: segments)

theorem properAt?_of_leads {p : Pattern} {behind behind' : Option Char} {text rest : Text}
    {kept : Captures} (h : Leads p ⟨behind, text ++ rest⟩ [] ⟨behind', rest⟩ kept)
    (hne : text ≠ []) :
    p.properAt? ⟨behind, text ++ rest⟩ =
      some (text, kept.map fun (name, stretch) => (name, stretch.text)) := by
  have hmatch : p.matchAt? ⟨behind, text ++ rest⟩ =
      some (text, kept.map fun (name, stretch) => (name, stretch.text)) := by
    apply h
    simp
  simp [properAt?, hmatch, hne]

theorem properAt?_of_stuck {p : Pattern} {c : Cursor} (h : Stuck p c []) :
    p.properAt? c = none := by
  have hmatch : p.matchAt? c = none := h _ _
  simp [properAt?, hmatch]

theorem findFrom_quiet {p : Pattern} {text rest : Text}
    (h : ∀ before ch after, text = before ++ ch :: after →
      ∀ behind, p.properAt? ⟨behind, ch :: after ++ rest⟩ = none)
    (offset : Nat) (behind : Option Char) :
    ∃ behind', p.findFrom 0 offset behind (text ++ rest) =
      p.findFrom 0 (offset + text.length) behind' rest := by
  induction text generalizing offset behind with
  | nil => exact ⟨behind, rfl⟩
  | cons ch text ih =>
    have hhere : p.properAt? ⟨behind, ch :: (text ++ rest)⟩ = none := h [] ch text rfl behind
    obtain ⟨behind', hlater⟩ := ih (fun before d after hsplit =>
      h (ch :: before) d after (by rw [hsplit]; rfl)) (offset + 1) (some ch)
    refine ⟨behind', ?_⟩
    rw [List.cons_append, findFrom, hhere]
    simp only
    rw [hlater, List.length_cons, Nat.add_assoc, Nat.add_comm 1]

/-- Behind a text in which no match starts, the first match is the one that stands there. -/
theorem find?_of_quiet {p : Pattern} {text rest : Text}
    (h : ∀ before ch after, text = before ++ ch :: after →
      ∀ behind, p.properAt? ⟨behind, ch :: after ++ rest⟩ = none) :
    ∃ behind, ∀ found parts, p.properAt? ⟨behind, rest⟩ = some (found, parts) →
      p.find? (text ++ rest) = some ⟨text.length, found, parts⟩ := by
  obtain ⟨behind, hskip⟩ := findFrom_quiet h 0 none
  refine ⟨behind, fun found parts hfound => ?_⟩
  rw [find?, findAll, hskip, Nat.zero_add]
  cases rest with
  | nil =>
    -- A match is not empty, so it needs a character.
    obtain ⟨after, hrest, hne, -⟩ := hasMatch_of_properAt? hfound text.length
    simp at hrest
    exact absurd hrest.1 hne
  | cons c rest => simp [findFrom, hfound]

theorem findFrom_skip (p : Pattern) (text rest : Text) (offset : Nat) (behind : Option Char) :
    ∃ behind', p.findFrom text.length offset behind (text ++ rest) =
      p.findFrom 0 (offset + text.length) behind' rest := by
  induction text generalizing offset behind with
  | nil => exact ⟨behind, rfl⟩
  | cons ch text ih =>
    obtain ⟨behind', hlater⟩ := ih (offset + 1) (some ch)
    refine ⟨behind', ?_⟩
    rw [List.cons_append, List.length_cons, findFrom, hlater, Nat.add_assoc, Nat.add_comm 1]

theorem findFrom_segments {p : Pattern} {segments : List Segment} (h : p.Scans segments)
    (offset : Nat) (behind : Option Char) :
    p.findFrom 0 offset behind (Segment.whole segments) = Segment.matchesFrom offset segments := by
  induction h generalizing offset behind with
  | nil => rfl
  | @quiet text segments hquiet _ ih =>
    obtain ⟨behind', hskip⟩ := findFrom_quiet hquiet offset behind
    rw [Segment.whole_cons, hskip, ih, Segment.matchesFrom]
  | @found text kept segments hfound _ ih =>
    rw [Segment.whole_cons, Segment.matchesFrom]
    cases text with
    | nil =>
      have hproper := (Option.filter_eq_some_iff.mp (hfound none)).2
      simp at hproper
    | cons ch text =>
      obtain ⟨behind', hskip⟩ :=
        findFrom_skip p text (Segment.whole segments) (offset + 1) (some ch)
      have hhere : p.properAt? ⟨behind, ch :: (text ++ Segment.whole segments)⟩ =
        some (ch :: text, kept) := hfound behind
      rw [List.cons_append, findFrom, hhere]
      simp only [List.length_cons, Nat.add_sub_cancel]
      rw [hskip, ih, Nat.add_assoc, Nat.add_comm 1]

/-- The matches are the segments that are said to be matches. -/
theorem findAll_segments {p : Pattern} {segments : List Segment} (h : p.Scans segments) :
    p.findAll (Segment.whole segments) = Segment.matchesFrom 0 segments :=
  findFrom_segments h 0 none

/-- What the matches keep under a name, in order. -/
theorem filled?_segments {p : Pattern} {segments : List Segment} (h : p.Scans segments)
    (name : Capture) :
    (p.findAll (Segment.whole segments)).filterMap (·.filled? name) =
      (segments.filterMap Segment.found).filterMap fun kept =>
        (kept.lookup name).filter fun value => !value.allBlank := by
  rw [findAll_segments h, ← Segment.map_kept_matchesFrom 0, List.filterMap_map]
  rfl

/-- Cutting the matches out leaves the other segments. -/
theorem without_segments {p : Pattern} {segments : List Segment} (h : p.Scans segments) :
    Harvest.without (Segment.whole segments) (p.findAll (Segment.whole segments)) =
      Segment.remaining segments := by
  rw [findAll_segments h, Segment.without_matchesFrom]

/-! ## Erasing -/

theorem eraseFrom_skip (p : Pattern) (text rest : Text) (behind : Option Char) :
    p.eraseFrom text.length behind (text ++ rest) =
      p.eraseFrom 0 (text.getLast?.or behind) rest := by
  induction text generalizing behind with
  | nil => rfl
  | cons ch text ih =>
    rw [List.cons_append, List.length_cons, eraseFrom, ih, getLast?_or_cons]

/-- A match is left out. -/
theorem eraseFrom_found {p : Pattern} {behind : Option Char} {text rest : Text} {parts : Parts}
    (h : p.properAt? ⟨behind, text ++ rest⟩ = some (text, parts)) :
    p.eraseFrom 0 behind (text ++ rest) = p.eraseFrom 0 (text.getLast?.or behind) rest := by
  cases text with
  | nil =>
    obtain ⟨-, -, hne, -⟩ := hasMatch_of_properAt? h 0
    exact absurd rfl hne
  | cons ch text =>
    rw [List.cons_append] at h ⊢
    simp only [eraseFrom, h, List.length_cons, Nat.add_sub_cancel]
    rw [eraseFrom_skip, getLast?_or_cons]

/-- A text in which no match starts is left as it is. -/
theorem eraseFrom_missed {p : Pattern} {behind : Option Char} {text rest : Text}
    (h : ∀ before ch after, text = before ++ ch :: after →
      p.properAt? ⟨before.getLast?.or behind, ch :: after ++ rest⟩ = none) :
    p.eraseFrom 0 behind (text ++ rest) =
      text ++ p.eraseFrom 0 (text.getLast?.or behind) rest := by
  induction text generalizing behind with
  | nil => rfl
  | cons ch text ih =>
    have hhere : p.properAt? ⟨behind, ch :: (text ++ rest)⟩ = none := h [] ch text rfl
    have hlater := ih fun before d after hsplit => by
      have hthere := h (ch :: before) d after (by rw [hsplit]; rfl)
      rwa [getLast?_or_cons] at hthere
    rw [List.cons_append]
    simp only [eraseFrom, hhere, hlater, List.cons_append]
    rw [getLast?_or_cons]

end Pattern

end ImportLift
