-- What is left of a text when spans are removed. Spans that lie apart are cut
-- from left to right, and each cut leaves what stands in front of it. A span
-- may reach past the end of the text; then more is counted as removed than was
-- there, but nothing is left behind it that would move. So what is left are the
-- characters that no span covers, in whatever order the spans are given.
import ImportLift.Span

namespace ImportLift.Span

/-! ## The order of spans -/

/-- A span comes before another: by where they start, then by where they stop. -/
def Precedes (a b : Span) : Prop := a.start < b.start ∨ (a.start = b.start ∧ a.stop ≤ b.stop)

instance (a b : Span) : Decidable (Precedes a b) := inferInstanceAs (Decidable (_ ∨ _))

theorem le_iff {a b : Span} : le a b = true ↔ Precedes a b := by
  simp [le, Precedes]

theorem Precedes.antisymm {a b : Span} (hab : Precedes a b) (hba : Precedes b a) : a = b := by
  obtain ⟨start, stop⟩ := a
  obtain ⟨start', stop'⟩ := b
  simp only [Precedes] at hab hba
  have hstart : start = start' := by omega
  have hstop : stop = stop' := by omega
  rw [hstart, hstop]

theorem sorted_precedes (spans : List Span) : (spans.mergeSort le).Pairwise Precedes := by
  have htrans : ∀ a b c : Span, le a b = true → le b c = true → le a c = true := by
    intro a b c hab hbc
    rw [le_iff] at hab hbc ⊢
    unfold Precedes at hab hbc ⊢
    omega
  have htotal : ∀ a b : Span, (le a b || le b a) = true := by
    intro a b
    rw [Bool.or_eq_true, le_iff, le_iff]
    unfold Precedes
    omega
  exact (List.pairwise_mergeSort htrans htotal spans).imp le_iff.mp

/-- Spans have one arrangement in which each comes before the next. -/
theorem eq_sorted {spans sorted : List Span} (hperm : sorted.Perm spans)
    (hsorted : sorted.Pairwise Precedes) : sorted = spans.mergeSort le := by
  have hsame : ∀ a b, a ∈ sorted → b ∈ spans.mergeSort le → Precedes a b → Precedes b a → a = b :=
    fun a b _ _ hab hba => hab.antisymm hba
  apply List.Perm.eq_of_pairwise hsame hsorted (sorted_precedes spans)
  exact hperm.trans (List.mergeSort_perm _ _).symm

/-! ## Spans without a fault -/

/-- Each span stops before the next one starts. -/
def Apart (spans : List Span) : Prop :=
  ∀ before a b after, spans = before ++ a :: b :: after → a.stop ≤ b.start

/-- Where no span runs backwards, each stops before all later ones if it stops before the next. -/
theorem apart_iff {spans : List Span} (hspan : ∀ s ∈ spans, s.start ≤ s.stop) :
    Apart spans ↔ spans.Pairwise fun a b => a.stop ≤ b.start := by
  induction spans with
  | nil => simp [Apart]
  | cons s spans ih =>
    have hspans := fun t ht => hspan t (List.mem_cons_of_mem _ ht)
    rw [List.pairwise_cons, ← ih hspans]
    constructor
    · intro h
      have hrest : Apart spans := fun before a b after hsplit =>
        h (s :: before) a b after (by rw [hsplit]; rfl)
      refine ⟨fun t ht => ?_, hrest⟩
      cases spans with
      | nil => cases ht
      | cons b rest =>
        have hsb := h [] s b rest rfl
        rcases List.mem_cons.mp ht with rfl | ht
        · exact hsb
        · have hb := hspans b List.mem_cons_self
          have hbt := (List.pairwise_cons.mp ((ih hspans).mp hrest)).1 t ht
          omega
    · rintro ⟨hs, hrest⟩ before a b after hsplit
      cases before with
      | nil =>
        obtain ⟨rfl, rfl⟩ := List.cons.inj hsplit
        exact hs b List.mem_cons_self
      | cons first before => exact hrest before a b after (List.cons.inj hsplit).2

theorem firstFault?_eq_none {spans : List Span} {least : Int} :
    firstFault? least spans = none ↔
      (∀ s ∈ spans, least ≤ s.start ∧ s.start ≤ s.stop) ∧
        spans.Pairwise fun a b => a.stop ≤ b.start := by
  induction spans generalizing least with
  | nil => simp [firstFault?]
  | cons s spans ih =>
    simp only [firstFault?, List.forall_mem_cons, List.pairwise_cons]
    by_cases hspan : s.stop < s.start
    · simp only [hspan, if_true]
      constructor
      · intro h
        cases h
      · rintro ⟨⟨hs, -⟩, -⟩
        omega
    by_cases hleast : s.start < least
    · simp only [hspan, hleast, if_true, if_false]
      constructor
      · intro h
        cases h
      · rintro ⟨⟨hs, -⟩, -⟩
        omega
    simp only [hspan, hleast, if_false, ih]
    constructor
    · rintro ⟨hlater, hord⟩
      refine ⟨⟨by omega, fun t ht => ?_⟩, fun t ht => (hlater t ht).1, hord⟩
      have ht := hlater t ht
      omega
    · rintro ⟨⟨-, hlater⟩, hfirst, hord⟩
      exact ⟨fun t ht => ⟨hfirst t ht, (hlater t ht).2⟩, hord⟩

/-! ## What no span covers -/

/-- The offset lies in the span. -/
def covers (s : Span) (i : Nat) : Bool := s.start ≤ i && i < s.stop

theorem covers_eq_false {s : Span} {i : Nat} (h : i < s.start ∨ s.stop ≤ i) :
    s.covers i = false := by
  simp only [covers, Bool.and_eq_false_iff, decide_eq_false_iff_not]
  omega

/-- The characters that no span covers, of a text that starts at an offset. -/
def uncoveredFrom (spans : List Span) (offset : Nat) (text : Text) : Text :=
  ((text.zipIdx offset).filter fun (_, i) => !spans.any (·.covers i)).map Prod.fst

/-- The characters of a text whose offsets lie in none of the spans. -/
def uncovered (spans : List Span) (text : Text) : Text := uncoveredFrom spans 0 text

theorem uncoveredFrom_append (spans : List Span) (offset : Nat) (text rest : Text) :
    uncoveredFrom spans offset (text ++ rest) =
      uncoveredFrom spans offset text ++ uncoveredFrom spans (offset + text.length) rest := by
  simp [uncoveredFrom, List.zipIdx_append]

theorem uncoveredFrom_congr {spans others : List Span} {offset : Nat} {text : Text}
    (h : ∀ i, offset ≤ i → i < offset + text.length →
      spans.any (·.covers i) = others.any (·.covers i)) :
    uncoveredFrom spans offset text = uncoveredFrom others offset text := by
  unfold uncoveredFrom
  congr 1
  apply List.filter_congr
  rintro ⟨c, i⟩ hmem
  have hi := List.mem_zipIdx hmem
  simp only [h i hi.1 hi.2.1]

/-- A text that no span reaches is left whole. -/
theorem uncoveredFrom_free {spans : List Span} {offset : Nat} {text : Text}
    (h : ∀ s ∈ spans, ∀ i, offset ≤ i → i < offset + text.length → s.covers i = false) :
    uncoveredFrom spans offset text = text := by
  have hall : (text.zipIdx offset).filter (fun (_, i) => !spans.any (·.covers i)) =
      text.zipIdx offset := by
    rw [List.filter_eq_self]
    rintro ⟨c, i⟩ hmem
    have hi := List.mem_zipIdx hmem
    rw [Bool.not_eq_true', List.any_eq_false]
    intro s hs
    simp [h s hs i hi.1 hi.2.1]
  rw [uncoveredFrom, hall, List.zipIdx_map_fst]

/-- Nothing is left of a text that one span covers. -/
theorem uncoveredFrom_covered {s : Span} (spans : List Span) {offset : Nat} {text : Text}
    (h : text ≠ [] → s.start ≤ offset ∧ (offset + text.length : Nat) ≤ s.stop) :
    uncoveredFrom (s :: spans) offset text = [] := by
  unfold uncoveredFrom
  rw [List.map_eq_nil_iff, List.filter_eq_nil_iff]
  rintro ⟨c, i⟩ hmem
  have hi := List.mem_zipIdx hmem
  have hplace := h (List.ne_nil_of_length_pos (by omega))
  have hcovers : s.covers i = true := by
    simp only [covers, Bool.and_eq_true, decide_eq_true_eq]
    omega
  simp [hcovers]

/-- Of a text that starts before the first of some spans, the part up to that span is left, and
then what the others leave behind it. -/
theorem uncoveredFrom_cons {s : Span} {spans : List Span} {offset : Nat} (rest : Text)
    (hoffset : offset ≤ s.start) (hspan : s.start ≤ s.stop)
    (hlater : ∀ t ∈ spans, s.stop ≤ t.start) :
    uncoveredFrom (s :: spans) offset rest =
      rest.take (s.start - offset).toNat ++
        uncoveredFrom spans s.stop.toNat (rest.drop (s.stop - offset).toNat) := by
  let front := (s.start - offset).toNat
  let width := (s.stop - s.start).toNat
  have hwidth : (s.stop - offset).toNat = front + width := by omega
  have hfront : uncoveredFrom (s :: spans) offset (rest.take front) = rest.take front := by
    apply uncoveredFrom_free
    intro t ht i _ hi
    apply covers_eq_false
    rw [List.length_take] at hi
    rcases List.mem_cons.mp ht with rfl | ht
    · omega
    · have := hlater t ht
      omega
  have hcut : uncoveredFrom (s :: spans) (offset + (rest.take front).length)
      ((rest.drop front).take width) = [] := by
    apply uncoveredFrom_covered
    intro hne
    have hlong := List.length_pos_iff.mpr hne
    simp only [List.length_take, List.length_drop] at hlong ⊢
    omega
  have hbehind : uncoveredFrom (s :: spans) (offset + (rest.take (front + width)).length)
      (rest.drop (front + width)) =
        uncoveredFrom spans s.stop.toNat (rest.drop (front + width)) := by
    by_cases hlong : front + width ≤ rest.length
    · have hplace : offset + (rest.take (front + width)).length = s.stop.toNat := by
        rw [List.length_take]
        omega
      rw [hplace]
      apply uncoveredFrom_congr
      intro i hi _
      simp [covers_eq_false (s := s) (i := i) (by omega)]
    · rw [List.drop_of_length_le (by omega)]
      rfl
  rw [hwidth, ← hbehind]
  conv => lhs; rw [← List.take_append_drop (front + width) rest]
  rw [uncoveredFrom_append, List.take_add, uncoveredFrom_append, hfront, hcut, List.append_nil]

/-! ## Cutting -/

/-- Some text is done and some is left, which starts at an offset. As much counts as removed as
the offset is ahead of the text that is done; when nothing is left it may be less. Then the spans
cut what they cover out of the rest. -/
theorem foldl_next {spans : List Span} (done rest : Text) (removed : Int) (offset : Nat)
    (hfault : firstFault? offset spans = none) (hcount : done.length + removed ≤ offset)
    (hexact : rest ≠ [] → done.length + removed = offset) :
    (spans.foldl Cut.next ⟨done ++ rest, removed⟩).text =
      done ++ uncoveredFrom spans offset rest := by
  induction spans generalizing done rest removed offset with
  | nil => simp [uncoveredFrom_free]
  | cons s spans ih =>
    obtain ⟨hspans, hord⟩ := firstFault?_eq_none.mp hfault
    obtain ⟨⟨hoffset, hspan⟩, hothers⟩ := List.forall_mem_cons.mp hspans
    obtain ⟨hlater, hord⟩ := List.pairwise_cons.mp hord
    let front := (s.start - offset).toNat
    let behind := (s.stop - offset).toNat
    have hnext : Cut.next ⟨done ++ rest, removed⟩ s =
        ⟨(done ++ rest.take front) ++ rest.drop behind, removed + (s.stop - s.start)⟩ := by
      unfold Cut.next
      by_cases hrest : rest = []
      · rw [List.take_of_length_le (by simp [hrest]; omega),
          List.drop_of_length_le (by simp [hrest]; omega)]
        simp [hrest]
      · have hdone := hexact hrest
        have hstart : (s.start - removed).toNat = done.length + front := by omega
        have hstop : (s.stop - removed).toNat = done.length + behind := by omega
        simp only [hstart, hstop, List.take_length_add_append, List.drop_length_add_append]
    have hstop : ((s.stop.toNat : Nat) : Int) = s.stop := by omega
    rw [List.foldl_cons, hnext, uncoveredFrom_cons rest hoffset hspan hlater, ← List.append_assoc]
    apply ih
    · rw [hstop]
      exact firstFault?_eq_none.mpr ⟨fun t ht => ⟨hlater t ht, (hothers t ht).2⟩, hord⟩
    · simp only [List.length_append, List.length_take]
      omega
    · intro hmore
      rw [Ne, List.drop_eq_nil_iff] at hmore
      have hdone := hexact (List.ne_nil_of_length_pos (by omega))
      simp only [List.length_append, List.length_take]
      omega

/-- Spans without a fault cut out what they cover. -/
theorem cut_eq_uncovered {spans : List Span} (h : firstFault? 0 spans = none) (text : Text) :
    cut text spans = uncovered spans text :=
  foldl_next [] text 0 0 h (by simp) (by simp)

/-! ## Removal -/

/-- Removal succeeds where the sorted spans have no fault, and leaves what no span covers. -/
theorem remove_eq_ok {text left : Text} {spans : List Span} :
    remove text spans = .ok left ↔
      firstFault? 0 (spans.mergeSort le) = none ∧ left = uncovered spans text := by
  have hsame : uncovered (spans.mergeSort le) text = uncovered spans text :=
    uncoveredFrom_congr fun _ _ _ => (List.mergeSort_perm _ _).any_eq
  unfold remove
  simp only
  split
  · rename_i fault hfault
    simp [hfault]
  · rename_i hnone
    rw [cut_eq_uncovered hnone, hsame]
    simp [hnone, eq_comm]

/-- Spans that stand in a text as they are: each holds a character of the text, and each starts
behind the one before it. -/
structure FitIn (spans : List Span) (text : Text) : Prop where
  inside : ∀ s ∈ spans, 0 ≤ s.start ∧ s.start < s.stop ∧ s.stop ≤ text.length
  ordered : spans.Pairwise fun a b => a.start < b.start ∧ a.stop ≤ b.start

theorem FitIn.firstFault? {spans : List Span} {text : Text} (h : FitIn spans text) :
    firstFault? 0 spans = none := by
  refine firstFault?_eq_none.mpr ⟨fun s hs => ?_, h.ordered.imp And.right⟩
  have hinside := h.inside s hs
  omega

/-- Spans that stand in a text are cut out of it as they are. -/
theorem FitIn.remove {spans : List Span} {text : Text} (h : FitIn spans text) :
    remove text spans = .ok (cut text spans) := by
  have hsorted : spans = spans.mergeSort le :=
    eq_sorted (List.Perm.refl _) (h.ordered.imp fun hab => .inl hab.1)
  rw [cut_eq_uncovered h.firstFault?]
  apply remove_eq_ok.mpr
  rw [← hsorted]
  exact ⟨h.firstFault?, rfl⟩

/-- How many characters the spans take up together. -/
def totalSize : List Span → Int
  | [] => 0
  | s :: spans => s.stop - s.start + totalSize spans

theorem length_uncoveredFrom {spans : List Span} {offset : Nat} {text : Text}
    (hfault : firstFault? offset spans = none)
    (hinside : ∀ s ∈ spans, s.stop ≤ offset + text.length) :
    ((uncoveredFrom spans offset text).length : Int) + totalSize spans = text.length := by
  induction spans generalizing offset text with
  | nil => simp [uncoveredFrom_free, totalSize]
  | cons s spans ih =>
    obtain ⟨hspans, hord⟩ := firstFault?_eq_none.mp hfault
    obtain ⟨⟨hoffset, hspan⟩, hothers⟩ := List.forall_mem_cons.mp hspans
    obtain ⟨hlater, hord⟩ := List.pairwise_cons.mp hord
    obtain ⟨hstop, hinside⟩ := List.forall_mem_cons.mp hinside
    let rest := text.drop (s.stop - offset).toNat
    have hplace : ((s.stop.toNat : Nat) : Int) = s.stop := by omega
    have hnone : firstFault? s.stop.toNat spans = none := by
      rw [hplace]
      exact firstFault?_eq_none.mpr ⟨fun t ht => ⟨hlater t ht, (hothers t ht).2⟩, hord⟩
    have hends : ∀ t ∈ spans, t.stop ≤ s.stop.toNat + rest.length := by
      intro t ht
      have hend := hinside t ht
      simp only [rest, List.length_drop]
      omega
    have hrest := ih hnone hends
    rw [uncoveredFrom_cons text hoffset hspan hlater]
    simp only [rest, List.length_append, List.length_take, List.length_drop,
      totalSize] at hrest ⊢
    omega

/-- What is left of a text and what is cut out of it add up. -/
theorem FitIn.length_uncovered {spans : List Span} {text : Text} (h : FitIn spans text) :
    ((uncovered spans text).length : Int) + totalSize spans = text.length := by
  apply length_uncoveredFrom h.firstFault?
  intro s hs
  have hinside := h.inside s hs
  omega

/-- Removal succeeds exactly for spans that start at an offset, do not run backwards and, in the
one order in which each comes before the next, lie apart. It leaves the characters that no span
covers, and the order in which the spans are given makes no difference. -/
theorem removal_leaves_what_no_span_covers (text : Text) (spans : List Span) :
    ∃ sorted : List Span, sorted.Perm spans ∧ sorted.Pairwise Precedes ∧
      (∀ other, other.Perm spans → other.Pairwise Precedes → other = sorted) ∧
      ((∃ left, remove text spans = .ok left) ↔
        (∀ s ∈ spans, 0 ≤ s.start ∧ s.start ≤ s.stop) ∧ Apart sorted) ∧
      (∀ left, remove text spans = .ok left → left = uncovered spans text) ∧
      ∀ other, other.Perm spans → remove text other = remove text spans := by
  have hperm : (spans.mergeSort le).Perm spans := List.mergeSort_perm _ _
  refine ⟨spans.mergeSort le, hperm, sorted_precedes spans, fun other => eq_sorted, ?_, ?_, ?_⟩
  · have hok : (∃ left, remove text spans = .ok left) ↔
        firstFault? 0 (spans.mergeSort le) = none := by
      simp [remove_eq_ok]
    rw [hok, firstFault?_eq_none]
    simp only [hperm.mem_iff]
    apply and_congr_right
    intro hspans
    exact (apart_iff fun s hs => (hspans s (hperm.mem_iff.mp hs)).2).symm
  · intro left hleft
    exact (remove_eq_ok.mp hleft).2
  · intro other hother
    have hsame : other.mergeSort le = spans.mergeSort le :=
      eq_sorted ((List.mergeSort_perm _ _).trans hother) (sorted_precedes other)
    unfold remove
    rw [hsame]

/-- Spans out of order: one is empty, two touch, and two reach past the end of the text. -/
theorem spans_past_the_end_are_removed :
    let spans : List Span := [⟨4, 9⟩, ⟨11, 12⟩, ⟨1, 3⟩, ⟨3, 4⟩, ⟨1, 1⟩]
    remove "abcdef" spans = .ok ['a'] ∧ remove "abcdef" spans.reverse = .ok ['a'] := by
  intro spans
  obtain ⟨sorted, -, -, honly, hok, hleft, hany⟩ :=
    removal_leaves_what_no_span_covers "abcdef" spans
  have hsorted : [⟨1, 1⟩, ⟨1, 3⟩, ⟨3, 4⟩, ⟨4, 9⟩, ⟨11, 12⟩] = sorted :=
    honly _ (by decide) (by decide)
  have hapart : Apart sorted := by
    rw [← hsorted, apart_iff (by decide)]
    decide
  obtain ⟨left, hremoved⟩ := hok.mpr ⟨by decide, hapart⟩
  have hsome : left = ['a'] := (hleft left hremoved).trans (by decide)
  rw [hany _ (List.reverse_perm _), hremoved, hsome]
  exact ⟨rfl, rfl⟩

end ImportLift.Span
