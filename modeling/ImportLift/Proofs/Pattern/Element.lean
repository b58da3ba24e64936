-- Rules for elements, followed along a text that is known. A rule that
-- starts with a word has no match where that word does not stand. Inside a
-- tag the rule goes on to the first place where an attribute can start; the
-- value of the attribute ends at its closing quotation mark.
import ImportLift.Proofs.Pattern.Segments

namespace ImportLift

/-! ## Edges of words -/

theorem Cursor.atWordEdge_before {ch : Char} {word : Text} (hch : Text.isWord ch = false)
    (hword : word.head?.any Text.isWord = true) (rest : Text) :
    (⟨some ch, word ++ rest⟩ : Cursor).atWordEdge = true := by
  cases word with
  | nil => cases hword
  | cons letter word =>
    have hletter : Text.isWord letter = true := hword
    simp [atWordEdge, hch, hletter]

theorem Cursor.atWordEdge_after {last ch : Char} (hlast : Text.isWord last = true)
    (hch : Text.isWord ch = false) (rest : Text) :
    (⟨some last, ch :: rest⟩ : Cursor).atWordEdge = true := by
  simp [atWordEdge, hlast, hch]

namespace Pattern

/-! ## Rules that start with a word -/

/-- No match starts in a part that is quiet for the first word of the pattern. -/
theorem properAt?_of_quiet {word text rest : Text} {q : Pattern} (h : Text.Quiet word text rest)
    {before after : Text} {ch : Char} (htext : text = before ++ ch :: after)
    (behind : Option Char) :
    (seq (folded word) q).properAt? ⟨behind, ch :: after ++ rest⟩ = none :=
  properAt?_of_stuck (.seq (stuck_folded (h before ch after htext) []))

/-- No match starts in a part that ends in a character which bars the word, if none starts at
its first bracket and the word is not held behind that. -/
theorem properAt?_of_tail {word more text tail rest : Text} {last : Char} {q : Pattern}
    (hword : word = '<' :: more) (hbars : Text.bars last word = true)
    (hlast : text.getLast? = some last) (htext : text = '<' :: tail)
    (htail : Text.holdsFolded word tail = false)
    (hfirst : ∀ behind, Stuck (seq (folded word) q) ⟨behind, text ++ rest⟩ [])
    {before after : Text} {ch : Char} (hsplit : text = before ++ ch :: after)
    (behind : Option Char) :
    (seq (folded word) q).properAt? ⟨behind, ch :: after ++ rest⟩ = none := by
  cases before with
  | nil =>
    rw [List.nil_append] at hsplit
    rw [← hsplit]
    exact properAt?_of_stuck (hfirst behind)
  | cons d before =>
    have hrest : tail = before ++ ch :: after := (List.cons.inj (htext.symm.trans hsplit)).2
    have hquiet : Text.Quiet word tail rest := by
      rw [hword] at hbars htail ⊢
      refine Text.quiet_of_getLast? hbars ?_ htail rest
      rw [hsplit] at hlast
      rw [hrest]
      simpa [List.getLast?_cons] using hlast
    exact properAt?_of_quiet hquiet hrest behind

/-! ## Values and end tags -/

/-- The value may stand in an attribute: it holds no quotation mark, no white space and no
bracket. -/
def IsValue (value : Text) : Prop :=
  ∀ c ∈ value, isQuote c = false ∧ Text.isBlank c = false ∧ c ≠ '<' ∧ c ≠ '>'

instance (value : Text) : Decidable (IsValue value) := List.decidableBAll _ value

theorem IsValue.insideValue {value : Text} (h : IsValue value) :
    ∀ c ∈ value, insideValue c = true := by
  intro c hc
  obtain ⟨hquote, hblank, -, hclose⟩ := h c hc
  simp [Pattern.insideValue, hquote, hblank, hclose]

/-- Only the empty value is blank. -/
theorem IsValue.allBlank {value : Text} (h : IsValue value) : value.allBlank = value.isEmpty := by
  cases value with
  | nil => rfl
  | cons c value => simp [Text.allBlank, (h c List.mem_cons_self).2.1]

theorem stuck_edge {word : Text} {ps : List Pattern} {behind : Option Char} {rest : Text}
    (h : Text.startsFolded word rest = false) (kept : Captures) :
    Stuck (all (wordEdge :: folded word :: ps)) ⟨behind, rest⟩ kept := by
  intro α next
  by_cases hedge : (⟨behind, rest⟩ : Cursor).atWordEdge = true
  · exact Stuck.all (.seq_of_forced (forced_wordEdge hedge kept)
      (.all (.seq (stuck_folded h kept)))) α next
  · rw [run_all_cons]
    simp [run, hedge]

/-- A lazy run inside a tag goes on to the first place where a word can start. -/
theorem leads_skip (word skipped : Text) (letter : Char) {rest : Text} {q : Pattern}
    {behind : Option Char} {kept kept' : Captures} {c' : Cursor} (hword : word.head? = some letter)
    (hskipped : (skipped.all fun ch => insideTag ch && !Text.sameFolded letter ch) = true)
    (hq : ∀ behind rest, Text.startsFolded word rest = false → Stuck q ⟨behind, rest⟩ kept)
    (h : Leads q ⟨skipped.getLast?.or behind, rest⟩ kept c' kept') :
    Leads (seq (least insideTag) q) ⟨behind, skipped ++ rest⟩ kept c' kept' := by
  have hchars : ∀ ch ∈ skipped, insideTag ch = true ∧ Text.sameFolded letter ch = false := by
    simpa using hskipped
  refine leads_least_seq (fun ch hch => (hchars ch hch).1) ?_ h
  intro before ch after hsplit behind
  apply hq
  exact Text.startsFolded_of_head? letter hword (hchars ch (by rw [hsplit]; simp)).2 _

/-- How the value of an attribute is set off. -/
inductive Quoting
  | double
  | single
  | bare
deriving DecidableEq

/-- The mark on either side of the value. -/
def Quoting.mark : Quoting → Text
  | double => ['"']
  | single => ['\'']
  | bare => []

theorem Quoting.mark_mem {q : Quoting} {c : Char} (h : c ∈ q.mark) : isQuote c = true := by
  cases q with
  | double =>
    rw [List.mem_singleton.mp h]
    rfl
  | single =>
    rw [List.mem_singleton.mp h]
    rfl
  | bare => cases h

/-- A value is read between its marks, or up to the first character that it cannot hold. -/
theorem leads_quoted (quoting : Quoting) {capture : Capture} (hcapture : capture ≠ .quote)
    {value rest : Text} (hvalue : IsValue value)
    (hbare : quoting = .bare → value ≠ [] ∧ Stops insideValue rest) (behind : Option Char)
    (kept : Captures) :
    ∃ s s', s.text = value ∧ s'.text = quoting.mark ∧
      Leads (all [keep .quote (maybe (one isQuote)), keep capture (most insideValue), same .quote])
        ⟨behind, quoting.mark ++ (value ++ (quoting.mark ++ rest))⟩ kept
        ⟨quoting.mark.getLast?.or (value.getLast?.or (quoting.mark.getLast?.or behind)), rest⟩
        ((capture, s) :: (.quote, s') :: kept) := by
  have hopen : Leads (maybe (one isQuote))
      ⟨behind, quoting.mark ++ (value ++ (quoting.mark ++ rest))⟩ kept
      ⟨quoting.mark.getLast?.or behind, value ++ (quoting.mark ++ rest)⟩ kept := by
    cases quoting with
    | double => exact .either (forced_one (by decide) kept).leads _
    | single => exact .either (forced_one (by decide) kept).leads _
    | bare =>
      obtain ⟨c, more, rfl⟩ := List.exists_cons_of_ne_nil (hbare rfl).1
      refine (Forced.maybe_absent (stuck_one ?_ kept)).leads
      rintro _ ⟨⟩
      exact (hvalue c List.mem_cons_self).1
  have hend : Stops insideValue (quoting.mark ++ rest) := by
    cases quoting with
    | double =>
      rintro _ ⟨⟩
      decide
    | single =>
      rintro _ ⟨⟩
      decide
    | bare => exact (hbare rfl).2
  let opened : Cursor := ⟨behind, quoting.mark ++ (value ++ (quoting.mark ++ rest))⟩
  let start : Cursor := ⟨quoting.mark.getLast?.or behind, value ++ (quoting.mark ++ rest)⟩
  let stop : Cursor := ⟨value.getLast?.or start.behind, quoting.mark ++ rest⟩
  have hmark : (⟨opened, start⟩ : Stretch).text = quoting.mark := by
    simp [opened, start, Stretch.text]
  have hread : (⟨start, stop⟩ : Stretch).text = value := by
    simp [start, stop, Stretch.text]
  have hlookup : List.lookup Capture.quote
      ((capture, ⟨start, stop⟩) :: (.quote, ⟨opened, start⟩) :: kept) = some ⟨opened, start⟩ := by
    rw [List.lookup_cons, beq_eq_false_iff_ne.mpr hcapture.symm]
    simp
  refine ⟨⟨start, stop⟩, ⟨opened, start⟩, hread, hmark, .all (.seq (hopen.keep .quote) ?_)⟩
  refine .all (.seq ((leads_most hvalue.insideValue hend _).keep capture) ?_)
  exact (forced_same quoting.mark hlookup hmark).leads

/-- An attribute with its value in double quotes is read up to the closing one. -/
theorem leads_reference (name : Text) (last : Char) (capture : Capture) {value : Text}
    (hword : (name.all fun letter => Text.sameFolded letter letter) = true ∧
      name.getLast? = some last)
    (hedge : name.head?.any Text.isWord = true) (hcapture : capture ≠ .quote)
    (hvalue : IsValue value) (rest : Text) (kept : Captures) :
    ∃ s s', s.text = value ∧ s'.text = ['"'] ∧
      Leads (reference name capture)
        ⟨some ' ', name ++ '=' :: '"' :: (value ++ '"' :: rest)⟩ kept
        ⟨some '"', rest⟩ ((capture, s) :: (.quote, s') :: kept) := by
  have hbare : Quoting.double = .bare → value ≠ [] ∧ Stops insideValue rest := by
    intro hnever
    cases hnever
  obtain ⟨s, s', hs, hs', hquoted⟩ :=
    leads_quoted .double hcapture hvalue hbare (some '=') kept
  have hedge : (⟨some ' ', name ++ '=' :: '"' :: (value ++ '"' :: rest)⟩ : Cursor).atWordEdge =
    true := Cursor.atWordEdge_before (by decide) hedge _
  refine ⟨s, s', hs, hs', .all (.seq (forced_wordEdge hedge kept).leads ?_)⟩
  refine .all (.seq (forced_word last hword kept).leads ?_)
  refine .all (.seq (forced_most_nil (by simp [Stops]; decide) kept).leads ?_)
  refine .all (.seq (forced_one (by decide) kept).leads ?_)
  exact .all (.seq (forced_most_nil (by simp [Stops]; decide) kept).leads hquoted)

theorem forced_endTag (name : Text) (last : Char) {behind : Option Char}
    (hword : (("</" ++ name).all fun letter => Text.sameFolded letter letter) = true ∧
      ("</" ++ name).getLast? = some last) (rest : Text) (kept : Captures) :
    Forced (endTag name) ⟨behind, ("</" ++ name) ++ '>' :: rest⟩ kept ⟨some '>', rest⟩ kept := by
  refine .all (.seq (forced_word last hword kept) ?_)
  refine .all (.seq (forced_most_nil (by simp [Stops]; decide) kept) ?_)
  exact .all (.seq (forced_one (by decide) kept) (forced_nothing _ _))

theorem stuck_endTag {name : Text} {behind : Option Char} {rest : Text}
    (h : Text.startsFolded ("</" ++ name) rest = false) (kept : Captures) :
    Stuck (endTag name) ⟨behind, rest⟩ kept :=
  .all (.seq (stuck_folded h kept))

end Pattern

end ImportLift
