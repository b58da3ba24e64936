-- How the rule for accessors matches an accessor that is written out. An
-- accessor has its words in any case, white space between them, a literal in
-- quotation marks and any number of semicolons. The rule takes the whole
-- accessor, whatever follows it, and keeps the literal exactly when it is made
-- of words joined by dashes: a run that ends earlier than the literal meets no
-- quotation mark. Read backwards, a match that keeps a name is an accessor.
import ImportLift.Proofs.Component
import ImportLift.Proofs.Pattern.Cover
import ImportLift.Proofs.Template.Element
import ImportLift.Proofs.Text.Mark

namespace ImportLift

namespace Component

/-! ## Accessors as they are written -/

/-- Two or more words joined by single dashes. -/
def IsDashed (literal : Text) : Prop :=
  ∃ words : List Text, 2 ≤ words.length ∧
    (∀ word ∈ words, word ≠ [] ∧ ∀ c ∈ word, Text.isWord c = true) ∧
    literal = Text.join "-" words

/-- An accessor: its four words, the white space behind each part, and what it returns. -/
structure Accessor where
  modifier : Text.Spelling "static"
  afterModifier : Template.Gap
  kind : Text.Spelling "get"
  afterKind : Template.Gap
  name : Text.Spelling "is"
  afterName : Template.Blank
  inParens : Template.Blank
  afterParens : Template.Blank
  afterBrace : Template.Blank
  verb : Text.Spelling "return"
  afterVerb : Template.Blank
  /-- The mark around the literal. -/
  quote : Char
  literal : Text
  afterLiteral : Template.Blank
  semicolons : Nat
  beforeBrace : Template.Blank
  quote_mark : Pattern.isQuote quote = true
  literal_unquoted : ∀ c ∈ literal, Pattern.isQuote c = false

namespace Accessor

/-- The accessor from behind its literal on, the closing quotation mark left out. -/
def ending (a : Accessor) : Text :=
  a.afterLiteral ++ List.replicate a.semicolons ';' ++ a.beforeBrace ++ ['\x7d']

/-- The accessor as it is written. -/
def render (a : Accessor) : Text :=
  [a.modifier.val, a.afterModifier.val, a.kind.val, a.afterKind.val, a.name.val, a.afterName.val,
    ['('], a.inParens.val, [')'], a.afterParens.val, ['\x7b'], a.afterBrace.val, a.verb.val,
    a.afterVerb.val, [a.quote], a.literal, [a.quote]].flatten ++ a.ending

/-- The accessor in front of more text, part by part. -/
theorem render_append (a : Accessor) (rest : Text) :
    a.render ++ rest = a.modifier.val ++ (a.afterModifier.val ++ (a.kind.val ++ (a.afterKind.val ++
      (a.name.val ++ (a.afterName.val ++ '(' :: (a.inParens.val ++ ')' :: (a.afterParens.val ++
      '\x7b' :: (a.afterBrace.val ++ (a.verb.val ++ (a.afterVerb.val ++ a.quote :: (a.literal ++
      a.quote :: (a.ending ++ rest)))))))))))) := by
  simp only [render, List.flatten_cons, List.flatten_nil, List.append_assoc, List.cons_append,
    List.nil_append]

theorem render_modifier (a : Accessor) : ∃ more, a.render = a.modifier.val ++ more := by
  have hrender := a.render_append []
  rw [List.append_nil] at hrender
  exact ⟨_, hrender⟩

end Accessor

/-! ## Dashed literals -/

theorem join_dashes (word : Text) (words : List Text) :
    Text.join "-" (word :: words) = word ++ words.flatMap fun w => '-' :: w :=
  Text.join_cons "-" word words

/-- A dashed literal holds word characters and dashes. -/
theorem IsDashed.mem {literal : Text} (h : IsDashed literal) {c : Char} (hc : c ∈ literal) :
    Text.isWord c = true ∨ c = '-' := by
  obtain ⟨words, -, hwords, rfl⟩ := h
  cases words with
  | nil => simp [Text.join, List.intercalate] at hc
  | cons word words =>
    rw [join_dashes, List.mem_append, List.mem_flatMap] at hc
    rcases hc with hc | ⟨later, hlater, hc⟩
    · exact .inl ((hwords word List.mem_cons_self).2 c hc)
    · rcases List.mem_cons.mp hc with rfl | hc
      · exact .inr rfl
      · exact .inl ((hwords later (List.mem_cons_of_mem _ hlater)).2 c hc)

theorem IsDashed.unquoted {literal : Text} (h : IsDashed literal) :
    ∀ c ∈ literal, Pattern.isQuote c = false := by
  intro c hc
  rw [Bool.eq_false_iff]
  intro hquote
  have hplain := (Pattern.not_blank_of_quote hquote).2
  rcases h.mem hc with hword | rfl
  · rw [hword] at hplain
    cases hplain
  · cases hplain

end Component

namespace Pattern

open Component

variable {behind : Option Char} {rest : Text} {kept kept' : Captures} {c c' : Cursor}

/-- One turn of the repetition reads a dash and a word. -/
theorem leads_dash {word : Text} (hword : word ≠ [] ∧ ∀ c ∈ word, Text.isWord c = true)
    (hstop : Stops Text.isWord rest) :
    Leads (seq (mark '-') Pattern.word) ⟨behind, '-' :: word ++ rest⟩ kept
      ⟨word.getLast?.or (some '-'), rest⟩ kept :=
  .seq (forced_one (by decide) kept).leads (leads_some1 hword.1 hword.2 hstop kept)

theorem leads_words (behind : Option Char) {words : List Text} (hne : words ≠ [])
    (hwords : ∀ word ∈ words, word ≠ [] ∧ ∀ c ∈ word, Text.isWord c = true)
    (hstop : Stops (fun c => Text.isWord c || c = '-') rest) (kept : Captures) :
    ∃ behind', Leads (again (seq (mark '-') Pattern.word))
      ⟨behind, (words.flatMap fun word => '-' :: word) ++ rest⟩ kept ⟨behind', rest⟩ kept := by
  induction words generalizing behind with
  | nil => contradiction
  | cons word words ih =>
    obtain ⟨hword, hwords⟩ := List.forall_mem_cons.mp hwords
    have hless : ∀ more : Text, more.length < ('-' :: word ++ more).length := by
      intro more
      rw [List.cons_append, List.length_cons, List.length_append]
      omega
    cases words with
    | nil =>
      have hend : Stops Text.isWord rest := fun ch hch => (Bool.or_eq_false_iff.mp (hstop ch hch)).1
      have hdash : Stops (fun c => decide (c = '-')) rest :=
        fun ch hch => (Bool.or_eq_false_iff.mp (hstop ch hch)).2
      rw [List.flatMap_singleton]
      exact ⟨_, leads_again_last (leads_dash hword hend) (hless rest) (.seq (stuck_one hdash kept))⟩
    | cons later words =>
      obtain ⟨behind', hlater⟩ := ih (word.getLast?.or (some '-')) (by simp) hwords
      rw [List.flatMap_cons, List.append_assoc]
      refine ⟨behind', leads_again_more (leads_dash hword ?_) (hless _) hlater⟩
      rintro _ ⟨⟩
      decide

/-- A dashed literal is read up to the character behind it. -/
theorem leads_dashed (behind : Option Char) {literal : Text} (h : IsDashed literal)
    (hstop : Stops (fun c => Text.isWord c || c = '-') rest) (kept : Captures) :
    ∃ behind', Leads dashed ⟨behind, literal ++ rest⟩ kept ⟨behind', rest⟩ kept := by
  obtain ⟨words, htwo, hwords, rfl⟩ := h
  cases words with
  | nil => simp at htwo
  | cons word words =>
    obtain ⟨hword, hwords⟩ := List.forall_mem_cons.mp hwords
    have hne : words ≠ [] := by
      rintro rfl
      simp at htwo
    obtain ⟨behind', hlater⟩ := leads_words (word.getLast?.or behind) hne hwords hstop kept
    rw [join_dashes, List.append_assoc]
    refine ⟨behind', .seq (leads_some1 hword.1 hword.2 ?_ kept) hlater⟩
    obtain ⟨later, more, rfl⟩ := List.exists_cons_of_ne_nil hne
    rintro _ ⟨⟩
    decide

theorem words_of_again (h : (again (seq (mark '-') word)).Reaches c kept c' kept') :
    ∃ words : List Text, words ≠ [] ∧
      (∀ word ∈ words, word ≠ [] ∧ ∀ c ∈ word, Text.isWord c = true) ∧
      c.rest = (words.flatMap fun word => '-' :: word) ++ c'.rest ∧ kept' = kept := by
  have hturn {c c' : Cursor} {kept kept' : Captures}
      (h : (seq (mark '-') word).Reaches c kept c' kept') :
      ∃ word : Text, (word ≠ [] ∧ ∀ c ∈ word, Text.isWord c = true) ∧
        c.rest = '-' :: word ++ c'.rest ∧ kept' = kept := by
    cases h with
    | seq hdash hword =>
      obtain ⟨hfirst, rfl⟩ := hdash.of_mark
      obtain ⟨word, hne, hchars, hrest, rfl⟩ := hword.of_some1
      exact ⟨word, ⟨hne, hchars⟩, by rw [hfirst, hrest, List.cons_append], rfl⟩
  generalize hp : again (seq (mark '-') word) = p at h
  induction h with
  | once h1 =>
    cases hp
    obtain ⟨word, hword, hrest, rfl⟩ := hturn h1
    exact ⟨[word], by simp, by simpa using hword, by simpa using hrest, rfl⟩
  | more h1 _ _ ih =>
    cases hp
    obtain ⟨word, hword, hfirst, rfl⟩ := hturn h1
    obtain ⟨words, -, hwords, hrest, rfl⟩ := ih rfl
    refine ⟨word :: words, by simp, List.forall_mem_cons.mpr ⟨hword, hwords⟩, ?_, rfl⟩
    rw [hfirst, hrest, List.flatMap_cons, List.append_assoc]
  | _ => cases hp

/-- What the rule reads as a name is a dashed literal. -/
theorem Reaches.of_dashed (h : dashed.Reaches c kept c' kept') :
    ∃ literal, IsDashed literal ∧ c.rest = literal ++ c'.rest ∧ kept' = kept := by
  cases h with
  | seq hfirst hmore =>
    obtain ⟨word, hne, hchars, hrest, rfl⟩ := hfirst.of_some1
    obtain ⟨words, hwords, hlater, hrest', rfl⟩ := words_of_again hmore
    refine ⟨Text.join "-" (word :: words), ⟨word :: words, ?_, ?_, rfl⟩, ?_, rfl⟩
    · have := List.length_pos_iff.mpr hwords
      rw [List.length_cons]
      omega
    · exact List.forall_mem_cons.mpr ⟨⟨hne, hchars⟩, hlater⟩
    · rw [hrest, hrest', join_dashes, List.append_assoc]

/-! ## The literal and what follows it -/

/-- What the rule asks for from the opening quotation mark on. -/
def returned : Pattern :=
  all [keep .quote (one isQuote), either (keep .identity dashed) (most fun c => !isQuote c),
    same .quote, blanks, most (· = ';'), blanks, mark '\x7d']

/-- What follows the literal is read whole. Without semicolons the two runs of white space are
one, and the first of the rule takes both. -/
theorem leads_ending (a : Accessor) (rest : Text) (kept : Captures) :
    Leads (all [blanks, most (· = ';'), blanks, mark '\x7d']) ⟨behind, a.ending ++ rest⟩ kept
      ⟨some '\x7d', rest⟩ kept := by
  have hbrace : Stops Text.isBlank ('\x7d' :: rest) := stops_blank (by decide) rest
  have hsemicolon : Stops (fun c => decide (c = ';')) ('\x7d' :: rest) := by
    rintro _ ⟨⟩
    decide
  have hlast : ∀ behind, Leads (all [mark '\x7d']) ⟨behind, '\x7d' :: rest⟩ kept
      ⟨some '\x7d', rest⟩ kept := fun behind =>
    .all (.seq (forced_one (by decide) kept).leads (forced_nothing _ _).leads)
  cases hn : a.semicolons with
  | zero =>
    let gap : Template.Blank := ⟨a.afterLiteral.val ++ a.beforeBrace.val, by
      rw [Text.allBlank, List.all_append, Bool.and_eq_true]
      exact ⟨a.afterLiteral.property, a.beforeBrace.property⟩⟩
    have htext : a.ending ++ rest = gap.val ++ '\x7d' :: rest := by
      simp [Accessor.ending, hn, gap]
    rw [htext]
    refine .all (.seq (leads_blank gap hbrace) ?_)
    refine .all (.seq (forced_most_nil hsemicolon kept).leads ?_)
    exact .all (.seq (forced_most_nil hbrace kept).leads (hlast _))
  | succ n =>
    have htext : a.ending ++ rest = a.afterLiteral.val ++ (List.replicate (n + 1) ';' ++
        (a.beforeBrace.val ++ '\x7d' :: rest)) := by
      simp [Accessor.ending, hn]
    have hmarks : ∀ c ∈ List.replicate (n + 1) ';', decide (c = ';') = true := by
      intro c hc
      simp [List.eq_of_mem_replicate hc]
    rw [htext]
    refine .all (.seq (leads_blank a.afterLiteral (stops_blank (by decide) _)) ?_)
    refine .all (.seq (leads_most hmarks ?_ kept) ?_)
    · -- White space and the brace are no semicolons.
      intro c hc
      rw [decide_eq_false_iff_not]
      rintro rfl
      have hmem : ';' ∈ a.beforeBrace.val ++ ['\x7d'] := by
        apply List.mem_of_mem_head?
        cases hgap : a.beforeBrace.val with
        | nil => simp [hgap] at hc
        | cons d gap => simpa [hgap] using hc
      rcases List.mem_append.mp hmem with hmem | hmem
      · have hblank := List.all_eq_true.mp a.beforeBrace.property ';' hmem
        revert hblank
        decide
      · simp at hmem
    · exact .all (.seq (leads_blank a.beforeBrace hbrace) (hlast _))

/-- A quotation mark is the first one behind a text that holds none. -/
theorem eq_of_quote {text text' more more' : Text} {mark : Char} (hmark : isQuote mark = true)
    (htext : ∀ c ∈ text, isQuote c = false) (htext' : ∀ c ∈ text', isQuote c = false)
    (h : text ++ mark :: more = text' ++ mark :: more') : text = text' := by
  have hstops : ∀ more, Stops (fun c => !isQuote c) (mark :: more) := by
    rintro more _ ⟨⟩
    simp [hmark]
  exact eq_of_stops (by simpa using htext) (hstops more) (by simpa using htext') (hstops more') h

/-- A literal that is not dashed is not read as a name: a shorter part of it that is dashed has
no quotation mark behind it. -/
theorem stuck_undashed {literal more : Text} {quote : Char} {s : Stretch} {ps : List Pattern}
    (hquote : isQuote quote = true) (hliteral : ∀ c ∈ literal, isQuote c = false)
    (h : ¬ IsDashed literal) (hs : s.text = [quote]) :
    Stuck (seq (keep .identity dashed) (all (same .quote :: ps)))
      ⟨behind, literal ++ quote :: more⟩ ((.quote, s) :: kept) := by
  intro α next
  rw [Option.eq_none_iff_forall_ne_some]
  intro a ha
  obtain ⟨c', kept', hreaches, -⟩ := reaches_of_run ha
  cases hreaches with
  | seq hname hlater =>
    obtain ⟨kept₁, hdash, rfl⟩ := hname.of_keep
    obtain ⟨read, hdashed, hread, rfl⟩ := hdash.of_dashed
    obtain ⟨c₂, kept₂, hsame, -⟩ := hlater.of_all_cons
    obtain ⟨s', hs', hmark, rfl⟩ := hsame.of_same
    obtain rfl : s = s' := Option.some.inj hs'
    rw [hmark, hs] at hread
    have heq : literal = read := eq_of_quote hquote hliteral hdashed.unquoted hread
    exact h (heq ▸ hdashed)

/-- The accessor from its opening quotation mark on, where nothing is kept yet. What is kept of
the literal is the whole of it, if it is dashed, and nothing otherwise. -/
theorem leads_returned (behind : Option Char) (a : Accessor) (rest : Text) :
    ∃ found : Captures, Leads returned
      ⟨behind, a.quote :: (a.literal ++ a.quote :: (a.ending ++ rest))⟩ []
      ⟨some '\x7d', rest⟩ found ∧
      (IsDashed a.literal → (found.lookup .identity).map Stretch.text = some a.literal) ∧
      (¬ IsDashed a.literal → found.lookup .identity = none) := by
  let start : Cursor := ⟨some a.quote, a.literal ++ a.quote :: (a.ending ++ rest)⟩
  let quote : Stretch := ⟨⟨behind, a.quote :: (a.literal ++ a.quote :: (a.ending ++ rest))⟩, start⟩
  have hquote : quote.text = [a.quote] := by simp [quote, start, Stretch.text]
  have hend : ∀ behind' found, List.lookup Capture.quote found = some quote →
      Leads (all [same .quote, blanks, most (· = ';'), blanks, mark '\x7d'])
        ⟨behind', a.quote :: (a.ending ++ rest)⟩ found ⟨some '\x7d', rest⟩ found :=
    fun behind' found hfound =>
      .all (.seq (forced_same [a.quote] hfound hquote).leads (leads_ending a rest found))
  have hfirst : Forced (keep .quote (one isQuote)) _ [] start [(.quote, quote)] :=
    .keep .quote (forced_one a.quote_mark [])
  by_cases hdashed : IsDashed a.literal
  · have hstop : Stops (fun c => Text.isWord c || c = '-') (a.quote :: (a.ending ++ rest)) := by
      rintro _ ⟨⟩
      exact (not_blank_of_quote a.quote_mark).2
    obtain ⟨behind', hname⟩ := leads_dashed (some a.quote) hdashed hstop [(.quote, quote)]
    let name : Stretch := ⟨start, ⟨behind', a.quote :: (a.ending ++ rest)⟩⟩
    refine ⟨[(.identity, name), (.quote, quote)], .all (.seq hfirst.leads ?_), ?_, ?_⟩
    · exact .all (.seq ((hname.keep .identity).either _) (hend _ _ rfl))
    · intro _
      have hname : name.text = a.literal := by simp [name, start, Stretch.text]
      exact congrArg some hname
    · exact fun h => absurd hdashed h
  · refine ⟨[(.quote, quote)], .all (.seq hfirst.leads (.all ?_)), fun h => absurd h hdashed,
      fun _ => rfl⟩
    have hunquoted : ∀ c ∈ a.literal, (!isQuote c) = true := by
      simpa using a.literal_unquoted
    refine .either_second (stuck_undashed a.quote_mark a.literal_unquoted hdashed hquote) ?_
    refine .seq (leads_most hunquoted ?_ _) (hend _ _ rfl)
    rintro _ ⟨⟩
    simp [a.quote_mark]

/-! ## Accessors -/

/-- White space ends in front of a word that does not start with a blank. -/
theorem stops_spelling {word : Text} (text : Text.Spelling word) (letter : Char)
    (hword : word.head? = some letter) (hletter : Text.isBlank letter = false) (rest : Text) :
    Stops Text.isBlank (text.val ++ rest) := by
  obtain ⟨text, hlength, hstarts⟩ := text
  cases text with
  | nil =>
    cases word with
    | nil => cases hword
    | cons l word => cases hlength
  | cons c text =>
    apply stops_blank
    rw [Bool.eq_false_iff]
    intro hblank
    rw [Text.startsFolded_of_head? letter hword (Text.sameFolded_of_blank hletter hblank)] at hstarts
    cases hstarts

/-- What a match keeps under a name is the text of what was captured. -/
theorem lookup_parts (found : Captures) (name : Capture) :
    (found.map fun (name, stretch) => (name, stretch.text)).lookup name =
      (found.lookup name).map Stretch.text := by
  induction found with
  | nil => rfl
  | cons entry found ih =>
    obtain ⟨other, stretch⟩ := entry
    simp only [List.map_cons, List.lookup_cons]
    split
    · rfl
    · exact ih

/-- The rule takes a whole accessor, and keeps its literal if that is dashed. -/
theorem properAt?_accessor (a : Accessor) (behind : Option Char) (rest : Text) :
    ∃ parts : Parts, accessor.properAt? ⟨behind, a.render ++ rest⟩ = some (a.render, parts) ∧
      (IsDashed a.literal → parts.lookup .identity = some a.literal) ∧
      (¬ IsDashed a.literal → parts.lookup .identity = none) := by
  obtain ⟨found, hliteral, hdashed, hother⟩ :=
    leads_returned (a.afterVerb.val.getLast?.or a.verb.val.getLast?) a rest
  have hleads : Leads accessor ⟨behind, a.render ++ rest⟩ [] ⟨some '\x7d', rest⟩ found := by
    rw [a.render_append]
    refine .all (.seq (forced_spelling a.modifier (by decide) []).leads ?_)
    refine .all (.seq (leads_gap a.afterModifier
      (stops_spelling a.kind 'g' (by decide) (by decide) _)) ?_)
    refine .all (.seq (forced_spelling a.kind (by decide) []).leads ?_)
    refine .all (.seq (leads_gap a.afterKind
      (stops_spelling a.name 'i' (by decide) (by decide) _)) ?_)
    refine .all (.seq (forced_spelling a.name (by decide) []).leads ?_)
    refine .all (.seq (leads_blank a.afterName (stops_blank (by decide) _)) ?_)
    refine .all (.seq (forced_one (by decide) []).leads ?_)
    refine .all (.seq (leads_blank a.inParens (stops_blank (by decide) _)) ?_)
    refine .all (.seq (forced_one (by decide) []).leads ?_)
    refine .all (.seq (leads_blank a.afterParens (stops_blank (by decide) _)) ?_)
    refine .all (.seq (forced_one (by decide) []).leads ?_)
    refine .all (.seq (leads_blank a.afterBrace
      (stops_spelling a.verb 'r' (by decide) (by decide) _)) ?_)
    refine .all (.seq (forced_spelling a.verb (by decide) []).leads ?_)
    refine .all (.seq (leads_blank a.afterVerb
      (stops_blank (not_blank_of_quote a.quote_mark).1 _)) ?_)
    exact hliteral
  have hne : a.render ≠ [] := by
    obtain ⟨more, hrender⟩ := a.render_modifier
    rw [hrender]
    exact List.append_ne_nil_of_left_ne_nil (spelling_ne_nil a.modifier (by decide)) _
  refine ⟨_, properAt?_of_leads hleads hne, ?_, ?_⟩
  · intro h
    rw [lookup_parts, hdashed h]
  · intro h
    rw [lookup_parts, hother h]
    rfl

/-! ## Matches read backwards -/

section

variable {ps : List Pattern}

theorem Reaches.of_blanks_cons (h : (all (blanks :: ps)).Reaches c kept c' kept') :
    ∃ (gap : Template.Blank) (c₁ : Cursor), c.rest = gap.val ++ c₁.rest ∧
      (all ps).Reaches c₁ kept c' kept' := by
  obtain ⟨c₁, kept₁, hgap, hps⟩ := h.of_all_cons
  obtain ⟨gap, hblank, hrest, rfl⟩ := hgap.of_most
  exact ⟨⟨gap, List.all_eq_true.mpr hblank⟩, c₁, hrest, hps⟩

theorem Reaches.of_blanks1_cons (h : (all (blanks1 :: ps)).Reaches c kept c' kept') :
    ∃ (gap : Template.Gap) (c₁ : Cursor), c.rest = gap.val ++ c₁.rest ∧
      (all ps).Reaches c₁ kept c' kept' := by
  obtain ⟨c₁, kept₁, hgap, hps⟩ := h.of_all_cons
  obtain ⟨gap, hne, hblank, hrest, rfl⟩ := hgap.of_some1
  exact ⟨⟨gap, hne, List.all_eq_true.mpr hblank⟩, c₁, hrest, hps⟩

theorem Reaches.of_folded_cons {word : Text}
    (h : (all (folded word :: ps)).Reaches c kept c' kept') :
    ∃ (text : Text.Spelling word) (c₁ : Cursor), c.rest = text.val ++ c₁.rest ∧
      (all ps).Reaches c₁ kept c' kept' := by
  obtain ⟨c₁, kept₁, hword, hps⟩ := h.of_all_cons
  obtain ⟨text, hrest, rfl⟩ := hword.of_folded
  exact ⟨text, c₁, hrest, hps⟩

theorem Reaches.of_mark_cons {m : Char} (h : (all (mark m :: ps)).Reaches c kept c' kept') :
    ∃ c₁ : Cursor, c.rest = m :: c₁.rest ∧ (all ps).Reaches c₁ kept c' kept' := by
  obtain ⟨c₁, kept₁, hmark, hps⟩ := h.of_all_cons
  obtain ⟨hrest, rfl⟩ := hmark.of_mark
  exact ⟨c₁, hrest, hps⟩

end

/-- What the rule reads from the opening quotation mark on, where nothing is kept yet, if it
keeps a name. -/
theorem Reaches.of_returned {found : Captures} {name : Stretch}
    (h : returned.Reaches c [] c' found)
    (hname : found.lookup .identity = some name) :
    ∃ (quote : Char) (literal : Text) (afterLiteral : Template.Blank) (semicolons : Nat)
      (beforeBrace : Template.Blank), isQuote quote = true ∧ IsDashed literal ∧
      name.text = literal ∧
      c.rest = quote :: (literal ++ quote :: (afterLiteral.val ++
        (List.replicate semicolons ';' ++ (beforeBrace.val ++ '\x7d' :: c'.rest)))) := by
  unfold returned at h
  obtain ⟨c₁, k₁, hquote, h₁⟩ := h.of_all_cons
  obtain ⟨k₂, hone, rfl⟩ := hquote.of_keep
  obtain ⟨quote, hmark, e₁, rfl⟩ := hone.of_one
  obtain ⟨c₂, k₃, hchoice, h₂⟩ := h₁.of_all_cons
  obtain ⟨c₃, k₄, hsame, h₃⟩ := h₂.of_all_cons
  obtain ⟨s, hs, e₃, rfl⟩ := hsame.of_same
  obtain ⟨afterLiteral, c₄, e₄, h₄⟩ := h₃.of_blanks_cons
  obtain ⟨c₅, k₅, hrun, h₅⟩ := h₄.of_all_cons
  obtain ⟨marks, hmarks, e₅, rfl⟩ := hrun.of_most
  obtain ⟨beforeBrace, c₆, e₆, h₆⟩ := h₅.of_blanks_cons
  obtain ⟨c₇, e₇, h₇⟩ := h₆.of_mark_cons
  obtain ⟨rfl, rfl⟩ := h₇.of_nil
  have hsemicolons : marks = List.replicate marks.length ';' :=
    List.eq_replicate_iff.mpr ⟨rfl, fun c hc => of_decide_eq_true (hmarks c hc)⟩
  cases hchoice with
  | right _ hother =>
    -- Without a name nothing is kept under its label.
    obtain ⟨-, -, -, rfl⟩ := hother.of_most
    cases hname
  | left _ hleft =>
    obtain ⟨k₆, hdash, rfl⟩ := hleft.of_keep
    obtain ⟨literal, hdashed, e₂, rfl⟩ := hdash.of_dashed
    obtain rfl := Option.some.inj hname
    obtain rfl := Option.some.inj hs
    have hquote : (⟨c, c₁⟩ : Stretch).text = [quote] := Stretch.text_eq e₁
    rw [hquote] at e₃
    refine ⟨quote, literal, afterLiteral, marks.length, beforeBrace, hmark, hdashed,
      Stretch.text_eq e₂, ?_⟩
    rw [e₁, e₂, e₃, e₄, e₅, e₆, e₇, ← hsemicolons]
    rfl

/-- A match of the rule that keeps a name is an accessor whose literal is that name. -/
theorem Reaches.of_accessor {found : Captures} {name : Stretch}
    (h : accessor.Reaches c [] c' found) (hname : found.lookup .identity = some name) :
    ∃ a : Accessor, IsDashed a.literal ∧ name.text = a.literal ∧
      c.rest = a.render ++ c'.rest := by
  unfold accessor at h
  obtain ⟨modifier, c₁, e₁, h⟩ := h.of_folded_cons
  obtain ⟨afterModifier, c₂, e₂, h⟩ := h.of_blanks1_cons
  obtain ⟨kind, c₃, e₃, h⟩ := h.of_folded_cons
  obtain ⟨afterKind, c₄, e₄, h⟩ := h.of_blanks1_cons
  obtain ⟨word, c₅, e₅, h⟩ := h.of_folded_cons
  obtain ⟨afterName, c₆, e₆, h⟩ := h.of_blanks_cons
  obtain ⟨c₇, e₇, h⟩ := h.of_mark_cons
  obtain ⟨inParens, c₈, e₈, h⟩ := h.of_blanks_cons
  obtain ⟨c₉, e₉, h⟩ := h.of_mark_cons
  obtain ⟨afterParens, c₁₀, e₁₀, h⟩ := h.of_blanks_cons
  obtain ⟨c₁₁, e₁₁, h⟩ := h.of_mark_cons
  obtain ⟨afterBrace, c₁₂, e₁₂, h⟩ := h.of_blanks_cons
  obtain ⟨verb, c₁₃, e₁₃, h⟩ := h.of_folded_cons
  obtain ⟨afterVerb, c₁₄, e₁₄, h⟩ := h.of_blanks_cons
  obtain ⟨quote, literal, afterLiteral, semicolons, beforeBrace, hquote, hdashed, htext, e₁₅⟩ :=
    Reaches.of_returned h hname
  let a : Accessor := ⟨modifier, afterModifier, kind, afterKind, word, afterName, inParens,
    afterParens, afterBrace, verb, afterVerb, quote, literal, afterLiteral, semicolons, beforeBrace,
    hquote, hdashed.unquoted⟩
  refine ⟨a, hdashed, htext, ?_⟩
  rw [a.render_append, e₁, e₂, e₃, e₄, e₅, e₆, e₇, e₈, e₉, e₁₀, e₁₁, e₁₂, e₁₃, e₁₄, e₁₅]
  simp only [a, Accessor.ending, List.append_assoc, List.singleton_append]

end Pattern

namespace Component

/-! ## The first accessor of a script -/

/-- An accessor starts with the first letter of its first word and ends with a brace. -/
theorem Accessor.render_ends (a : Accessor) :
    (∃ c more, a.render = c :: more ∧ Text.sameFolded 's' c = true) ∧
      a.render.getLast? = some '\x7d' := by
  refine ⟨?_, ?_⟩
  · obtain ⟨rest, hrender⟩ := a.render_modifier
    obtain ⟨hlength, hstarts⟩ := a.modifier.property
    cases hword : a.modifier.val with
    | nil =>
      rw [hword] at hlength
      cases hlength
    | cons c word =>
      have hfirst : Text.startsFolded ('s' :: "tatic") (c :: word) = true := hword ▸ hstarts
      rw [Text.startsFolded, Bool.and_eq_true] at hfirst
      rw [hword, List.cons_append] at hrender
      exact ⟨c, _, hrender, hfirst.1⟩
  · have hending : a.ending.getLast? = some '\x7d' := List.getLast?_concat
    rw [Accessor.render, List.getLast?_append, hending, Option.some_or]

theorem Accessor.trim_render (a : Accessor) : a.render.trim = a.render := by
  obtain ⟨⟨c, more, hfirst, hletter⟩, hlast⟩ := a.render_ends
  apply Text.trim_of_ends
  · rw [hfirst]
    rintro _ ⟨⟩
    rw [Bool.eq_false_iff]
    intro hblank
    rw [Text.sameFolded_of_blank (by decide) hblank] at hletter
    cases hletter
  · rw [hlast]
    rintro _ ⟨⟩
    decide

/-- No accessor starts in a text that does not hold its first word, also when an accessor
follows: no letter of the word but the first is like its first one. -/
theorem quiet_before {before : Text} (hbefore : Text.holdsFolded "static" before = false)
    (a : Accessor) (after : Text) : Text.Quiet "static" before (a.render ++ after) := by
  have hword : ("static" : String).toList = 's' :: "tatic" := by decide
  rw [hword] at hbefore ⊢
  refine Text.quiet_of_head? ?_ hbefore
  intro c hc
  obtain ⟨⟨d, more, hfirst, hletter⟩, -⟩ := a.render_ends
  rw [hfirst] at hc
  obtain rfl : d = c := Option.some.inj hc
  rw [Text.bars, List.all_eq_true]
  intro letter hmem
  rw [Bool.not_eq_true', Bool.eq_false_iff]
  intro hsame
  have hothers : ∀ letter ∈ ("tatic" : String).toList, letter ≠ 's' ∧ letter.toNat < 128 := by
    decide
  exact (hothers letter hmem).1
    (Text.sameFolded_unique (hothers letter hmem).2 (by decide) hsame hletter)

theorem find?_accessor {before : Text} (hbefore : Text.holdsFolded "static" before = false)
    (a : Accessor) (after : Text) :
    ∃ m, Rule.accessor.pattern.find? (before ++ a.render ++ after) = some m ∧
      m.start = before.length ∧ m.text = a.render ∧
      (IsDashed a.literal → m.kept? .identity = some a.literal) ∧
      (¬ IsDashed a.literal → m.kept? .identity = none) := by
  have hquiet := quiet_before hbefore a after
  have hnone : ∀ front c back, before = front ++ c :: back → ∀ behind,
      Pattern.accessor.properAt? ⟨behind, c :: back ++ (a.render ++ after)⟩ = none :=
    fun front c back hsplit behind => Pattern.properAt?_of_quiet hquiet hsplit behind
  obtain ⟨behind, hfirst⟩ := Pattern.find?_of_quiet hnone
  obtain ⟨parts, hfound, hdashed, hother⟩ := Pattern.properAt?_accessor a behind after
  refine ⟨⟨before.length, a.render, parts⟩, ?_, rfl, rfl, hdashed, hother⟩
  rw [List.append_assoc]
  exact hfirst a.render parts hfound

/-- The component of a script whose first accessor is known. -/
theorem ofScript_of_find? {oldBase newBase before after declaration identity : Text} {m : Match}
    (hm : Rule.accessor.pattern.find? (before ++ declaration ++ after) = some m)
    (hstart : m.start = before.length) (htext : m.text = declaration)
    (hname : m.kept? .identity = some identity) :
    ∃ c, ofScript oldBase newBase (before ++ declaration ++ after) = .ok c ∧
      c.identity = identity ∧ c.start = before.length ∧
      c.stop = before.length + declaration.length ∧
      c.before = before ∧ c.declaration = declaration ∧ c.after = after := by
  have hstop : m.stop = before.length + declaration.length := by rw [Match.stop, hstart, htext]
  unfold ofScript
  simp only [hm, filled?_identity hm, hname]
  refine ⟨_, rfl, rfl, hstart, hstop, ?_, ?_, ?_⟩
  · simp [Component.before, hstart]
  · simp only [Component.declaration, hstart, hstop]
    rw [← List.length_append, List.take_left, List.drop_left]
  · simp [Component.after, hstop]

/-- A script whose first accessor is known declares a component exactly when the literal of the
accessor is made of words joined by dashes. Then the literal is its name, and the script is cut
around the accessor; else the accessor is what the failure shows. What follows the accessor, be
it another one, makes no difference. -/
theorem a_literal_of_dashed_words_names_the_component (oldBase newBase before after : Text)
    (a : Accessor) (hbefore : Text.holdsFolded "static" before = false) :
    let script := before ++ a.render ++ after
    ((∃ c, ofScript oldBase newBase script = .ok c) ↔ IsDashed a.literal) ∧
    (∀ c, ofScript oldBase newBase script = .ok c →
      c.identity = a.literal ∧ c.start = before.length ∧
      c.stop = before.length + a.render.length ∧ c.before = before ∧
      c.declaration = a.render ∧ c.after = after ∧
      c.before ++ c.declaration ++ c.after = script) ∧
    (¬ IsDashed a.literal →
      ofScript oldBase newBase script = .error ⟨.unreadIdentity, some a.render⟩) ∧
    (declares script = true ↔ IsDashed a.literal) := by
  intro script
  obtain ⟨m, hm, hstart, htext, hdashed, hother⟩ := find?_accessor hbefore a after
  have hdeclares : declares script = (m.kept? .identity).isSome := by
    simp only [declares, script, hm, filled?_identity hm]
  have herror : ¬ IsDashed a.literal →
      ofScript oldBase newBase script = .error ⟨.unreadIdentity, some a.render⟩ := by
    intro h
    simp only [ofScript, script, hm, filled?_identity hm, hother h, htext, a.trim_render]
  by_cases h : IsDashed a.literal
  · obtain ⟨c, hc, hplace⟩ := ofScript_of_find? hm hstart htext (hdashed h)
    refine ⟨⟨fun _ => h, fun _ => ⟨c, hc⟩⟩, ?_, herror, ?_⟩
    · intro c' hc'
      obtain rfl : c = c' := Except.ok.inj (hc.symm.trans hc')
      obtain ⟨hname, hfrom, hto, hfront, hmid, hback⟩ := hplace
      exact ⟨hname, hfrom, hto, hfront, hmid, hback, by rw [hfront, hmid, hback]⟩
    · rw [hdeclares, hdashed h]
      exact ⟨fun _ => h, fun _ => rfl⟩
  · have hnone : ∀ c, ofScript oldBase newBase script ≠ .ok c := by
      intro c hc
      rw [herror h] at hc
      cases hc
    refine ⟨⟨fun ⟨c, hc⟩ => absurd hc (hnone c), fun h' => absurd h' h⟩,
      fun c hc => absurd hc (hnone c), herror, ?_⟩
    rw [hdeclares, hother h]
    exact ⟨fun hnever => absurd hnever Bool.false_ne_true, fun h' => absurd h' h⟩

/-- An accessor in mixed case with two semicolons, behind the beginning of another one and in
front of a whole other one. -/
theorem the_first_accessor_names_the_component :
    let a : Accessor := ⟨⟨"Static", by decide⟩, ⟨"\t", by decide⟩, ⟨"get", by decide⟩,
      ⟨" \n", by decide⟩, ⟨"IS", by decide⟩, ⟨" ", by decide⟩, ⟨[], by decide⟩, ⟨[], by decide⟩,
      ⟨" ", by decide⟩, ⟨"return", by decide⟩, ⟨[], by decide⟩, '"', "x-é_1-y", ⟨" ", by decide⟩, 2,
      ⟨" ", by decide⟩, by decide, by decide⟩
    let script : Text := "class A \x7b stati get is() \x7b\x7d " ++ a.render ++
      " static get is() \x7b return 'y-z' \x7d"
    Text.holdsFolded "static" "class A \x7b stati get is() \x7b\x7d " = false ∧ IsDashed a.literal ∧
      (∃ c, ofScript [] [] script = .ok c ∧ c.identity = "x-é_1-y" ∧ c.start = 28 ∧
        c.declaration = a.render) ∧
      declares script = true := by
  intro a script
  have hbefore : Text.holdsFolded "static" "class A \x7b stati get is() \x7b\x7d " = false := by decide
  have hdashed : IsDashed a.literal := ⟨["x", "é_1", "y"], by decide, by decide, by decide⟩
  obtain ⟨hiff, hok, -, hdeclares⟩ := a_literal_of_dashed_words_names_the_component [] []
    "class A \x7b stati get is() \x7b\x7d " " static get is() \x7b return 'y-z' \x7d" a hbefore
  obtain ⟨c, hc⟩ := hiff.mpr hdashed
  obtain ⟨hname, hstart, -, -, hdeclaration, -⟩ := hok c hc
  exact ⟨hbefore, hdashed, ⟨c, hc, hname, hstart, hdeclaration⟩, hdeclares.mpr hdashed⟩

end Component

end ImportLift
