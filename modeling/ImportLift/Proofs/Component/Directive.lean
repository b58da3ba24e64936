-- Directive lines. A directive is a whole line: spaces and tabs about two
-- slashes and one of two words, up to the break or the end of the text. The
-- rule matches at the start of a line only, and there it matches the line and
-- nothing more if the line is a directive. So erasing its matches is the same
-- as leaving out lines.
import ImportLift.Component
import ImportLift.Proofs.Pattern.Cover
import ImportLift.Proofs.Pattern.Segments

namespace ImportLift

namespace Text

/-! ## Lines -/

/-- The text cut behind each mark. -/
def cutBehind (mark : Char) : Text → List Text
  | [] => []
  | c :: rest =>
    if c = mark then [c] :: cutBehind mark rest
    else
      match cutBehind mark rest with
      | [] => [[c]]
      | piece :: pieces => (c :: piece) :: pieces

variable {mark : Char} {body : Text}

theorem flatten_cutBehind (mark : Char) (text : Text) : (cutBehind mark text).flatten = text := by
  induction text with
  | nil => rfl
  | cons c rest ih =>
    unfold cutBehind
    split
    · rw [List.flatten_cons, ih, List.singleton_append]
    · split
      · rename_i hnone
        rw [hnone] at ih
        rw [← ih]
        rfl
      · rename_i piece pieces hpieces
        rw [hpieces] at ih
        rw [← ih]
        rfl

theorem cutBehind_append_cons (h : mark ∉ body) (rest : Text) :
    cutBehind mark (body ++ mark :: rest) = (body ++ [mark]) :: cutBehind mark rest := by
  induction body with
  | nil => simp [cutBehind]
  | cons c body ih =>
    rw [List.mem_cons, not_or] at h
    simp [cutBehind, Ne.symm h.1, ih h.2]

theorem cutBehind_of_not_mem (h : mark ∉ body) (hne : body ≠ []) :
    cutBehind mark body = [body] := by
  induction body with
  | nil => contradiction
  | cons c body ih =>
    rw [List.mem_cons, not_or] at h
    cases body with
    | nil => simp [cutBehind, Ne.symm h.1]
    | cons d body =>
      rw [cutBehind, if_neg (Ne.symm h.1), ih h.2 (List.cons_ne_nil _ _)]

/-- What holds of the empty text and of a last line, and goes over from a text to a line in front
of it, holds of every text. -/
@[elab_as_elim]
theorem line_induction {motive : Text → Prop} (mark : Char) (nil : motive [])
    (last : ∀ body, body ≠ [] → mark ∉ body → motive body)
    (line : ∀ body rest, mark ∉ body → motive rest → motive (body ++ mark :: rest))
    (text : Text) : motive text := by
  induction hlength : text.length using Nat.strongRecOn generalizing text with
  | ind n ih =>
    by_cases hmem : mark ∈ text
    · obtain ⟨body, rest, rfl, hbody⟩ := List.eq_append_cons_of_mem hmem
      refine line body rest hbody (ih rest.length ?_ rest rfl)
      rw [← hlength, List.length_append, List.length_cons]
      omega
    · cases text with
      | nil => exact nil
      | cons c text => exact last _ (List.cons_ne_nil _ _) hmem

/-- Lines that are left out leave the others as lines. -/
theorem cutBehind_filter (mark : Char) (keep : Text → Bool) (text : Text) :
    cutBehind mark ((cutBehind mark text).filter keep).flatten =
      (cutBehind mark text).filter keep := by
  induction text using line_induction mark with
  | nil => rfl
  | last body hne hbody =>
    rw [cutBehind_of_not_mem hbody hne]
    cases hkeep : keep body
    · simp [hkeep, cutBehind]
    · simp [hkeep, cutBehind_of_not_mem hbody hne]
  | line body rest hbody ih =>
    rw [cutBehind_append_cons hbody]
    cases hkeep : keep (body ++ [mark])
    · simpa [hkeep] using ih
    · rw [List.filter_cons_of_pos hkeep, List.flatten_cons, List.append_assoc,
        List.singleton_append, cutBehind_append_cons hbody, ih]

/-- The first text is the first line of the two: it ends in the mark, or it is all there is. -/
def IsLine (mark : Char) (line rest : Text) : Prop :=
  (∃ body, line = body ++ [mark] ∧ mark ∉ body) ∨ (mark ∉ line ∧ rest = [])

theorem eq_of_first_mark {body' rest rest' : Text} (h : mark ∉ body) (h' : mark ∉ body')
    (heq : body ++ mark :: rest = body' ++ mark :: rest') : body = body' := by
  have hfront : ∀ front : Text, mark ∉ front → ∀ c ∈ front, decide (c ≠ mark) = true := by
    intro front hfront c hc
    rw [decide_eq_true_eq]
    rintro rfl
    exact hfront hc
  have hstops : ∀ more, Pattern.Stops (fun c => decide (c ≠ mark)) (mark :: more) := by
    rintro more _ ⟨⟩
    simp
  exact Pattern.eq_of_stops (hfront body h) (hstops rest) (hfront body' h') (hstops rest') heq

/-- A text has one first line. -/
theorem IsLine.unique {line line' rest rest' : Text} (h : IsLine mark line rest)
    (h' : IsLine mark line' rest') (heq : line ++ rest = line' ++ rest') : line = line' := by
  rcases h with ⟨body, rfl, hbody⟩ | ⟨hline, rfl⟩
  · rcases h' with ⟨body', rfl, hbody'⟩ | ⟨hline', rfl⟩
    · rw [List.append_assoc, List.append_assoc] at heq
      rw [eq_of_first_mark hbody hbody' heq]
    · refine absurd ?_ hline'
      rw [← List.append_nil line', ← heq]
      simp
  · rcases h' with ⟨body', rfl, hbody'⟩ | ⟨hline', rfl⟩
    · refine absurd ?_ hline
      rw [← List.append_nil line, heq]
      simp
    · simpa using heq

/-- Each piece is the first line of what it starts. -/
theorem isLine_cutBehind {text line : Text} {before after : List Text}
    (h : cutBehind mark text = before ++ line :: after) : IsLine mark line after.flatten := by
  induction text using line_induction mark generalizing before with
  | nil => simp [cutBehind] at h
  | last body hne hbody =>
    rw [cutBehind_of_not_mem hbody hne, List.singleton_eq_append_iff] at h
    rcases h with ⟨-, hlast⟩ | ⟨-, hnone⟩
    · obtain ⟨rfl, rfl⟩ := List.cons.inj hlast
      exact .inr ⟨hbody, rfl⟩
    · cases hnone
  | line body rest hbody ih =>
    rw [cutBehind_append_cons hbody, List.cons_eq_append_iff] at h
    rcases h with ⟨-, hfirst⟩ | ⟨others, -, hlater⟩
    · obtain ⟨rfl, -⟩ := List.cons.inj hfirst
      exact .inl ⟨body, rfl, hbody⟩
    · exact ih hlater

/-- Inside a line there is no mark. -/
theorem IsLine.not_mem_front {line rest before after : Text} {c : Char} (h : IsLine mark line rest)
    (hsplit : line = before ++ c :: after) : mark ∉ before := by
  rcases h with ⟨body, rfl, hbody⟩ | ⟨hline, -⟩
  · intro hmem
    have hfront : before <+: body := by
      have hbegins : before <+: body ++ [mark] := ⟨c :: after, hsplit.symm⟩
      rcases List.prefix_concat_iff.mp hbegins with hall | hfront
      · have hlength := congrArg List.length hsplit
        rw [hall] at hlength
        simp at hlength
      · exact hfront
    exact hbody (hfront.subset hmem)
  · rw [hsplit, List.mem_append, not_or] at hline
    exact hline.1

end Text

namespace Component

/-! ## Directives as they are written -/

/-- A space or a tab. -/
def isSpace (c : Char) : Bool := c = ' ' || c = '\t'

/-- Spaces and tabs, or none. -/
abbrev Spaces := {text : Text // ∀ c ∈ text, isSpace c = true}

/-- The words that switch type checks on and off. -/
def switches : List Text := ["check", "nocheck"]

/-- What ends a line; the last line of a text ends with the text. -/
def lineEndings : List Text := [[], "\n", "\r\n"]

/-- A line that switches type checks. -/
structure Directive where
  indent : Spaces
  gap : Spaces
  switch : Text
  tail : Spaces
  ending : Text
  switch_mem : switch ∈ switches
  ending_mem : ending ∈ lineEndings

namespace Directive

/-- The directive as it is written, without its line break. -/
def body (d : Directive) : Text :=
  [d.indent.val, "//", d.gap.val, "@ts-", d.switch, d.tail.val].flatten

/-- The directive as it is written. -/
def render (d : Directive) : Text := d.body ++ d.ending

/-- The directive part by part. -/
theorem render_eq (d : Directive) :
    d.render = d.indent.val ++ ("//" ++ (d.gap.val ++ ("@ts-" ++ (d.switch ++ (d.tail.val ++
      d.ending))))) := by
  simp only [render, body, List.flatten_cons, List.flatten_nil, List.append_assoc,
    List.nil_append]

/-- The directive in front of more text, part by part. -/
theorem render_append (d : Directive) (rest : Text) :
    d.render ++ rest = d.indent.val ++ ("//" ++ (d.gap.val ++ ("@ts-" ++ (d.switch ++ (d.tail.val ++
      (d.ending ++ rest)))))) := by
  simp only [render_eq, List.append_assoc]

end Directive

/-- The text behind its leading spaces and tabs. -/
def pastSpaces (text : Text) : Text := text.dropWhile isSpace

/-- What follows a word and the spaces and tabs behind it, if the text starts with the word. -/
def follow? (word text : Text) : Option Text :=
  if word.isPrefixOf text then some (pastSpaces (text.drop word.length)) else none

/-- The line is a directive. -/
def isDirective (line : Text) : Bool :=
  switches.any fun switch => lineEndings.any fun ending =>
    (follow? "//" (pastSpaces line)).bind (follow? ("@ts-" ++ switch)) = some ending

theorem pastSpaces_append (gap : Spaces) {text : Text} (h : Pattern.Stops isSpace text) :
    pastSpaces (gap.val ++ text) = text := by
  rw [pastSpaces, List.dropWhile_append_of_pos gap.property]
  cases text with
  | nil => rfl
  | cons c text => rw [List.dropWhile_cons_of_neg (by rw [h c rfl]; decide)]

/-- A text is spaces and tabs and what is behind them. -/
theorem pastSpaces_eq_iff {text rest : Text} :
    pastSpaces text = rest ↔
      ∃ gap : Spaces, text = gap.val ++ rest ∧ Pattern.Stops isSpace rest := by
  refine ⟨?_, fun ⟨gap, htext, hstops⟩ => by rw [htext, pastSpaces_append gap hstops]⟩
  rintro rfl
  refine ⟨⟨text.takeWhile isSpace, List.all_eq_true.mp List.all_takeWhile⟩,
    (List.takeWhile_append_dropWhile ..).symm, ?_⟩
  intro c hc
  have hhead := List.head?_dropWhile_not isSpace text
  rw [pastSpaces] at hc
  rw [hc] at hhead
  exact hhead

theorem follow?_eq_some_iff {word text rest : Text} :
    follow? word text = some rest ↔
      ∃ gap : Spaces, text = word ++ (gap.val ++ rest) ∧ Pattern.Stops isSpace rest := by
  rw [follow?]
  refine ⟨?_, ?_⟩
  · intro h
    split at h
    · rename_i hbegins
      obtain ⟨more, rfl⟩ := List.isPrefixOf_iff_prefix.mp hbegins
      rw [List.drop_left, Option.some.injEq, pastSpaces_eq_iff] at h
      obtain ⟨gap, rfl, hstops⟩ := h
      exact ⟨gap, rfl, hstops⟩
    · cases h
  · rintro ⟨gap, rfl, hstops⟩
    rw [if_pos (by simp), List.drop_left, pastSpaces_append gap hstops]

theorem stops_cons {c : Char} (h : isSpace c = false) (text : Text) :
    Pattern.Stops isSpace (c :: text) := by
  rintro _ ⟨⟩
  exact h

theorem stops_ending {ending : Text} (h : ending ∈ lineEndings) {rest : Text}
    (hrest : ending = [] → rest = []) : Pattern.Stops isSpace (ending ++ rest) := by
  simp only [lineEndings, List.mem_cons, List.not_mem_nil, or_false] at h
  rcases h with rfl | rfl | rfl
  · rw [hrest rfl]
    rintro _ ⟨⟩
  · exact stops_cons (by decide) rest
  · exact stops_cons (by decide) _

/-- The test accepts the lines that are written as directives, and no others. -/
theorem isDirective_iff (line : Text) :
    isDirective line = true ↔ ∃ d : Directive, d.render = line := by
  simp only [isDirective, List.any_eq_true, decide_eq_true_eq, Option.bind_eq_some_iff,
    follow?_eq_some_iff, pastSpaces_eq_iff]
  refine ⟨?_, ?_⟩
  · rintro ⟨switch, hswitch, ending, hending, note, ⟨gap, ⟨indent, hline, -⟩, -⟩, tail, rfl, -⟩
    refine ⟨⟨indent, gap, switch, tail, ending, hswitch, hending⟩, ?_⟩
    rw [Directive.render_eq, hline, List.append_assoc]
  · rintro ⟨d, rfl⟩
    have hending : Pattern.Stops isSpace d.ending := by
      rw [← List.append_nil d.ending]
      exact stops_ending d.ending_mem fun _ => rfl
    let note : Text := "@ts-" ++ (d.switch ++ (d.tail.val ++ d.ending))
    have hnote : note = ("@ts-" ++ d.switch) ++ (d.tail.val ++ d.ending) :=
      (List.append_assoc _ _ _).symm
    exact ⟨d.switch, d.switch_mem, d.ending, d.ending_mem, note,
      ⟨d.gap, ⟨d.indent, d.render_eq, stops_cons (by decide) _⟩, stops_cons (by decide) _⟩,
      d.tail, hnote, hending⟩

/-- What a directive is made of, its line break aside. -/
theorem Directive.mem_body (d : Directive) {c : Char} (h : c ∈ d.body) :
    c ∈ (" \t/@ts-nocheck" : Text) := by
  have hspaces : ∀ gap : Spaces, c ∈ gap.val → c ∈ (" \t/@ts-nocheck" : Text) := by
    intro gap hmem
    have hspace := gap.property c hmem
    rw [isSpace, Bool.or_eq_true, decide_eq_true_eq, decide_eq_true_eq] at hspace
    rcases hspace with rfl | rfl <;> decide
  have hwords : ∀ word ∈ ("//" : Text) :: "@ts-" :: switches, ∀ c ∈ word,
      c ∈ (" \t/@ts-nocheck" : Text) := by decide
  obtain ⟨part, hpart, hmem⟩ := List.mem_flatten.mp h
  simp only [List.mem_cons, List.not_mem_nil, or_false] at hpart
  rcases hpart with rfl | rfl | rfl | rfl | rfl | rfl
  · exact hspaces d.indent hmem
  · exact hwords "//" (by decide) c hmem
  · exact hspaces d.gap hmem
  · exact hwords "@ts-" (by decide) c hmem
  · exact hwords d.switch (List.mem_cons_of_mem _ (List.mem_cons_of_mem _ d.switch_mem)) c hmem
  · exact hspaces d.tail hmem

/-- The body of a directive is one line. -/
theorem Directive.feed_not_mem (d : Directive) : '\n' ∉ d.body :=
  fun hmem => absurd (d.mem_body hmem) (by decide)

theorem Directive.render_ne_nil (d : Directive) : d.render ≠ [] := by
  intro hnil
  have hlength := congrArg List.length d.render_eq
  rw [hnil] at hlength
  simp at hlength

/-- A directive is a whole line. -/
theorem Directive.isLine (d : Directive) {rest : Text} (hrest : d.ending = [] → rest = []) :
    Text.IsLine '\n' d.render rest := by
  have hending := d.ending_mem
  simp only [lineEndings, List.mem_cons, List.not_mem_nil, or_false] at hending
  rcases hending with hending | hending | hending
  · refine .inr ⟨?_, hrest hending⟩
    rw [Directive.render, hending, List.append_nil]
    exact d.feed_not_mem
  · exact .inl ⟨d.body, by rw [Directive.render, hending]; rfl, d.feed_not_mem⟩
  · refine .inl ⟨d.body ++ ['\r'], ?_, ?_⟩
    · rw [Directive.render, hending, List.append_assoc]
      rfl
    · rw [List.mem_append, not_or]
      exact ⟨d.feed_not_mem, by decide⟩

end Component

namespace Pattern

open Component

variable {behind : Option Char} {rest : Text} {kept kept' : Captures} {c c' : Cursor}

/-! ## How the rule reads a line -/

theorem leads_spaces (gap : Spaces) (hstop : Stops isSpace rest) :
    Leads spaces ⟨behind, gap.val ++ rest⟩ kept ⟨gap.val.getLast?.or behind, rest⟩ kept :=
  leads_most gap.property hstop kept

theorem leads_switch {switch : Text} (h : switch ∈ switches) {ps : List Pattern}
    (hlater : Leads (all ps) ⟨some 'k', rest⟩ kept c' kept') :
    Leads (all (maybe (exactly "no") :: exactly "check" :: ps)) ⟨behind, switch ++ rest⟩ kept
      c' kept' := by
  have hcheck : ∀ behind,
      Leads (all (exactly "check" :: ps)) ⟨behind, "check" ++ rest⟩ kept c' kept' :=
    fun behind => .all (.seq (forced_exactly "check" behind rest kept).leads hlater)
  simp only [switches, List.mem_cons, List.not_mem_nil, or_false] at h
  rcases h with rfl | rfl
  · have habsent : Stuck (all (mark 'n' :: [mark 'o'])) ⟨behind, "check" ++ rest⟩ kept := by
      refine .all (.seq (stuck_one ?_ kept))
      rintro _ ⟨⟩
      decide
    exact .all (.seq (Forced.maybe_absent habsent).leads (hcheck behind))
  · exact .all (.seq (.either (forced_exactly "no" behind ("check" ++ rest) kept).leads _)
      (hcheck (some 'o')))

theorem leads_lineEnding (behind : Option Char) (kept : Captures) {ending : Text}
    (h : ending ∈ lineEndings) (hrest : ending = [] → rest = []) :
    ∃ behind', Leads (either (seq (maybe (mark '\r')) (mark '\n')) textEnd)
      ⟨behind, ending ++ rest⟩ kept ⟨behind', rest⟩ kept := by
  simp only [lineEndings, List.mem_cons, List.not_mem_nil, or_false] at h
  rcases h with rfl | rfl | rfl
  · obtain rfl := hrest rfl
    have hnone : ∀ m, Stuck (mark m) ⟨behind, []⟩ kept := by
      intro m
      refine stuck_one ?_ kept
      rintro _ ⟨⟩
    exact ⟨behind, .either_right (.seq_of_forced (.maybe_absent (hnone _)) (hnone _))
      (forced_textEnd behind kept).leads⟩
  · have hnone : Stuck (mark '\r') ⟨behind, '\n' :: rest⟩ kept := by
      refine stuck_one ?_ kept
      rintro _ ⟨⟩
      decide
    exact ⟨some '\n', .either (.seq (Forced.maybe_absent hnone).leads
      (forced_one (by decide) kept).leads) _⟩
  · exact ⟨some '\n', .either (.seq (.either (forced_one (by decide) kept).leads _)
      (forced_one (by decide) kept).leads) _⟩

/-- At the start of a line a directive is read whole. -/
theorem leads_directive (d : Directive) (hrest : d.ending = [] → rest = [])
    (hstart : (⟨behind, d.render ++ rest⟩ : Cursor).atLineStart = true) :
    ∃ behind', Leads directiveLine ⟨behind, d.render ++ rest⟩ [] ⟨behind', rest⟩ [] := by
  let last : Option Char := d.tail.val.getLast?.or (some 'k')
  obtain ⟨behind', hending⟩ :=
    leads_lineEnding last [] d.ending_mem hrest
  refine ⟨behind', .all (.seq (forced_lineStart hstart []).leads ?_)⟩
  rw [d.render_append]
  refine .all (.seq (leads_spaces d.indent (stops_cons (by decide) _)) ?_)
  refine .all (.seq (forced_exactly "//" _ _ []).leads ?_)
  refine .all (.seq (leads_spaces d.gap (stops_cons (by decide) _)) ?_)
  refine .all (.seq (forced_exactly "@ts-" _ _ []).leads ?_)
  refine leads_switch d.switch_mem (.all (.seq ?_ hending))
  exact leads_spaces d.tail (stops_ending d.ending_mem hrest)

theorem Reaches.of_lineEnding
    (h : (Pattern.either (.seq (maybe (mark '\r')) (mark '\n')) .textEnd).Reaches c kept c' kept') :
    ∃ ending ∈ lineEndings, c.rest = ending ++ c'.rest ∧ (ending = [] → c'.rest = []) ∧
      kept' = kept := by
  cases h with
  | left _ hbreak =>
    cases hbreak with
    | seq hreturn hfeed =>
      obtain ⟨e, rfl⟩ := hfeed.of_mark
      rcases hreturn.of_maybe with hreturn | ⟨rfl, rfl⟩
      · obtain ⟨e', rfl⟩ := hreturn.of_mark
        exact ⟨"\r\n", by decide, by rw [e', e]; rfl, fun hnil => absurd hnil (by decide), rfl⟩
      · exact ⟨"\n", by decide, e, fun hnil => absurd hnil (by decide), rfl⟩
  | right _ hend =>
    cases hend with
    | textEnd _ _ => exact ⟨[], by decide, rfl, fun _ => rfl, rfl⟩

/-- What the rule reads is a directive at the start of a line. -/
theorem Reaches.of_directive (h : Pattern.directiveLine.Reaches c kept c' kept') :
    ∃ d : Directive, c.rest = d.render ++ c'.rest ∧ (d.ending = [] → c'.rest = []) ∧
      c.atLineStart = true := by
  unfold directiveLine at h
  obtain ⟨c₁, k₁, hstart, h₁⟩ := h.of_all_cons
  obtain ⟨c₂, k₂, hindent, h₂⟩ := h₁.of_all_cons
  obtain ⟨indent, hindent, e₂, -⟩ := hindent.of_most
  obtain ⟨c₃, k₃, hslashes, h₃⟩ := h₂.of_all_cons
  obtain ⟨c₄, k₄, hgap, h₄⟩ := h₃.of_all_cons
  obtain ⟨gap, hgap, e₄, -⟩ := hgap.of_most
  obtain ⟨c₅, k₅, hnote, h₅⟩ := h₄.of_all_cons
  obtain ⟨c₆, k₆, hno, h₆⟩ := h₅.of_all_cons
  obtain ⟨c₇, k₇, hcheck, h₇⟩ := h₆.of_all_cons
  obtain ⟨c₈, k₈, htail, h₈⟩ := h₇.of_all_cons
  obtain ⟨tail, htail, e₈, -⟩ := htail.of_most
  obtain ⟨ending, hending, e₉, hrest, -⟩ := Reaches.of_lineEnding h₈
  have e₃ := hslashes.of_exactly.1
  have e₅ := hnote.of_exactly.1
  have e₇ := hcheck.of_exactly.1
  obtain ⟨switch, hswitch, e₆⟩ : ∃ switch ∈ switches, c₅.rest = switch ++ c₇.rest := by
    rcases hno.of_maybe with hno | ⟨hsame, -⟩
    · exact ⟨"nocheck", by decide, by rw [hno.of_exactly.1, e₇]; rfl⟩
    · exact ⟨"check", by decide, by rw [← hsame, e₇]⟩
  let d : Directive :=
    ⟨⟨indent, hindent⟩, ⟨gap, hgap⟩, switch, ⟨tail, htail⟩, ending, hswitch, hending⟩
  cases hstart with
  | lineStart _ hstart =>
    refine ⟨d, ?_, hrest, hstart⟩
    rw [d.render_append, e₂, e₃, e₄, e₅, e₆, e₈, e₉]

/-! ## The rule on a line -/

theorem properAt?_not_lineStart (h : c.atLineStart = false) : directiveLine.properAt? c = none :=
  properAt?_of_stuck (.all (.seq (stuck_lineStart h [])))

theorem properAt?_directive {line : Text} (hline : Text.IsLine '\n' line rest)
    (hstart : behind.all (· = '\n') = true) :
    directiveLine.properAt? ⟨behind, line ++ rest⟩ =
      if isDirective line then some (line, []) else none := by
  split
  · rename_i hdirective
    obtain ⟨d, rfl⟩ := (isDirective_iff line).mp hdirective
    have hrest : d.ending = [] → rest = [] := by
      intro hending
      rcases hline with ⟨body, hbody, -⟩ | ⟨-, hrest⟩
      · have hbreak : d.body = body ++ ['\n'] := by
          rw [← hbody, Directive.render, hending, List.append_nil]
        exact absurd (by rw [hbreak]; simp) d.feed_not_mem
      · exact hrest
    obtain ⟨behind', hleads⟩ := leads_directive d hrest hstart
    exact properAt?_of_leads hleads d.render_ne_nil
  · rename_i hplain
    rw [Option.eq_none_iff_forall_ne_some]
    rintro ⟨found, parts⟩ hfound
    obtain ⟨after, hafter, -, _, stop, _, rfl, hreaches, -⟩ := hasMatch_of_properAt? hfound 0
    obtain ⟨d, htext, hrest, -⟩ := hreaches.of_directive
    obtain rfl : found = d.render := List.append_cancel_right htext
    have hsame : line = d.render := hline.unique (d.isLine hrest) hafter
    exact hplain ((isDirective_iff line).mpr ⟨d, hsame.symm⟩)

end Pattern

namespace Component

theorem eraseFrom_line {behind : Option Char} {line rest : Text} (hline : Text.IsLine '\n' line rest)
    (hstart : behind.all (· = '\n') = true) :
    Pattern.directiveLine.eraseFrom 0 behind (line ++ rest) =
      (if isDirective line then [] else line) ++
        Pattern.directiveLine.eraseFrom 0 (line.getLast?.or behind) rest := by
  have hread := Pattern.properAt?_directive hline hstart
  split
  · rename_i hdirective
    rw [if_pos hdirective] at hread
    rw [Pattern.eraseFrom_found hread, List.nil_append]
  · rename_i hplain
    rw [if_neg hplain] at hread
    apply Pattern.eraseFrom_missed
    intro before c after hsplit
    cases before with
    | nil =>
      rw [hsplit] at hread
      exact hread
    | cons d before =>
      -- Further on in the line there is no start of a line.
      have hinside := hline.not_mem_front hsplit
      obtain ⟨last, hlast⟩ : ∃ last, (d :: before).getLast? = some last :=
        ⟨_, List.getLast?_eq_some_getLast (List.cons_ne_nil d before)⟩
      apply Pattern.properAt?_not_lineStart
      rw [hlast, Option.some_or, Cursor.atLineStart, Option.all_some, decide_eq_false_iff_not]
      rintro rfl
      exact hinside (List.mem_of_getLast? hlast)

theorem eraseFrom_directives (text : Text) {behind : Option Char}
    (hstart : behind.all (· = '\n') = true) :
    Pattern.directiveLine.eraseFrom 0 behind text =
      ((Text.cutBehind '\n' text).filter fun line => !isDirective line).flatten := by
  induction text using Text.line_induction '\n' generalizing behind with
  | nil => rfl
  | last body hne hbody =>
    have hline := eraseFrom_line (.inr ⟨hbody, rfl⟩) hstart
    rw [List.append_nil] at hline
    rw [hline, Text.cutBehind_of_not_mem hbody hne]
    cases hdirective : isDirective body <;> simp [hdirective, Pattern.eraseFrom]
  | line body rest hbody ih =>
    have hlater : ((body ++ ['\n']).getLast?.or behind).all (· = '\n') = true := by
      rw [List.getLast?_concat]
      rfl
    have hline := eraseFrom_line (.inl ⟨body, rfl, hbody⟩ : Text.IsLine '\n' _ rest) hstart
    rw [ih hlater, List.append_assoc, List.singleton_append] at hline
    rw [hline, Text.cutBehind_append_cons hbody]
    cases hdirective : isDirective (body ++ ['\n']) <;> simp [hdirective]

/-- Stripping leaves the directives out, line by line, and changes nothing else. -/
theorem stripDirectives_eq (text : Text) :
    stripDirectives text =
      ((Text.cutBehind '\n' text).filter fun line => !isDirective line).flatten :=
  eraseFrom_directives text rfl

/-- Stripping leaves the directives out and keeps every other line, in order. A line is what ends
behind a line feed, or the rest of the text behind the last one; a directive is spaces and tabs
about two slashes and one of the two words, up to a line feed that a carriage return may stand in
front of, or up to the end of the text. No directive is left, so stripping again changes
nothing. -/
theorem stripping_keeps_the_lines_that_are_no_directives (text : Text) :
    let lines := Text.cutBehind '\n' text
    lines.flatten = text ∧
    (∀ before line after, lines = before ++ line :: after →
      Text.IsLine '\n' line after.flatten) ∧
    (∀ line, isDirective line = true ↔ ∃ d : Directive, d.render = line) ∧
    stripDirectives text = (lines.filter fun line => !isDirective line).flatten ∧
    stripDirectives (stripDirectives text) = stripDirectives text := by
  intro lines
  refine ⟨Text.flatten_cutBehind '\n' text, fun _ _ _ => Text.isLine_cutBehind, isDirective_iff,
    stripDirectives_eq text, ?_⟩
  have hkept : (lines.filter fun line => !isDirective line).filter (fun line => !isDirective line) =
      lines.filter fun line => !isDirective line := by
    rw [List.filter_filter]
    simp only [Bool.and_self]
  rw [stripDirectives_eq text, stripDirectives_eq, Text.cutBehind_filter, hkept]

example : stripDirectives "// @ts-check\r\n\t//@ts-nocheck\na // @ts-check\n//  @ts-check" =
    "a // @ts-check\n".toList := by
  decide +kernel

end Component

end ImportLift
