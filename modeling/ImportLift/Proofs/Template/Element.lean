-- How the rule for module elements matches an element that is written out.
-- An element has an id, a template body and white space and modifiers about
-- its tags. The rule takes a whole element that has an id, and keeps its body
-- without the white space around it. The body ends at the element's own
-- closing pair: one further in front would close the element in the body.
-- An element without an id is passed over, and in no element another starts.
import ImportLift.Template
import ImportLift.Proofs.Pattern.Element
import ImportLift.Proofs.Text.Blank

namespace ImportLift.Template

/-! ## Elements as they are written -/

/-- White space, or none. -/
abbrev Blank := {text : Text // text.allBlank = true}

/-- White space. -/
abbrev Gap := {text : Text // text ≠ [] ∧ text.allBlank = true}

/-- What stands between the name of an element and its id: white space and perhaps the strip
modifier, with white space behind it. -/
structure TagStart where
  lead : Gap
  modifier : Option Gap

/-- What stands at the end of an opening tag: perhaps the strip modifier, with white space in
front of it, and perhaps white space. -/
structure TagEnd where
  modifier : Option Gap
  shut : Blank

def TagStart.render (tag : TagStart) : Text :=
  match tag.modifier with
  | none => tag.lead
  | some gap => tag.lead ++ "strip-whitespace" ++ gap.val

theorem TagStart.render_some (lead gap : Gap) (rest : Text) :
    TagStart.render ⟨lead, some gap⟩ ++ rest =
      lead.val ++ ("strip-whitespace" ++ (gap.val ++ rest)) := by
  simp only [TagStart.render, List.append_assoc]

def TagEnd.render (tag : TagEnd) : Text :=
  match tag.modifier with
  | none => tag.shut ++ ">"
  | some gap => gap.val ++ "strip-whitespace" ++ tag.shut ++ ">"

/-- A module element. -/
structure Element where
  id : Text
  body : Text
  /-- The mark around the id. -/
  quote : Char
  start : TagStart
  stop : TagEnd
  /-- White space between the opening tags. -/
  inner : Blank
  templateStop : TagEnd
  /-- White space between the closing tags. -/
  outer : Blank
  id_named : (id.all fun c => Text.isWord c || c = '-') = true
  quote_mark : Pattern.isQuote quote = true
  body_open : Text.holdsFolded "<dom-module" body = false
  body_close : Text.holdsFolded "</dom-module" body = false

/-- The element as it is written. -/
def Element.render (e : Element) : Text :=
  "<dom-module" ++ e.start.render ++ "id=" ++ [e.quote] ++ e.id ++ [e.quote] ++ e.stop.render ++
    e.inner ++ "<template" ++ e.templateStop.render ++ e.body ++
    "</template>" ++ e.outer ++ "</dom-module>"

end ImportLift.Template

namespace ImportLift.Pattern

open Template

variable {behind : Option Char} {rest : Text} {kept kept' : Captures} {c' : Cursor}
  {ps : List Pattern}

/-! ## Tags -/

theorem stops_blank {ch : Char} (h : Text.isBlank ch = false) (rest : Text) :
    Stops Text.isBlank (ch :: rest) := by
  rintro _ ⟨⟩
  exact h

/-- A word that does not start with a blank does not match in front of one. -/
theorem stuck_word_of_blank {word : Text} (letter : Char) (hword : word.head? = some letter)
    (hletter : Text.isBlank letter = false) {ch : Char} (hch : Text.isBlank ch = true)
    (text : Text) : Stuck (folded word) ⟨behind, ch :: text⟩ kept :=
  stuck_folded (Text.startsFolded_of_head? letter hword (Text.sameFolded_of_blank hletter hch) text)
    kept

theorem leads_blank (blank : Blank) (hstop : Stops Text.isBlank rest) :
    Leads blanks ⟨behind, blank.val ++ rest⟩ kept ⟨blank.val.getLast?.or behind, rest⟩ kept :=
  leads_most (List.all_eq_true.mp blank.property) hstop kept

theorem leads_gap (gap : Gap) (hstop : Stops Text.isBlank rest) :
    Leads blanks1 ⟨behind, gap.val ++ rest⟩ kept ⟨gap.val.getLast?.or behind, rest⟩ kept :=
  leads_some1 gap.property.1 (List.all_eq_true.mp gap.property.2) hstop kept

/-- White space is stuck when what follows matches neither behind it nor in front of a blank. -/
theorem stuck_gap {q : Pattern} (gap : Gap) (hstop : Stops Text.isBlank rest)
    (hq : ∀ behind ch text, Text.isBlank ch = true → Stuck q ⟨behind, ch :: text⟩ kept)
    (h : ∀ behind, Stuck q ⟨behind, rest⟩ kept) :
    Stuck (seq blanks1 q) ⟨behind, gap.val ++ rest⟩ kept := by
  obtain ⟨text, hne, hblank⟩ := gap
  cases text with
  | nil => contradiction
  | cons ch text =>
    rw [Text.allBlank, List.all_cons, Bool.and_eq_true] at hblank
    have hrun : Stuck (seq (most Text.isBlank) q) ⟨some ch, text ++ rest⟩ kept :=
      stuck_run_seq (List.all_eq_true.mp hblank.2) hstop hq h
    exact .assoc (.seq_of_forced (forced_one hblank.1 kept) hrun)

theorem forced_strip (behind : Option Char) (rest : Text) (kept : Captures) :
    Forced stripWhitespace ⟨behind, "strip-whitespace" ++ rest⟩ kept ⟨some 'e', rest⟩ kept :=
  forced_word 'e' (by decide) kept

theorem stuck_strip {ch : Char} (h : Text.sameFolded 's' ch = false) (rest : Text) :
    Stuck stripWhitespace ⟨behind, ch :: rest⟩ kept :=
  stuck_folded (Text.startsFolded_of_head? 's' (by decide) h rest) kept

theorem leads_tagStart (tag : TagStart)
    (h : Leads (all ps) ⟨some 'd', rest⟩ kept c' kept') :
    Leads (all (blanks1 :: maybe (seq stripWhitespace blanks1) :: folded "id" :: ps))
      ⟨behind, tag.render ++ ("id" ++ rest)⟩ kept c' kept' := by
  have hid : Stops Text.isBlank ("id" ++ rest) := stops_blank (by decide) _
  have hlater : ∀ behind, Leads (all (folded "id" :: ps)) ⟨behind, "id" ++ rest⟩ kept c' kept' :=
    fun behind => .all (.seq (forced_word 'd' (by decide) kept).leads h)
  obtain ⟨lead, modifier⟩ := tag
  cases modifier with
  | none =>
    refine .all (.seq (leads_gap lead hid) (.all (.seq (Forced.maybe_absent ?_).leads (hlater _))))
    exact .seq (stuck_strip (by decide) _)
  | some gap =>
    rw [TagStart.render_some]
    refine .all (.seq (leads_gap lead (stops_blank (by decide) _)) ?_)
    refine .all (.seq (.either ?_ _) (hlater (gap.val.getLast?.or (some 'e'))))
    exact .seq (forced_strip _ _ kept).leads (leads_gap gap hid)

/-- The start of a tag is stuck when what follows the name of the attribute is. -/
theorem stuck_tagStart (tag : TagStart) (h : ∀ behind, Stuck (all ps) ⟨behind, rest⟩ kept) :
    Stuck (all (blanks1 :: maybe (seq stripWhitespace blanks1) :: folded "id" :: ps))
      ⟨behind, tag.render ++ ("id" ++ rest)⟩ kept := by
  have hid : Stops Text.isBlank ("id" ++ rest) := stops_blank (by decide) _
  have hlater : ∀ behind, Stuck (all (folded "id" :: ps)) ⟨behind, "id" ++ rest⟩ kept :=
    fun behind => .all (.seq_of_forced (forced_word 'd' (by decide) kept) (h _))
  have hblank : ∀ behind ch text, Text.isBlank ch = true →
      Stuck (all (folded "id" :: ps)) ⟨behind, ch :: text⟩ kept :=
    fun behind ch text hch =>
      .all (.seq (stuck_word_of_blank 'i' (by decide) (by decide) hch text))
  have hmodifier : ∀ behind ch text, Text.isBlank ch = true →
      Stuck (all (maybe (seq stripWhitespace blanks1) :: folded "id" :: ps))
        ⟨behind, ch :: text⟩ kept :=
    fun behind ch text hch =>
      .all (.maybe (.seq (.seq (stuck_strip (Text.sameFolded_of_blank (by decide) hch) text)))
        (hblank behind ch text hch))
  obtain ⟨lead, modifier⟩ := tag
  cases modifier with
  | none =>
    refine .all (stuck_gap lead hid hmodifier fun behind => .all (.maybe ?_ (hlater behind)))
    exact .seq (.seq (stuck_strip (by decide) _))
  | some gap =>
    rw [TagStart.render_some]
    refine .all (stuck_gap lead (stops_blank (by decide) _) hmodifier fun behind =>
      .all (.maybe ?_ ?_))
    · exact .assoc (.seq_of_forced (forced_strip _ _ kept) (stuck_gap gap hid hblank hlater))
    · exact .all (.seq (stuck_folded
        (Text.startsFolded_of_head? 'i' (by decide) (by decide) _) kept))

theorem leads_tagEnd (tag : TagEnd) (h : Leads (all ps) ⟨some '>', rest⟩ kept c' kept') :
    Leads (all (maybe (seq blanks1 stripWhitespace) :: blanks :: mark '>' :: ps))
      ⟨behind, tag.render ++ rest⟩ kept c' kept' := by
  have hclose : (">" : String).toList = ['>'] := by decide
  have hshut : Stops Text.isBlank ('>' :: rest) := stops_blank (by decide) _
  have hlater : ∀ behind, Leads (all (blanks :: mark '>' :: ps))
      ⟨behind, tag.shut.val ++ '>' :: rest⟩ kept c' kept' := fun behind =>
    .all (.seq (leads_blank tag.shut hshut) (.all (.seq (forced_one (by decide) kept).leads h)))
  obtain ⟨modifier, shut⟩ := tag
  cases modifier with
  | none =>
    have htext : TagEnd.render ⟨none, shut⟩ ++ rest = shut.val ++ '>' :: rest := by
      simp only [TagEnd.render, hclose, List.append_assoc, List.cons_append, List.nil_append]
    rw [htext]
    refine .all (.seq (Forced.maybe_absent ?_).leads (hlater _))
    by_cases hnil : shut.val = []
    · rw [hnil]
      exact .seq (.seq (stuck_one hshut kept))
    · refine stuck_gap ⟨shut.val, hnil, shut.property⟩ hshut ?_ fun _ => stuck_strip (by decide) _
      intro behind ch text hch
      exact stuck_strip (Text.sameFolded_of_blank (by decide) hch) text
  | some gap =>
    have htext : TagEnd.render ⟨some gap, shut⟩ ++ rest =
        gap.val ++ ("strip-whitespace" ++ (shut.val ++ '>' :: rest)) := by
      simp only [TagEnd.render, hclose, List.append_assoc, List.cons_append, List.nil_append]
    rw [htext]
    have hmodifier : Leads (seq blanks1 stripWhitespace) ⟨behind, _⟩ kept _ kept :=
      .seq (leads_gap gap (stops_blank (by decide) _))
        (forced_strip _ (shut.val ++ '>' :: rest) kept).leads
    exact .all (.seq (hmodifier.either _) (hlater _))

/-! ## The end of a body -/

/-- The closing pair of an element does not match in a text that does not close the element and
is not blank, also when a closing tag of a template follows the text. -/
theorem stuck_closing {text : Text} (hclose : Text.holdsFolded "</dom-module" text = false)
    (hblank : text.allBlank = false)
    (hrest : Text.startsFolded "/dom-module>" rest = false) :
    Stuck (all [blanks, folded "</template>", blanks, folded "</dom-module>"])
      ⟨behind, text ++ '<' :: rest⟩ kept := by
  refine .all (stuck_most_seq fun run after hsplit hrun behind => ?_)
  refine .all (stuck_folded_seq fun htag behind => ?_)
  refine .all (stuck_most_seq fun run' after' hsplit' hrun' behind => ?_)
  refine .all (.seq (stuck_folded ?_ kept))
  rw [Bool.eq_false_iff]
  intro htag'
  -- Each tag starts with a bracket, and up to the second one there is no other.
  rw [show ("</template>" : String).toList = '<' :: "/template>" by decide] at htag hsplit'
  rw [show ("</dom-module>" : String).toList = '<' :: "/dom-module>" by decide] at htag'
  obtain ⟨more, rfl, htemplate⟩ := Text.startsFolded_bracket htag
  obtain ⟨more', rfl, hmodule⟩ := Text.startsFolded_bracket htag'
  have hbetween : '<' ∉ more.take ("/template>" : String).toList.length ++ run' := by
    rw [List.mem_append, not_or]
    exact ⟨Text.not_mem_take htemplate (by decide), Text.bracket_not_mem hrun'⟩
  rw [List.length_cons, List.drop_succ_cons] at hsplit'
  rw [← List.take_append_drop ("/template>" : String).toList.length more, hsplit',
    ← List.append_assoc] at hsplit
  rcases Text.first_bracket (Text.bracket_not_mem hrun) hsplit with ⟨rfl, -⟩ | ⟨inside, rfl, hinside⟩
  · rw [Text.allBlank, List.all_eq_true.mpr hrun] at hblank
    cases hblank
  rcases Text.first_bracket hbetween hinside with ⟨-, rfl⟩ | ⟨inside', rfl, rfl⟩
  · rw [hmodule] at hrest
    cases hrest
  -- The second tag stands in the text.
  rw [Text.startsFolded_append (by decide),
    show ("/dom-module>" : String).toList = "/dom-module" ++ ['>'] by decide] at hmodule
  rw [show ("</dom-module" : String).toList = '<' :: "/dom-module" by decide,
    ← List.cons_append, ← List.append_assoc] at hclose
  have hnone := Text.startsFolded_of_not_held hclose
  rw [Text.startsFolded, Text.startsFolded_left hmodule] at hnone
  cases hnone

theorem startsFolded_template (rest : Text) :
    Text.startsFolded "/dom-module>" ("/template>" ++ rest) = false := by
  have hword : ("/dom-module>" : String).toList = '/' :: "dom-module>" := by decide
  have htag : ("/template>" : String).toList = '/' :: 't' :: "emplate>" := by decide
  rw [hword, htag, List.cons_append, List.cons_append, Text.startsFolded,
    Text.startsFolded_of_head? 'd' (by decide) (by decide), Bool.and_false]

/-- The body ends at the first closing pair behind it, and is kept without the white space
around it. -/
theorem leads_body {body : Text} (hclose : Text.holdsFolded "</dom-module" body = false)
    (outer : Blank) (rest : Text) (kept : Captures) :
    ∃ stretch : Stretch, stretch.text = Text.trim body ∧
      Leads (all [blanks, keep .template (least fun _ => true), blanks, folded "</template>",
          blanks, folded "</dom-module>"])
        ⟨behind, body ++ ("</template>" ++ (outer.val ++ ("</dom-module>" ++ rest)))⟩ kept
        ⟨some '>', rest⟩ ((.template, stretch) :: kept) := by
  obtain ⟨before, after, hbefore, hafter, hstart, hbody⟩ := Text.trim_append body
  have hopen : ("</template>" : String).toList = '<' :: "/template>" := by decide
  let tail : Text := "/template>" ++ (outer.val ++ ("</dom-module>" ++ rest))
  have htext : body ++ ("</template>" ++ (outer.val ++ ("</dom-module>" ++ rest))) =
      before ++ (Text.trim body ++ (after ++ '<' :: tail)) := by
    rw [hopen]
    conv => lhs; rw [hbody]
    simp only [List.append_assoc, List.cons_append, tail]
  have hstops : Stops Text.isBlank (Text.trim body ++ (after ++ '<' :: tail)) := by
    rw [← List.append_assoc, ← hstart]
    cases htrim : Text.trimStart body with
    | nil => exact stops_blank (by decide) _
    | cons c text => exact stops_blank (Text.head?_trimStart (by rw [htrim]; rfl)) _
  let start : Cursor := ⟨before.getLast?.or behind, Text.trim body ++ (after ++ '<' :: tail)⟩
  let stop : Cursor := ⟨(Text.trim body).getLast?.or start.behind, after ++ '<' :: tail⟩
  refine ⟨⟨start, stop⟩, by simp [Stretch.text, start, stop], ?_⟩
  rw [htext]
  refine .all (.seq (leads_most (List.all_eq_true.mp hbefore) hstops kept) ?_)
  refine .all (leads_keep_least_seq .template (fun _ _ => rfl) ?_ ?_)
  · intro front ch more hsplit behind kept
    rw [← List.append_assoc]
    refine stuck_closing ?_ ?_ ?_
    · have hplace : body = (before ++ front) ++ (ch :: more ++ after) := by
        rw [hsplit] at hbody
        rw [hbody]
        simp only [List.append_assoc]
      have hword : ("</dom-module" : String).toList = '<' :: "/dom-module" := by decide
      rw [hplace, hword] at hclose
      rw [hword]
      exact Text.holdsFolded_of_suffix hclose
    · have hblank := Text.allBlank_of_trim hsplit
      unfold Text.allBlank at hblank ⊢
      rw [List.all_append, hblank, Bool.false_and]
    · exact startsFolded_template _
  · refine .all (.seq (leads_most (List.all_eq_true.mp hafter) (stops_blank (by decide) _) _) ?_)
    have htag : '<' :: tail = "</template>" ++ (outer.val ++ ("</dom-module>" ++ rest)) := by
      rw [hopen]
      rfl
    rw [htag]
    refine .all (.seq (forced_word '>' (by decide) _).leads ?_)
    refine .all (.seq (leads_blank outer (stops_blank (by decide) _)) ?_)
    exact .all (.seq (forced_word '>' (by decide) _).leads (forced_nothing _ _).leads)

/-! ## Elements -/

/-- An element from behind its id on. -/
def afterId (e : Element) (rest : Text) : Text :=
  e.stop.render ++ (e.inner.val ++ ("<template" ++ (e.templateStop.render ++
    (e.body ++ ("</template>" ++ (e.outer.val ++ ("</dom-module>" ++ rest)))))))

theorem render_element (e : Element) (rest : Text) :
    e.render ++ rest = "<dom-module" ++ (e.start.render ++ ("id" ++ '=' :: e.quote :: (e.id ++
      e.quote :: afterId e rest))) := by
  have hid : ("id=" : String).toList = "id" ++ ['='] := by decide
  unfold Element.render afterId
  rw [hid]
  simp only [List.append_assoc, List.cons_append, List.nil_append]

theorem not_blank_of_quote {ch : Char} (h : isQuote ch = true) :
    Text.isBlank ch = false ∧ (Text.isWord ch || ch = '-') = false := by
  unfold isQuote at h
  rw [Bool.or_eq_true, decide_eq_true_eq, decide_eq_true_eq] at h
  rcases h with rfl | rfl
  · decide
  · decide

theorem leads_afterId (e : Element) (rest : Text) (kept : Captures) :
    ∃ stretch : Stretch, stretch.text = Text.trim e.body ∧
      Leads (all [maybe (seq blanks1 stripWhitespace), blanks, mark '>', blanks,
          folded "<template", maybe (seq blanks1 stripWhitespace), blanks, mark '>', blanks,
          keep .template (least fun _ => true), blanks, folded "</template>", blanks,
          folded "</dom-module>"])
        ⟨behind, afterId e rest⟩ kept ⟨some '>', rest⟩ ((.template, stretch) :: kept) := by
  obtain ⟨stretch, htext, hbody⟩ := leads_body e.body_close e.outer rest kept
  refine ⟨stretch, htext, leads_tagEnd e.stop ?_⟩
  refine .all (.seq (leads_blank e.inner (stops_blank (by decide) _)) ?_)
  refine .all (.seq (forced_word 'e' (by decide) kept).leads ?_)
  exact leads_tagEnd e.templateStop hbody

/-- The rule takes a whole element that has an id, and keeps the id and the trimmed body. -/
theorem properAt?_element (e : Element) (hid : e.id ≠ []) (behind : Option Char) (rest : Text) :
    templateBlock.properAt? ⟨behind, e.render ++ rest⟩ =
      some (e.render, [(.template, Text.trim e.body), (.id, e.id), (.quote, [e.quote])]) := by
  obtain ⟨hblank, hmark⟩ := not_blank_of_quote e.quote_mark
  let quoted : Text := e.id ++ e.quote :: afterId e rest
  let quote : Stretch := ⟨⟨some '=', e.quote :: quoted⟩, ⟨some e.quote, quoted⟩⟩
  let name : Stretch :=
    ⟨⟨some e.quote, quoted⟩, ⟨e.id.getLast?.or (some e.quote), e.quote :: afterId e rest⟩⟩
  have hquote : quote.text = [e.quote] := by simp [quote, Stretch.text]
  have hname : name.text = e.id := by simp [name, quoted, Stretch.text]
  obtain ⟨template, htemplate, hafter⟩ := leads_afterId e rest [(.id, name), (.quote, quote)]
  have hleads : Leads templateBlock ⟨behind, e.render ++ rest⟩ [] ⟨some '>', rest⟩
      [(.template, template), (.id, name), (.quote, quote)] := by
    rw [render_element]
    refine .all (.seq (forced_word 'e' (by decide) []).leads ?_)
    refine leads_tagStart e.start ?_
    refine .all (.seq (forced_most_nil (stops_blank (by decide) _) []).leads ?_)
    refine .all (.seq (forced_one (by decide) []).leads ?_)
    refine .all (.seq (forced_most_nil (stops_blank hblank _) []).leads ?_)
    refine .all (.seq (.keep .quote (forced_one e.quote_mark []).leads) ?_)
    refine .all (.seq (.keep .id (leads_some1 hid (List.all_eq_true.mp e.id_named) ?_ _)) ?_)
    · rintro _ ⟨⟩
      exact hmark
    refine .all (.seq (forced_same [e.quote] rfl hquote).leads ?_)
    exact hafter
  have hne : e.render ≠ [] := by
    intro h
    have hrender := render_element e []
    rw [h] at hrender
    simp at hrender
  have hfound := properAt?_of_leads hleads hne
  simpa [htemplate, hname, hquote] using hfound

theorem stuck_nameless (e : Element) (hid : e.id = []) (behind : Option Char) (rest : Text) :
    Stuck templateBlock ⟨behind, e.render ++ rest⟩ [] := by
  obtain ⟨hblank, hname⟩ := not_blank_of_quote e.quote_mark
  rw [render_element, hid]
  refine .all (.seq_of_forced (forced_word 'e' (by decide) []) ?_)
  refine stuck_tagStart e.start fun behind => ?_
  refine .all (.seq_of_forced (forced_most_nil (stops_blank (by decide) _) []) ?_)
  refine .all (.seq_of_forced (forced_one (by decide) []) ?_)
  refine .all (.seq_of_forced (forced_most_nil (stops_blank hblank _) []) ?_)
  refine .all (.seq_of_forced (.keep .quote (forced_one e.quote_mark [])) ?_)
  refine .all (.seq (.keep .id (.seq (stuck_one ?_ _))))
  rintro _ ⟨⟩
  exact hname

/-! ## No element starts inside another -/

theorem module_word : ("<dom-module" : String).toList = '<' :: "dom-module" := by decide

theorem bracket_tagStart (tag : TagStart) : '<' ∉ tag.render := by
  have hgap : ∀ gap : Gap, '<' ∉ gap.val := fun gap =>
    Text.bracket_not_mem (List.all_eq_true.mp gap.property.2)
  have hstrip : '<' ∉ ("strip-whitespace" : String).toList := by decide
  obtain ⟨lead, modifier⟩ := tag
  cases modifier with
  | none => exact hgap lead
  | some gap =>
    simp only [TagStart.render, List.mem_append, hgap, hstrip, or_self, not_false_eq_true]

theorem bracket_tagEnd (tag : TagEnd) : ∃ front, tag.render = front ++ ['>'] ∧ '<' ∉ front := by
  have hgap : ∀ gap : Gap, '<' ∉ gap.val := fun gap =>
    Text.bracket_not_mem (List.all_eq_true.mp gap.property.2)
  have hstrip : '<' ∉ ("strip-whitespace" : String).toList := by decide
  have hclose : (">" : String).toList = ['>'] := by decide
  obtain ⟨modifier, shut⟩ := tag
  have hshut : '<' ∉ shut.val := Text.bracket_not_mem (List.all_eq_true.mp shut.property)
  cases modifier with
  | none => exact ⟨shut.val, congrArg _ hclose, hshut⟩
  | some gap =>
    refine ⟨gap.val ++ "strip-whitespace" ++ shut.val, congrArg _ hclose, ?_⟩
    simp only [List.mem_append, hgap, hstrip, hshut, or_self, not_false_eq_true]

/-- Up to its second opening tag an element has no bracket but the first. -/
theorem bracket_opening (e : Element) :
    '<' ∉ ("dom-module" ++ e.start.render ++ "id=" ++ [e.quote] ++ e.id ++ [e.quote] ++
      e.stop.render ++ e.inner.val : Text) := by
  have hname : '<' ∉ ("dom-module" : String).toList := by decide
  have hid : '<' ∉ ("id=" : String).toList := by decide
  have hquote : '<' ≠ e.quote := by
    intro h
    have hmark := e.quote_mark
    rw [← h] at hmark
    revert hmark
    decide
  have hnamed : '<' ∉ e.id := by
    intro h
    have hword := List.all_eq_true.mp e.id_named _ h
    revert hword
    decide
  have hinner : '<' ∉ e.inner.val := Text.bracket_not_mem (List.all_eq_true.mp e.inner.property)
  obtain ⟨front, hstop, hfront⟩ := bracket_tagEnd e.stop
  have hclose : '<' ∉ e.stop.render := by
    rw [hstop]
    simp [hfront]
  simp only [List.mem_append, List.mem_singleton, hname, hid, hquote, hnamed, hinner, hclose,
    bracket_tagStart, or_self, not_false_eq_true]

/-- Behind its first bracket an element holds no start of an element. -/
theorem holdsFolded_element {e : Element} {tail : Text} (h : e.render = '<' :: tail) :
    Text.holdsFolded ('<' :: "dom-module") tail = false := by
  obtain ⟨front, hstop, hfront⟩ := bracket_tagEnd e.templateStop
  have hrender : e.render = '<' :: (("dom-module" ++ e.start.render ++ "id=" ++ [e.quote] ++ e.id ++
      [e.quote] ++ e.stop.render ++ e.inner.val) ++ '<' :: (("template" ++ front) ++ '>' ::
        (e.body ++ '<' :: (("/template>" ++ e.outer.val) ++ '<' :: "/dom-module>")))) := by
    unfold Element.render
    rw [module_word,
      show ("<template" : String).toList = '<' :: "template" by decide,
      show ("</template>" : String).toList = '<' :: "/template>" by decide,
      show ("</dom-module>" : String).toList = '<' :: "/dom-module>" by decide, hstop]
    simp only [List.append_assoc, List.cons_append, List.nil_append]
  have hopening : Text.holdsFolded ('<' :: "dom-module") ('<' :: ("template" ++ front)) =
      false := by
    refine Text.holdsFolded_tag ?_ (Text.startsFolded_of_head? 'd' (by decide) (by decide) _)
    rw [List.mem_append, not_or]
    exact ⟨by decide, hfront⟩
  have hclosing : Text.holdsFolded ('<' :: "dom-module") ('<' :: ("/template>" ++ e.outer.val)) =
      false := by
    refine Text.holdsFolded_tag ?_ (Text.startsFolded_of_head? 'd' (by decide) (by decide) _)
    rw [List.mem_append, not_or]
    exact ⟨by decide, Text.bracket_not_mem (List.all_eq_true.mp e.outer.property)⟩
  have hlast : Text.holdsFolded ('<' :: "dom-module") ('<' :: "/dom-module>") = false := by
    decide
  have hbody := e.body_open
  rw [module_word] at hbody
  have hbars : Text.bars '<' "dom-module" = true := by decide
  rw [(List.cons.inj (h.symm.trans hrender)).2, Text.holdsFolded_append_cons hbars,
    Text.holdsFolded_free (bracket_opening e), ← List.cons_append,
    Text.holdsFolded_append (by decide), hopening, Text.holdsFolded_append_cons hbars,
    hbody, ← List.cons_append, Text.holdsFolded_append_cons hbars, hclosing, hlast]
  rfl

end ImportLift.Pattern
