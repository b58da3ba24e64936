-- Where a template ends, in any document. The rule looks for the first place
-- behind the opening tags where both closing tags stand together. What comes
-- before that place is the template, so an end tag of a module that stands
-- alone, or with something between it and the end tag of the template, is
-- passed over and becomes a part of it.
import ImportLift.Proofs.Template.Element

namespace ImportLift

namespace Template

/-! ## Closing pairs -/

/-- The text starts with a closing pair: the end tag of a template, white space or none, and the
end tag of a module. -/
def startsClosing (text : Text) : Bool :=
  Text.startsFolded "</template>" text &&
    Text.startsFolded "</dom-module>" (Text.trimStart (text.drop ("</template>" : Text).length))

/-- There is a closing pair, and no end tag of a module stands before it. -/
def closesCleanly : Text → Bool
  | [] => false
  | c :: rest =>
    startsClosing (c :: rest) ||
      (!Text.startsFolded "</dom-module" (c :: rest) && closesCleanly rest)

/-- A closing pair starts with a bracket. -/
theorem startsClosing_cons {text : Text} (h : startsClosing text = true) :
    ∃ rest, text = '<' :: rest := by
  rw [startsClosing, Bool.and_eq_true] at h
  obtain ⟨rest, hrest, -⟩ := Text.startsFolded_bracket h.1
  exact ⟨rest, hrest⟩

theorem end_tag : ("</dom-module" : String).toList = '<' :: "/dom-module" := by decide

/-- Behind a blank text that a closing pair follows, no end tag comes before the pair. -/
theorem closesCleanly_gap {gap rest : Text} (hgap : gap.allBlank = true)
    (hrest : startsClosing rest = true) : closesCleanly (gap ++ rest) = true := by
  induction gap with
  | nil =>
    obtain ⟨more, rfl⟩ := startsClosing_cons hrest
    simp only [List.nil_append, closesCleanly, hrest, Bool.true_or]
  | cons c gap ih =>
    rw [Text.allBlank, List.all_cons, Bool.and_eq_true] at hgap
    have hblank : Text.sameFolded '<' c = false := Text.sameFolded_of_blank (by decide) hgap.1
    have htag : Text.startsFolded "</dom-module" (c :: (gap ++ rest)) = false :=
      Text.startsFolded_of_head? '<' (by decide) hblank _
    simp only [List.cons_append, closesCleanly, htag, ih hgap.2]
    simp

/-- What follows a template does not complete an end tag that starts in it. -/
theorem bars_end_tag {gap rest : Text} (hgap : gap.allBlank = true)
    (hrest : startsClosing rest = true) :
    ∃ c tail, gap ++ rest = c :: tail ∧ Text.bars c "/dom-module" = true := by
  cases gap with
  | nil =>
    obtain ⟨more, rfl⟩ := startsClosing_cons hrest
    exact ⟨'<', more, rfl, by decide⟩
  | cons c gap =>
    rw [Text.allBlank, List.all_cons, Bool.and_eq_true] at hgap
    refine ⟨c, gap ++ rest, rfl, ?_⟩
    have hletters : (("/dom-module" : Text).all fun letter => !Text.isBlank letter) = true := by
      decide
    rw [List.all_eq_true] at hletters
    rw [Text.bars, List.all_eq_true]
    intro letter hletter
    have hletter : Text.isBlank letter = false := by simpa using hletters letter hletter
    rw [Text.sameFolded_of_blank hletter hgap.1]
    rfl

/-- A text in which no closing pair starts, and which one follows, holds an end tag exactly when
the whole does not close cleanly. -/
theorem holdsFolded_end_tag {body gap rest : Text} (hgap : gap.allBlank = true)
    (hrest : startsClosing rest = true)
    (hfirst : ∀ front c back, body = front ++ c :: back →
      startsClosing (c :: back ++ (gap ++ rest)) = false) :
    Text.holdsFolded "</dom-module" body = !closesCleanly (body ++ (gap ++ rest)) := by
  induction body with
  | nil =>
    rw [List.nil_append, closesCleanly_gap hgap hrest]
    rfl
  | cons c body ih =>
    have hlater := ih fun front d back hsplit => hfirst (c :: front) d back (by rw [hsplit]; rfl)
    have hhere : startsClosing (c :: (body ++ (gap ++ rest))) = false := hfirst [] c body rfl
    have htag : Text.startsFolded "</dom-module" (c :: (body ++ (gap ++ rest))) =
        Text.startsFolded "</dom-module" (c :: body) := by
      obtain ⟨d, tail, htail, hbars⟩ := bars_end_tag hgap hrest
      rw [htail, end_tag]
      exact Text.startsFolded_cons_append hbars '<' c body tail
    rw [Text.holdsFolded, List.cons_append, closesCleanly, hhere, htag, hlater]
    cases Text.startsFolded "</dom-module" (c :: body) <;> simp

end Template

namespace Pattern

open Template

/-! ## The rule at the end of a template -/

/-- The closing tags of a module, as the rule asks for them behind a template. -/
def closing : Pattern := all [blanks, folded "</template>", blanks, folded "</dom-module>"]

/-- What the rule asks for in front of a template: the opening tags of the module and of the
template, and the white space behind them. -/
def openingParts : List Pattern :=
  [folded "<dom-module", blanks1, maybe (seq stripWhitespace blanks1), folded "id", blanks,
    mark '=', blanks, keep .quote (one isQuote),
    keep .id (some1 fun c => Text.isWord c || c = '-'), same .quote,
    maybe (seq blanks1 stripWhitespace), blanks, mark '>', blanks,
    folded "<template", maybe (seq blanks1 stripWhitespace), blanks, mark '>', blanks]

theorem run_templateBlock {α : Type} (c : Cursor) (kept : Captures)
    (next : Cursor → Captures → Option α) :
    templateBlock.run c kept next =
      (all openingParts).run c kept fun c kept =>
        (seq (keep .template (least fun _ => true)) closing).run c kept next :=
  run_all_append openingParts _ c kept next

/-- The closing tags match where a closing pair starts. -/
theorem leads_closing (behind : Option Char) {text : Text} (h : startsClosing text = true)
    (kept : Captures) : ∃ c', Leads closing ⟨behind, text⟩ kept c' kept := by
  obtain ⟨more, hmore⟩ := startsClosing_cons h
  have hstops : Stops Text.isBlank text := by
    rw [hmore]
    exact stops_blank (by decide) more
  rw [startsClosing, Bool.and_eq_true] at h
  obtain ⟨behind₁, htemplate⟩ := forced_of_startsFolded behind h.1 kept
  let run := (text.drop ("</template>" : Text).length).takeWhile Text.isBlank
  let rest := Text.trimStart (text.drop ("</template>" : Text).length)
  have hsplit : run ++ rest = text.drop ("</template>" : Text).length :=
    List.takeWhile_append_dropWhile
  have hrun : ∀ ch ∈ run, Text.isBlank ch := List.all_eq_true.mp List.all_takeWhile
  have hrest : Stops Text.isBlank rest := fun ch hch => Text.head?_trimStart hch
  obtain ⟨behind₂, hmodule⟩ := forced_of_startsFolded (run.getLast?.or behind₁) h.2 kept
  refine ⟨⟨behind₂, rest.drop ("</dom-module>" : Text).length⟩,
    .all (.seq (forced_most_nil hstops kept).leads (.all (.seq htemplate.leads ?_)))⟩
  rw [← hsplit]
  refine .all (.seq (leads_most hrun hrest kept) ?_)
  exact .all (.seq hmodule.leads (forced_nothing _ _).leads)

/-- Where the closing tags match, there is a closing pair behind white space or none. -/
theorem startsClosing_of_run {behind : Option Char} {text : Text} {kept : Captures} {α : Type}
    {next : Cursor → Captures → Option α} {a : α}
    (h : closing.run ⟨behind, text⟩ kept next = some a) :
    ∃ gap pair after behind', text = gap ++ (pair ++ after) ∧ gap.allBlank = true ∧
      startsClosing (pair ++ after) = true ∧ next ⟨behind', after⟩ kept = some a := by
  obtain ⟨gap, rest, rfl, hgap, h⟩ := runEnds_of_runMost h
  obtain ⟨htemplate, behind₁, h⟩ := startsFolded_of_run h
  obtain ⟨run, rest', hsplit, hrun, h⟩ := runEnds_of_runMost h
  have hsplit : rest.drop ("</template>" : Text).length = run ++ rest' := hsplit
  obtain ⟨hmodule, behind₂, h⟩ := startsFolded_of_run h
  have hpair : rest.take ("</template>" : Text).length ++ run ++
      rest'.take ("</dom-module>" : Text).length ++ rest'.drop ("</dom-module>" : Text).length =
      rest := by
    rw [List.append_assoc, List.take_append_drop, List.append_assoc, ← hsplit]
    exact List.take_append_drop _ _
  have htrim : Text.trimStart (run ++ rest') = rest' := by
    obtain ⟨more, rfl, -⟩ := Text.startsFolded_bracket hmodule
    rw [Text.trimStart, List.dropWhile_append_of_pos hrun]
    rfl
  have hclosing : startsClosing rest = true := by
    rw [startsClosing, htemplate, hsplit, htrim]
    exact hmodule
  rw [← hpair] at hclosing
  refine ⟨gap, _, _, behind₂, ?_, List.all_eq_true.mpr hgap, hclosing, h⟩
  rw [hpair]

/-- The text starts with opening tags, and the other text is what follows them. -/
def Opens (text rest : Text) : Prop :=
  ∃ behind c kept, (all openingParts).Reaches ⟨behind, text⟩ [] c kept ∧ c.rest = rest

/-- A match of the rule is an opening, the template, white space or none and a closing pair, and
no closing pair starts in the template. -/
theorem properAt?_templateBlock {c : Cursor} {text : Text} {kept : Parts}
    (h : templateBlock.properAt? c = some (text, kept)) :
    ∃ start body gap pair after, c.rest = start ++ body ++ gap ++ pair ++ after ∧
      text = start ++ body ++ gap ++ pair ∧ Opens c.rest (body ++ (gap ++ (pair ++ after))) ∧
      kept.lookup .template = some body ∧
      gap.allBlank = true ∧ startsClosing (pair ++ after) = true ∧
      ∀ front ch back, body = front ++ ch :: back →
        startsClosing (ch :: back ++ (gap ++ (pair ++ after))) = false := by
  obtain ⟨hmatch, -⟩ := Option.filter_eq_some_iff.mp h
  rw [matchAt?, run_templateBlock] at hmatch
  obtain ⟨c₁, kept₁, hopening, hmatch⟩ := reaches_of_run hmatch
  obtain ⟨body, rest, behind, hbody, hmatch, hearly⟩ := exists_of_runLeast hmatch
  obtain ⟨gap, pair, after, behind', rfl, hgap, hpair, hmatch⟩ := startsClosing_of_run hmatch
  obtain ⟨start, hrest⟩ : ∃ start, c.rest = start ++ body ++ gap ++ pair ++ after := by
    refine ⟨c.upTo c₁, ?_⟩
    rw [← hopening.upTo_append, hbody]
    simp only [List.append_assoc]
  rw [Option.some.injEq, Prod.mk.injEq] at hmatch
  refine ⟨start, body, gap, pair, after, hrest, ?_, ⟨c.behind, c₁, kept₁, hopening, hbody⟩, ?_,
    hgap, hpair, ?_⟩
  · have hup := Cursor.upTo_append c.behind behind' (start ++ body ++ gap ++ pair) after
    rw [← hrest] at hup
    exact hmatch.1.symm.trans hup
  · rw [← hmatch.2]
    simp [Stretch.text, Cursor.upTo, hbody]
  · intro front ch back hsplit
    obtain ⟨behind₁, hnone⟩ := hearly front ch back hsplit
    rw [Bool.eq_false_iff]
    intro hclosing
    obtain ⟨c', hleads⟩ := leads_closing behind₁ hclosing
      ((.template, ⟨c₁, ⟨behind₁, ch :: back ++ (gap ++ (pair ++ after))⟩⟩) :: kept₁)
    have hnever := hnone.symm.trans (hleads _ _ _ rfl)
    cases hnever

end Pattern

namespace Template

/-! ## Templates and end tags -/

/-- The style of a template is a part of its text, and its markup is what stands before and
behind the style element. -/
theorem ofBody_parts (identity body : Text) :
    ∃ front back, (ofBody identity body).markup = front ++ back ∧ front <:+: body ∧ back <:+: body ∧
      ∀ style, (ofBody identity body).style = some style → style.css <:+: body := by
  unfold ofBody
  cases hfound : Rule.styleBlock.pattern.find? body with
  | none => exact ⟨body, [], by simp, List.infix_rfl, List.nil_infix, nofun⟩
  | some m =>
    refine ⟨body.take m.start, body.drop m.stop, rfl, (List.take_prefix _ _).isInfix,
      (List.drop_suffix _ _).isInfix, ?_⟩
    rintro _ ⟨⟩
    have hstands := Pattern.find?_standsIn hfound
    have hkeeps : Rule.styleBlock.pattern.alwaysKeeps .css = true := by decide
    obtain ⟨css, hcss⟩ := hstands.kept?_of_alwaysKeeps hkeeps
    simp only [styleOf, hcss, Option.getD_some]
    exact hstands.kept?_infix hcss

theorem ofDocument_eq_ok {html identity : Text} {t : Template}
    (h : ofDocument html identity = .ok t) :
    ∃ m body, (Rule.templateBlock.pattern.findAll html).find? (·.filled? .id = some identity) =
        some m ∧ m.kept? .template = some body ∧ bodyOf html identity = .ok body ∧
      t = ofBody identity body := by
  cases hbody : bodyOf html identity with
  | error f => simp [ofDocument, hbody, Except.map] at h
  | ok body =>
    rw [ofDocument, hbody, Except.map, Except.ok.injEq] at h
    unfold bodyOf at hbody
    split at hbody
    · cases hbody
    · rename_i m hm
      split at hbody
      · cases hbody
      · rename_i text htext
        cases hbody
        exact ⟨m, body, hm, (Match.filled?_eq_some.mp htext).1, rfl, h.symm⟩

/-- A template is what stands between the opening tags of its module and the first closing pair
behind them. It holds an end tag of a module exactly when one stands before that pair. Where none
does, there is none in its style and in neither part of its markup. -/
theorem a_template_runs_to_the_first_closing_pair (html identity : Text) (t : Template)
    (h : ofDocument html identity = .ok t) :
    ∃ m before start body gap pair after,
      (Rule.templateBlock.pattern.findAll html).find? (·.filled? .id = some identity) = some m ∧
      html = before ++ m.text ++ after ∧ before.length = m.start ∧
      m.text = start ++ body ++ gap ++ pair ∧
      bodyOf html identity = .ok body ∧ t = ofBody identity body ∧
      let rest := body ++ (gap ++ (pair ++ after))
      Pattern.Opens (m.text ++ after) rest ∧ gap.allBlank = true ∧
      startsClosing (pair ++ after) = true ∧
      (∀ front c back, body = front ++ c :: back →
        startsClosing (c :: back ++ (gap ++ (pair ++ after))) = false) ∧
      (Text.holdsFolded "</dom-module" body = true ↔ closesCleanly rest = false) ∧
      (closesCleanly rest = true →
        (∀ style, t.style = some style → Text.holdsFolded "</dom-module" style.css = false) ∧
        ∃ front back, t.markup = front ++ back ∧ Text.holdsFolded "</dom-module" front = false ∧
          Text.holdsFolded "</dom-module" back = false) := by
  obtain ⟨m, body, hm, hkept, hbody, rfl⟩ := ofDocument_eq_ok h
  obtain ⟨before, rest, behind, rfl, hstart, -, hfound⟩ :=
    Pattern.properAt?_of_mem_findFrom (List.mem_of_find?_eq_some hm)
  obtain ⟨start, body', gap, pair, after, hrest, htext, hopens, hkept', hgap, hpair, hfirst⟩ :=
    Pattern.properAt?_templateBlock hfound
  obtain rfl : body = body' := Option.some.inj (hkept.symm.trans hkept')
  simp only at hrest hopens
  have hplace : rest = m.text ++ after := by rw [hrest, htext]
  have hholds := holdsFolded_end_tag hgap hpair hfirst
  refine ⟨m, before, start, body, gap, pair, after, hm, ?_, by omega, htext, hbody, rfl, ?_⟩
  · rw [hplace, List.append_assoc]
  intro rest'
  refine ⟨hplace ▸ hopens, hgap, hpair, hfirst, by rw [hholds, Bool.not_eq_true'], ?_⟩
  intro hclean
  have hnone : Text.holdsFolded ('<' :: "/dom-module") body = false := by
    rw [← end_tag, hholds, hclean]
    rfl
  obtain ⟨front, back, hmarkup, hfront, hback, hcss⟩ := ofBody_parts identity body
  rw [end_tag]
  refine ⟨fun style hstyle => Text.holdsFolded_of_infix (hcss style hstyle) hnone, front, back,
    hmarkup, Text.holdsFolded_of_infix hfront hnone, Text.holdsFolded_of_infix hback hnone⟩

/-- A result is read off its evaluation, so that a closed document can be evaluated. -/
theorem eq_ok_of_toOption {α : Type} {r : Except Failure α} {a : α} (h : r.toOption = some a) :
    r = .ok a := by
  cases r with
  | error f => cases h
  | ok b => exact congrArg Except.ok (Option.some.inj h)

/-- A template with a style and another template in it; a lone end tag follows its module. -/
theorem a_nested_template_closes_cleanly :
    let html : Text := "<dom-module id='a-b'><template><style>p</style>" ++
      "<template>x</template></template>" ++ "\n</dom-module></dom-module>"
    ∃ body rest, ofDocument html "a-b" = .ok (ofBody "a-b" body) ∧ bodyOf html "a-b" = .ok body ∧
      body <+: rest ∧ Text.holdsFolded "</dom-module" body = false ∧ closesCleanly rest = true := by
  intro html
  let body : Text := "<style>p</style>" ++ "<template>x</template>"
  have hread : bodyOf html "a-b" = .ok body := eq_ok_of_toOption (by decide +kernel)
  have ht : ofDocument html "a-b" = .ok (ofBody "a-b" body) := by
    rw [ofDocument, hread, Except.map]
  obtain ⟨-, -, -, body', gap, pair, after, -, -, -, -, hbody, -, -, -, -, -, hholds, -⟩ :=
    a_template_runs_to_the_first_closing_pair html "a-b" _ ht
  obtain rfl : body = body' := Except.ok.inj (hread.symm.trans hbody)
  have hnone : Text.holdsFolded "</dom-module" body = false := by decide
  refine ⟨body, body ++ (gap ++ (pair ++ after)), ht, hread, List.prefix_append _ _, hnone, ?_⟩
  rw [← Bool.not_eq_false, ← hholds, hnone]
  simp

/-- A module whose closing tags stand apart: its template runs over its end and into the next
module, up to the closing pair there. -/
theorem a_template_can_run_into_the_next_module :
    let html : Text := "<dom-module id='a-b'><template>x</template>" ++ "<p></p></dom-module>" ++
      "<dom-module id='c-d'><template>y</template></dom-module>"
    let body : Text := "x</template><p></p></dom-module>" ++ "<dom-module id='c-d'><template>y"
    bodyOf html "a-b" = .ok body ∧ ofDocument html "a-b" = .ok ⟨"a-b", body, none⟩ ∧
      Text.holdsFolded "</dom-module" body = true := by
  intro html body
  have hread : bodyOf html "a-b" = .ok body := eq_ok_of_toOption (by decide +kernel)
  have hplain : ofBody "a-b" body = ⟨"a-b", body, none⟩ := by decide +kernel
  refine ⟨hread, ?_, by decide⟩
  rw [ofDocument, hread, Except.map, hplain]

end Template

end ImportLift
