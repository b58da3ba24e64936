-- What becomes of the style of a template. The first style element is lifted
-- out of the markup: what stands before it and behind it is kept and put
-- together, its shared styles are named in order, and its rules are kept as
-- they are. A template in which the rule matches nowhere is left alone.
import ImportLift.Proofs.Template.Boundary
import ImportLift.Proofs.Text.Blank

namespace ImportLift

/-! ## Opening tags -/

/-- The opening tag of a style element: a plain one, or one with a quoted list of shared styles
that holds no quotation mark. -/
inductive StyleTag
  | plain
  | including (quote : Char) (names : Text) (quote_mark : Pattern.isQuote quote = true)
      (names_open : ∀ c ∈ names, Pattern.isQuote c = false)

namespace StyleTag

/-- What stands between the name of the element and the end of the tag. -/
def inner : StyleTag → Text
  | plain => []
  | including quote names _ _ => " include=" ++ quote :: (names ++ [quote])

def render (tag : StyleTag) : Text := "<style" ++ tag.inner ++ ">"

theorem render_append (tag : StyleTag) (rest : Text) :
    tag.render ++ rest = "<style" ++ (tag.inner ++ '>' :: rest) := by
  unfold render
  rw [List.append_assoc, List.append_assoc]
  rfl

/-- The list of shared styles, empty when the tag has none. -/
def names : StyleTag → Text
  | plain => []
  | including _ names _ _ => names

/-- What the rule keeps of the tag. -/
def parts : StyleTag → Parts
  | plain => []
  | including quote names _ _ => [(.includes, names), (.quote, [quote])]

end StyleTag

namespace Pattern

theorem leads_includeAttribute {quote : Char} (hquote : isQuote quote = true) {names : Text}
    (hnames : ∀ c ∈ names, isQuote c = false) (behind : Option Char) (rest : Text)
    (kept : Captures) :
    ∃ s s', s.text = names ∧ s'.text = [quote] ∧
      Leads includeAttribute ⟨behind, " include=" ++ quote :: (names ++ quote :: rest)⟩ kept
        ⟨some quote, rest⟩ ((.includes, s) :: (.quote, s') :: kept) := by
  have hword : (" include=" : String).toList = ' ' :: ("include" ++ ['=']) := by decide
  have hblank : Text.isBlank quote = false := (not_blank_of_quote hquote).1
  let opened : Cursor := ⟨some '=', quote :: (names ++ quote :: rest)⟩
  let start : Cursor := ⟨some quote, names ++ quote :: rest⟩
  let stop : Cursor := ⟨names.getLast?.or (some quote), quote :: rest⟩
  have hmark : (⟨opened, start⟩ : Stretch).text = [quote] := by
    simp [opened, start, Stretch.text]
  have hread : (⟨start, stop⟩ : Stretch).text = names := by
    simp [start, stop, Stretch.text]
  refine ⟨⟨start, stop⟩, ⟨opened, start⟩, hread, hmark, ?_⟩
  have hgap : Leads blanks1 ⟨behind, ' ' :: ("include" ++ '=' :: quote :: (names ++ quote :: rest))⟩
      kept ⟨some ' ', "include" ++ '=' :: quote :: (names ++ quote :: rest)⟩ kept :=
    leads_some1 (List.cons_ne_nil ' ' []) (by decide) (stops_blank (by decide) _) kept
  have htext : (" include=" : String).toList ++ quote :: (names ++ quote :: rest) =
      ' ' :: ("include" ++ '=' :: quote :: (names ++ quote :: rest)) := by
    rw [hword]
    simp only [List.cons_append, List.append_assoc, List.nil_append]
  rw [htext]
  refine .all (.seq hgap ?_)
  refine .all (.seq (forced_word 'e' (by decide) kept).leads ?_)
  refine .all (.seq (forced_most_nil (stops_blank (by decide) _) kept).leads ?_)
  refine .all (.seq (forced_one (by decide) kept).leads ?_)
  refine .all (.seq (forced_most_nil (stops_blank hblank _) kept).leads ?_)
  refine .all (.seq (.keep .quote (forced_one hquote kept).leads) ?_)
  refine .all (.seq (.keep .includes (leads_most (fun c hc => ?_) ?_ _)) ?_)
  · rw [hnames c hc]
    rfl
  · rintro _ ⟨⟩
    simp [hquote]
  · exact (forced_same [quote] rfl hmark).leads

/-- The rule reads the tag as it is written. -/
theorem leads_attribute (tag : StyleTag) (rest : Text) (kept : Captures) :
    ∃ behind read, (read.map fun (name, stretch) => (name, stretch.text)) = tag.parts ∧
      Leads (maybe includeAttribute) ⟨some 'e', tag.inner ++ '>' :: rest⟩ kept
        ⟨behind, '>' :: rest⟩ (read ++ kept) := by
  cases tag with
  | plain =>
    refine ⟨some 'e', [], rfl, (Forced.maybe_absent ?_).leads⟩
    exact .all (.seq (.seq (stuck_one (stops_blank (by decide) _) kept)))
  | including quote names hquote hnames =>
    obtain ⟨s, s', hs, hs', hleads⟩ :=
      leads_includeAttribute hquote hnames (some 'e') ('>' :: rest) kept
    refine ⟨some quote, [(.includes, s), (.quote, s')], by simp [hs, hs', StyleTag.parts], ?_⟩
    have hlist : (quote :: (names ++ [quote])) ++ '>' :: rest =
        quote :: (names ++ quote :: '>' :: rest) := by simp
    change Leads _ ⟨some 'e', (" include=" ++ quote :: (names ++ [quote]) : Text) ++ '>' :: rest⟩
      _ _ _
    rw [List.append_assoc, hlist]
    exact .either hleads _

theorem style_end : ("</style" : String).toList = '<' :: "/style" := by decide

/-- The rule takes a style element up to the first end tag behind its own tag. -/
theorem properAt?_styleBlock (tag : StyleTag) {css : Text}
    (hcss : Text.holdsFolded "</style" css = false) (behind : Option Char) (post : Text) :
    styleBlock.properAt? ⟨behind, tag.render ++ css ++ "</style>" ++ post⟩ =
      some (tag.render ++ css ++ "</style>", (.css, css) :: tag.parts) := by
  have hclose : ("</style>" : String).toList ++ post = ("</" ++ "style") ++ '>' :: post := by
    rfl
  let rules : Text := css ++ ("</style>" ++ post)
  obtain ⟨behind', read, hread, hattribute⟩ := leads_attribute tag rules []
  rw [List.append_nil] at hattribute
  let start : Cursor := ⟨some '>', rules⟩
  let stop : Cursor := ⟨css.getLast?.or (some '>'), "</style>" ++ post⟩
  have hkept : (⟨start, stop⟩ : Stretch).text = css := by
    simp only [start, stop, rules, Stretch.text, Cursor.upTo_append]
  have htext : tag.render ++ css ++ "</style>" ++ post =
      "<style" ++ (tag.inner ++ '>' :: rules) := by
    rw [List.append_assoc, List.append_assoc, tag.render_append]
  have hleads : Leads styleBlock ⟨behind, tag.render ++ css ++ "</style>" ++ post⟩ []
      ⟨some '>', post⟩ ((.css, ⟨start, stop⟩) :: read) := by
    rw [htext]
    refine .all (.seq (forced_word 'e' (by decide) []).leads ?_)
    refine .all (.seq hattribute ?_)
    refine .all (.seq (forced_most_nil (stops_blank (by decide) _) read).leads ?_)
    refine .all (.seq (forced_one (by decide) read).leads ?_)
    refine .all (leads_keep_least_seq .css (fun _ _ => rfl) ?_ ?_)
    · intro before ch after hsplit behind kept
      -- An end tag in front would have to start in the rules.
      refine stuck_endTag ?_ kept
      have hquiet : Text.Quiet ('<' :: "/style") css ("</style>" ++ post) := by
        refine Text.quiet_of_head? ?_ (style_end ▸ hcss)
        rintro _ ⟨⟩
        decide
      exact hquiet before ch after hsplit
    · rw [hclose]
      exact (forced_endTag "style" 'e' (by decide) post _).leads
  have hne : (tag.render ++ css ++ "</style>" : Text) ≠ [] := by
    intro h
    have hlast := (List.append_eq_nil_iff.mp h).2
    cases hlast
  rw [properAt?_of_leads hleads hne, List.map_cons, hread]
  simp only [hkept]

/-! ## Texts without a match -/

/-- The pattern matches at no place of the text. -/
def MatchesNowhere (p : Pattern) (text : Text) : Prop :=
  ∀ front back, text = front ++ back → p.matchAt? ⟨front.getLast?, back⟩ = none

theorem findFrom_of_missed {p : Pattern} {text : Text} {behind : Option Char}
    (h : ∀ before ch after, text = before ++ ch :: after →
      p.properAt? ⟨before.getLast?.or behind, ch :: after⟩ = none) (offset : Nat) :
    p.findFrom 0 offset behind text = [] := by
  induction text generalizing offset behind with
  | nil => rfl
  | cons ch text ih =>
    have hhere : p.properAt? ⟨behind, ch :: text⟩ = none := h [] ch text rfl
    have hlater : p.findFrom 0 (offset + 1) (some ch) text = [] := by
      refine ih (fun before d after hsplit => ?_) (offset + 1)
      have hthere := h (ch :: before) d after (by rw [hsplit]; rfl)
      rwa [getLast?_or_cons] at hthere
    simp only [findFrom, hhere, hlater]

theorem MatchesNowhere.find? {p : Pattern} {text : Text} (h : p.MatchesNowhere text) :
    p.find? text = none := by
  have hnone : p.findFrom 0 0 none text = [] := by
    refine findFrom_of_missed (fun before ch after hsplit => ?_) 0
    rw [Option.or_none, properAt?, h before (ch :: after) hsplit]
    rfl
  rw [Pattern.find?, findAll, hnone]
  rfl

/-- Where no start of a style element stands, the rule matches nowhere. -/
theorem matchesNowhere_of_not_held {text : Text} (h : Text.holdsFolded "<style" text = false) :
    styleBlock.MatchesNowhere text := by
  rintro front back rfl
  have hword : ("<style" : String).toList = '<' :: "style" := by decide
  rw [hword] at h
  have hhere := Text.startsFolded_of_not_held h
  rw [← hword] at hhere
  exact Stuck.all (.seq (stuck_folded hhere [])) _ _

end Pattern

namespace Template

/-! ## Lifting -/

/-- What a match keeps of its list of shared styles is cut into words. -/
theorem styleOf_parts (tag : StyleTag) (start : Nat) (text css : Text) :
    styleOf ⟨start, text, (.css, css) :: tag.parts⟩ = ⟨Text.words tag.names, css⟩ := by
  cases tag with
  | plain => rfl
  | including quote names hquote hnames =>
    let m : Match := ⟨start, text, [(.css, css), (.includes, names), (.quote, [quote])]⟩
    have hfilled : m.filled? .includes = (some names).filter fun value => !value.allBlank := rfl
    have hwords : Text.words ((m.filled? .includes).getD []) = Text.words names := by
      by_cases hblank : names.allBlank = true
      · have hnone : Text.words names = [] := (Text.isWords_iff.mp (.nil hblank)).symm
        rw [hfilled, Option.filter_some_neg (by simp [hblank]), hnone]
        rfl
      · rw [hfilled, Option.filter_some_pos (by simpa using hblank), Option.getD_some]
    exact congrArg (Style.mk · css) hwords

/-- The first style element is cut out, and its rules and shared styles are kept. -/
theorem ofBody_style (identity : Text) (tag : StyleTag) {pre css : Text}
    (hpre : Text.holdsFolded "<style" pre = false)
    (hcss : Text.holdsFolded "</style" css = false) (post : Text) :
    ofBody identity (pre ++ tag.render ++ css ++ "</style>" ++ post) =
      ⟨identity, pre ++ post, some ⟨Text.words tag.names, css⟩⟩ := by
  let element : Text := tag.render ++ css ++ "</style>"
  have htext : pre ++ tag.render ++ css ++ "</style>" ++ post = pre ++ (element ++ post) := by
    simp only [element, List.append_assoc]
  have hquiet : Text.Quiet "<style" pre (element ++ post) := by
    have hword : ("<style" : String).toList = '<' :: "style" := by decide
    rw [hword] at hpre ⊢
    refine Text.quiet_of_head? ?_ hpre
    rintro _ ⟨⟩
    decide
  obtain ⟨behind, hfirst⟩ := Pattern.find?_of_quiet (p := Pattern.styleBlock)
    fun before ch after hsplit behind => Pattern.properAt?_of_quiet hquiet hsplit behind
  have hfound : Pattern.styleBlock.find? (pre ++ (element ++ post)) =
      some ⟨pre.length, element, (.css, css) :: tag.parts⟩ :=
    hfirst _ _ (Pattern.properAt?_styleBlock tag hcss behind post)
  have hmatch : Rule.styleBlock.pattern.find? (pre ++ (element ++ post)) =
      some ⟨pre.length, element, (.css, css) :: tag.parts⟩ := hfound
  have hstop : (pre ++ (element ++ post)).drop (pre.length + element.length) = post := by
    rw [← List.append_assoc, ← List.length_append, List.drop_left]
  rw [htext, ofBody, hmatch]
  simp only [styleOf_parts, Match.stop, List.take_left, hstop]

/-- Lifting loses nothing: the first style element leaves what stands before it and behind it as
the markup, its shared styles are the words of its list in their order, its rules are kept as they
are, and both make up the preamble. A template text in which the rule matches nowhere is the
markup, and there is neither a style nor a preamble. -/
theorem style_is_lifted_without_loss (html identity body : Text)
    (hbody : bodyOf html identity = .ok body) :
    (∀ (tag : StyleTag) (pre css post : Text),
      body = pre ++ tag.render ++ css ++ "</style>" ++ post →
      Text.holdsFolded "<style" pre = false → Text.holdsFolded "</style" css = false →
      ∃ t includes, ofDocument html identity = .ok t ∧ t.identity = identity ∧
        t.markup = pre ++ post ∧ t.style = some ⟨includes, css⟩ ∧
        Text.IsWords tag.names includes ∧
        t.preamble = includes.flatMap (fun name => placeholder (bindingName name)) ++
          "<style>" ++ escapeLiteral css ++ "</style>") ∧
    (Pattern.styleBlock.MatchesNowhere body →
      ∃ t, ofDocument html identity = .ok t ∧ t.identity = identity ∧ t.markup = body ∧
        t.style = none ∧ t.preamble = []) := by
  have hread : ofDocument html identity = .ok (ofBody identity body) := by
    rw [ofDocument, hbody, Except.map]
  refine ⟨?_, ?_⟩
  · rintro tag pre css post rfl hpre hcss
    rw [ofBody_style identity tag hpre hcss post] at hread
    exact ⟨_, _, hread, rfl, rfl, rfl, Text.isWords_iff.mpr rfl, rfl⟩
  · intro hnowhere
    have hplain : ofBody identity body = ⟨identity, body, none⟩ := by
      rw [ofBody, show Rule.styleBlock.pattern.find? body = none from hnowhere.find?]
    rw [hplain] at hread
    exact ⟨_, hread, rfl, rfl, rfl, rfl⟩

/-- A template with shared styles and a second style element, and a template without a style. -/
theorem the_first_of_two_styles_is_lifted :
    let html : Text := "<dom-module id='a-b'><template>x<style include=\"s-t\tu\">p\\</style>" ++
      "y<style>q</style></template></dom-module>" ++
      "<dom-module id='c-d'><template>x<b>y</b></template></dom-module>"
    ofDocument html "a-b" = .ok ⟨"a-b", "xy<style>q</style>", some ⟨["s-t", "u"], "p\\"⟩⟩ ∧
      ofDocument html "c-d" = .ok ⟨"c-d", "x<b>y</b>", none⟩ := by
  intro html
  let tag : StyleTag := .including '"' "s-t\tu" rfl (by decide)
  have hread : bodyOf html "a-b" =
      .ok ("x" ++ tag.render ++ "p\\" ++ "</style>" ++ "y<style>q</style>") :=
    eq_ok_of_toOption (by decide +kernel)
  obtain ⟨⟨identity, markup, style⟩, includes, ht, rfl, rfl, rfl, hincludes, -⟩ :=
    (style_is_lifted_without_loss html "a-b" _ hread).1 tag "x" "p\\" "y<style>q</style>" rfl
      (by decide) (by decide)
  have hcut : Text.words tag.names = [("s-t" : Text), "u"] := by decide +kernel
  have hwords : includes = [("s-t" : Text), "u"] := (Text.isWords_iff.mp hincludes).trans hcut
  have hplain : bodyOf html "c-d" = .ok "x<b>y</b>" := eq_ok_of_toOption (by decide +kernel)
  have hnowhere : Pattern.styleBlock.MatchesNowhere "x<b>y</b>" :=
    Pattern.matchesNowhere_of_not_held (by decide)
  obtain ⟨⟨identity', markup', style'⟩, ht', rfl, rfl, rfl, -⟩ :=
    (style_is_lifted_without_loss html "c-d" _ hplain).2 hnowhere
  rw [hwords] at ht
  exact ⟨ht, ht'⟩

end Template

end ImportLift
