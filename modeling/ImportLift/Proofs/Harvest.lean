-- Harvesting recovers a document from its text. A document is a list of
-- links, scripts with a source, scripts with a body, and texts between them;
-- written out, each rule finds the elements of its own kind and no more. The
-- links are found in the whole text. The scripts with a source are cut out
-- before the others are looked for, and texts that were apart may then meet;
-- that they make up no script tag is asked of the document.
import Mathlib.Data.List.Chain
import ImportLift.Proofs.Pattern.Element

namespace ImportLift.Harvest

/-! ## Documents -/

/-- A part of a document. -/
inductive Item
  /-- An import link. -/
  | link (href : Text)
  /-- A script that names a source. -/
  | sourced (src : Text)
  /-- A script that holds its body. -/
  | inline (body : Text)
  | text (content : Text)

namespace Item

/-- The item as it is written. -/
def render : Item → Text
  | link href => "<link rel=\"import\" href=\"" ++ href ++ "\">"
  | sourced src => "<script src=\"" ++ src ++ "\"></script>"
  | inline body => "<script>" ++ body ++ "</script>"
  | text content => content

def isText : Item → Bool
  | text _ => true
  | _ => false

/-- The item is a link or a text, and so stays in the document. -/
def isBare : Item → Bool
  | link _ | text _ => true
  | _ => false

def href? : Item → Option Text
  | link href => some href
  | _ => none

def src? : Item → Option Text
  | sourced src => some src
  | _ => none

def body? : Item → Option Text
  | inline body => some body
  | _ => none

/-- Values hold no quotation mark, white space or bracket, and bodies and texts no tag that
would end them or start a link. -/
def Fits : Item → Prop
  | link href => Pattern.IsValue href
  | sourced src => Pattern.IsValue src
  | inline body => Text.holdsFolded "<script" body = false ∧
      Text.holdsFolded "</script" body = false ∧ Text.holdsFolded "<link" body = false
  | text content => Text.holdsFolded "<link" content = false

instance : DecidablePred Fits
  | link href => inferInstanceAs (Decidable (Pattern.IsValue href))
  | sourced src => inferInstanceAs (Decidable (Pattern.IsValue src))
  | inline _ => inferInstanceAs (Decidable (_ ∧ _))
  | text _ => inferInstanceAs (Decidable (_ = _))

end Item

/-- The items as one text. -/
def document (items : List Item) : Text := items.flatMap Item.render

/-- The links and the texts as one text. -/
def bare (items : List Item) : Text := document (items.filter Item.isBare)

/-- The items fit, no two texts are neighbours, and no script tag comes about when the scripts
are taken out. -/
structure WellFormed (items : List Item) : Prop where
  fits : ∀ item ∈ items, item.Fits
  apart : items.IsChain fun a b => ¬ (a.isText ∧ b.isText)
  noScript : Text.holdsFolded "<script" (bare items) = false

@[simp] theorem document_cons (item : Item) (items : List Item) :
    document (item :: items) = item.render ++ document items := rfl

instance (items : List Item) : Decidable (WellFormed items) :=
  decidable_of_iff ((∀ item ∈ items, item.Fits) ∧
      (items.IsChain fun a b => ¬ (a.isText ∧ b.isText)) ∧
      Text.holdsFolded "<script" (bare items) = false)
    ⟨fun ⟨fits, apart, noScript⟩ => ⟨fits, apart, noScript⟩,
      fun h => ⟨h.fits, h.apart, h.noScript⟩⟩

/-! ## One element -/

theorem render_link (href rest : Text) :
    (Item.link href).render ++ rest =
      "<link" ++ (" rel=\"import\" " ++
        ("href" ++ '=' :: '"' :: (href ++ '"' :: '>' :: rest))) := by
  have hopen : ("<link rel=\"import\" href=\"" : String).toList =
      "<link" ++ (" rel=\"import\" " ++ ("href" ++ ['=', '"'])) := by decide
  have hclose : ("\">" : String).toList = ['"', '>'] := by decide
  change _ ++ _ ++ _ ++ _ = _
  rw [hopen, hclose]
  simp only [List.append_assoc, List.cons_append, List.nil_append]

theorem render_sourced (src rest : Text) :
    (Item.sourced src).render ++ rest =
      "<script" ++ ' ' :: ("src" ++ '=' :: '"' :: (src ++ '"' :: '>' ::
        (("</" ++ "script") ++ '>' :: rest))) := by
  have hopen : ("<script src=\"" : String).toList = "<script" ++ ' ' :: ("src" ++ ['=', '"']) := by
    decide
  have hclose : ("\"></script>" : String).toList = '"' :: '>' :: (("</" ++ "script") ++ ['>']) := by
    decide
  change _ ++ _ ++ _ ++ _ = _
  rw [hopen, hclose]
  simp only [List.append_assoc, List.cons_append, List.nil_append]

theorem render_inline (body rest : Text) :
    (Item.inline body).render ++ rest =
      "<script" ++ '>' :: (body ++ (("</" ++ "script") ++ '>' :: rest)) := by
  have hopen : ("<script>" : String).toList = "<script" ++ ['>'] := by decide
  have hclose : ("</script>" : String).toList = ("</" ++ "script") ++ ['>'] := by decide
  change _ ++ _ ++ _ ++ _ = _
  rw [hopen, hclose]
  simp only [List.append_assoc, List.cons_append, List.nil_append]

/-- Every item but a text starts with a bracket. -/
theorem head?_render {item : Item} (h : item.isText = false) : item.render.head? = some '<' := by
  cases item with
  | link href =>
    have hrender := congrArg List.head? (render_link href [])
    simpa using hrender
  | sourced src =>
    have hrender := congrArg List.head? (render_sourced src [])
    simpa using hrender
  | inline body =>
    have hrender := congrArg List.head? (render_inline body [])
    simpa using hrender
  | text content => cases h

theorem render_ne_nil {item : Item} (h : item.isText = false) : item.render ≠ [] := by
  intro hnil
  have hhead := head?_render h
  rw [hnil] at hhead
  cases hhead

/-- The tag of a link says that it is an import. -/
theorem leads_relImport (rest : Text) :
    ∃ c', Pattern.relImport.Leads ⟨some 'k', " rel=\"import\" " ++ rest⟩ [] c' [] := by
  have htag : (" rel=\"import\" " : String).toList ++ rest =
      [' '] ++ ("rel" ++ '=' :: ("\"import\"" ++ ' ' :: rest)) := by
    have hclosed : (" rel=\"import\" " : String).toList =
        [' '] ++ ("rel" ++ '=' :: ("\"import\"" ++ [' '])) := by decide
    rw [hclosed]
    simp only [List.append_assoc, List.cons_append, List.nil_append]
  refine ⟨⟨some '"', ' ' :: rest⟩, ?_⟩
  rw [htag]
  refine .all (Pattern.leads_skip "rel" [' '] 'r' (by decide)
    (by decide) (fun _ _ hstarts => Pattern.stuck_edge hstarts []) ?_)
  refine .all (.seq (Pattern.forced_wordEdge ?_ []).leads ?_)
  · exact Cursor.atWordEdge_before (by decide) (by decide) _
  refine .all (.seq (Pattern.forced_word 'l' (by decide) []).leads ?_)
  refine .all (.seq (Pattern.forced_most_nil (by simp [Pattern.Stops]; decide) []).leads ?_)
  refine .all (.seq (Pattern.forced_one (by decide) []).leads ?_)
  refine .all (.seq (Pattern.forced_most_nil (by simp [Pattern.Stops]; decide) []).leads ?_)
  refine .all (.seq ((Pattern.forced_word '"' (by decide) []).leads.either _) ?_)
  exact .all (.seq (.ahead (Pattern.forced_one (by decide) []).leads)
    (Pattern.forced_nothing _ _).leads)

/-- The link rule takes a whole link and keeps its value. -/
theorem properAt?_link {href : Text} (hhref : Pattern.IsValue href) (behind : Option Char)
    (rest : Text) :
    Pattern.linkImport.properAt? ⟨behind, (Item.link href).render ++ rest⟩ =
      some ((Item.link href).render, [(.href, href), (.quote, ['"'])]) := by
  obtain ⟨s, s', hs, hs', hvalue⟩ := Pattern.leads_reference "href" 'f' .href
    (by decide) (by decide) (by decide) hhref ('>' :: rest) []
  obtain ⟨c', himport⟩ :=
    leads_relImport ("href" ++ '=' :: '"' :: (href ++ '"' :: '>' :: rest))
  have hleads : Pattern.linkImport.Leads ⟨behind, (Item.link href).render ++ rest⟩ []
      ⟨some '>', rest⟩ [(.href, s), (.quote, s')] := by
    rw [render_link]
    refine .all (.seq (Pattern.forced_word 'k' (by decide) []).leads ?_)
    refine .all (.seq (Pattern.forced_wordEdge ?_ []).leads ?_)
    · simp [Cursor.atWordEdge]
      decide
    refine .all (.seq himport.ahead ?_)
    refine .all (Pattern.leads_skip "href" _ 'h' (by decide)
      (by decide) (fun _ _ hstarts => .all (.seq (Pattern.stuck_edge hstarts []))) ?_)
    refine .all (.seq hvalue ?_)
    refine .all (.seq (Pattern.forced_most_nil (by simp [Pattern.Stops]; decide) _).leads ?_)
    exact .all (.seq (Pattern.forced_one (by decide) _).leads (Pattern.forced_nothing _ _).leads)
  have hfound := Pattern.properAt?_of_leads hleads (render_ne_nil rfl)
  simpa [hs, hs'] using hfound

/-- The rule for sources takes a whole script that names one. -/
theorem properAt?_sourced {src : Text} (hsrc : Pattern.IsValue src) (behind : Option Char)
    (rest : Text) :
    Pattern.sourcedScript.properAt? ⟨behind, (Item.sourced src).render ++ rest⟩ =
      some ((Item.sourced src).render, [(.src, src), (.quote, ['"'])]) := by
  obtain ⟨s, s', hs, hs', hvalue⟩ := Pattern.leads_reference "src" 'c' .src
    (by decide) (by decide) (by decide) hsrc
    ('>' :: (("</" ++ "script") ++ '>' :: rest)) []
  have hleads : Pattern.sourcedScript.Leads ⟨behind, (Item.sourced src).render ++ rest⟩ []
      ⟨some '>', rest⟩ [(.src, s), (.quote, s')] := by
    rw [render_sourced]
    refine .all (.seq (Pattern.forced_word 't' (by decide) []).leads ?_)
    refine .all (.seq (Pattern.forced_wordEdge (Cursor.atWordEdge_after (by decide) (by decide) _)
      []).leads ?_)
    refine .all (Pattern.leads_skip "src" [' '] 's'
      (by decide) (by decide)
      (fun _ _ hstarts => .all (.seq (Pattern.stuck_edge hstarts []))) ?_)
    refine .all (.seq hvalue ?_)
    refine .all (.seq (Pattern.forced_most_nil (by simp [Pattern.Stops]; decide) _).leads ?_)
    refine .all (.seq (Pattern.forced_one (by decide) _).leads ?_)
    refine .all (.seq (Pattern.forced_most_nil (by simp [Pattern.Stops]; decide) _).leads ?_)
    exact .all (.seq (Pattern.forced_endTag "script" 't' (by decide) _ _).leads
      (Pattern.forced_nothing _ _).leads)
  have hfound := Pattern.properAt?_of_leads hleads (render_ne_nil rfl)
  simpa [hs, hs'] using hfound

/-- The rule for sources does not match a script that names none. -/
theorem stuck_sourced_inline (body : Text) (behind : Option Char) (rest : Text) :
    Pattern.sourcedScript.Stuck ⟨behind, (Item.inline body).render ++ rest⟩ [] := by
  rw [render_inline]
  refine .all (.seq_of_forced (Pattern.forced_word 't' (by decide) []) ?_)
  refine .all (.seq_of_forced (Pattern.forced_wordEdge
    (Cursor.atWordEdge_after (by decide) (by decide) _) []) ?_)
  refine .all (Pattern.stuck_least_seq (by simp [Pattern.Stops]; decide) ?_)
  refine .all (.seq (Pattern.stuck_edge ?_ []))
  exact Text.startsFolded_of_head? 's' (by decide) (by decide) _

/-- The rule for bodies takes a whole script whose body does not end it. -/
theorem properAt?_inline {body : Text} (hbody : Text.holdsFolded "</script" body = false)
    (behind : Option Char) (rest : Text) :
    Pattern.inlineScript.properAt? ⟨behind, (Item.inline body).render ++ rest⟩ =
      some ((Item.inline body).render, [(.body, body)]) := by
  let close : Text := ("</" ++ "script") ++ '>' :: rest
  have hquiet : Text.Quiet ("</" ++ "script") body close := by
    have hword : ("</" : String).toList ++ "script" = '<' :: "/script" := by decide
    have hclose : close.head? = some '<' := by simp [close]
    rw [show ("</script" : String).toList = '<' :: "/script" by decide] at hbody
    rw [hword]
    refine Text.quiet_of_head? ?_ hbody
    rw [hclose]
    rintro _ ⟨⟩
    decide
  have hleads : Pattern.inlineScript.Leads ⟨behind, (Item.inline body).render ++ rest⟩ []
      ⟨some '>', rest⟩
      [(.body, ⟨⟨some '>', body ++ close⟩, ⟨body.getLast?.or (some '>'), close⟩⟩)] := by
    rw [render_inline]
    refine .all (.seq (Pattern.forced_word 't' (by decide) []).leads ?_)
    refine .all (.seq (Pattern.forced_wordEdge (Cursor.atWordEdge_after (by decide) (by decide) _)
      []).leads ?_)
    refine .all (.seq (Pattern.forced_most_nil (by simp [Pattern.Stops]; decide) _).leads ?_)
    refine .all (.seq (Pattern.forced_one (by decide) _).leads ?_)
    refine .all (Pattern.leads_keep_least_seq .body (fun _ _ => rfl) ?_ ?_)
    · intro before ch after hsplit behind kept
      exact .all (.seq (Pattern.stuck_endTag (hquiet before ch after hsplit) kept))
    · exact .all (.seq (Pattern.forced_endTag "script" 't' (by decide) _ _).leads
        (Pattern.forced_nothing _ _).leads)
  have hfound := Pattern.properAt?_of_leads hleads (render_ne_nil rfl)
  simpa [Stretch.text] using hfound

/-! ## Parts in which a tag does not start -/

theorem script_word : ("<script" : String).toList = '<' :: "script" := by decide

theorem link_word : ("<link" : String).toList = '<' :: "link" := by decide

/-- No script tag starts in a link or a text if none does when the scripts are taken out: what
follows is the same up to the next bracket. -/
theorem startsFolded_document (ch : Char) (before : Text) (items : List Item)
    (h : Text.startsFolded "<script" (ch :: before ++ bare items) = false) :
    Text.startsFolded "<script" (ch :: before ++ document items) = false := by
  rw [script_word] at h ⊢
  induction items generalizing before with
  | nil => exact h
  | cons item items ih =>
    by_cases htext : item.isText = true
    · cases item with
      | text content =>
        have hlater := ih (before ++ content)
        simp only [List.cons_append, List.append_assoc] at hlater
        exact hlater h
      | _ => cases htext
    · obtain ⟨rest, hrest⟩ := List.head?_eq_some_iff.mp (head?_render (by simpa using htext))
      have hbars : Text.bars '<' "script" = true := by decide
      rw [document_cons, hrest]
      change Text.startsFolded _ (ch :: before ++ '<' :: (rest ++ document items)) = false
      rw [Text.startsFolded_cons_append hbars]
      rw [Bool.eq_false_iff] at h ⊢
      intro hstarts
      exact h (Text.startsFolded_of_prefix hstarts _)

theorem quiet_script {items before after : List Item} {item : Item}
    (h : Text.holdsFolded "<script" (bare items) = false) (hitems : items = before ++ item :: after)
    (hbare : item.isBare = true) : Text.Quiet "<script" item.render (document after) := by
  intro text ch more hsplit
  apply startsFolded_document
  have hplace : bare items = (bare before ++ text) ++ (ch :: more ++ bare after) := by
    simp [bare, document, hitems, hbare, hsplit]
  rw [hplace, script_word] at h
  rw [script_word]
  exact Text.startsFolded_of_not_held h

/-- A body between two tags holds no tag that none of the three holds. -/
theorem holdsFolded_enclosed {word opening body closing : Text}
    (hword : Text.bars '<' word = true ∧ Text.bars '>' ('<' :: word) = true)
    (hopening : Text.holdsFolded ('<' :: word) opening = false)
    (hbody : Text.holdsFolded ('<' :: word) body = false)
    (hclosing : closing.head? = some '<' ∧ Text.holdsFolded ('<' :: word) closing = false) :
    Text.holdsFolded ('<' :: word) (opening ++ '>' :: (body ++ closing)) = false := by
  obtain ⟨rest, rfl⟩ := List.head?_eq_some_iff.mp hclosing.1
  rw [Text.holdsFolded_append hword.2, Text.holdsFolded_append_cons hword.1, hopening, hbody,
    hclosing.2]
  rfl

theorem getLast?_render {item : Item} (h : item.isBare = false) :
    item.render.getLast? = some '>' := by
  cases item with
  | sourced src =>
    change List.getLast? (_ ++ _ ++ _) = _
    rw [List.getLast?_append]
    simp
  | inline body =>
    change List.getLast? (_ ++ _ ++ _) = _
    rw [List.getLast?_append]
    simp
  | _ => cases h

/-- No link starts in a script. -/
theorem quiet_link_script {item : Item} (h : item.isBare = false) (hfits : item.Fits)
    (rest : Text) : Text.Quiet "<link" item.render rest := by
  rw [link_word]
  refine Text.quiet_of_getLast? (by decide) (getLast?_render h) ?_ rest
  rw [← List.append_nil item.render]
  cases item with
  | sourced src =>
    have hbars : ∀ c ∈ [' ', '=', '"', '>'], Text.bars c ('<' :: "link") = true :=
      List.all_eq_true.mp (by decide)
    have hsrc : Text.holdsFolded ('<' :: "link") src = false :=
      Text.holdsFolded_free fun hmem => (hfits _ hmem).2.2.1 rfl
    rw [render_sourced]
    change Text.holdsFolded _ ("<script" ++ ' ' :: ("src" ++ '=' :: ([] ++ '"' :: (src ++ '"' ::
      ([] ++ '>' :: (("</" ++ "script") ++ '>' :: [])))))) = _
    simp only [Text.holdsFolded_append (hbars _ _), List.mem_cons, true_or, or_true, hsrc]
    decide
  | inline body =>
    rw [render_inline]
    exact holdsFolded_enclosed (by decide) (by decide) (link_word ▸ hfits.2.2)
      (by decide)
  | _ => cases h

/-- No source is found in a script that names none. -/
theorem properAt?_sourced_inline {body : Text} (hbody : Text.holdsFolded "<script" body = false)
    {before after : Text} {ch : Char} (hsplit : (Item.inline body).render = before ++ ch :: after)
    (behind : Option Char) (rest : Text) :
    Pattern.sourcedScript.properAt? ⟨behind, ch :: after ++ rest⟩ = none := by
  have hrender := render_inline body []
  rw [List.append_nil, script_word, List.cons_append] at hrender
  refine Pattern.properAt?_of_tail script_word (by decide) (getLast?_render rfl) hrender ?_
    (fun behind => stuck_sourced_inline body behind rest) hsplit behind
  rw [script_word] at hbody ⊢
  exact holdsFolded_enclosed (by decide) (by decide) hbody (by decide)

/-! ## Whole documents -/

/-- An item as a segment: a match on it keeps what is made of its value. -/
def segment (value : Item → Option Text) (parts : Text → Parts) (item : Item) : Segment :=
  ⟨item.render, (value item).map parts⟩

section

variable {p : Pattern} {items : List Item} {value : Item → Option Text} {parts : Text → Parts}

theorem whole_segments : Segment.whole (items.map (segment value parts)) = document items :=
  List.flatMap_map _ _ items

theorem remaining_segments : Segment.remaining (items.map (segment value parts)) =
    document (items.filter fun item => (value item).isNone) := by
  rw [Segment.remaining, List.filter_map, whole_segments]
  simp [segment, Function.comp_def]

/-- A rule finds the items that have a value if it takes each of them whole and starts in no
other. -/
theorem scans_segments
    (hfound : ∀ item ∈ items, ∀ v, value item = some v → ∀ behind rest,
      p.properAt? ⟨behind, item.render ++ rest⟩ = some (item.render, parts v))
    (hquiet : ∀ before item after, items = before ++ item :: after → value item = none →
      ∀ text ch more, item.render = text ++ ch :: more →
        ∀ behind, p.properAt? ⟨behind, ch :: more ++ document after⟩ = none) :
    p.Scans (items.map (segment value parts)) := by
  induction items with
  | nil => exact .nil
  | cons item items ih =>
    have hlater := ih (fun item hitem => hfound item (List.mem_cons_of_mem _ hitem))
      (fun before item' after hitems => hquiet (item :: before) item' after (by rw [hitems]; rfl))
    rw [List.map_cons, segment]
    cases hvalue : value item with
    | none =>
      refine .quiet ?_ hlater
      rw [whole_segments]
      exact hquiet [] item items rfl hvalue
    | some v =>
      refine .found ?_ hlater
      intro behind
      exact hfound item List.mem_cons_self v hvalue behind _

/-- What a rule keeps under a name are the values that are not blank. -/
theorem filled?_document (h : p.Scans (items.map (segment value parts))) (name : Capture)
    (hname : ∀ v, (parts v).lookup name = some v) :
    (p.findAll (document items)).filterMap (·.filled? name) =
      (items.filterMap value).filter fun v => !v.allBlank := by
  have hkept : (items.map (segment value parts)).filterMap Segment.found =
      (items.filterMap value).map parts := by
    rw [List.filterMap_map, List.map_filterMap]
    rfl
  rw [← whole_segments, Pattern.filled?_segments h, hkept, List.filterMap_map,
    ← List.filterMap_eq_filter]
  congr 1
  funext v
  simp [hname, Option.guard, Option.filter]

theorem without_document (h : p.Scans (items.map (segment value parts))) :
    without (document items) (p.findAll (document items)) =
      document (items.filter fun item => (value item).isNone) := by
  rw [← whole_segments, Pattern.without_segments h, remaining_segments]

end

/-- The rule for links finds the links. -/
theorem scans_links {items : List Item} (h : WellFormed items) :
    Pattern.linkImport.Scans
      (items.map (segment Item.href? fun href => [(.href, href), (.quote, ['"'])])) := by
  apply scans_segments
  · intro item hitem v hv behind rest
    cases item with
    | link href =>
      cases hv
      exact properAt?_link (h.fits _ hitem) behind rest
    | _ => cases hv
  · intro before item after hitems hv text ch more hsplit behind
    have hitem : item ∈ items := by simp [hitems]
    have hquiet : Text.Quiet "<link" item.render (document after) := by
      cases item with
      | link href => cases hv
      | text content =>
        rw [link_word]
        refine Text.quiet_of_head? ?_ (link_word ▸ h.fits _ hitem)
        -- No text follows, so what follows starts with a bracket.
        cases after with
        | nil => simp [document]
        | cons next after =>
          have hnext : next.isText = false := by
            have hchain := h.apart
            rw [hitems, List.isChain_append, List.isChain_cons_cons] at hchain
            have hapart := hchain.2.1.1
            simpa [Item.isText] using hapart
          intro c hc
          rw [document_cons, List.head?_append, head?_render hnext] at hc
          cases hc
          decide
      | _ => exact quiet_link_script rfl (h.fits _ hitem) _
    exact Pattern.properAt?_of_quiet hquiet hsplit behind

/-- The rule for sources finds the scripts that name one. -/
theorem scans_sources {items : List Item} (h : WellFormed items) :
    Pattern.sourcedScript.Scans
      (items.map (segment Item.src? fun src => [(.src, src), (.quote, ['"'])])) := by
  apply scans_segments
  · intro item hitem v hv behind rest
    cases item with
    | sourced src =>
      cases hv
      exact properAt?_sourced (h.fits _ hitem) behind rest
    | _ => cases hv
  · intro before item after hitems hv text ch more hsplit behind
    cases item with
    | sourced src => cases hv
    | inline body =>
      have hfits : (Item.inline body).Fits := h.fits _ (by simp [hitems])
      exact properAt?_sourced_inline hfits.1 hsplit behind _
    | _ => exact Pattern.properAt?_of_quiet (quiet_script h.noScript hitems rfl) hsplit behind

/-- With the scripts that name a source taken out, the rule for bodies finds the others. -/
theorem scans_bodies {items : List Item} (h : WellFormed items) :
    Pattern.inlineScript.Scans
      ((items.filter fun item => item.src?.isNone).map
        (segment Item.body? fun body => [(.body, body)])) := by
  have hbare : bare (items.filter fun item => item.src?.isNone) = bare items := by
    rw [bare, bare, List.filter_filter]
    congr 1
    apply List.filter_congr
    intro item _
    cases item <;> rfl
  apply scans_segments
  · intro item hitem v hv behind rest
    cases item with
    | inline body =>
      cases hv
      exact properAt?_inline (h.fits _ (List.mem_filter.mp hitem).1).2.1 behind rest
    | _ => cases hv
  · intro before item after hitems hv text ch more hsplit behind
    cases item with
    | inline body => cases hv
    | sourced src =>
      have hitem : Item.sourced src ∈ items.filter fun item => item.src?.isNone := by simp [hitems]
      simp [Item.src?] at hitem
    | _ =>
      have hquiet := quiet_script (hbare ▸ h.noScript) hitems rfl
      exact Pattern.properAt?_of_quiet hquiet hsplit behind

theorem filter_values {value : Item → Option Text} {items : List Item}
    (h : ∀ item ∈ items, ∀ v, value item = some v → Pattern.IsValue v) :
    ((items.filterMap value).filter fun v => !v.allBlank) =
      (items.filterMap value).filter (· ≠ []) := by
  apply List.filter_congr
  intro v hv
  obtain ⟨item, hitem, hvalue⟩ := List.mem_filterMap.mp hv
  rw [(h item hitem v hvalue).allBlank]
  cases v <;> rfl

theorem linked_document {items : List Item} (h : WellFormed items) :
    linked (document items) = (items.filterMap Item.href?).filter (· ≠ []) := by
  rw [← filter_values]
  · exact filled?_document (scans_links h) .href fun _ => rfl
  · intro item hitem v hv
    cases item with
    | link href =>
      cases hv
      exact h.fits _ hitem
    | _ => cases hv

theorem sources_document {items : List Item} (h : WellFormed items) (filename : Text) :
    sources filename (Pattern.sourcedScript.findAll (document items)) =
      ((items.filterMap Item.src?).filter (· ≠ [])).filter fun src =>
        filename = [] ∨ Text.lower src ≠ Text.lower filename := by
  rw [sources, filled?_document (scans_sources h) .src (fun _ => rfl), filter_values]
  · apply List.filter_congr
    intro src _
    cases filename <;> simp [isOwn, Text.sameLower]
  · intro item hitem v hv
    cases item with
    | sourced src =>
      cases hv
      exact h.fits _ hitem
    | _ => cases hv

theorem bodies_document {items : List Item} (h : WellFormed items) :
    bodies (Pattern.inlineScript.findAll
        (document (items.filter fun item => item.src?.isNone))) =
      ((items.filterMap Item.body?).filter fun body => !body.allBlank).map dedent := by
  rw [bodies, filled?_document (scans_bodies h) .body (fun _ => rfl), List.filterMap_filter]
  congr 3
  funext item
  cases item <;> rfl

theorem without_scripts {items : List Item} (h : WellFormed items) :
    without (document (items.filter fun item => item.src?.isNone)) (Pattern.inlineScript.findAll
      (document (items.filter fun item => item.src?.isNone))) = bare items := by
  rw [without_document (scans_bodies h), List.filter_filter, bare]
  congr 1
  apply List.filter_congr
  intro item _
  cases item <;> rfl

/-- Harvesting a document gives the links, sources and bodies that it was made of, in order:
links and sources that are not empty, less the component's own file, and dedented the bodies
that are not blank. What is left are its links and texts. -/
theorem harvesting_recovers_a_document {items : List Item} (h : WellFormed items)
    (filename : Text) :
    let sourced := Rule.sourcedScript.pattern.findAll (document items)
    let unsourced := document (items.filter fun item => item.src?.isNone)
    let inline := Rule.inlineScript.pattern.findAll unsourced
    -- Cutting the scripts out never fails.
    Span.remove (document items) (sourced.map spanOf) = .ok unsourced ∧
    Span.remove unsourced (inline.map spanOf) = .ok (bare items) ∧
    ofDocument (document items) filename =
      { imports := (items.filterMap Item.href?).filter (· ≠ [])
        scripts := ((items.filterMap Item.src?).filter (· ≠ [])).filter fun src =>
          filename = [] ∨ Text.lower src ≠ Text.lower filename
        inlineScripts := ((items.filterMap Item.body?).filter fun body => !body.allBlank).map dedent
        html := bare items } := by
  intro sourced unsourced inline
  have hunsourced : without (document items) sourced = unsourced :=
    without_document (scans_sources h)
  have hbare : without unsourced inline = bare items := without_scripts h
  have hcut := remove_findAll Pattern.sourcedScript (document items)
  have hcut' := remove_findAll Pattern.inlineScript unsourced
  refine ⟨hcut.trans (congrArg _ hunsourced), hcut'.trans (congrArg _ hbare), ?_⟩
  have hharvest : ofDocument (document items) filename =
      ⟨linked (document items), sources filename sourced, bodies inline,
        without unsourced inline⟩ := by
    simp only [inline, ← hunsourced]
    rfl
  have hscripts : sources filename sourced = _ := sources_document h filename
  have hbodies : bodies inline = _ := bodies_document h
  rw [hharvest, hbare, linked_document h, hscripts, hbodies]

/-- A document whose texts would meet in a script tag if the link were not between them. -/
theorem harvesting_recovers_broken_tags :
    let items : List Item := [.text "<scr", .link "a.html", .text "ipt>", .sourced "Own.JS",
      .sourced [], .inline "  f();\n", .text "</script>", .inline " ", .sourced "b.js"]
    WellFormed items ∧ ofDocument (document items) "own.js" =
      ⟨["a.html"], ["b.js"], ["f();"],
        "<scr<link rel=\"import\" href=\"a.html\">ipt></script>"⟩ := by
  intro items
  have h : WellFormed items := by decide
  refine ⟨h, (harvesting_recovers_a_document h "own.js").2.2.trans ?_⟩
  decide

end ImportLift.Harvest
