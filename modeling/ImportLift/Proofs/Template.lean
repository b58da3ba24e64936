-- The template of an identity in a document made of module elements, with
-- texts before, between and after them that open no element. The matches of
-- the rule are the elements that have an id, so the first of them whose id is
-- the identity decides.
import ImportLift.Proofs.Template.Element

namespace ImportLift.Template

/-! ## Documents -/

/-- A text that opens no module element. -/
abbrev Separator := {text : Text // Text.holdsFolded "<dom-module" text = false}

/-- The elements as one text, each behind its separator, and a last separator. -/
def document (parts : List (Separator × Element)) (last : Separator) : Text :=
  parts.flatMap (fun part => part.1.val ++ part.2.render) ++ last

/-! ## The matches in a document -/

/-- What a match on the element keeps. -/
def Element.parts (e : Element) : Parts :=
  [(.template, Text.trim e.body), (.id, e.id), (.quote, [e.quote])]

@[simp] theorem Element.lookup_id (e : Element) : e.parts.lookup .id = some e.id := rfl

@[simp] theorem Element.lookup_template (e : Element) :
    e.parts.lookup .template = some (Text.trim e.body) := rfl

/-- An element is a match if it has an id. -/
def Element.segment (e : Element) : Segment :=
  ⟨e.render, if e.id = [] then none else some e.parts⟩

def segments (parts : List (Separator × Element)) (last : Separator) : List Segment :=
  parts.flatMap (fun part => [⟨part.1.val, none⟩, part.2.segment]) ++ [⟨last.val, none⟩]

theorem segments_cons (part : Separator × Element) (parts : List (Separator × Element))
    (last : Separator) : segments (part :: parts) last =
      ⟨part.1.val, none⟩ :: part.2.segment :: segments parts last := rfl

theorem whole_segments (parts : List (Separator × Element)) (last : Separator) :
    Segment.whole (segments parts last) = document parts last := by
  induction parts with
  | nil => simp [segments, document, Segment.whole]
  | cons part parts ih =>
    rw [segments_cons, Segment.whole_cons, Segment.whole_cons, ih]
    simp [document, Element.segment]

/-- An element starts with a bracket. -/
theorem Element.render_cons (e : Element) : ∃ tail, e.render = '<' :: tail := by
  have hhead := congrArg List.head? (Pattern.render_element e [])
  rw [List.append_nil] at hhead
  exact List.head?_eq_some_iff.mp hhead

/-- No element starts in a separator. -/
theorem properAt?_separator {text rest before after : Text} {ch : Char}
    (htext : Text.holdsFolded "<dom-module" text = false)
    (hrest : ∀ c, rest.head? = some c → c = '<') (hsplit : text = before ++ ch :: after)
    (behind : Option Char) :
    Pattern.templateBlock.properAt? ⟨behind, ch :: after ++ rest⟩ = none := by
  have hquiet : Text.Quiet "<dom-module" text rest := by
    rw [Pattern.module_word] at htext ⊢
    refine Text.quiet_of_head? ?_ htext
    intro c hc
    rw [hrest c hc]
    decide
  exact Pattern.properAt?_of_quiet hquiet hsplit behind

/-- No element starts in an element that has no id. -/
theorem properAt?_nameless (e : Element) (hid : e.id = []) {before after : Text} {ch : Char}
    (hsplit : e.render = before ++ ch :: after) (behind : Option Char) (rest : Text) :
    Pattern.templateBlock.properAt? ⟨behind, ch :: after ++ rest⟩ = none := by
  obtain ⟨tail, htail⟩ := e.render_cons
  have hlast : e.render.getLast? = some '>' := by
    unfold Element.render
    rw [List.getLast?_append]
    simp
  refine Pattern.properAt?_of_tail Pattern.module_word (by decide) hlast htail ?_
    (fun behind => Pattern.stuck_nameless e hid behind rest) hsplit behind
  rw [Pattern.module_word]
  exact Pattern.holdsFolded_element htail

theorem scans_document (parts : List (Separator × Element)) (last : Separator) :
    Pattern.templateBlock.Scans (segments parts last) := by
  induction parts with
  | nil =>
    refine .quiet ?_ .nil
    intro before ch after hsplit behind
    exact properAt?_separator last.property (by simp [Segment.whole]) hsplit behind
  | cons part parts ih =>
    obtain ⟨gap, e⟩ := part
    have helement : Pattern.templateBlock.Scans (e.segment :: segments parts last) := by
      unfold Element.segment
      by_cases hid : e.id = []
      · rw [if_pos hid]
        refine .quiet ?_ ih
        intro before ch after hsplit behind
        exact properAt?_nameless e hid hsplit behind _
      · rw [if_neg hid]
        refine .found ?_ ih
        intro behind
        exact Pattern.properAt?_element e hid behind _
    refine .quiet ?_ helement
    intro before ch after hsplit behind
    refine properAt?_separator gap.property ?_ hsplit behind
    obtain ⟨tail, htail⟩ := e.render_cons
    intro c hc
    change (e.render ++ _).head? = _ at hc
    rw [htail] at hc
    exact (Option.some.inj hc).symm

theorem found_segments (parts : List (Separator × Element)) (last : Separator) :
    (segments parts last).filterMap Segment.found =
      ((parts.map Prod.snd).filter (·.id ≠ [])).map Element.parts := by
  induction parts with
  | nil => rfl
  | cons part parts ih =>
    rw [segments_cons, List.map_cons]
    by_cases hid : part.2.id = []
    · simp [Element.segment, hid, ih]
    · simp [Element.segment, hid, ih]

theorem not_blank_id {e : Element} (h : e.id ≠ []) : e.id.allBlank = false := by
  obtain ⟨c, hc⟩ := List.exists_mem_of_ne_nil e.id h
  rw [Text.allBlank, List.all_eq_false]
  refine ⟨c, hc, ?_⟩
  have hnamed := List.all_eq_true.mp e.id_named c hc
  rw [Bool.or_eq_true, decide_eq_true_eq] at hnamed
  rcases hnamed with hword | rfl
  · simp [Text.isBlank_of_isWord hword]
  · decide

/-- The first element that has an id and whose id is the identity. -/
def first? (parts : List (Separator × Element)) (identity : Text) : Option Element :=
  (parts.map Prod.snd).find? fun e => e.id ≠ [] ∧ e.id = identity

/-- The first match of an identity is on the first element that has it. -/
theorem find?_document (parts : List (Separator × Element)) (last : Separator) (identity : Text) :
    ((Pattern.templateBlock.findAll (document parts last)).find?
        (·.filled? .id = some identity)).map Match.kept =
      (first? parts identity).map Element.parts := by
  have hkept : (Pattern.templateBlock.findAll (document parts last)).map Match.kept =
      ((parts.map Prod.snd).filter (·.id ≠ [])).map Element.parts := by
    rw [← whole_segments, Pattern.findAll_segments (scans_document parts last),
      Segment.map_kept_matchesFrom, found_segments]
  let named (kept : Parts) : Bool := (kept.lookup .id).filter (fun v => !v.allBlank) = some identity
  have hfind : ∀ found : List Match, (found.find? (·.filled? .id = some identity)).map Match.kept =
      (found.map Match.kept).find? named := by
    intro found
    rw [List.find?_map]
    rfl
  rw [hfind, hkept, List.find?_map, List.find?_filter]
  unfold first?
  congr 2
  funext e
  by_cases hid : e.id = []
  · simp [hid]
  · simp [hid, named, Option.filter, not_blank_id hid]

theorem bodyOf_eq (html identity : Text) :
    bodyOf html identity =
      match ((Pattern.templateBlock.findAll html).find? (·.filled? .id = some identity)).map
        Match.kept with
      | none => .error ⟨.noTemplate, some identity⟩
      | some kept =>
        match (kept.lookup .template).filter fun body => !body.allBlank with
        | none => .error ⟨.blankTemplate, some identity⟩
        | some body => .ok body := by
  have hpattern : Rule.templateBlock.pattern = Pattern.templateBlock := rfl
  unfold bodyOf
  rw [hpattern]
  cases (Pattern.templateBlock.findAll html).find? (·.filled? .id = some identity) <;> rfl

theorem bodyOf_document (parts : List (Separator × Element)) (last : Separator) (identity : Text) :
    bodyOf (document parts last) identity =
      match first? parts identity with
      | none => .error ⟨.noTemplate, some identity⟩
      | some e =>
        if e.body.allBlank then .error ⟨.blankTemplate, some identity⟩
        else .ok (Text.trim e.body) := by
  rw [bodyOf_eq, find?_document]
  cases first? parts identity with
  | none => rfl
  | some e =>
    cases hblank : e.body.allBlank <;> simp [Option.filter, Text.allBlank_trim, hblank]

/-- In a document made of module elements, the first element whose id is the identity decides:
there is no template if no element has that id, the template is blank if the body is, and
otherwise it is made of the body without the white space around it. -/
theorem the_first_module_of_an_id_decides (parts : List (Separator × Element)) (last : Separator)
    (identity : Text) :
    let html := document parts last
    (ofDocument html identity = .error ⟨.noTemplate, some identity⟩ ↔
      ∀ part ∈ parts, part.2.id ≠ [] → part.2.id ≠ identity) ∧
    ∀ first, (parts.map Prod.snd).find? (fun e => e.id ≠ [] ∧ e.id = identity) = some first →
      (ofDocument html identity = .error ⟨.blankTemplate, some identity⟩ ↔
        first.body.allBlank = true) ∧
      (first.body.allBlank = false →
        bodyOf html identity = .ok (Text.trim first.body) ∧
        ofDocument html identity = .ok (ofBody identity (Text.trim first.body))) := by
  intro html
  have hbody : bodyOf html identity = _ := bodyOf_document parts last identity
  refine ⟨?_, ?_⟩
  · have hnone : first? parts identity = none ↔
        ∀ part ∈ parts, part.2.id ≠ [] → part.2.id ≠ identity := by
      simp [first?]
    rw [← hnone, ofDocument, hbody]
    cases first? parts identity with
    | none => simp [Except.map]
    | some e => cases hblank : e.body.allBlank <;> simp [Except.map, hblank]
  · intro first hfirst
    have hfirst : first? parts identity = some first := hfirst
    rw [ofDocument, hbody, hfirst]
    cases hblank : first.body.allBlank <;> simp [hblank, Except.map]

/-- Two modules of one id: the first decides, and a template nested in its body stays. -/
theorem the_first_of_two_modules_decides :
    let first : Element :=
      { id := "my-el", body := "\n <template>a</template> ", quote := '\''
        start := ⟨⟨" ", by decide⟩, some ⟨"\n", by decide⟩⟩
        stop := ⟨none, ⟨" ", by decide⟩⟩, inner := ⟨"\n", by decide⟩
        templateStop := ⟨some ⟨" ", by decide⟩, ⟨[], rfl⟩⟩, outer := ⟨[], rfl⟩
        id_named := by decide, quote_mark := rfl
        body_open := by decide, body_close := by decide }
    let second : Element :=
      { first with body := "b", body_open := by decide, body_close := by decide }
    let parts : List (Separator × Element) :=
      [(⟨"<dom-modul", by decide⟩, first), (⟨"</dom-module>", by decide⟩, second)]
    let last : Separator := ⟨"\n", by decide⟩
    (parts.map Prod.snd).find? (fun e => e.id ≠ [] ∧ e.id = "my-el".toList) = some first ∧
      first.body.allBlank = false ∧
      bodyOf (document parts last) "my-el" = .ok "<template>a</template>" := by
  intro first second parts last
  have hfirst : (parts.map Prod.snd).find? (fun e => e.id ≠ [] ∧ e.id = "my-el".toList) =
      some first := rfl
  have hblank : first.body.allBlank = false := by decide
  refine ⟨hfirst, hblank, ?_⟩
  have hdecides := (the_first_module_of_an_id_decides parts last "my-el").2 first hfirst
  exact (hdecides.2 hblank).1.trans (congrArg Except.ok (by decide))

/-- A module whose id is empty is not found under the empty identity. -/
theorem a_module_with_an_empty_id_is_not_found :
    let nameless : Element :=
      { id := [], body := "x", quote := '"', start := ⟨⟨" ", by decide⟩, none⟩
        stop := ⟨none, ⟨[], rfl⟩⟩, inner := ⟨[], rfl⟩, templateStop := ⟨none, ⟨[], rfl⟩⟩
        outer := ⟨[], rfl⟩, id_named := rfl, quote_mark := rfl
        body_open := by decide, body_close := by decide }
    let parts : List (Separator × Element) := [(⟨[], rfl⟩, nameless)]
    let html := document parts ⟨[], rfl⟩
    html = "<dom-module id=\"\"><template>x</template></dom-module>" ∧
      ofDocument html [] = .error ⟨.noTemplate, some []⟩ ∧
      ¬ ∀ part ∈ parts, part.2.id ≠ [] := by
  intro nameless parts html
  have hnone : Pattern.templateBlock.findAll html = [] := by decide
  refine ⟨by decide, ?_, ?_⟩
  · rw [ofDocument, bodyOf_eq, hnone]
    rfl
  · intro h
    exact h _ List.mem_cons_self rfl

end ImportLift.Template
