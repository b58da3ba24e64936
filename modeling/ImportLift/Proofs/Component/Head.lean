-- The head of a component as its module has it. Its lines are the lines of the
-- head that are no directives, with the base class replaced. No line of the
-- accessor is a directive, and the base class neither stands in the accessor
-- nor runs into it, so the head still ends with the accessor. The replacement
-- is one of text: it does not look at what stands beside the base class.
import ImportLift.Options
import ImportLift.Proofs.Component.Accessor
import ImportLift.Proofs.Component.Directive
import ImportLift.Proofs.Text.Mark
import ImportLift.Proofs.Text.Token

namespace ImportLift

namespace Text

/-! ## Lines of a text that was changed -/

variable {mark : Char} {old new : Text}

/-- A text whose lines stand behind another one is cut by itself. -/
theorem cutBehind_append_mark (text rest : Text) :
    cutBehind mark (text ++ mark :: rest) = cutBehind mark (text ++ [mark]) ++ cutBehind mark rest := by
  induction text using line_induction mark with
  | nil => simp [cutBehind]
  | last body hne hbody =>
    rw [cutBehind_append_cons hbody, cutBehind_append_cons hbody]
    rfl
  | line body more hbody ih =>
    rw [List.append_assoc, List.cons_append, cutBehind_append_cons hbody, ih, List.append_assoc,
      List.cons_append, cutBehind_append_cons hbody, List.cons_append]

/-- A beginning without a mark is the beginning of the first line. -/
theorem cutBehind_front {front : Text} (hfront : mark ∉ front) (hne : front ≠ []) (more : Text) :
    ∃ line lines, cutBehind mark (front ++ more) = (front ++ line) :: lines ∧
      line ++ lines.flatten = more := by
  by_cases hmem : mark ∈ more
  · obtain ⟨body, rest, rfl, hbody⟩ := List.eq_append_cons_of_mem hmem
    refine ⟨body ++ [mark], cutBehind mark rest, ?_, ?_⟩
    · have hline : mark ∉ front ++ body := by
        rw [List.mem_append, not_or]
        exact ⟨hfront, hbody⟩
      rw [← List.append_assoc, cutBehind_append_cons hline, List.append_assoc]
    · rw [flatten_cutBehind, List.append_assoc, List.singleton_append]
  · refine ⟨more, [], ?_, List.append_nil more⟩
    refine cutBehind_of_not_mem ?_ (List.append_ne_nil_of_left_ne_nil hne _)
    rw [List.mem_append, not_or]
    exact ⟨hfront, hmem⟩

/-- A part that is no longer than a line is replaced line by line. -/
theorem cutBehind_replaceAll (hold : old ≠ []) (hnew : new ≠ []) (hmark : mark ∉ old)
    (hmark' : mark ∉ new) (text : Text) :
    cutBehind mark (replaceAll text old new) =
      (cutBehind mark text).map fun line => replaceAll line old new := by
  have hinside : ∀ body : Text, mark ∉ body → mark ∉ replaceAll body old new :=
    fun body hbody hmem => (mem_of_mem_replaceAll hold hmem).elim hbody hmark'
  induction text using line_induction mark with
  | nil =>
    rw [replaceAll_nil]
    rfl
  | last body hne hbody =>
    rw [cutBehind_of_not_mem hbody hne, cutBehind_of_not_mem (hinside body hbody)
      (replaceAll_ne_nil hold hnew hne), List.map_singleton]
  | line body rest hbody ih =>
    rw [replaceAll_append_mark hold hmark, cutBehind_append_cons (hinside body hbody), ih,
      cutBehind_append_cons hbody, List.map_cons, replaceAll_append_mark hold hmark, replaceAll_nil]

end Text

namespace Component

/-! ## The lines of an accessor -/

theorem not_mem_flatten {c : Char} {parts : List Text} (h : ∀ part ∈ parts, c ∉ part) :
    c ∉ parts.flatten := by
  intro hmem
  obtain ⟨part, hpart, hmem⟩ := List.mem_flatten.mp hmem
  exact h part hpart hmem

theorem not_mem_spelling {word : Text} {c : Char} (text : Text.Spelling word)
    (h : Text.bars c word = true) : c ∉ text.val := by
  obtain ⟨text, hlength, hstarts⟩ := text
  have hnone := Text.not_mem_take hstarts h
  rwa [← hlength, List.take_length] at hnone

/-- Signs that no part of an accessor holds. -/
def IsForeign (c : Char) : Prop :=
  (∀ word ∈ (["static", "get", "is", "return"] : List Text), Text.bars c word = true) ∧
    Text.isBlank c = false ∧ Text.isWord c = false ∧ Pattern.isQuote c = false ∧
    c ∉ ("();-\x7b\x7d" : Text)

instance (c : Char) : Decidable (IsForeign c) := inferInstanceAs (Decidable (_ ∧ _))

theorem Accessor.not_mem_render (a : Accessor) (hdashed : IsDashed a.literal) {c : Char}
    (h : IsForeign c) : c ∉ a.render := by
  obtain ⟨hwords, hblank, hword, hquote, hsigns⟩ := h
  have hgap : ∀ gap : Text, gap.allBlank = true → c ∉ gap := by
    intro gap hgap hmem
    rw [List.all_eq_true.mp hgap c hmem] at hblank
    cases hblank
  have hsign : ∀ sign ∈ ("();-\x7b\x7d" : Text), c ≠ sign := by
    rintro sign hsign rfl
    exact hsigns hsign
  have hmark : c ≠ a.quote := by
    rintro rfl
    rw [a.quote_mark] at hquote
    cases hquote
  have hliteral : c ∉ a.literal := by
    intro hmem
    rcases hdashed.mem hmem with hc | rfl
    · rw [hc] at hword
      cases hword
    · exact hsigns (by decide)
  have hsingle : ∀ sign : Char, c ≠ sign → c ∉ [sign] :=
    fun sign hne hmem => hne (List.mem_singleton.mp hmem)
  have hending : c ∉ a.ending := by
    simp only [Accessor.ending, List.mem_append, List.mem_replicate, List.mem_singleton]
    rintro (((hmem | ⟨-, hmem⟩) | hmem) | hmem)
    · exact hgap _ a.afterLiteral.property hmem
    · exact hsign _ (by decide) hmem
    · exact hgap _ a.beforeBrace.property hmem
    · exact hsign _ (by decide) hmem
  rw [Accessor.render, List.mem_append, not_or]
  refine ⟨not_mem_flatten ?_, hending⟩
  simp only [List.forall_mem_cons, List.not_mem_nil, false_implies, implies_true, and_true]
  exact ⟨not_mem_spelling a.modifier (hwords _ (by decide)), hgap _ a.afterModifier.property.2,
    not_mem_spelling a.kind (hwords _ (by decide)), hgap _ a.afterKind.property.2,
    not_mem_spelling a.name (hwords _ (by decide)), hgap _ a.afterName.property,
    hsingle _ (hsign _ (by decide)), hgap _ a.inParens.property, hsingle _ (hsign _ (by decide)),
    hgap _ a.afterParens.property, hsingle _ (hsign _ (by decide)), hgap _ a.afterBrace.property,
    not_mem_spelling a.verb (hwords _ (by decide)), hgap _ a.afterVerb.property,
    hsingle _ hmark, hliteral, hsingle _ hmark⟩

/-! ## No line of an accessor is a directive -/

/-- What a directive is made of: neither the vowel of `static` nor a capital letter is in it. -/
theorem Directive.mem_render (d : Directive) {c : Char} (h : c ∈ d.render) :
    c ∈ (" \t\r\n/@ts-nocheck" : Text) := by
  rcases List.mem_append.mp h with h | h
  · have hwider : ∀ c ∈ (" \t/@ts-nocheck" : Text), c ∈ (" \t\r\n/@ts-nocheck" : Text) := by decide
    exact hwider c (d.mem_body h)
  · have hending : ∀ ending ∈ lineEndings, ∀ c ∈ ending, c ∈ (" \t\r\n/@ts-nocheck" : Text) := by
      decide
    exact hending d.ending d.ending_mem c h

theorem not_directive_of_mem {line : Text} {c : Char} (hmem : c ∈ line)
    (hc : c ∉ (" \t\r\n/@ts-nocheck" : Text)) : isDirective line = false := by
  rw [Bool.eq_false_iff]
  intro hdirective
  obtain ⟨d, rfl⟩ := (isDirective_iff line).mp hdirective
  exact hc (d.mem_render hmem)

theorem slash_mem_of_directive {line : Text} (h : isDirective line = true) : '/' ∈ line := by
  obtain ⟨d, rfl⟩ := (isDirective_iff line).mp h
  rw [d.render_eq]
  exact List.mem_append_right _ (List.mem_append_left _ (by decide))

/-- Each letter of a word stands in its spellings. -/
theorem exists_mem_spelling {word : Text} (text : Text.Spelling word) {letter : Char}
    (h : letter ∈ word) : ∃ c ∈ text.val, Text.sameFolded letter c = true := by
  obtain ⟨text, hlength, hstarts⟩ := text
  induction word generalizing text with
  | nil => cases h
  | cons first word ih =>
    cases text with
    | nil => cases hlength
    | cons c text =>
      rw [Text.startsFolded, Bool.and_eq_true] at hstarts
      rcases List.mem_cons.mp h with rfl | hlater
      · exact ⟨c, List.mem_cons_self, hstarts.1⟩
      · obtain ⟨d, hd, hsame⟩ := ih hlater text (by simpa using hlength) hstarts.2
        exact ⟨d, List.mem_cons_of_mem _ hd, hsame⟩

/-- The lines of an accessor, the first with what stands in front of it, are no directives. -/
theorem not_directive_of_accessor (a : Accessor) (hdashed : IsDashed a.literal) {front : Text}
    (hfront : '\n' ∉ front) :
    ∀ line ∈ Text.cutBehind '\n' (front ++ a.render), isDirective line = false := by
  obtain ⟨more, hrender⟩ := a.render_modifier
  have hstart : '\n' ∉ front ++ a.modifier.val := by
    rw [List.mem_append, not_or]
    exact ⟨hfront, not_mem_spelling a.modifier (by decide)⟩
  have hne : front ++ a.modifier.val ≠ [] :=
    List.append_ne_nil_of_right_ne_nil _ (Pattern.spelling_ne_nil a.modifier (by decide))
  obtain ⟨line, lines, hcut, hmore⟩ := Text.cutBehind_front hstart hne more
  rw [hrender, ← List.append_assoc, hcut, List.forall_mem_cons]
  refine ⟨?_, ?_⟩
  · obtain ⟨c, hc, hsame⟩ := exists_mem_spelling a.modifier (by decide : 'a' ∈ _)
    refine not_directive_of_mem (List.mem_append_left _ (List.mem_append_right _ hc)) fun hmem => ?_
    have hplain : ∀ d ∈ (" \t\r\n/@ts-nocheck" : Text), Text.sameFolded 'a' d = false := by decide
    rw [hplain c hmem] at hsame
    cases hsame
  · intro later hlater
    rw [Bool.eq_false_iff]
    intro hdirective
    have hslash : '/' ∈ a.render := by
      rw [hrender, ← hmore]
      refine List.mem_append_right _ (List.mem_append_right _ ?_)
      exact List.mem_flatten.mpr ⟨later, hlater, slash_mem_of_directive hdirective⟩
    exact a.not_mem_render hdashed (by decide) hslash

/-- Stripping a head leaves its accessor as it is. -/
theorem stripDirectives_accessor (a : Accessor) (hdashed : IsDashed a.literal) (before : Text) :
    ∃ kept, stripDirectives (before ++ a.render) = kept ++ a.render := by
  have hlast : ∀ front : Text, '\n' ∉ front →
      ((Text.cutBehind '\n' (front ++ a.render)).filter fun line => !isDirective line).flatten =
        front ++ a.render := by
    intro front hfront
    rw [List.filter_eq_self.mpr, Text.flatten_cutBehind]
    intro line hline
    rw [not_directive_of_accessor a hdashed hfront line hline]
    rfl
  rw [stripDirectives_eq]
  by_cases hmem : '\n' ∈ before
  · obtain ⟨earlier, front, rfl, hfront⟩ := Text.exists_last hmem
    rw [List.append_assoc, List.cons_append, Text.cutBehind_append_mark, List.filter_append,
      List.flatten_append, hlast front hfront, ← List.append_assoc]
    exact ⟨_, rfl⟩
  · exact ⟨before, hlast before hmem⟩

/-! ## The base class -/

/-- The base class as components name it, if the options do not say else. -/
abbrev legacyBase : Text := ({} : Options).legacyBaseClass

/-- The base class as modules name it, if the options do not say else. -/
abbrev modernBase : Text := ({} : Options).modernBaseClass

theorem legacyBase_eq : legacyBase = 'P' :: "olymer.Element" := by decide

theorem modernBase_eq : modernBase = 'P' :: "olymerElement" := by decide

/-- The base class neither stands in an accessor nor runs into it. -/
theorem replaceAll_accessor (a : Accessor) (hdashed : IsDashed a.literal) (front new : Text) :
    Text.replaceAll (front ++ a.render) legacyBase new =
      Text.replaceAll front legacyBase new ++ a.render := by
  obtain ⟨⟨c, more, hfirst, hletter⟩, -⟩ := a.render_ends
  have hapart : c ∉ legacyBase := by
    intro hmem
    have hnone : ∀ d ∈ legacyBase, Text.sameFolded 's' d = false := by decide
    rw [hnone c hmem] at hletter
    cases hletter
  have hdot : '.' ∉ more := by
    have hnone := a.not_mem_render hdashed (by decide : IsForeign '.')
    rw [hfirst, List.mem_cons, not_or] at hnone
    exact hnone.2
  have hmore : Text.replaceAll more legacyBase new = more := by
    refine Text.replaceAll_of_not_infix (by decide) (fun hinside => hdot ?_) new
    exact hinside.subset (by decide)
  rw [hfirst, Text.replaceAll_append_mark (by decide) hapart, hmore]

/-- The replacement makes no line a directive. -/
theorem not_directive_of_replaceAll {line : Text} (h : isDirective line = false) :
    isDirective (Text.replaceAll line legacyBase modernBase) = false := by
  by_cases hinside : legacyBase <:+: line
  · exact not_directive_of_mem (Text.mem_replaceAll (by decide) (by decide : 'P' ∈ modernBase) hinside)
      (by decide)
  · rwa [Text.replaceAll_of_not_infix (by decide) hinside]

/-- The lines of a normalised head are those of the head that are no directives, with the base
class replaced. -/
theorem cutBehind_normalise (head : Text) :
    Text.cutBehind '\n' (normalise legacyBase modernBase head) =
      ((Text.cutBehind '\n' head).filter fun line => !isDirective line).map fun line =>
        Text.replaceAll line legacyBase modernBase := by
  rw [normalise, Text.cutBehind_replaceAll (by decide) (by decide) (by decide) (by decide),
    stripDirectives_eq, Text.cutBehind_filter]

/-- The accessor of a component, and the head up to it. -/
theorem ofScript_accessor {oldBase newBase script : Text} {c : Component}
    (h : ofScript oldBase newBase script = .ok c) :
    ∃ (m : Match) (a : Accessor), Rule.accessor.pattern.find? script = some m ∧
      m.text = a.render ∧ IsDashed a.literal ∧ c.identity = a.literal ∧
      c.declaration = a.render ∧ c.head = c.before ++ a.render ∧ script = c.head ++ c.after ∧
      c.after = script.drop m.stop ∧ c.moduleHead = normalise oldBase newBase c.head := by
  obtain ⟨m, before, hm, hkept, hlength, hbefore, hhead, hscript, hmodule⟩ := ofScript_eq_ok h
  obtain ⟨front, back, -, -, -, behind, stop, found, rfl, hreaches, hparts⟩ :=
    Pattern.find?_standsIn hm
  have hname : (found.lookup .identity).map Stretch.text = some c.identity := by
    rw [← Pattern.lookup_parts, ← hparts]
    exact hkept
  obtain ⟨name, hname, hidentity⟩ := Option.map_eq_some_iff.mp hname
  obtain ⟨a, hdashed, hliteral, htext⟩ := hreaches.of_accessor hname
  have hmatch : m.text = a.render := List.append_cancel_right htext
  refine ⟨m, a, hm, hmatch, hdashed, by rw [← hidentity, hliteral], ?_, ?_, hscript, ?_, hmodule⟩
  · rw [head, hbefore, hmatch] at hhead
    exact List.append_cancel_left hhead
  · rw [hhead, hbefore, hmatch]
  · have hstop : m.stop = c.head.length := by
      rw [Match.stop, hhead, List.length_append, hlength]
    have hdrop := congrArg (List.drop c.head.length) hscript
    rw [List.drop_left] at hdrop
    rw [hstop, hdrop]

/-- The module has the head of a component without directives and without the old base class; it
still ends with the accessor, and what follows the accessor is not touched. -/
theorem a_module_head_holds_no_directive_and_no_legacy_base (script : Text) (c : Component)
    (h : ofScript legacyBase modernBase script = .ok c) :
    (∀ line ∈ Text.cutBehind '\n' c.moduleHead, isDirective line = false) ∧
    ¬ legacyBase <:+: c.moduleHead ∧
    (∃ m, Rule.accessor.pattern.find? script = some m ∧ c.declaration = m.text ∧
      c.declaration <:+ c.moduleHead ∧ c.after = script.drop m.stop) ∧
    c.before ++ c.declaration ++ c.after = script ∧
    Text.cutBehind '\n' c.moduleHead =
      ((Text.cutBehind '\n' c.head).filter fun line => !isDirective line).map fun line =>
        Text.replaceAll line legacyBase modernBase := by
  obtain ⟨m, a, hm, htext, hdashed, -, hdeclaration, hhead, hscript, hafter, hmodule⟩ :=
    ofScript_accessor h
  have hlines := cutBehind_normalise c.head
  rw [← hmodule] at hlines
  refine ⟨?_, ?_, ⟨m, hm, hdeclaration.trans htext.symm, ?_, hafter⟩, ?_, hlines⟩
  · rw [hlines]
    intro line hline
    obtain ⟨old, hold, rfl⟩ := List.mem_map.mp hline
    exact not_directive_of_replaceAll (by simpa using (List.mem_filter.mp hold).2)
  · rw [hmodule, normalise, legacyBase_eq, modernBase_eq]
    exact Text.not_infix_replaceAll (by decide) (by decide) (by decide) _
  · obtain ⟨kept, hkept⟩ := stripDirectives_accessor a hdashed c.before
    rw [hmodule, normalise, hhead, hkept, replaceAll_accessor a hdashed, hdeclaration]
    exact List.suffix_append _ _
  · rw [hdeclaration, ← hhead, ← hscript]

theorem exists_of_isOk {r : Except Failure Component} (h : r.isOk = true) : ∃ c, r = .ok c := by
  cases r with
  | error f => cases h
  | ok c => exact ⟨c, rfl⟩

/-- Directives at both kinds of line break and the old base class twice, one next to its own
beginning. -/
theorem a_module_head_of_two_directives :
    let script : Text := "// @ts-check\r\n" ++ ("const B = Polymer.Polymer.Element // @ts-check\n" ++
      ("\t//@ts-nocheck \nclass A extends Polymer.Element " ++
        "\x7b static get is() \x7b return 'a-b' \x7d \x7d // Polymer.Element"))
    ∃ c, ofScript legacyBase modernBase script = .ok c ∧
      (∀ line ∈ Text.cutBehind '\n' c.moduleHead, isDirective line = false) ∧
      ¬ legacyBase <:+: c.moduleHead ∧ c.declaration <:+ c.moduleHead := by
  intro script
  obtain ⟨c, hc⟩ : ∃ c, ofScript legacyBase modernBase script = .ok c :=
    exists_of_isOk (by decide +kernel)
  obtain ⟨hlines, hbase, ⟨m, -, -, hends, -⟩, -⟩ :=
    a_module_head_holds_no_directive_and_no_legacy_base script c hc
  exact ⟨c, hc, hlines, hbase, hends⟩

/-- The old base class is replaced wherever its text stands, also inside a longer name. So the
module has the head with its whole tokens replaced exactly when there is nothing else to replace. -/
theorem a_legacy_base_is_replaced_wherever_it_stands (script : Text) (c : Component)
    (h : ofScript legacyBase modernBase script = .ok c) :
    (∀ before after, stripDirectives c.head = before ++ (legacyBase ++ after) →
      c.moduleHead = Text.replaceAll before legacyBase modernBase ++
        (modernBase ++ Text.replaceAll after legacyBase modernBase)) ∧
    (c.moduleHead = Text.replaceTokens (stripDirectives c.head) legacyBase modernBase ↔
      ∀ before after, stripDirectives c.head = before ++ (legacyBase ++ after) →
        Text.isToken before.getLast? after.head? = true) := by
  obtain ⟨-, -, -, -, -, -, -, -, -, -, hmodule⟩ := ofScript_accessor h
  rw [hmodule, normalise, legacyBase_eq, modernBase_eq]
  refine ⟨?_, ?_⟩
  · intro before after hsplit
    rw [hsplit, ← Text.replaceAll_old (List.cons_ne_nil _ _)]
    exact Text.replaceAll_append_cons (List.cons_ne_nil _ _) (by decide) _ before _
  · rw [eq_comm]
    exact Text.replaceTokens_eq_replaceAll_iff (by decide) (by decide) (by decide) _

/-- A dollar sign in front of the base class makes a longer name of it. -/
theorem a_legacy_base_behind_a_dollar_sign :
    let script : Text := "class A extends $Polymer.Element" ++
      "\x7bstatic get is()\x7breturn 'a-b'\x7d\x7d"
    ∃ c, ofScript legacyBase modernBase script = .ok c ∧
      c.moduleHead ≠ Text.replaceTokens (stripDirectives c.head) legacyBase modernBase := by
  intro script
  obtain ⟨c, hc⟩ : ∃ c, ofScript legacyBase modernBase script = .ok c :=
    exists_of_isOk (by decide +kernel)
  have hhead : ((ofScript legacyBase modernBase script).toOption.map fun c =>
      stripDirectives c.head) = some ("class A extends $" ++
        (legacyBase ++ "\x7bstatic get is()\x7breturn 'a-b'\x7d")) := by
    decide +kernel
  rw [hc] at hhead
  refine ⟨c, hc, fun hsame => ?_⟩
  have htokens := (a_legacy_base_is_replaced_wherever_it_stands script c hc).2.mp hsame
  have htoken := htokens _ _ (Option.some.inj hhead)
  revert htoken
  decide

/-- A mixin whose name starts like the base class loses its dot. -/
theorem a_longer_name_is_changed :
    let script : Text := "class A extends Polymer.ElementMixin(B)" ++
      "\x7bstatic get is()\x7breturn 'a-b'\x7d\x7d"
    let ending : Text := "Mixin(B)\x7bstatic get is()\x7breturn 'a-b'\x7d"
    ∃ c, ofScript legacyBase modernBase script = .ok c ∧
      c.moduleHead = "class A extends PolymerElement" ++ ending ∧
      Text.replaceTokens (stripDirectives c.head) legacyBase modernBase =
        "class A extends Polymer.Element" ++ ending ∧
      c.moduleHead ≠ Text.replaceTokens (stripDirectives c.head) legacyBase modernBase := by
  intro script ending
  obtain ⟨c, hc⟩ : ∃ c, ofScript legacyBase modernBase script = .ok c :=
    exists_of_isOk (by decide +kernel)
  have hparts : ((ofScript legacyBase modernBase script).toOption.map fun c =>
      (c.moduleHead, Text.replaceTokens (stripDirectives c.head) legacyBase modernBase)) =
      some (("class A extends PolymerElement" ++ ending : Text),
        ("class A extends Polymer.Element" ++ ending : Text)) := by
    decide +kernel
  rw [hc] at hparts
  obtain ⟨hmodule, htokens⟩ := Prod.mk.inj (Option.some.inj hparts)
  refine ⟨c, hc, hmodule, htokens, ?_⟩
  rw [hmodule, htokens]
  decide

end Component

end ImportLift
