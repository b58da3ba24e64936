-- How the rule for import links reads a link tag that is written out. A tag
-- is a list of attributes in any order, each with its value in double quotes,
-- in single quotes or bare. The rule looks for a name and an equals sign at
-- the edge of a word. The only equals signs of a tag are those behind its
-- names, so a place where the rule can go on is the start of a name, and the
-- name is the whole word. Distinct names leave one such place at most.
import ImportLift.Proofs.Pattern.Cover
import ImportLift.Proofs.Template.Element
import ImportLift.Proofs.Text.Mark

namespace ImportLift

namespace Link

/-! ## Tags as they are written -/

/-- A text in small letters. -/
def lowered (text : Text) : Text := text.map Char.toLower

/-- An attribute: white space, a name, an equals sign with or without white space about it, and
a value. -/
structure Attribute where
  lead : Template.Gap
  name : Text
  before : Template.Blank
  after : Template.Blank
  quoting : Pattern.Quoting
  value : Text
  name_ne : name ≠ []
  name_word : ∀ c ∈ name, Text.isWord c = true ∧ c.toNat < 128
  value_plain : Pattern.IsValue value
  value_ascii : ∀ c ∈ value, c.toNat < 128 ∧ c ≠ '='
  value_bare : quoting = .bare → value ≠ []
  value_rel : lowered name = "rel" → ∀ c ∈ value, c.isAlpha = true

namespace Attribute

/-- The name, case disregarded. -/
def key (a : Attribute) : Text := lowered a.name

/-- The value with its marks. -/
def quoted (a : Attribute) : Text := a.quoting.mark ++ a.value ++ a.quoting.mark

/-- The attribute behind its name. -/
def assigned (a : Attribute) : Text := a.before ++ '=' :: (a.after ++ a.quoted)

/-- The attribute as it is written. -/
def render (a : Attribute) : Text := a.lead ++ (a.name ++ a.assigned)

/-- The attribute asks for an import. -/
def IsImport (a : Attribute) : Prop := a.key = "rel" ∧ lowered a.value = "import"

end Attribute

/-- The attributes up to the end of the tag, with more text behind. -/
def body (attributes : List Attribute) (rest : Text) : Text :=
  attributes.flatMap Attribute.render ++ '>' :: rest

/-- A link tag as it is written. -/
def tag (attributes : List Attribute) : Text := "<link" ++ body attributes []

theorem body_cons (a : Attribute) (attributes : List Attribute) (rest : Text) :
    body (a :: attributes) rest = a.render ++ body attributes rest := by
  rw [body, List.flatMap_cons, List.append_assoc, body]

theorem tag_append (attributes : List Attribute) (rest : Text) :
    tag attributes ++ rest = "<link" ++ body attributes rest := by
  have hbody : body attributes [] ++ rest = body attributes rest := List.append_assoc _ _ _
  rw [← hbody]
  exact List.append_assoc _ _ _

theorem body_append (front back : List Attribute) (rest : Text) :
    body (front ++ back) rest = front.flatMap Attribute.render ++ body back rest := by
  rw [body, List.flatMap_append, List.append_assoc, body]

theorem Attribute.assigned_append (a : Attribute) (rest : Text) :
    a.assigned ++ rest = a.before.val ++ '=' :: (a.after.val ++ (a.quoted ++ rest)) := by
  rw [Attribute.assigned, List.append_assoc, List.cons_append, List.append_assoc]

theorem Attribute.quoted_append (a : Attribute) (rest : Text) :
    a.quoted ++ rest = a.quoting.mark ++ (a.value ++ (a.quoting.mark ++ rest)) := by
  rw [Attribute.quoted, List.append_assoc, List.append_assoc]

/-- The name of an attribute is a spelling of its key. -/
def Attribute.spelling (a : Attribute) {word : Text} (h : a.key = word) : Text.Spelling word :=
  ⟨a.name, by rw [← h, key, lowered, List.length_map], by
    rw [Text.startsFolded_ascii fun c hc => (a.name_word c hc).2, ← h]
    exact List.prefix_rfl⟩

/-! ## The characters of an attribute -/

/-- Behind its equals sign an attribute holds no other one. -/
theorem Attribute.mem_value {a : Attribute} {c : Char} (h : c ∈ a.after.val ++ a.quoted) :
    c ≠ '<' ∧ c ≠ '>' ∧ c ≠ '=' := by
  have hmark : c ∈ a.quoting.mark → c ≠ '<' ∧ c ≠ '>' ∧ c ≠ '=' := by
    intro hmem
    have hquote := Pattern.Quoting.mark_mem hmem
    refine ⟨?_, ?_, ?_⟩ <;> rintro rfl <;> revert hquote <;> decide
  rw [Attribute.quoted, List.mem_append, List.mem_append, List.mem_append] at h
  rcases h with h | (h | h) | h
  · have hblank := List.all_eq_true.mp a.after.property c h
    refine ⟨?_, ?_, ?_⟩ <;> rintro rfl <;> revert hblank <;> decide
  · exact hmark h
  · obtain ⟨-, -, hopen, hclose⟩ := a.value_plain c h
    exact ⟨hopen, hclose, (a.value_ascii c h).2⟩
  · exact hmark h

theorem Attribute.mem_render {a : Attribute} {c : Char} (h : c ∈ a.render) :
    c ≠ '<' ∧ c ≠ '>' := by
  have hblank : Text.isBlank c = true → c ≠ '<' ∧ c ≠ '>' := by
    intro hc
    refine ⟨?_, ?_⟩ <;> rintro rfl <;> revert hc <;> decide
  rw [Attribute.render, Attribute.assigned, List.mem_append, List.mem_append, List.mem_append,
    List.mem_cons] at h
  rcases h with h | h | h | rfl | h
  · exact hblank (List.all_eq_true.mp a.lead.property.2 c h)
  · have hword := (a.name_word c h).1
    refine ⟨?_, ?_⟩ <;> rintro rfl <;> revert hword <;> decide
  · exact hblank (List.all_eq_true.mp a.before.property c h)
  · decide
  · obtain ⟨hopen, hclose, -⟩ := a.mem_value h
    exact ⟨hopen, hclose⟩

theorem mem_attributes {attributes : List Attribute} {c : Char}
    (h : c ∈ attributes.flatMap Attribute.render) : c ≠ '<' ∧ c ≠ '>' := by
  obtain ⟨a, -, hc⟩ := List.mem_flatMap.mp h
  exact a.mem_render hc

theorem Attribute.name_cons (a : Attribute) : ∃ c more, a.name = c :: more ∧
    Text.isWord c = true ∧ Text.isBlank c = false ∧ c ≠ '=' := by
  obtain ⟨c, more, hname⟩ := List.exists_cons_of_ne_nil a.name_ne
  have hword := (a.name_word c (by rw [hname]; exact List.mem_cons_self)).1
  refine ⟨c, more, hname, hword, Text.isBlank_of_isWord hword, ?_⟩
  rintro rfl
  revert hword
  decide

/-- What may follow an attribute: the end of the tag, or white space that no equals sign
follows. -/
def Follows (rest : Text) : Prop :=
  (∃ c more, rest = c :: more ∧ (Text.isBlank c = true ∨ c = '>')) ∧
    (Text.trimStart rest).head? ≠ some '='

theorem follows_body (attributes : List Attribute) (rest : Text) :
    Follows (body attributes rest) := by
  cases attributes with
  | nil =>
    refine ⟨⟨'>', rest, rfl, .inr rfl⟩, ?_⟩
    rw [body, List.flatMap_nil, List.nil_append, Text.trimStart,
      List.dropWhile_cons_of_neg (by decide), List.head?_cons]
    simp
  | cons a attributes =>
    obtain ⟨c, more, hname, -, hblank, hequals⟩ := a.name_cons
    obtain ⟨d, gap, hlead⟩ := List.exists_cons_of_ne_nil a.lead.property.1
    have hgap := List.all_eq_true.mp a.lead.property.2
    rw [body_cons, Attribute.render, List.append_assoc]
    refine ⟨⟨d, gap ++ (a.name ++ a.assigned ++ body attributes rest), ?_, .inl ?_⟩, ?_⟩
    · rw [hlead, List.cons_append]
    · exact hgap d (by rw [hlead]; exact List.mem_cons_self)
    · rw [Text.trimStart, List.dropWhile_append_of_pos hgap, hname, List.cons_append,
        List.cons_append, List.dropWhile_cons_of_neg (by rw [hblank]; decide), List.head?_cons]
      simpa using hequals

end Link

namespace Pattern

open Link

variable {behind : Option Char} {rest text word : Text} {kept kept' : Captures} {c' : Cursor}
  {ps qs : List Pattern}

/-! ## Where a name with an equals sign can start -/

/-- A name with an equals sign behind it, at the edge of a word. -/
def assignment (word : Text) (ps : List Pattern) : Pattern :=
  all (wordEdge :: folded word :: blanks :: mark '=' :: ps)

/-- Names are looked for in small letters. -/
def IsName (word : Text) : Prop := word ≠ [] ∧ ∀ letter ∈ word, letter.isLower = true

instance (word : Text) : Decidable (IsName word) := inferInstanceAs (Decidable (_ ∧ _))

/-- A name runs neither over white space nor over a sign of the tag. -/
theorem IsName.bars (h : IsName word) {c : Char}
    (hc : Text.isBlank c = true ∨ c = '>' ∨ c = '=') : Text.bars c word = true := by
  have hplain : ∀ n, n < 128 → (Char.ofNat n).isLower = true →
      Text.isBlank (Char.ofNat n) = false ∧ Char.ofNat n ≠ '>' ∧ Char.ofNat n ≠ '=' := by
    decide
  rw [Text.bars, List.all_eq_true]
  intro letter hmem
  have hlower := h.2 letter hmem
  have hcode : letter.toNat < 128 := by
    rw [Text.isLower_iff] at hlower
    omega
  obtain ⟨hblank, hclose, hequals⟩ := hplain letter.toNat hcode (by rwa [Char.ofNat_toNat])
  rw [Char.ofNat_toNat] at hblank hclose hequals
  rw [Bool.not_eq_true']
  rcases hc with hc | rfl | rfl
  · exact Text.sameFolded_of_blank hblank hc
  · rw [Text.sameFolded_ascii (by decide), decide_eq_false_iff_not]
    exact fun heq => hclose heq.symm
  · rw [Text.sameFolded_ascii (by decide), decide_eq_false_iff_not]
    exact fun heq => hequals heq.symm

theorem stuck_wordEdge_seq {q : Pattern} {c : Cursor}
    (h : c.atWordEdge = true → Stuck q c kept) : Stuck (seq wordEdge q) c kept := by
  intro α next
  simp only [run]
  split
  · exact h ‹_› α next
  · rfl

theorem stuck_equals_blank {c : Char} (hblank : Text.isBlank c = true) (more : Text) :
    Stuck (all (mark '=' :: ps)) ⟨behind, c :: more⟩ kept := by
  refine .all (.seq (stuck_one ?_ kept))
  rintro _ ⟨⟩
  rw [decide_eq_false_iff_not]
  rintro rfl
  revert hblank
  decide

/-- Where a name stands, an equals sign follows it behind white space, or there is no match. -/
theorem stuck_assignment (h : Text.startsFolded word text = true →
      (Text.trimStart (text.drop word.length)).head? ≠ some '=') :
    Stuck (assignment word ps) ⟨behind, text⟩ kept := by
  refine .all (stuck_wordEdge_seq fun _ => .all (stuck_folded_seq fun hstarts behind => ?_))
  have hsplit := List.takeWhile_append_dropWhile (p := Text.isBlank) (l := text.drop word.length)
  rw [← hsplit]
  refine .all (stuck_run_seq (List.all_eq_true.mp List.all_takeWhile) ?_ ?_ ?_)
  · exact fun c hc => Text.head?_trimStart hc
  · exact fun behind c more hblank => stuck_equals_blank hblank more
  · intro behind
    refine .all (.seq (stuck_one ?_ kept))
    intro c hc
    rw [decide_eq_false_iff_not]
    rintro rfl
    exact h hstarts hc

/-- No name starts with white space or with a sign of the tag. -/
theorem misses_signs (hword : IsName word)
    (htext : ∀ c ∈ text, Text.isBlank c = true ∨ c = '>' ∨ c = '=') :
    Misses (assignment word ps) behind text rest kept := by
  obtain ⟨letter, more, rfl⟩ := List.exists_cons_of_ne_nil hword.1
  intro before c after hsplit
  have hletters := hword.bars (htext c (by rw [hsplit]; simp))
  rw [Text.bars, List.all_cons, Bool.and_eq_true, Bool.not_eq_true'] at hletters
  refine stuck_edge ?_ kept
  exact Text.startsFolded_of_head? letter rfl hletters.1 _

/-- No name starts in a text without an equals sign, if none follows it. -/
theorem misses_plain (hword : IsName word) (htext : '=' ∉ text) (hrest : Follows rest) :
    Misses (assignment word ps) behind text rest kept := by
  intro before c after hsplit
  obtain ⟨⟨d, more, hfirst, hd⟩, hnext⟩ := hrest
  apply stuck_assignment
  intro hstarts hequals
  have hinside : Text.startsFolded word (c :: after) = true := by
    rwa [hfirst, Text.startsFolded_append (hword.bars (hd.imp_right .inl))] at hstarts
  have hlength := Text.length_of_startsFolded hinside
  rw [List.drop_append_of_le_length hlength] at hequals
  rcases Text.head?_trimStart_append hequals with hmem | hmem
  · apply htext
    rw [hsplit]
    exact List.mem_append_right _ (List.mem_of_mem_drop hmem)
  · exact hnext hmem

/-- Inside a word no name starts but at its first letter. -/
theorem misses_word (htext : ∀ c ∈ text, Text.isWord c = true)
    (hfirst : Stuck (assignment word ps) ⟨behind, text ++ rest⟩ kept) :
    Misses (assignment word ps) behind text rest kept := by
  intro before c after hsplit
  cases before with
  | nil =>
    rw [List.nil_append] at hsplit
    rwa [hsplit] at hfirst
  | cons d before =>
    obtain ⟨last, hlast⟩ : ∃ last, (d :: before).getLast? = some last :=
      ⟨_, List.getLast?_eq_some_getLast (by simp)⟩
    have hleft : Text.isWord last = true :=
      htext last (by rw [hsplit]; exact List.mem_append_left _ (List.mem_of_getLast? hlast))
    have hright : Text.isWord c = true := htext c (by rw [hsplit]; simp)
    refine .all (stuck_wordEdge_seq fun hedge => ?_)
    simp [hlast, Cursor.atWordEdge, hleft, hright] at hedge

/-! ## Attributes -/

/-- Behind a word that it starts with, an ASCII text goes on, or it is the word itself. -/
theorem goes_on_of_startsFolded (hascii : ∀ c ∈ text, c.toNat < 128)
    (h : Text.startsFolded word text = true) :
    lowered text = word ∨ ∃ c later, c ∈ text ∧ text.drop word.length = c :: later := by
  have hbegins := (Text.startsFolded_ascii hascii).mp h
  cases hdrop : text.drop word.length with
  | nil =>
    refine .inl (hbegins.eq_of_length ?_).symm
    have hless := List.drop_eq_nil_iff.mp hdrop
    have hmost := Text.length_of_startsFolded h
    rw [List.length_map]
    omega
  | cons c later =>
    exact .inr ⟨c, later, List.mem_of_mem_drop (by rw [hdrop]; exact List.mem_cons_self), rfl⟩

/-- The name of another attribute is not the one looked for. -/
theorem stuck_other (hword : IsName word) (a : Attribute) (hkey : a.key ≠ word) (more : Text) :
    Stuck (assignment word ps) ⟨behind, a.name ++ (a.assigned ++ more)⟩ kept := by
  apply stuck_assignment
  intro hstarts hequals
  have hsign : ∃ c text, a.assigned ++ more = c :: text ∧ (Text.isBlank c = true ∨ c = '=') := by
    rw [Attribute.assigned]
    cases hgap : a.before.val with
    | nil => exact ⟨'=', _, rfl, .inr rfl⟩
    | cons c gap =>
      refine ⟨c, _, rfl, .inl ?_⟩
      exact List.all_eq_true.mp a.before.property c (by rw [hgap]; exact List.mem_cons_self)
  obtain ⟨c, text, hfirst, hc⟩ := hsign
  have hinside : Text.startsFolded word a.name = true := by
    rwa [hfirst, Text.startsFolded_append (hword.bars (hc.imp_right .inr))] at hstarts
  rw [List.drop_append_of_le_length (Text.length_of_startsFolded hinside)] at hequals
  rcases goes_on_of_startsFolded (fun c hc => (a.name_word c hc).2) hinside with
    hname | ⟨d, later, hmem, hdrop⟩
  · exact hkey hname
  · have hd := (a.name_word d hmem).1
    have hblank := Text.isBlank_of_isWord hd
    rw [hdrop, List.cons_append, Text.trimStart,
      List.dropWhile_cons_of_neg (by rw [hblank]; decide), List.head?_cons] at hequals
    obtain rfl := Option.some.inj hequals
    revert hd
    decide

/-- No name starts in an attribute if none does at its own name. -/
theorem misses_attribute (hword : IsName word) (a : Attribute) (hrest : Follows rest)
    (hname : ∀ behind, Stuck (assignment word ps) ⟨behind, a.name ++ (a.assigned ++ rest)⟩ kept) :
    Misses (assignment word ps) behind a.render rest kept := by
  have hassigned : a.assigned = (a.before.val ++ ['=']) ++ (a.after.val ++ a.quoted) := by
    rw [Attribute.assigned, List.append_assoc, List.singleton_append]
  refine .append (misses_signs hword ?_) (.append (misses_word ?_ (hname _)) ?_)
  · exact fun c hc => .inl (List.all_eq_true.mp a.lead.property.2 c hc)
  · exact fun c hc => (a.name_word c hc).1
  · rw [hassigned]
    refine .append (misses_signs hword fun c hc => ?_) (misses_plain hword ?_ hrest)
    · rcases List.mem_append.mp hc with hc | hc
      · exact .inl (List.all_eq_true.mp a.before.property c hc)
      · exact .inr (.inr (List.mem_singleton.mp hc))
    · exact fun hmem => (a.mem_value hmem).2.2 rfl

theorem misses_attributes (hword : IsName word) {attributes : List Attribute} {back : List Attribute}
    (h : ∀ a ∈ attributes, ∀ behind rest, Follows rest →
      Stuck (assignment word ps) ⟨behind, a.name ++ (a.assigned ++ rest)⟩ kept) :
    Misses (assignment word ps) behind (attributes.flatMap Attribute.render) (body back rest)
      kept := by
  induction attributes generalizing behind with
  | nil => exact misses_nil _ _ _ _
  | cons a attributes ih =>
    obtain ⟨ha, hlater⟩ := List.forall_mem_cons.mp h
    rw [List.flatMap_cons]
    refine .append ?_ (ih hlater)
    rw [← body_append]
    have hrest := follows_body (attributes ++ back) rest
    exact misses_attribute hword a hrest fun behind => ha behind _ hrest

/-! ## The search for an attribute -/

theorem Misses.all {p : Pattern} (h : Misses p behind text rest kept) (qs : List Pattern) :
    Misses (all (p :: qs)) behind text rest kept :=
  fun before c after hsplit => .all (.seq (h before c after hsplit))

theorem insideTag_of_ne {c : Char} (h : c ≠ '<' ∧ c ≠ '>') : insideTag c = true :=
  decide_eq_true h.2

/-- The search goes on to the first attribute of the name. -/
theorem leads_search (hword : IsName word) {front back : List Attribute} {a : Attribute}
    (hfront : ∀ b ∈ front, b.key ≠ word)
    (h : Leads (all (assignment word ps :: qs))
      ⟨a.lead.val.getLast?, a.name ++ (a.assigned ++ body back rest)⟩ kept c' kept') :
    Leads (seq (least insideTag) (all (assignment word ps :: qs)))
      ⟨behind, body (front ++ a :: back) rest⟩ kept c' kept' := by
  have hothers : Misses (assignment word ps) behind (front.flatMap Attribute.render)
      (body (a :: back) rest) kept :=
    misses_attributes hword fun b hb _ more _ => stuck_other hword b (hfront b hb) more
  have hbody : body (a :: back) rest = a.lead.val ++ (a.name ++ (a.assigned ++ body back rest)) := by
    rw [body_cons, Attribute.render, List.append_assoc, List.append_assoc]
  have hlead : Misses (assignment word ps) ((front.flatMap Attribute.render).getLast?.or behind)
      a.lead.val (a.name ++ (a.assigned ++ body back rest)) kept :=
    misses_signs hword fun c hc => .inl (List.all_eq_true.mp a.lead.property.2 c hc)
  have hlast : (front.flatMap Attribute.render ++ a.lead.val).getLast?.or behind =
      a.lead.val.getLast? := by
    rw [List.getLast?_append, List.getLast?_eq_some_getLast a.lead.property.1]
    rfl
  rw [body_append, hbody, ← List.append_assoc]
  rw [hbody] at hothers
  refine ((hothers.append hlead).all qs).leads_least ?_ (by rwa [hlast])
  intro c hc
  rcases List.mem_append.mp hc with hc | hc
  · exact insideTag_of_ne (mem_attributes hc)
  · exact insideTag_of_ne (a.mem_render (List.mem_append_left _ hc))

/-- The search ends at the end of the tag. -/
theorem stuck_search (hword : IsName word) {attributes : List Attribute}
    (h : ∀ a ∈ attributes, ∀ behind rest, Follows rest →
      Stuck (assignment word ps) ⟨behind, a.name ++ (a.assigned ++ rest)⟩ kept) :
    Stuck (seq (least insideTag) (all (assignment word ps :: qs)))
      ⟨behind, body attributes rest⟩ kept := by
  have hmisses : Misses (assignment word ps) behind (attributes.flatMap Attribute.render)
      (body [] rest) kept := misses_attributes hword h
  have hend : Misses (assignment word ps) ((attributes.flatMap Attribute.render).getLast?.or behind)
      ['>'] rest kept := misses_signs hword fun c hc => .inr (.inl (List.mem_singleton.mp hc))
  refine (hmisses.all qs).stuck_least ?_ (.all (.seq (hend [] '>' [] rfl)))
  rintro _ ⟨⟩
  decide

/-! ## What asks for an import -/

/-- The value with its marks starts with a character that is not blank. -/
theorem stops_quoted (a : Attribute) (rest : Text) :
    Stops Text.isBlank (a.quoted ++ rest) := by
  rw [Attribute.quoted]
  cases hquoting : a.quoting with
  | double => exact stops_blank (by decide) _
  | single => exact stops_blank (by decide) _
  | bare =>
    obtain ⟨c, more, hvalue⟩ := List.exists_cons_of_ne_nil (a.value_bare hquoting)
    rw [Quoting.mark, hvalue]
    exact stops_blank (a.value_plain c (by rw [hvalue]; exact List.mem_cons_self)).2.1 _

/-- What the rule asks for behind the name of the relation. -/
def importValue : List Pattern :=
  [blanks, either (folded "\"import\"") (either (folded "'import'") (folded "import")),
    ahead (one fun c => Text.isBlank c || c = '/' || c = '>')]

/-- A name in a tag is a word by itself. -/
theorem edge_name (a : Attribute) (rest : Text) :
    (⟨a.lead.val.getLast?, a.name ++ rest⟩ : Cursor).atWordEdge = true := by
  obtain ⟨c, more, hname, hword, -⟩ := a.name_cons
  obtain ⟨last, hlast⟩ : ∃ last, a.lead.val.getLast? = some last :=
    ⟨_, List.getLast?_eq_some_getLast a.lead.property.1⟩
  have hblank := List.all_eq_true.mp a.lead.property.2 last (List.mem_of_getLast? hlast)
  rw [hlast, hname]
  exact Cursor.atWordEdge_before (Text.not_isWord_of_isBlank hblank) (by simpa using hword) rest

/-- The name of an attribute and its equals sign are read. -/
theorem leads_assignment (hword : word ≠ []) (a : Attribute) (hkey : a.key = word)
    (h : Leads (all ps) ⟨some '=', a.after.val ++ (a.quoted ++ rest)⟩ kept c' kept') :
    Leads (assignment word ps) ⟨a.lead.val.getLast?, a.name ++ (a.assigned ++ rest)⟩ kept
      c' kept' := by
  refine .all (.seq (forced_wordEdge (edge_name a _) kept).leads ?_)
  refine .all (.seq (forced_spelling (a.spelling hkey) hword kept).leads ?_)
  rw [a.assigned_append]
  refine .all (.seq (leads_blank a.before (stops_blank (by decide) _)) ?_)
  exact .all (.seq (forced_one (by decide) kept).leads h)

/-- The name of an attribute is read, and what follows its equals sign is not. -/
theorem stuck_assigned (hword : word ≠ []) (a : Attribute) (hkey : a.key = word)
    (h : ∀ behind, Stuck (all ps) ⟨behind, a.after.val ++ (a.quoted ++ rest)⟩ kept) :
    Stuck (assignment word ps) ⟨behind, a.name ++ (a.assigned ++ rest)⟩ kept := by
  refine .all (stuck_wordEdge_seq fun _ => ?_)
  refine .all (.seq_of_forced (forced_spelling (a.spelling hkey) hword kept) ?_)
  rw [a.assigned_append]
  refine .all (stuck_run_seq (List.all_eq_true.mp a.before.property) (stops_blank (by decide) _) ?_ ?_)
  · exact fun behind c more hblank => stuck_equals_blank hblank more
  · exact fun behind => .all (.seq_of_forced (forced_one (by decide) kept) (h _))

/-- A closed value is read as a word only if it is that word. -/
theorem lowered_of_closed {value : Text} {mark : Char} (hmark : mark.isLower = false)
    (hword : Text.bars mark word = true) (hvalue : ∀ c ∈ value, c.toNat < 128 ∧ c ≠ mark)
    (h : Text.startsFolded (word ++ [mark]) (value ++ mark :: rest) = true) :
    lowered value = word := by
  induction word generalizing value with
  | nil =>
    cases value with
    | nil => rfl
    | cons c value =>
      rw [List.nil_append, List.cons_append, Text.startsFolded,
        Text.sameFolded_mark hmark (hvalue c List.mem_cons_self).2] at h
      cases h
  | cons letter word ih =>
    rw [Text.bars, List.all_cons, Bool.and_eq_true, Bool.not_eq_true'] at hword
    cases value with
    | nil =>
      rw [List.nil_append, List.cons_append, Text.startsFolded, hword.1] at h
      cases h
    | cons c value =>
      obtain ⟨hc, hvalue⟩ := List.forall_mem_cons.mp hvalue
      rw [List.cons_append, List.cons_append, Text.startsFolded, Bool.and_eq_true,
        Text.sameFolded_ascii hc.1, decide_eq_true_eq] at h
      rw [lowered, List.map_cons, h.1]
      exact congrArg _ (ih hword.2 hvalue h.2)

theorem startsFolded_closed {value : Text} {mark : Char} (hmark : mark.isLower = false)
    (hword : Text.bars mark word = true) (hvalue : ∀ c ∈ value, c.toNat < 128 ∧ c ≠ mark)
    (hne : lowered value ≠ word) :
    Text.startsFolded (mark :: (word ++ [mark])) (mark :: (value ++ mark :: rest)) = false := by
  rw [Bool.eq_false_iff]
  intro hstarts
  exact hne (lowered_of_closed hmark hword hvalue (Bool.and_eq_true_iff.mp hstarts).2)

/-- A bare value is read as a word and an end behind it only if it is that word. -/
theorem stuck_bare {value : Text} (hword : IsName word)
    (hvalue : ∀ c ∈ value, c.toNat < 128 ∧ c.isAlpha = true) (hne : lowered value ≠ word)
    (hrest : Follows rest) :
    Stuck (seq (folded word) (ahead (one fun c => Text.isBlank c || c = '/' || c = '>')))
      ⟨behind, value ++ rest⟩ kept := by
  refine stuck_folded_seq fun hstarts behind => .ahead (stuck_one ?_ kept)
  obtain ⟨⟨d, more, hfirst, hd⟩, -⟩ := hrest
  have hinside : Text.startsFolded word value = true := by
    rwa [hfirst, Text.startsFolded_append (hword.bars (hd.imp_right .inl))] at hstarts
  rw [List.drop_append_of_le_length (Text.length_of_startsFolded hinside)]
  rcases goes_on_of_startsFolded (fun c hc => (hvalue c hc).1) hinside with
    hword | ⟨c, later, hmem, hdrop⟩
  · exact absurd hword hne
  · have hletter : ∀ n, n < 128 → (Char.ofNat n).isAlpha = true →
        (Text.isBlank (Char.ofNat n) || Char.ofNat n = '/' || Char.ofNat n = '>') = false := by
      decide
    obtain ⟨hcode, halpha⟩ := hvalue c hmem
    have hplain := hletter c.toNat hcode (by rwa [Char.ofNat_toNat])
    rw [Char.ofNat_toNat] at hplain
    rw [hdrop]
    rintro _ ⟨⟩
    exact hplain

/-- A bare value starts with no quotation mark. -/
theorem stuck_marked (a : Attribute) (hbare : a.quoting = .bare) {mark : Char}
    (hmark : isQuote mark = true) :
    Stuck (folded (mark :: word)) ⟨behind, a.quoted ++ rest⟩ kept := by
  obtain ⟨c, more, hvalue⟩ := List.exists_cons_of_ne_nil (a.value_bare hbare)
  have htext : a.quoted ++ rest = c :: (more ++ rest) := by
    simp [Attribute.quoted, hbare, Quoting.mark, hvalue]
  have hplain := (a.value_plain c (by rw [hvalue]; exact List.mem_cons_self)).1
  have hlower : mark.isLower = false := by
    rw [isQuote, Bool.or_eq_true, decide_eq_true_eq, decide_eq_true_eq] at hmark
    rcases hmark with rfl | rfl <;> decide
  rw [htext]
  refine stuck_folded (Text.startsFolded_of_head? mark rfl (Text.sameFolded_mark hlower ?_) _) kept
  rintro rfl
  rw [hmark] at hplain
  cases hplain

/-- What stands behind the name of a relation that is not an import. -/
theorem stuck_importValue (a : Attribute) (hkey : a.key = "rel") (hvalue : lowered a.value ≠ "import")
    (hrest : Follows rest) :
    Stuck (all importValue) ⟨behind, a.after.val ++ (a.quoted ++ rest)⟩ kept := by
  refine .all (stuck_run_seq (List.all_eq_true.mp a.after.property) (stops_quoted a rest) ?_ ?_)
  · intro behind c text hblank
    refine .all (.seq (.either ?_ (.either ?_ ?_)))
    · exact stuck_word_of_blank '"' (by decide) (by decide) hblank text
    · exact stuck_word_of_blank '\'' (by decide) (by decide) hblank text
    · exact stuck_word_of_blank 'i' (by decide) (by decide) hblank text
  · intro behind
    have hplain : ∀ c ∈ a.value, c.toNat < 128 ∧ c ≠ '"' ∧ c ≠ '\'' := by
      intro c hc
      have hquote := (a.value_plain c hc).1
      refine ⟨(a.value_ascii c hc).1, ?_, ?_⟩ <;> rintro rfl <;> revert hquote <;> decide
    cases hquoting : a.quoting with
    | double =>
      rw [a.quoted_append, hquoting]
      refine .all (.seq (.either (stuck_folded ?_ kept) (.either ?_ ?_)))
      · exact startsFolded_closed (by decide) (by decide)
          (fun c hc => ⟨(hplain c hc).1, (hplain c hc).2.1⟩) hvalue
      · exact stuck_folded (Text.startsFolded_of_head? '\'' (by decide) (by decide) _) kept
      · exact stuck_folded (Text.startsFolded_of_head? 'i' (by decide) (by decide) _) kept
    | single =>
      rw [a.quoted_append, hquoting]
      refine .all (.seq (.either ?_ (.either (stuck_folded ?_ kept) ?_)))
      · exact stuck_folded (Text.startsFolded_of_head? '"' (by decide) (by decide) _) kept
      · exact startsFolded_closed (by decide) (by decide)
          (fun c hc => ⟨(hplain c hc).1, (hplain c hc).2.2⟩) hvalue
      · exact stuck_folded (Text.startsFolded_of_head? 'i' (by decide) (by decide) _) kept
    | bare =>
      have htext : a.quoted = a.value := by
        simp [Attribute.quoted, hquoting, Quoting.mark]
      have hletters : ∀ c ∈ a.value, c.toNat < 128 ∧ c.isAlpha = true :=
        fun c hc => ⟨(hplain c hc).1, a.value_rel hkey c hc⟩
      refine .all (.either_seq (.seq (stuck_marked a hquoting (by decide)))
        (.either_seq (.seq (stuck_marked a hquoting (by decide))) ?_))
      rw [htext]
      exact stuck_bare (by decide) hletters hvalue hrest

theorem stuck_relation (a : Attribute) (h : ¬ a.IsImport) (hrest : Follows rest) :
    Stuck (assignment "rel" importValue) ⟨behind, a.name ++ (a.assigned ++ rest)⟩ kept := by
  by_cases hkey : a.key = "rel"
  · have hvalue : lowered a.value ≠ "import" := fun hvalue => h ⟨hkey, hvalue⟩
    exact stuck_assigned (by decide) a hkey fun behind => stuck_importValue a hkey hvalue hrest
  · exact stuck_other (by decide) a hkey rest

/-- The value of an import is read, in each of its three forms. -/
theorem leads_importValue (a : Attribute) (hvalue : lowered a.value = "import")
    (hrest : Follows rest) :
    ∃ c', Leads (all importValue) ⟨some '=', a.after.val ++ (a.quoted ++ rest)⟩ kept c' kept := by
  obtain ⟨⟨d, later, rfl, hd⟩, -⟩ := hrest
  have hend : (Text.isBlank d || d = '/' || d = '>') = true := by
    rcases hd with hd | rfl
    · rw [hd, Bool.true_or, Bool.true_or]
    · decide
  have hahead : ∀ behind, Leads (ahead (one fun c => Text.isBlank c || c = '/' || c = '>'))
      ⟨behind, d :: later⟩ kept ⟨behind, d :: later⟩ kept :=
    fun behind => (forced_one hend kept).leads.ahead
  have hascii : ∀ c ∈ a.quoted, c.toNat < 128 := by
    intro c hc
    rw [Attribute.quoted, List.mem_append, List.mem_append] at hc
    have hmark : c ∈ a.quoting.mark → c.toNat < 128 := by
      intro hmem
      have hquote := Pattern.Quoting.mark_mem hmem
      rw [isQuote, Bool.or_eq_true, decide_eq_true_eq, decide_eq_true_eq] at hquote
      rcases hquote with rfl | rfl <;> decide
    rcases hc with (hc | hc) | hc
    · exact hmark hc
    · exact (a.value_ascii c hc).1
    · exact hmark hc
  have hspelled : ∀ word, lowered a.quoted = word → word ≠ [] →
      Leads (folded word) ⟨a.after.val.getLast?.or (some '='), a.quoted ++ d :: later⟩ kept
        ⟨a.quoted.getLast?, d :: later⟩ kept := by
    intro word hword hne
    refine (forced_spelling ⟨a.quoted, ?_, ?_⟩ hne kept).leads
    · rw [← hword, lowered, List.length_map]
    · rw [Text.startsFolded_ascii hascii, ← hword]
      exact List.prefix_rfl
  have hlowered : lowered a.quoted =
      lowered a.quoting.mark ++ "import" ++ lowered a.quoting.mark := by
    rw [Attribute.quoted, lowered, List.map_append, List.map_append, ← lowered, ← lowered, hvalue]
  refine ⟨⟨a.quoted.getLast?, d :: later⟩,
    .all (.seq (leads_blank a.after (stops_quoted a _)) (.all ?_))⟩
  cases hquoting : a.quoting with
  | double =>
    rw [hquoting] at hlowered
    exact .seq (.either (hspelled "\"import\"" hlowered (by decide)) _) (hahead _)
  | single =>
    rw [hquoting] at hlowered
    refine .either_second (.seq ?_)
      (.seq (.either (hspelled "'import'" hlowered (by decide)) _) (hahead _))
    rw [a.quoted_append, hquoting]
    exact stuck_folded (Text.startsFolded_of_head? '"' (by decide) (by decide) _) kept
  | bare =>
    rw [hquoting] at hlowered
    refine .either_second (.seq (stuck_marked a hquoting (by decide))) ?_
    refine .either_second (.seq (stuck_marked a hquoting (by decide))) ?_
    exact .seq (hspelled "import" hlowered (by decide)) (hahead _)

/-! ## What the rule keeps -/

/-- What the rule asks for behind the name of a reference. -/
def referenceValue (capture : Capture) : List Pattern :=
  [blanks, keep .quote (maybe (one isQuote)), keep capture (most insideValue), same .quote]

/-- The value of an attribute is read between its marks. -/
theorem leads_referenceValue (a : Attribute) {capture : Capture} (hcapture : capture ≠ .quote)
    (hrest : Follows rest) :
    ∃ behind s s', s.text = a.value ∧ s'.text = a.quoting.mark ∧ Leads (all (referenceValue capture))
      ⟨some '=', a.after.val ++ (a.quoted ++ rest)⟩ kept ⟨behind, rest⟩
      ((capture, s) :: (.quote, s') :: kept) := by
  obtain ⟨⟨d, later, hfirst, hd⟩, -⟩ := hrest
  have hend : Stops insideValue rest := by
    rw [hfirst]
    rintro _ ⟨⟩
    rcases hd with hd | rfl
    · simp [insideValue, hd]
    · decide
  obtain ⟨s, s', hs, hs', hquoted⟩ := leads_quoted a.quoting hcapture a.value_plain
    (fun hbare => ⟨a.value_bare hbare, hend⟩) (a.after.val.getLast?.or (some '=')) kept
  rw [← a.quoted_append] at hquoted
  exact ⟨_, s, s', hs, hs', .all (.seq (leads_blank a.after (stops_quoted a rest)) hquoted)⟩

/-! ## Link tags -/

/-- Distinct names leave no other attribute of the name in front. -/
theorem key_ne_of_nodup {front back : List Attribute} {a : Attribute}
    (h : ((front ++ a :: back).map Attribute.key).Nodup) : ∀ b ∈ front, b.key ≠ a.key := by
  intro b hb
  rw [List.map_append, List.nodup_append] at h
  exact h.2.2 _ (List.mem_map_of_mem hb) _ (List.mem_map_of_mem List.mem_cons_self)

theorem edge_body (attributes : List Attribute) (rest : Text) :
    (⟨some 'k', body attributes rest⟩ : Cursor).atWordEdge = true := by
  obtain ⟨⟨c, more, hbody, hc⟩, -⟩ := follows_body attributes rest
  have hplain : Text.isWord c = false := by
    rcases hc with hc | rfl
    · exact Text.not_isWord_of_isBlank hc
    · decide
  rw [hbody]
  exact Cursor.atWordEdge_after (by decide) hplain more

/-- A link tag that imports a document is read whole. -/
theorem leads_linkImport (behind : Option Char) {attributes : List Attribute}
    (hdistinct : (attributes.map Attribute.key).Nodup) {r a : Attribute} (hr : r ∈ attributes)
    (himport : r.IsImport) (ha : a ∈ attributes) (hhref : a.key = "href") (rest : Text) :
    ∃ s s', s.text = a.value ∧ s'.text = a.quoting.mark ∧
      Leads linkImport ⟨behind, "<link" ++ body attributes rest⟩ [] ⟨some '>', rest⟩
        [(.href, s), (.quote, s')] := by
  have hrelation : ∃ c', Leads relImport ⟨some 'k', body attributes rest⟩ [] c' [] := by
    obtain ⟨front, back, rfl⟩ := List.append_of_mem hr
    have hfront : ∀ b ∈ front, b.key ≠ "rel" := himport.1 ▸ key_ne_of_nodup hdistinct
    obtain ⟨c', hvalue⟩ := leads_importValue r himport.2 (follows_body back rest)
    have hfound : Leads (all [assignment "rel" importValue])
        ⟨r.lead.val.getLast?, r.name ++ (r.assigned ++ body back rest)⟩ [] c' [] :=
      leads_assignment (by decide) r himport.1 hvalue
    exact ⟨c', leads_search (by decide) hfront hfound⟩
  obtain ⟨c', hrelation⟩ := hrelation
  obtain ⟨front, back, rfl⟩ := List.append_of_mem ha
  have hfront : ∀ b ∈ front, b.key ≠ "href" := hhref ▸ key_ne_of_nodup hdistinct
  obtain ⟨behind', s, s', hs, hs', hvalue⟩ :=
    leads_referenceValue a (by decide : Capture.href ≠ .quote) (follows_body back rest)
  have hend : Leads (all [most insideTag, mark '>']) ⟨behind', body back rest⟩
      [(.href, s), (.quote, s')] ⟨some '>', rest⟩ [(.href, s), (.quote, s')] := by
    refine .all (.seq (leads_most (fun c hc => insideTag_of_ne (mem_attributes hc)) ?_ _) ?_)
    · rintro _ ⟨⟩
      decide
    · exact (forced_one (by decide) _).leads
  refine ⟨s, s', hs, hs', .all (.seq (forced_word 'k' (by decide) []).leads ?_)⟩
  refine .all (.seq (forced_wordEdge (edge_body _ rest) []).leads ?_)
  refine .all (.seq hrelation.ahead (.all ?_))
  exact leads_search (by decide) hfront
    (.all (.seq (leads_assignment (by decide) a hhref hvalue) hend))

/-- A link tag without an import or without a reference is not read. -/
theorem stuck_linkImport {attributes : List Attribute}
    (h : (∀ r ∈ attributes, ¬ r.IsImport) ∨ ∀ a ∈ attributes, a.key ≠ "href") (rest : Text) :
    Stuck linkImport ⟨behind, "<link" ++ body attributes rest⟩ [] := by
  refine .all (.seq_of_forced (forced_word 'k' (by decide) []) ?_)
  refine .all (.seq_of_forced (forced_wordEdge (edge_body _ rest) []) ?_)
  rcases h with h | h
  · have hnone : Stuck (seq (least insideTag) (all [assignment "rel" importValue]))
        ⟨some 'k', body attributes rest⟩ [] :=
      stuck_search (by decide) fun r hr _ _ hrest => stuck_relation r (h r hr) hrest
    exact .all (.seq (.ahead hnone))
  · intro α next
    rw [run_all_cons]
    simp only [run]
    split
    · exact Stuck.all (stuck_search (by decide) fun a ha _ more _ =>
        stuck_other (by decide) a (h a ha) more) α next
    · rfl

end Pattern

namespace Link

theorem tag_cons (attributes : List Attribute) :
    tag attributes = '<' :: ("link" ++ body attributes []) := rfl

theorem findAll_tag_of_import {attributes : List Attribute}
    (hdistinct : (attributes.map Attribute.key).Nodup) {r a : Attribute} (hr : r ∈ attributes)
    (himport : r.IsImport) (ha : a ∈ attributes) (hhref : a.key = "href") :
    ∃ kept : Parts, Rule.linkImport.pattern.findAll (tag attributes) =
      [⟨0, tag attributes, kept⟩] ∧ kept.lookup .href = some a.value := by
  -- Every match on the tag is this one, whatever stands behind the tag.
  have hreads : ∀ behind, Pattern.linkImport.properAt? ⟨behind, tag attributes ++ []⟩ =
      some (tag attributes, [(.href, a.value), (.quote, a.quoting.mark)]) := by
    intro behind
    obtain ⟨s, s', hs, hs', hleads⟩ :=
      Pattern.leads_linkImport behind hdistinct hr himport ha hhref []
    rw [← tag_append] at hleads
    rw [Pattern.properAt?_of_leads hleads (by rw [tag_cons]; exact List.cons_ne_nil _ _)]
    simp [hs, hs']
  have hscans : Pattern.linkImport.Scans [⟨tag attributes, some _⟩] := .found hreads .nil
  have hfound := Pattern.findAll_segments hscans
  rw [Segment.whole_cons, Segment.whole, List.flatMap_nil, List.append_nil] at hfound
  exact ⟨_, hfound, rfl⟩

theorem findAll_tag_of_none {attributes : List Attribute}
    (h : (∀ r ∈ attributes, ¬ r.IsImport) ∨ ∀ a ∈ attributes, a.key ≠ "href") :
    Rule.linkImport.pattern.findAll (tag attributes) = [] := by
  have hopen : '<' ∉ ("link" ++ body attributes [] : Text) := by
    intro hmem
    rcases List.mem_append.mp hmem with hmem | hmem
    · revert hmem
      decide
    · rcases List.mem_append.mp hmem with hmem | hmem
      · exact (mem_attributes hmem).1 rfl
      · revert hmem
        decide
  have hlast : ("<link" ++ body attributes [] : Text).getLast? = some '>' := by
    have hbody : (body attributes []).getLast? = some '>' := List.getLast?_concat
    rw [List.getLast?_append, hbody, Option.some_or]
  have hscans : Pattern.linkImport.Scans [⟨tag attributes, none⟩] := by
    refine .quiet ?_ .nil
    intro before c after hsplit behind
    refine Pattern.properAt?_of_tail rfl (by decide) hlast (tag_cons _)
      (Text.holdsFolded_free hopen) ?_ hsplit behind
    intro behind
    rw [Segment.whole, List.flatMap_nil, List.append_nil]
    exact Pattern.stuck_linkImport h []
  have hfound := Pattern.findAll_segments hscans
  rwa [Segment.whole_cons, Segment.whole, List.flatMap_nil, List.append_nil] at hfound

/-- A link tag is found if it asks for an import and names a reference, whatever the order of its
attributes, and else it is not. It is found whole, with its reference, and nothing else is. -/
theorem an_import_link_is_found_in_any_order (attributes : List Attribute)
    (hdistinct : (attributes.map Attribute.key).Nodup) :
    (∀ r ∈ attributes, ∀ a ∈ attributes, r.IsImport → a.key = "href" →
      ∃ m, Rule.linkImport.pattern.findAll (tag attributes) = [m] ∧ m.start = 0 ∧
        m.text = tag attributes ∧ m.kept? .href = some a.value ∧
        Rule.linkImport.capture m "href" = .ok (if a.value = [] then none else some a.value)) ∧
    (¬ ((∃ r ∈ attributes, r.IsImport) ∧ ∃ a ∈ attributes, a.key = "href") →
      Rule.linkImport.pattern.findAll (tag attributes) = []) := by
  refine ⟨?_, fun h => findAll_tag_of_none ?_⟩
  · intro r hr a ha himport hhref
    obtain ⟨kept, hfound, hkept⟩ := findAll_tag_of_import hdistinct hr himport ha hhref
    refine ⟨_, hfound, rfl, rfl, hkept, ?_⟩
    have hasked : Rule.linkImport.captures.find? (·.label = ("href" : Text)) = some .href := by
      decide
    have hblank := a.value_plain.allBlank
    simp only [Rule.capture, hasked, Match.filled?, Match.kept?, hkept]
    cases hvalue : a.value with
    | nil => rfl
    | cons c value =>
      rw [hvalue] at hblank
      simp [Option.filter, hblank]
  · by_cases himport : ∃ r ∈ attributes, r.IsImport
    · exact .inr fun a ha hhref => h ⟨himport, a, ha, hhref⟩
    · exact .inl fun r hr hr' => himport ⟨r, hr, hr'⟩

/-- The reference comes first and is bare, and a longer name ends in the name of the relation. -/
theorem an_import_link_is_found_behind_its_reference :
    let blank : Template.Blank := ⟨[], by decide⟩
    let space : Template.Gap := ⟨" ", by decide⟩
    let reference : Attribute := ⟨space, "HREF", ⟨" ", by decide⟩, ⟨"\t", by decide⟩, .bare,
      "x/a.html", by decide, by decide, by decide, by decide, by decide, by decide⟩
    let other : Attribute := ⟨space, "my_rel", blank, blank, .single, "stylesheet", by decide,
      by decide, by decide, by decide, by decide, by decide⟩
    let relation : Attribute := ⟨⟨"\n", by decide⟩, "Rel", blank, ⟨" ", by decide⟩, .double, "imPort",
      by decide, by decide, by decide, by decide, by decide, by decide⟩
    let attributes := [reference, other, relation]
    (attributes.map Attribute.key).Nodup ∧ relation.IsImport ∧ reference.key = "href" ∧
      ∃ m, Rule.linkImport.pattern.findAll (tag attributes) = [m] ∧ m.text = tag attributes ∧
        Rule.linkImport.capture m "href" = .ok (some "x/a.html") := by
  intro blank space reference other relation attributes
  have hdistinct : (attributes.map Attribute.key).Nodup := by decide
  have himport : relation.IsImport := by
    unfold Attribute.IsImport
    decide
  have hhref : reference.key = "href" := by decide
  obtain ⟨m, hfound, -, htext, -, hcapture⟩ :=
    (an_import_link_is_found_in_any_order attributes hdistinct).1
      relation (.tail _ (.tail _ (.head _))) reference (.head _) himport hhref
  exact ⟨hdistinct, himport, hhref, m, hfound, htext, hcapture⟩

end Link

end ImportLift
