-- Template literals read back. The reader below takes a literal apart as a
-- script engine does: a backslash makes the next character plain, a bare
-- backtick ends the literal, and a dollar sign before a brace opens a
-- substitution. Whatever text is escaped, the reader gives it back character
-- by character, and the only substitutions it finds are those put in on
-- purpose. One thing is asked of what follows an escaped text: it does not
-- start with an opening brace, which a dollar sign at the end would meet.
import ImportLift.Module
import ImportLift.Proofs.Binding

namespace ImportLift

/-! ## Reading a literal -/

namespace Literal

/-- What a literal is made of. -/
inductive Token
  | char (c : Char)
  /-- A substitution, with what stands between its braces. -/
  | substitution (inside : Text)
deriving DecidableEq, Repr

/-- Tokens in front of what was read. -/
def push (tokens : List Token) (read : List Token × Text) : List Token × Text :=
  (tokens ++ read.1, read.2)

@[simp] theorem map_push_nil (read : Option (List Token × Text)) : read.map (push []) = read := by
  cases read <;> rfl

@[simp] theorem map_push_push (first second : List Token) (read : Option (List Token × Text)) :
    (read.map (push second)).map (push first) = read.map (push (first ++ second)) := by
  cases read <;> simp [push]

/-- Reads on in a literal: the tokens up to its end and what follows that end, if it has
one. The first argument is what was read of an open substitution. -/
def lexFrom : Option Text → Text → Option (List Token × Text)
  | _, [] => none
  | some inside, c :: rest =>
    if c = '\x7d' then (lexFrom none rest).map (push [.substitution inside])
    else lexFrom (some (inside ++ [c])) rest
  | none, '\x60' :: rest => some ([], rest)
  | none, '\\' :: c :: rest => (lexFrom none rest).map (push [.char c])
  | none, '$' :: '\x7b' :: rest => lexFrom (some []) rest
  | none, c :: rest => (lexFrom none rest).map (push [.char c])

/-- Reads a literal from just behind its opening backtick. -/
def lex (text : Text) : Option (List Token × Text) := lexFrom none text

/-- A character that means nothing by itself, or a dollar sign that opens nothing, is read as
it is. -/
theorem lex_cons {c : Char} {rest : Text} (htick : c ≠ '\x60') (hslash : c ≠ '\\')
    (hdollar : c = '$' → rest.head? ≠ some '\x7b') :
    lex (c :: rest) = (lex rest).map (push [.char c]) := by
  unfold lex
  rw [lexFrom.eq_def]
  split <;> simp_all

theorem lex_slash (c : Char) (rest : Text) :
    lex ('\\' :: c :: rest) = (lex rest).map (push [.char c]) := rfl

theorem lexFrom_inside {name : Text} (hname : '\x7d' ∉ name) (inside rest : Text) :
    lexFrom (some inside) (name ++ '\x7d' :: rest) =
      (lex rest).map (push [.substitution (inside ++ name)]) := by
  induction name generalizing inside with
  | nil => simp [lexFrom, lex]
  | cons c name ih =>
    rw [List.mem_cons, not_or] at hname
    rw [List.cons_append, lexFrom, if_neg (Ne.symm hname.1), ih hname.2]
    simp

/-- A substitution whose name holds no closing brace is read as that substitution. -/
theorem lex_placeholder {name : Text} (hname : '\x7d' ∉ name) (rest : Text) :
    lex (placeholder name ++ rest) = (lex rest).map (push [.substitution name]) := by
  have hopen : lex (placeholder name ++ rest) = lexFrom (some []) (name ++ '\x7d' :: rest) := by
    simp [placeholder, lex, lexFrom]
  rw [hopen, lexFrom_inside hname, List.nil_append]

end Literal

/-! ## Escaped text -/

namespace Literal

/-- The characters that are escaped wherever they stand. -/
def guarded (c : Char) : Text := if c = '\\' ∨ c = '\x60' then ['\\', c] else [c]

/-- Escaping in one pass over the text. -/
def escaped : Text → Text
  | [] => []
  | '$' :: '\x7b' :: rest => '\\' :: '$' :: '\x7b' :: escaped rest
  | c :: rest => guarded c ++ escaped rest

theorem flatMap_guarded (text : Text) :
    (text.replaceAll "\\" "\\\\").replaceAll "`" "\\`" = text.flatMap guarded := by
  have hslash : (text.replaceAll "\\" "\\\\") =
      text.flatMap fun c => if c = '\\' then ['\\', '\\'] else [c] :=
    Text.replaceAll_mark '\\' ['\\', '\\'] text
  have htick := Text.replaceAll_mark '\x60' ['\\', '\x60'] (text.replaceAll "\\" "\\\\")
  rw [show (("`" : String) : Text) = ['\x60'] from rfl,
    show (("\\`" : String) : Text) = ['\\', '\x60'] from rfl, htick, hslash, List.flatMap_assoc]
  congr 1
  funext c
  by_cases h : c = '\\'
  · simp [guarded, h]
  · by_cases h' : c = '\x60'
    · simp [guarded, h']
    · simp [guarded, h, h']

/-- Only an opening brace is escaped to a text that starts with one. -/
theorem head?_flatMap_guarded {rest : Text} :
    (rest.flatMap guarded).head? = some '\x7b' ↔ rest.head? = some '\x7b' := by
  cases rest with
  | nil => simp
  | cons c rest =>
    by_cases h : c = '\\' ∨ c = '\x60'
    · have hne : c ≠ '\x7b' := by
        rintro rfl
        simp at h
      simp [guarded, h, hne]
    · simp [guarded, h]

/-- A character that opens no substitution is left as it is. -/
theorem replaceFrom_cons {c : Char} {rest new : Text}
    (h : c = '$' → rest.head? ≠ some '\x7b') :
    Text.replaceFrom ['$', '\x7b'] new 0 (c :: rest) =
      c :: Text.replaceFrom ['$', '\x7b'] new 0 rest := by
  have hopen : ['$', '\x7b'].isPrefixOf (c :: rest) = false := by
    by_cases hc : c = '$'
    · cases rest with
      | nil => simp [List.isPrefixOf]
      | cons d rest =>
        have hd : d ≠ '\x7b' := by simpa using h hc
        simp [List.isPrefixOf, Ne.symm hd]
    · simp [List.isPrefixOf, Ne.symm hc]
  simp [Text.replaceFrom, hopen]

theorem escapeLiteral_eq (text : Text) : escapeLiteral text = escaped text := by
  have hpasses : escapeLiteral text =
      Text.replaceFrom ['$', '\x7b'] ['\\', '$', '\x7b'] 0 (text.flatMap guarded) := by
    rw [escapeLiteral, flatMap_guarded]
    rfl
  rw [hpasses]
  clear hpasses
  fun_induction escaped text with
  | case1 => rfl
  | case2 rest ih => simp [guarded, Text.replaceFrom, ih]
  | case3 c rest hopen ih =>
    rw [List.flatMap_cons]
    by_cases h : c = '\\' ∨ c = '\x60'
    · have hne : c ≠ '$' := by
        rintro rfl
        simp at h
      rw [guarded, if_pos h, List.cons_append, List.cons_append, replaceFrom_cons (by simp),
        replaceFrom_cons (absurd · hne), List.nil_append, ih]
      rfl
    · rw [guarded, if_neg h, List.cons_append, List.nil_append, replaceFrom_cons, ih]
      · rfl
      · intro hdollar hhead
        rw [head?_flatMap_guarded, List.head?_eq_some_iff] at hhead
        obtain ⟨rest', hrest⟩ := hhead
        exact hopen rest' hdollar hrest

/-- Escaping makes no text start with an opening brace. -/
theorem head?_escaped {text : Text} :
    (escaped text).head? = some '\x7b' ↔ text.head? = some '\x7b' := by
  fun_cases escaped text with
  | case1 => simp
  | case2 rest => simp
  | case3 c rest hopen =>
    by_cases h : c = '\\' ∨ c = '\x60'
    · have hne : c ≠ '\x7b' := by
        rintro rfl
        simp at h
      simp [guarded, h, hne]
    · simp [guarded, h]

/-- Escaped text is read back as it was before. -/
theorem lex_escapeLiteral (text : Text) {rest : Text} (hrest : rest.head? ≠ some '\x7b') :
    lex (escapeLiteral text ++ rest) = (lex rest).map (push (text.map .char)) := by
  rw [escapeLiteral_eq]
  fun_induction escaped text with
  | case1 => simp
  | case2 text ih =>
    have hbrace : lex ('\x7b' :: (escaped text ++ rest)) =
        (lex (escaped text ++ rest)).map (push [.char '\x7b']) :=
      lex_cons (by decide) (by decide) (by simp)
    simp only [List.cons_append, lex_slash, hbrace, ih, map_push_push]
    rfl
  | case3 c text hopen ih =>
    by_cases h : c = '\\' ∨ c = '\x60'
    · simp only [guarded, if_pos h, List.cons_append, List.nil_append, lex_slash, ih,
        map_push_push]
      rfl
    · rw [not_or] at h
      simp only [guarded, h.1, h.2, or_self, if_false, List.cons_append, List.nil_append]
      rw [lex_cons h.2 h.1, ih, map_push_push]
      · rfl
      · -- A dollar sign meets a brace neither in the text nor behind it.
        intro hdollar hhead
        rw [List.head?_append] at hhead
        rcases Option.or_eq_some_iff.mp hhead with hhead | ⟨-, hhead⟩
        · rw [head?_escaped, List.head?_eq_some_iff] at hhead
          obtain ⟨text', htext⟩ := hhead
          exact hopen text' hdollar htext
        · exact hrest hhead

end Literal

/-! ## The literals of a module -/

namespace Literal

/-- A name made of word characters and dashes. -/
def IsName (name : Text) : Prop := ∀ c ∈ name, Text.isWord c ∨ c = '-'

instance (name : Text) : Decidable (IsName name) := List.decidableBAll _ name

theorem IsName.no_brace {name : Text} (h : IsName name) : '\x7d' ∉ bindingName name := by
  intro hbrace
  have hword : Text.isWord '\x7d' = false := by decide
  rcases h _ (mem_of_bindingName (by decide) hbrace) with h | h
  · rw [hword] at h
    cases h
  · cases h

theorem lex_placeholders {includes : List Text} (h : ∀ name ∈ includes, IsName name)
    (rest : Text) :
    lex (includes.flatMap (fun name => placeholder (bindingName name)) ++ rest) =
      (lex rest).map (push (includes.map fun name => .substitution (bindingName name))) := by
  induction includes with
  | nil => simp
  | cons name includes ih =>
    obtain ⟨hname, hincludes⟩ := List.forall_mem_cons.mp h
    rw [List.flatMap_cons, List.append_assoc, lex_placeholder hname.no_brace, ih hincludes,
      map_push_push]
    rfl

theorem lex_text {text : Text} (htext : text.all (· ∉ ['\x60', '\\', '$']) = true) (rest : Text) :
    lex (text ++ rest) = (lex rest).map (push (text.map .char)) := by
  induction text with
  | nil => simp
  | cons c text ih =>
    rw [List.all_cons, Bool.and_eq_true, decide_eq_true_eq] at htext
    obtain ⟨hc, htext⟩ := htext
    simp only [List.mem_cons, List.not_mem_nil, or_false, not_or] at hc
    rw [List.cons_append, lex_cons hc.1 hc.2.1 (absurd · hc.2.2), ih htext, map_push_push]
    rfl

theorem lex_end (rest : Text) : lex ("`" ++ rest) = some ([], rest) := rfl

theorem lex_accessor (markup rest : Text) :
    lex (placeholder styleConstant ++ escapeLiteral markup ++ "`" ++ rest) =
      some (.substitution styleConstant :: markup.map .char, rest) := by
  have hname : '\x7d' ∉ styleConstant := by decide
  have htick : (("`" : String) ++ rest : Text).head? ≠ some '\x7b' := by simp
  rw [List.append_assoc, List.append_assoc, lex_placeholder hname, lex_escapeLiteral markup htick,
    lex_end]
  simp [push]

theorem lex_preamble {includes : List Text} (hnames : ∀ name ∈ includes, IsName name)
    (css rest : Text) :
    lex (Style.preamble ⟨includes, css⟩ ++ "`" ++ rest) =
      some (includes.map (fun name => .substitution (bindingName name)) ++
        ("<style>" ++ css ++ "</style>").map .char, rest) := by
  have hclose : (("</style>" : String) ++ (("`" : String) ++ rest) : Text).head? ≠ some '\x7b' := by
    simp
  simp only [Style.preamble, List.append_assoc]
  rw [lex_placeholders hnames, lex_text (by decide), lex_escapeLiteral css hclose,
    lex_text (by decide), lex_end]
  simp [push]

/-- The literals of a module end where they are meant to end and stand for what they were made
from. The literal of the template accessor is one substitution, the style, and then the markup;
the literal of the style constant is a substitution for each shared style, in order, and then
the style element. No other substitution is found in either, whatever the texts hold. -/
theorem emitted_literals_read_back (indent markup css after : Text) (includes : List Text)
    (hnames : ∀ name ∈ includes, IsName name) :
    (∃ opening literal closing : Text,
      templateAccessor indent markup = opening ++ "return html`" ++ literal ++ "`" ++ closing ∧
      opening = "\n\n" ++ indent ++ "static get template() \x7b\n" ++ indent ++
        (if indent.head? = some '\t' then ("\t" : Text) else "    ") ∧
      closing = ";\n" ++ indent ++ "\x7d" ∧
      lex (literal ++ "`" ++ closing) =
        some (.substitution "styleTemplate" :: markup.map .char, closing)) ∧
    lex (Style.preamble ⟨includes, css⟩ ++ "`" ++ after) =
      some (includes.map (fun name => .substitution (bindingName name)) ++
        ("<style>" ++ css ++ "</style>").map .char, after) := by
  refine ⟨⟨_, placeholder styleConstant ++ escapeLiteral markup, _, ?_, rfl, rfl, ?_⟩, ?_⟩
  · have hsplit : ("`;\n" : String).toList = "`" ++ ";\n" := by decide
    unfold templateAccessor
    rw [hsplit]
    simp only [List.append_assoc]
  · exact lex_accessor markup _
  · exact lex_preamble hnames css after

/-- Backslashes, backticks, dollar signs and braces side by side, and names that end in dashes. -/
theorem emitted_literals_read_back_marks :
    let marks : Text := "\\$\x7b`$$\x7b\\`\x7d$"
    let includes : List Text := ["shared-styles", "x--"]
    (∀ name ∈ includes, IsName name) ∧
    lex (Style.preamble ⟨includes, marks⟩ ++ "`" ++ marks) =
      some ([Token.substitution "sharedStyles", Token.substitution "x"] ++
        ("<style>" ++ marks ++ "</style>").map Token.char, marks) := by
  intro marks includes
  have hnames : ∀ name ∈ includes, IsName name := by decide
  have hbindings : includes.map (fun name => Token.substitution (bindingName name)) =
      [Token.substitution "sharedStyles", Token.substitution "x"] := by
    decide
  refine ⟨hnames, ?_⟩
  rw [← hbindings]
  exact (emitted_literals_read_back [] marks marks marks includes hnames).2

end Literal

end ImportLift
