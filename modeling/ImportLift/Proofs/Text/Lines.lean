-- The lines of a text. Eleven breaks end a line, and all of them are white
-- space. A text is cut into lines in one way only: at each break, where a
-- carriage return and the line feed behind it are one break. A break at the
-- very end starts no further line. So the lines have all the ink of the text,
-- and a text of lines with line feeds in between is cut into these lines.
import ImportLift.Text.Lines
import ImportLift.Proofs.Text.Blank
import ImportLift.Proofs.Text.Mark

namespace ImportLift.Text

/-! ## Breaks -/

/-- What ends a line. -/
def lineBreaks : List Text :=
  ["\n", "\r", "\r\n", "\x0b", "\x0c", "\x1c", "\x1d", "\x1e", "\u0085", "\u2028", "\u2029"]

variable {c : Char} {body ending rest text : Text} {lines : List Line}

theorem isLineBreak_of_mem (h : ending ∈ lineBreaks) : ∀ c ∈ ending, isLineBreak c = true := by
  revert ending
  decide

theorem mem_lineBreaks (h : isLineBreak c = true) : [c] ∈ lineBreaks := by
  have hcode : c.toNat ∈ [10, 11, 12, 13, 0x1C, 0x1D, 0x1E, 0x85, 0x2028, 0x2029] := by
    simp only [isLineBreak, Bool.or_eq_true, Bool.and_eq_true, decide_eq_true_eq] at h
    simp only [List.mem_cons, List.not_mem_nil, or_false]
    omega
  have hbreaks : ∀ n ∈ [10, 11, 12, 13, 0x1C, 0x1D, 0x1E, 0x85, 0x2028, 0x2029],
      [Char.ofNat n] ∈ lineBreaks := by
    decide
  rw [← Char.ofNat_toNat c]
  exact hbreaks _ hcode

/-- The breaks of one character are those that the test accepts. -/
theorem isLineBreak_iff : isLineBreak c = true ↔ [c] ∈ lineBreaks :=
  ⟨mem_lineBreaks, fun h => isLineBreak_of_mem h c List.mem_cons_self⟩

theorem allBlank_of_mem_lineBreaks (h : ending ∈ lineBreaks) : ending.allBlank = true := by
  revert ending
  decide

/-! ## Cutting into lines -/

/-- No break is in the text. -/
def Unbroken (text : Text) : Prop := ∀ c ∈ text, [c] ∉ lineBreaks

theorem Unbroken.mono {part : Text} (h : Unbroken text) (hpart : part ⊆ text) : Unbroken part :=
  fun c hc => h c (hpart hc)

/-- The text is these lines, in this order. A line runs up to a break; the last one may run up to
the end of the text, and is not empty then. A carriage return is not parted from a line feed. -/
inductive IsLines : Text → List Line → Prop
  | nil : IsLines [] []
  | last {body : Text} (hne : body ≠ []) (hbody : Unbroken body) : IsLines body [⟨body, []⟩]
  | line {body ending rest : Text} {lines : List Line} (hbody : Unbroken body)
      (hending : ending ∈ lineBreaks) (hpair : ending = ['\r'] → rest.head? ≠ some '\n')
      (h : IsLines rest lines) : IsLines (body ++ ending ++ rest) (⟨body, ending⟩ :: lines)

theorem IsLines.push (hc : [c] ∉ lineBreaks) (h : IsLines text lines) :
    IsLines (c :: text) (Line.push c lines) := by
  have hgrown {body : Text} (hbody : Unbroken body) : Unbroken (c :: body) :=
    List.forall_mem_cons.mpr ⟨hc, hbody⟩
  cases h with
  | nil => exact .last (List.cons_ne_nil c []) (hgrown (List.forall_mem_nil _))
  | last hne hbody => exact .last (List.cons_ne_nil c _) (hgrown hbody)
  | line hbody hending hpair h => exact .line (hgrown hbody) hending hpair h

theorem isLines_cutLines (text : Text) : IsLines text (cutLines text) := by
  have hnone : Unbroken [] := List.forall_mem_nil _
  induction text using cutLines.induct with
  | case1 => exact .nil
  | case2 rest ih =>
    have hpair : "\r\n".toList = ['\r'] → rest.head? ≠ some '\n' := nofun
    exact .line hnone (by decide) hpair ih
  | case3 c rest hpair hbreak ih =>
    rw [cutLines, if_pos hbreak]
    · refine .line hnone (mem_lineBreaks hbreak) ?_ ih
      rintro ⟨⟩ hfeed
      obtain ⟨later, hlater⟩ := List.head?_eq_some_iff.mp hfeed
      exact hpair later rfl hlater
    · exact hpair
  | case4 c rest hpair hbreak ih =>
    rw [cutLines, if_neg hbreak]
    · exact ih.push ((not_congr isLineBreak_iff).mp hbreak)
    · exact hpair

theorem cutLines_of_unbroken (hbody : Unbroken body) (rest : Text) :
    cutLines (body ++ rest) = body.foldr Line.push (cutLines rest) := by
  induction body with
  | nil => rfl
  | cons c body ih =>
    obtain ⟨hc, hbody⟩ := List.forall_mem_cons.mp hbody
    have hpair : ∀ later, c = '\r' → body ++ rest = '\n' :: later → False := by
      rintro _ rfl -
      exact hc (by decide)
    rw [List.cons_append, cutLines, if_neg ((not_congr isLineBreak_iff).mpr hc), ih hbody,
      List.foldr_cons]
    exact hpair

theorem cutLines_break (h : ending ∈ lineBreaks)
    (hpair : ending = ['\r'] → rest.head? ≠ some '\n') :
    cutLines (ending ++ rest) = ⟨[], ending⟩ :: cutLines rest := by
  have hshape : ∀ ending ∈ lineBreaks, ending = ['\r', '\n'] ∨ ending.length = 1 := by decide
  rcases hshape ending h with rfl | hone
  · rw [List.cons_append, List.singleton_append, cutLines]
  · obtain ⟨c, rfl⟩ := List.length_eq_one_iff.mp hone
    rw [List.singleton_append, cutLines, if_pos (isLineBreak_iff.mpr h)]
    rintro later rfl rfl
    exact hpair rfl rfl

theorem foldr_push (body : Text) (line : Line) (lines : List Line) :
    body.foldr Line.push (line :: lines) = ⟨body ++ line.body, line.ending⟩ :: lines := by
  induction body with
  | nil => rfl
  | cons c body ih => rw [List.foldr_cons, ih, Line.push, List.cons_append]

theorem foldr_push_nil (hne : body ≠ []) : body.foldr Line.push [] = [⟨body, []⟩] := by
  induction body with
  | nil => contradiction
  | cons c body ih =>
    cases body with
    | nil => rfl
    | cons d body =>
      rw [List.foldr_cons, ih (List.cons_ne_nil d body)]
      rfl

theorem IsLines.eq_cutLines (h : IsLines text lines) : lines = cutLines text := by
  induction h with
  | nil => rfl
  | @last body hne hbody =>
    have hcut := cutLines_of_unbroken hbody []
    rw [List.append_nil, cutLines, foldr_push_nil hne] at hcut
    exact hcut.symm
  | line hbody hending hpair _ ih =>
    rw [List.append_assoc, cutLines_of_unbroken hbody, cutLines_break hending hpair, foldr_push,
      List.append_nil, ih]

/-- A text is cut into lines in one way only. -/
theorem isLines_iff : IsLines text lines ↔ lines = cutLines text := by
  refine ⟨IsLines.eq_cutLines, ?_⟩
  rintro rfl
  exact isLines_cutLines text

theorem IsLines.unbroken (h : IsLines text lines) : ∀ line ∈ lines, Unbroken line.body := by
  induction h with
  | nil => exact List.forall_mem_nil _
  | last _ hbody => exact List.forall_mem_singleton.mpr hbody
  | line hbody _ _ _ ih => exact List.forall_mem_cons.mpr ⟨hbody, ih⟩

theorem unbroken_lines (text : Text) : ∀ line ∈ Text.lines text, Unbroken line :=
  List.forall_mem_map.mpr (isLines_cutLines text).unbroken

/-- What is not blank stands on the lines. -/
theorem IsLines.ink (h : IsLines text lines) :
    Text.ink text = lines.flatMap fun line => Text.ink line.body := by
  induction h with
  | nil => rfl
  | last => rw [List.flatMap_singleton]
  | line _ hending _ _ ih =>
    have hnone := ink_eq_nil_iff.mpr (allBlank_of_mem_lineBreaks hending)
    rw [ink_append, ink_append, hnone, List.append_nil, ih, List.flatMap_cons]

/-! ## Joining lines -/

theorem ink_join {separator : Text} (h : separator.allBlank = true) (pieces : List Text) :
    Text.ink (join separator pieces) = pieces.flatMap Text.ink := by
  cases pieces with
  | nil => rfl
  | cons piece pieces =>
    simp only [join_cons, ink_append, ink_flatMap, ink_eq_nil_iff.mpr h, List.nil_append,
      List.flatMap_cons]

/-- Unbroken texts with a line feed behind each but the last are the lines of what they make. -/
theorem isLines_feeds {pieces : List Text} {last : Text} (h : ∀ piece ∈ pieces, Unbroken piece)
    (hne : last ≠ []) (hlast : Unbroken last) :
    IsLines ((pieces.flatMap fun piece => piece ++ ['\n']) ++ last)
      ((pieces.map fun piece => ⟨piece, ['\n']⟩) ++ [⟨last, []⟩]) := by
  induction pieces with
  | nil => exact .last hne hlast
  | cons piece pieces ih =>
    obtain ⟨hpiece, h⟩ := List.forall_mem_cons.mp h
    rw [List.flatMap_cons, List.append_assoc, List.map_cons, List.cons_append]
    exact .line hpiece (by decide) nofun (ih h)

end ImportLift.Text
