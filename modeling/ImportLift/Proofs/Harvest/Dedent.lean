-- Dedenting a script. Every line loses the margin, which is the least
-- indentation of a line with ink on it; so what goes is white space, and only a
-- blank line can be too short to lose all of it. The lines are joined again by
-- line feeds, and the blank lines at the end go with the rest of the white
-- space there.
import Mathlib.Data.List.Basic
import Mathlib.Order.Bounds.Basic
import Mathlib.Order.Nat
import ImportLift.Harvest
import ImportLift.Proofs.Text.Lines
import ImportLift.Proofs.Text.Mark

namespace ImportLift.Harvest

variable {lines : List Text} {line kept : Text} {m : Nat}

/-! ## The margin -/

/-- The lines that are not blank. -/
def inked (lines : List Text) : List Text := lines.filter fun line => !line.allBlank

theorem mem_inked : line ∈ inked lines ↔ line ∈ lines ∧ line.allBlank = false := by
  simp [inked]

theorem margin_of_blank (h : inked lines = []) : margin lines = 0 := by
  unfold inked at h
  rw [margin, h]
  rfl

/-- The margin is the least indentation of a line that is not blank. -/
theorem isLeast_margin (h : inked lines ≠ []) :
    IsLeast {n | ∃ line ∈ inked lines, indentation line = n} (margin lines) := by
  obtain ⟨n, hn⟩ : ∃ n, ((inked lines).map indentation).min? = some n := by
    rw [← Option.isSome_iff_exists, List.isSome_min?_iff]
    simpa using h
  have hmargin : margin lines = n := by
    unfold inked at hn
    rw [margin, hn, Option.getD_some]
  obtain ⟨hmem, hle⟩ := List.min?_eq_some_iff.mp hn
  rw [hmargin]
  refine ⟨List.mem_map.mp hmem, ?_⟩
  rintro _ ⟨line, hline, rfl⟩
  exact hle _ (List.mem_map_of_mem hline)

theorem margin_le (h : line ∈ inked lines) : margin lines ≤ indentation line :=
  (isLeast_margin (List.ne_nil_of_mem h)).2 ⟨line, h, rfl⟩

/-! ## One line -/

/-- What is left of a line that loses so many characters of white space. A blank line may have
fewer, and then it loses them all. -/
inductive Outdents (m : Nat) : Text → Text → Prop
  | whole {lost kept : Text} (hblank : lost.allBlank = true) (hlength : lost.length = m) :
      Outdents m (lost ++ kept) kept
  | short {line : Text} (hblank : line.allBlank = true) (hlength : line.length < m) :
      Outdents m line []

theorem indentation_append {lost : Text} (h : lost.allBlank = true) (kept : Text) :
    indentation (lost ++ kept) = lost.length + indentation kept := by
  rw [indentation, List.takeWhile_append_of_pos (List.all_eq_true.mp h), List.length_append]
  rfl

theorem indentation_le (line : Text) : indentation line ≤ line.length :=
  (List.takeWhile_sublist _).length_le

theorem outdents_of_take (h : Text.allBlank (line.take m) = true) (hle : m ≤ line.length) :
    Outdents m line (line.drop m) := by
  have hlength : (line.take m).length = m := by
    rw [List.length_take]
    omega
  have hwhole : Outdents m (line.take m ++ line.drop m) (line.drop m) := .whole h hlength
  rwa [List.take_append_drop] at hwhole

theorem outdents_of_blank (h : line.allBlank = true) (m : Nat) :
    Outdents m line (line.drop m) := by
  by_cases hshort : line.length < m
  · rw [List.drop_of_length_le (Nat.le_of_lt hshort)]
    exact .short h hshort
  · have hfront : Text.allBlank (line.take m) = true :=
      List.all_eq_true.mpr fun c hc => List.all_eq_true.mp h c (List.mem_of_mem_take hc)
    exact outdents_of_take hfront (by omega)

theorem outdents_of_indented (h : m ≤ indentation line) : Outdents m line (line.drop m) := by
  refine outdents_of_take ?_ (h.trans (indentation_le line))
  have hfront : line.take m = (line.takeWhile Text.isBlank).take m := by
    rw [← List.take_append_of_le_length h, List.takeWhile_append_dropWhile]
  rw [hfront, Text.allBlank, List.all_eq_true]
  intro c hc
  exact List.all_eq_true.mp List.all_takeWhile c (List.mem_of_mem_take hc)

/-- Every line can lose the margin. -/
theorem outdents_of_mem (h : line ∈ lines) :
    Outdents (margin lines) line (line.drop (margin lines)) := by
  cases hblank : line.allBlank with
  | true => exact outdents_of_blank hblank _
  | false => exact outdents_of_indented (margin_le (mem_inked.mpr ⟨h, hblank⟩))

theorem Outdents.indentation (h : Outdents m line kept) (hline : line.allBlank = false) :
    Harvest.indentation line = m + Harvest.indentation kept := by
  cases h with
  | whole hblank hlength => rw [indentation_append hblank, hlength]
  | short hblank _ =>
    rw [hblank] at hline
    cases hline

theorem Outdents.ink (h : Outdents m line kept) : Text.ink kept = Text.ink line := by
  cases h with
  | whole hblank _ => rw [Text.ink_append, Text.ink_eq_nil_iff.mpr hblank, List.nil_append]
  | short hblank _ => rw [Text.ink_eq_nil_iff.mpr hblank, Text.ink, List.filter_nil]

theorem Outdents.allBlank (h : Outdents m line kept) : kept.allBlank = line.allBlank := by
  cases h with
  | whole hblank _ =>
    unfold Text.allBlank at *
    rw [List.all_append, hblank, Bool.true_and]
  | short hblank _ =>
    rw [hblank]
    rfl

/-- A line that is not blank and not indented starts with what is not blank. -/
theorem head?_of_flush (h : indentation line = 0) (hline : line.allBlank = false) :
    ∃ c, line.head? = some c ∧ Text.isBlank c = false := by
  cases line with
  | nil => cases hline
  | cons c rest =>
    refine ⟨c, rfl, ?_⟩
    cases hc : Text.isBlank c with
    | false => rfl
    | true => simp [indentation, hc] at h

/-! ## All lines -/

theorem inked_eq_nil_iff : inked lines = [] ↔ ∀ line ∈ lines, line.allBlank = true := by
  simp [inked]

/-- The last line that is not blank. -/
theorem exists_last_inked (h : inked lines ≠ []) :
    ∃ front last gap, lines = front ++ last :: gap ∧ last.allBlank = false ∧
      ∀ line ∈ gap, line.allBlank = true := by
  induction lines with
  | nil => exact absurd rfl h
  | cons line lines ih =>
    by_cases hmore : inked lines = []
    · have hblank := inked_eq_nil_iff.mp hmore
      refine ⟨[], line, lines, rfl, ?_, hblank⟩
      rw [Bool.eq_false_iff]
      intro hline
      exact h (inked_eq_nil_iff.mpr (List.forall_mem_cons.mpr ⟨hline, hblank⟩))
    · obtain ⟨front, last, gap, rfl, hlast, hgap⟩ := ih hmore
      exact ⟨line :: front, last, gap, rfl, hlast, hgap⟩

/-- The lines between the outer line feeds of a script. -/
abbrev bodyLines (body : Text) : List Text := Text.lines (Text.trimMark '\n' body)

variable {body last : Text} {front gap : List Text}

theorem dedent_eq (body : Text) :
    dedent body =
      Text.trimEnd (Text.join "\n" ((bodyLines body).map (·.drop (margin (bodyLines body))))) :=
  rfl

/-- The joined lines have the ink of the lines. -/
theorem ink_outdented (lines : List Text) :
    Text.ink (Text.join "\n" (lines.map (·.drop (margin lines)))) = lines.flatMap Text.ink := by
  rw [Text.ink_join (by decide), List.flatMap_map]
  exact List.flatMap_congr fun line hline => (outdents_of_mem hline).ink

/-- Dedenting keeps what is not blank. -/
theorem ink_dedent (body : Text) : Text.ink (dedent body) = Text.ink body := by
  let core := Text.trimMark '\n' body
  have hlines : Text.ink core = (bodyLines body).flatMap Text.ink := by
    rw [(Text.isLines_cutLines core).ink, bodyLines, Text.lines, List.flatMap_map]
  have hcore : Text.ink core = Text.ink body := by
    obtain ⟨before, after, hbody⟩ := Text.trimMark_append '\n' body
    have hfeeds (n : Nat) : Text.ink (List.replicate n '\n') = [] := by
      rw [Text.ink_eq_nil_iff, Text.allBlank, List.all_replicate]
      split <;> rfl
    rw [hbody, Text.ink_append, Text.ink_append, hfeeds, hfeeds, List.nil_append, List.append_nil]
  rw [dedent_eq, Text.ink_trimEnd, ink_outdented, ← hlines, hcore]

/-- When no line has ink, nothing is left. -/
theorem dedent_of_blank (h : inked (bodyLines body) = []) : dedent body = [] := by
  rw [dedent_eq]
  apply Text.trimEnd_of_allBlank
  rw [← Text.ink_eq_nil_iff, ink_outdented, List.flatMap_eq_nil_iff]
  exact fun line hline => Text.ink_eq_nil_iff.mpr (inked_eq_nil_iff.mp h line hline)

/-- The blank lines at the end go, and so does white space at the end of the line before them. -/
theorem dedent_of_split (hsplit : bodyLines body = front ++ last :: gap)
    (hlast : last.allBlank = false) (hgap : ∀ line ∈ gap, line.allBlank = true) :
    dedent body =
      (front.flatMap fun line => line.drop (margin (bodyLines body)) ++ ['\n']) ++
        Text.trimEnd (last.drop (margin (bodyLines body))) := by
  let m := margin (bodyLines body)
  have houtdents : ∀ line ∈ front ++ last :: gap, Outdents m line (line.drop m) := fun line hline =>
    outdents_of_mem (hsplit ▸ hline)
  have hgone : Text.allBlank ((gap.map (·.drop m)).flatMap fun line => "\n" ++ line) = true := by
    rw [← Text.ink_eq_nil_iff, Text.ink_flatMap, List.flatMap_map, List.flatMap_eq_nil_iff]
    intro line hline
    rw [Text.ink_append, (houtdents line (by simp [hline])).ink,
      Text.ink_eq_nil_iff.mpr (hgap line hline)]
    rfl
  have hstays : Text.allBlank (last.drop m) = false := by
    rw [(houtdents last (by simp)).allBlank, hlast]
  rw [dedent_eq, hsplit, List.map_append, List.map_cons, Text.join_append_cons, Text.join_cons,
    ← List.append_assoc, ← hsplit, Text.trimEnd_append_blank hgone,
    Text.trimEnd_append_of_not_blank hstays, List.flatMap_map]
  rfl

/-- The lines of a dedented script are the lines of the script up to the last one with ink, less
the margin, with line feeds in between. -/
theorem cutLines_dedent (hsplit : bodyLines body = front ++ last :: gap)
    (hlast : last.allBlank = false) (hgap : ∀ line ∈ gap, line.allBlank = true) :
    Text.cutLines (dedent body) =
      (front.map fun line => ⟨line.drop (margin (bodyLines body)), ['\n']⟩) ++
        [⟨Text.trimEnd (last.drop (margin (bodyLines body))), []⟩] := by
  let m := margin (bodyLines body)
  have hunbroken : ∀ line ∈ front ++ last :: gap, Text.Unbroken (line.drop m) := fun line hline =>
    (Text.unbroken_lines _ line (hsplit ▸ hline)).mono (List.drop_subset m line)
  have hfront : ∀ piece ∈ front.map (·.drop m), Text.Unbroken piece := by
    rintro _ hpiece
    obtain ⟨line, hline, rfl⟩ := List.mem_map.mp hpiece
    exact hunbroken line (List.mem_append_left _ hline)
  have hend : Text.Unbroken (Text.trimEnd (last.drop m)) :=
    (hunbroken last (by simp)).mono (Text.trimEnd_subset _)
  have hne : Text.trimEnd (last.drop m) ≠ [] := by
    intro hnil
    have hblank := Text.allBlank_trimEnd (last.drop m)
    rw [hnil, (outdents_of_mem (hsplit ▸ by simp)).allBlank, hlast] at hblank
    cases hblank
  have hfeeds := Text.isLines_feeds hfront hne hend
  rw [List.flatMap_map, List.map_map, ← dedent_of_split hsplit hlast hgap] at hfeeds
  exact hfeeds.eq_cutLines.symm

/-- A line with ink on it stands at the left edge of the dedented script. -/
theorem exists_flush (h : inked (bodyLines body) ≠ []) :
    ∃ line ∈ Text.lines (dedent body), ∃ c, line.head? = some c ∧ Text.isBlank c = false := by
  let m := margin (bodyLines body)
  obtain ⟨front, last, gap, hsplit, hlast, hgap⟩ := exists_last_inked h
  have hlines : Text.lines (dedent body) =
      front.map (·.drop m) ++ [Text.trimEnd (last.drop m)] := by
    rw [Text.lines, cutLines_dedent hsplit hlast hgap, List.map_append, List.map_map]
    rfl
  obtain ⟨line, hline, hleast⟩ := (isLeast_margin h).1
  obtain ⟨hmem, hink⟩ := mem_inked.mp hline
  obtain ⟨c, hfirst, hc⟩ : ∃ c, (line.drop m).head? = some c ∧ Text.isBlank c = false := by
    have houtdents : Outdents m line (line.drop m) := outdents_of_mem hmem
    have hindent : m = m + indentation (line.drop m) := by
      rw [← houtdents.indentation hink]
      exact hleast.symm
    apply head?_of_flush
    · omega
    · rw [houtdents.allBlank, hink]
  rw [hsplit, List.mem_append, List.mem_cons] at hmem
  rw [hlines]
  rcases hmem with hfront | rfl | hline
  · exact ⟨line.drop m, List.mem_append_left _ (List.mem_map_of_mem hfront), c, hfirst, hc⟩
  · exact ⟨Text.trimEnd (line.drop m), by simp, c, Text.head?_trimEnd hfirst hc, hc⟩
  · rw [hgap line hline] at hink
    cases hink

/-- Dedenting removes layout and nothing else. What is not blank stays, in order. The lines are
those of the script without the line feeds around it, and each of them loses the margin, the least
indentation of a line with ink, so that these lines stay as far apart as they were. They are joined
by line feeds and lose the white space at the very end. When no line has ink, nothing is left;
otherwise the lines up to the last one with ink are the lines of the result, and one of them starts
at its left edge. -/
theorem dedenting_removes_only_layout (body : Text) :
    let core := Text.trimMark '\n' body
    let lines := Text.lines core
    let m := margin lines
    Text.ink (dedent body) = Text.ink body ∧
    -- The lines of the script.
    (∃ before after, body = List.replicate before '\n' ++ core ++ List.replicate after '\n') ∧
    core.head? ≠ some '\n' ∧ core.getLast? ≠ some '\n' ∧
    (∃ cut, (∀ other, Text.IsLines core other ↔ other = cut) ∧ lines = cut.map Text.Line.body) ∧
    -- What they lose.
    (∀ line ∈ lines, Outdents m line (line.drop m)) ∧
    (∀ line ∈ inked lines, ∀ other ∈ inked lines,
      (indentation (line.drop m) : Int) - indentation (other.drop m) =
        indentation line - indentation other) ∧
    -- What is made of them.
    (∃ after, after.allBlank = true ∧
      Text.join "\n" (lines.map (·.drop m)) = dedent body ++ after) ∧
    (∀ c, (dedent body).getLast? = some c → Text.isBlank c = false) ∧
    (inked lines = [] ∧ m = 0 ∧ dedent body = [] ∨
      IsLeast {n | ∃ line ∈ inked lines, indentation line = n} m ∧
      (∃ front last gap, lines = front ++ last :: gap ∧ last.allBlank = false ∧
        (∀ line ∈ gap, line.allBlank = true) ∧
        Text.cutLines (dedent body) =
          (front.map fun line => ⟨line.drop m, ['\n']⟩) ++ [⟨Text.trimEnd (last.drop m), []⟩]) ∧
      ∃ line ∈ Text.lines (dedent body), ∃ c, line.head? = some c ∧ Text.isBlank c = false) := by
  intro core lines m
  have hshift : ∀ line ∈ inked lines, indentation line = m + indentation (line.drop m) := by
    intro line hline
    obtain ⟨hmem, hink⟩ := mem_inked.mp hline
    exact (outdents_of_mem hmem).indentation hink
  obtain ⟨after, hafter, hjoin⟩ :=
    Text.trimEnd_append (Text.join "\n" (lines.map (·.drop m)))
  refine ⟨ink_dedent body, Text.trimMark_append '\n' body, Text.head?_trimMark '\n' body,
    Text.getLast?_trimMark '\n' body, ⟨Text.cutLines core, fun _ => Text.isLines_iff, rfl⟩,
    fun _ => outdents_of_mem, ?_, ⟨after, hafter, hjoin⟩, fun _ => Text.getLast?_trimEnd, ?_⟩
  · intro line hline other hother
    have hline := hshift line hline
    have hother := hshift other hother
    omega
  · by_cases hnone : inked lines = []
    · exact .inl ⟨hnone, margin_of_blank hnone, dedent_of_blank hnone⟩
    · obtain ⟨front, last, gap, hsplit, hlast, hgap⟩ := exists_last_inked hnone
      exact .inr ⟨isLeast_margin hnone,
        ⟨front, last, gap, hsplit, hlast, hgap, cutLines_dedent hsplit hlast hgap⟩,
        exists_flush hnone⟩

example : dedent "\n\t\tif (a)\r\n\n\t\t  b();\n \n\t\tc();\t\n  " =
    "if (a)\n\n  b();\n\nc();".toList := by
  decide +kernel

end ImportLift.Harvest
