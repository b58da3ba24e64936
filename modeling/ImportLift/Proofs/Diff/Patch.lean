-- A difference is a patch. A patch is carried out line by line along the old
-- lines: a header has to say where its ranges start and how long they are,
-- what lies before a hunk is copied, kept and removed lines have to be the old
-- ones, and added lines are new. The difference between two texts, carried out
-- on the old lines, makes the new ones, and it is empty for equal texts only.
import ImportLift.Diff.Unified
import ImportLift.Proofs.Diff.Edit
import ImportLift.Proofs.Text.Mark

namespace ImportLift.Diff

/-! ## Headers -/

/-- The number that decimal digits write. -/
def number? (text : Text) : Option Nat :=
  if text ≠ [] ∧ text.all Char.isDigit = true then some (Nat.ofDigitChars 10 text 0) else none

/-- The range that starts behind as many lines as said and has the length. A range names its first
line, and an empty one the line before it. -/
def rangeFrom? (first length : Nat) : Option (Nat × Nat) :=
  if length = 0 then some (first, 0)
  else if first = 0 then none
  else some (first - 1, length)

/-- The number of lines before a range, and its length, which is one if it is left out. -/
def range? (text : Text) : Option (Nat × Nat) :=
  match Text.cutAt ',' text with
  | [first] => (number? first).bind (rangeFrom? · 1)
  | [first, length] => (number? first).bind fun first => (number? length).bind (rangeFrom? first)
  | _ => none

/-- The old range and the new range of a header. -/
def header? (line : Text) : Option ((Nat × Nat) × (Nat × Nat)) :=
  match Text.cutAt ' ' line with
  | [start, '-' :: old, '+' :: new, stop] =>
    if start = "@@" ∧ stop = "@@\n" then
      (range? old).bind fun old => (range? new).map fun new => (old, new)
    else none
  | _ => none

theorem number?_ofNat (n : Nat) : number? (Text.ofNat n) = some n := by
  have hdigits : (Text.ofNat n).all Char.isDigit = true := by
    rw [List.all_eq_true]
    intro c hc
    exact Nat.isDigit_of_mem_toDigits (by decide) (by decide) hc
  rw [number?, if_pos ⟨Nat.toDigits_ne_nil, hdigits⟩]
  exact congrArg some Nat.ofDigitChars_ten_toDigits

theorem not_mem_ofNat {c : Char} (h : c.isDigit = false) (n : Nat) : c ∉ Text.ofNat n := by
  intro hc
  have hdigit : c.isDigit = true := Nat.isDigit_of_mem_toDigits (by decide) (by decide) hc
  rw [h] at hdigit
  cases hdigit

theorem range?_rangeText (start length : Nat) :
    range? (rangeText start length) = some (start, length) := by
  have hcomma (n : Nat) : ',' ∉ Text.ofNat n := not_mem_ofNat (by decide) n
  unfold rangeText
  split
  · rename_i hone
    simp only [range?, Text.cutAt_of_not_mem (hcomma _), number?_ofNat, Option.bind_some]
    simp [rangeFrom?, hone]
  · split
    · rename_i hzero
      have hcut : Text.cutAt ',' (Text.ofNat start ++ ",0") = [Text.ofNat start, ['0']] :=
        Text.cutAt_append_cons (hcomma start) ['0']
      simp only [range?, hcut, number?_ofNat, Option.bind_some]
      rw [hzero]
      rfl
    · rename_i hzero
      have hcut : Text.cutAt ',' (Text.ofNat (start + 1) ++ "," ++ Text.ofNat length) =
          [Text.ofNat (start + 1), Text.ofNat length] := by
        rw [List.append_assoc]
        exact (Text.cutAt_append_cons (hcomma _) _).trans
          (congrArg _ (Text.cutAt_of_not_mem (hcomma length)))
      simp only [range?, hcut, number?_ofNat, Option.bind_some]
      simp [rangeFrom?, hzero]

theorem space_not_mem_rangeText (start length : Nat) : ' ' ∉ rangeText start length := by
  have hnumber (n : Nat) : ' ' ∉ Text.ofNat n := not_mem_ofNat (by decide) n
  have hempty : ' ' ∉ (",0" : String).toList := by decide
  have hcomma : ' ' ∉ ("," : String).toList := by decide
  unfold rangeText
  split
  · exact hnumber _
  · split
    · exact List.not_mem_append (hnumber start) hempty
    · exact List.not_mem_append (List.not_mem_append (hnumber _) hcomma) (hnumber length)

/-- A header says where its ranges start and how long they are. -/
theorem header?_hunk (oldStart oldLength newStart newLength : Nat) :
    header? ("@@ -" ++ rangeText oldStart oldLength ++ " +" ++ rangeText newStart newLength ++
      " @@\n") = some ((oldStart, oldLength), (newStart, newLength)) := by
  have hold : ' ' ∉ '-' :: rangeText oldStart oldLength :=
    List.not_mem_cons_of_ne_of_not_mem (by decide) (space_not_mem_rangeText _ _)
  have hnew : ' ' ∉ '+' :: rangeText newStart newLength :=
    List.not_mem_cons_of_ne_of_not_mem (by decide) (space_not_mem_rangeText _ _)
  have hopen : ' ' ∉ ("@@" : String).toList := by decide
  have hclose : ' ' ∉ ("@@\n" : String).toList := by decide
  have hline : ("@@ -" ++ rangeText oldStart oldLength ++ " +" ++ rangeText newStart newLength ++
      " @@\n" : Text) = "@@" ++ ' ' :: (('-' :: rangeText oldStart oldLength) ++
        ' ' :: (('+' :: rangeText newStart newLength) ++ ' ' :: "@@\n")) := by
    rw [List.append_assoc, List.append_assoc, List.append_assoc]
    rfl
  rw [header?, hline, Text.cutAt_append_cons hopen, Text.cutAt_append_cons hold,
    Text.cutAt_append_cons hnew, Text.cutAt_of_not_mem hclose]
  simp only [range?_rangeText, and_self, if_true, Option.bind_some, Option.map_some]

/-! ## Carrying out a patch -/

/-- How far a patch is carried out. -/
structure Patched where
  /-- The old lines that are still to come. -/
  rest : List Text
  /-- The number of old lines before them. -/
  passed : Nat
  /-- The new lines so far. -/
  made : List Text
  /-- The old lines and the new ones that the hunk still has to come to. -/
  oldLeft : Nat
  newLeft : Nat

namespace Patched

/-- A hunk starts. What lies before it is copied, and both ranges have to start behind that. -/
def open? (s : Patched) (line : Text) : Option Patched :=
  (header? line).bind fun ((oldStart, oldLength), (newStart, newLength)) =>
    let gap := oldStart - s.passed
    if s.passed ≤ oldStart ∧ gap ≤ s.rest.length ∧ newStart = s.made.length + gap then
      some ⟨s.rest.drop gap, oldStart, s.made ++ s.rest.take gap, oldLength, newLength⟩
    else none

/-- The next old line is passed. It has to be this one, and in the old range of the hunk. -/
def pass? (s : Patched) (line : Text) : Option Patched :=
  match s.rest, s.oldLeft with
  | old :: rest, left + 1 =>
    if old = line then some { s with rest, passed := s.passed + 1, oldLeft := left } else none
  | _, _ => none

/-- A new line is made. It has to be in the new range of the hunk. -/
def make? (s : Patched) (line : Text) : Option Patched :=
  match s.newLeft with
  | left + 1 => some { s with made := s.made ++ [line], newLeft := left }
  | 0 => none

/-- One line of a patch: a header where no hunk is open, and else a line that is kept, removed or
added. -/
def next? (s : Patched) (line : Text) : Option Patched :=
  if s.oldLeft = 0 ∧ s.newLeft = 0 then s.open? line
  else
    match line with
    | ' ' :: line => (s.pass? line).bind (·.make? line)
    | '-' :: line => s.pass? line
    | '+' :: line => s.make? line
    | _ => none

/-- The new lines, when the last hunk is complete. What lies behind it is copied. -/
def whole? (s : Patched) : Option (List Text) :=
  if s.oldLeft = 0 ∧ s.newLeft = 0 then some (s.made ++ s.rest) else none

end Patched

/-- The lines that a patch makes of the old ones, if it fits them: two lines that name the files,
and the lines of the hunks. An empty patch changes nothing. -/
def patch? (patch old : List Text) : Option (List Text) :=
  match patch with
  | [] => some old
  | before :: after :: lines =>
    if ("--- " : Text) <+: before ∧ ("+++ " : Text) <+: after then
      (lines.foldlM Patched.next? ⟨old, 0, [], 0, 0⟩).bind Patched.whole?
    else none
  | _ => none

/-! ## Lines of a hunk -/

section

variable (rest : List Text) (passed : Nat) (made : List Text) (oldLeft newLeft : Nat)

theorem foldlM_removed (old : List Text) :
    (old.map ('-' :: ·)).foldlM Patched.next?
        ⟨old ++ rest, passed, made, old.length + oldLeft, newLeft⟩ =
      some ⟨rest, passed + old.length, made, oldLeft, newLeft⟩ := by
  induction old generalizing passed with
  | nil => simp
  | cons line old ih =>
    have hline : Patched.next?
        ⟨line :: (old ++ rest), passed, made, (line :: old).length + oldLeft, newLeft⟩
        ('-' :: line) =
          some ⟨old ++ rest, passed + 1, made, old.length + oldLeft, newLeft⟩ := by
      simp [Patched.next?, Patched.pass?, Nat.add_right_comm]
    rw [List.map_cons, List.foldlM_cons, List.cons_append, hline]
    refine (ih (passed + 1)).trans ?_
    rw [List.length_cons, Nat.add_right_comm, Nat.add_assoc]

theorem foldlM_added (new : List Text) :
    (new.map ('+' :: ·)).foldlM Patched.next?
        ⟨rest, passed, made, oldLeft, new.length + newLeft⟩ =
      some ⟨rest, passed, made ++ new, oldLeft, newLeft⟩ := by
  induction new generalizing made with
  | nil => simp
  | cons line new ih =>
    have hline : Patched.next?
        ⟨rest, passed, made, oldLeft, (line :: new).length + newLeft⟩ ('+' :: line) =
          some ⟨rest, passed, made ++ [line], oldLeft, new.length + newLeft⟩ := by
      simp [Patched.next?, Patched.make?, Nat.add_right_comm]
    rw [List.map_cons, List.foldlM_cons, hline]
    refine (ih (made ++ [line])).trans ?_
    rw [List.append_assoc, List.singleton_append]

theorem foldlM_kept (lines : List Text) :
    (lines.map (' ' :: ·)).foldlM Patched.next?
        ⟨lines ++ rest, passed, made, lines.length + oldLeft, lines.length + newLeft⟩ =
      some ⟨rest, passed + lines.length, made ++ lines, oldLeft, newLeft⟩ := by
  induction lines generalizing passed made with
  | nil => simp
  | cons line lines ih =>
    have hline : Patched.next? ⟨line :: (lines ++ rest), passed, made,
        (line :: lines).length + oldLeft, (line :: lines).length + newLeft⟩ (' ' :: line) =
          some ⟨lines ++ rest, passed + 1, made ++ [line], lines.length + oldLeft,
            lines.length + newLeft⟩ := by
      simp [Patched.next?, Patched.pass?, Patched.make?, Nat.add_right_comm]
    rw [List.map_cons, List.foldlM_cons, List.cons_append, hline]
    refine (ih (passed + 1) (made ++ [line])).trans ?_
    rw [List.length_cons, Nat.add_right_comm, Nat.add_assoc, List.append_assoc,
      List.singleton_append]

theorem foldlM_step (step : Edit) :
    (stepLines step).foldlM Patched.next?
        ⟨step.old ++ rest, passed, made, step.old.length + oldLeft, step.new.length + newLeft⟩ =
      some ⟨rest, passed + step.old.length, made ++ step.new, oldLeft, newLeft⟩ := by
  cases step with
  | keep lines => exact foldlM_kept rest passed made oldLeft newLeft lines
  | change old new =>
    have hremoved := foldlM_removed rest passed made oldLeft (new.length + newLeft) old
    rw [stepLines, List.foldlM_append]
    simp only [Edit.old, Edit.new, hremoved]
    exact foldlM_added rest (passed + old.length) made oldLeft newLeft new

theorem foldlM_steps (steps : List Edit) :
    (steps.flatMap stepLines).foldlM Patched.next?
        ⟨steps.flatMap Edit.old ++ rest, passed, made,
          (steps.flatMap Edit.old).length + oldLeft, (steps.flatMap Edit.new).length + newLeft⟩ =
      some ⟨rest, passed + (steps.flatMap Edit.old).length, made ++ steps.flatMap Edit.new,
        oldLeft, newLeft⟩ := by
  induction steps generalizing passed made with
  | nil => simp
  | cons step steps ih =>
    have hstep := foldlM_step (steps.flatMap Edit.old ++ rest) passed made
      ((steps.flatMap Edit.old).length + oldLeft) ((steps.flatMap Edit.new).length + newLeft) step
    simp only [List.flatMap_cons, List.foldlM_append, List.length_append, List.append_assoc,
      Nat.add_assoc, hstep]
    refine (ih (passed + step.old.length) (made ++ step.new)).trans ?_
    rw [Nat.add_assoc, List.append_assoc]

end

/-- A hunk is carried out where its header says, behind lines that are copied. -/
theorem foldlM_hunk (h : Hunk) (gap rest : List Text) (passed : Nat) (made : List Text)
    (hold : h.oldStart = passed + gap.length) (hnew : h.newStart = made.length + gap.length) :
    (hunkLines h).foldlM Patched.next? ⟨gap ++ h.oldLines ++ rest, passed, made, 0, 0⟩ =
      some ⟨rest, h.oldStart + h.oldLength, made ++ gap ++ h.newLines, 0, 0⟩ := by
  have hopen : Patched.next? ⟨gap ++ h.oldLines ++ rest, passed, made, 0, 0⟩
      ("@@ -" ++ rangeText h.oldStart h.oldLength ++ " +" ++ rangeText h.newStart h.newLength ++
        " @@\n") =
      some ⟨h.oldLines ++ rest, h.oldStart, made ++ gap, h.oldLength, h.newLength⟩ := by
    have hgap : h.oldStart - passed = gap.length := by omega
    have hfits : passed ≤ h.oldStart ∧ gap.length ≤ (gap ++ h.oldLines ++ rest).length ∧
        h.newStart = made.length + gap.length := by
      refine ⟨by omega, ?_, hnew⟩
      rw [List.append_assoc, List.length_append]
      exact Nat.le_add_right _ _
    refine (if_pos ⟨rfl, rfl⟩).trans ?_
    rw [Patched.open?, header?_hunk, Option.bind_some]
    dsimp only
    rw [hgap, if_pos hfits, List.append_assoc, List.drop_left, List.take_left]
  have hsteps := foldlM_steps rest h.oldStart (made ++ gap) 0 0 h.steps
  rw [hunkLines, List.foldlM_cons, hopen]
  exact hsteps

/-! ## Hunks that lead from old lines to new ones -/

/-- The hunks lead from the old lines to the new ones, which stand behind as many lines as said:
before each hunk and behind the last one the lines are the same, and each hunk names the lines
before it. -/
inductive Turns : Nat → Nat → List Hunk → List Text → List Text → Prop
  | done (old new : Nat) (rest : List Text) : Turns old new [] rest rest
  | hunk {old new : Nat} {h : Hunk} {hs : List Hunk} {gap oldRest newRest : List Text}
      (hold : h.oldStart = old + gap.length) (hnew : h.newStart = new + gap.length)
      (hrest : Turns (h.oldStart + h.oldLength) (h.newStart + h.newLength) hs oldRest newRest) :
      Turns old new (h :: hs) (gap ++ h.oldLines ++ oldRest) (gap ++ h.newLines ++ newRest)

theorem patched_of_turns {passed new : Nat} {hs : List Hunk} {oldLines newLines made : List Text}
    (h : Turns passed new hs oldLines newLines) (hmade : new = made.length) :
    ((hs.flatMap hunkLines).foldlM Patched.next? ⟨oldLines, passed, made, 0, 0⟩).bind
        Patched.whole? = some (made ++ newLines) := by
  induction h generalizing made with
  | done old new rest => rfl
  | @hunk old new h hs gap oldRest newRest hold hnew _ ih =>
    subst hmade
    rw [List.flatMap_cons, List.foldlM_append, foldlM_hunk h gap oldRest old made hold hnew]
    have hlength : h.newStart + h.newLength = (made ++ gap ++ h.newLines).length := by
      simp only [List.length_append, Hunk.newLength, hnew]
    refine (ih hlength).trans ?_
    simp only [List.append_assoc]

/-! ## Grouping -/

theorem Edit.old_keep (lines : List Text) : (Edit.keep lines).old = lines := rfl

theorem Edit.new_keep (lines : List Text) : (Edit.keep lines).new = lines := rfl

theorem Hunk.oldLines_keep (oldStart newStart : Nat) (lines : List Text) :
    Hunk.oldLines ⟨oldStart, newStart, [.keep lines]⟩ = lines := List.append_nil lines

theorem Hunk.newLines_keep (oldStart newStart : Nat) (lines : List Text) :
    Hunk.newLines ⟨oldStart, newStart, [.keep lines]⟩ = lines := List.append_nil lines

theorem Hunk.oldLines_push (h : Hunk) (step : Edit) :
    (h.push step).oldLines = h.oldLines ++ step.old := by
  simp [Hunk.oldLines, Hunk.push]

theorem Hunk.newLines_push (h : Hunk) (step : Edit) :
    (h.push step).newLines = h.newLines ++ step.new := by
  simp [Hunk.newLines, Hunk.push]

theorem Hunk.oldLength_push (h : Hunk) (step : Edit) :
    (h.push step).oldLength = h.oldLength + step.old.length := by
  rw [Hunk.oldLength, Hunk.oldLines_push, List.length_append, Hunk.oldLength]

theorem Hunk.newLength_push (h : Hunk) (step : Edit) :
    (h.push step).newLength = h.newLength + step.new.length := by
  rw [Hunk.newLength, Hunk.newLines_push, List.length_append, Hunk.newLength]

/-- A hunk that is idle has the same old lines and new lines. -/
theorem Hunk.lines_of_isIdle {h : Hunk} (hidle : h.isIdle = true) : h.oldLines = h.newLines := by
  unfold Hunk.isIdle at hidle
  unfold Hunk.oldLines Hunk.newLines
  split at hidle
  · rename_i hsteps
    rw [hsteps]
    rfl
  · rename_i hsteps
    rw [hsteps]
    rfl
  · cases hidle

/-- Of kept lines in a long row those in the middle are shown in neither hunk. -/
theorem exists_middle {lines : List Text} (hlong : 2 * context < lines.length) :
    ∃ middle, lines = lines.take context ++ (middle ++ lines.drop (lines.length - context)) ∧
      (lines.take context).length + middle.length = lines.length - context := by
  refine ⟨(lines.drop context).take (lines.length - 2 * context), ?_, ?_⟩
  · have hend : lines.drop (lines.length - context) =
        (lines.drop context).drop (lines.length - 2 * context) := by
      rw [List.drop_drop]
      congr 1
      omega
    rw [hend, List.take_append_drop, List.take_append_drop]
  · simp only [List.length_take, List.length_drop]
    omega

/-- Grouping loses no step: the hunks lead from what the open hunk and the steps take to what they
give, whatever lines are kept before and behind. -/
theorem turns_group (open_ : Hunk) (steps : List Edit) {old new : Nat} {gap : List Text}
    (hold : open_.oldStart = old + gap.length) (hnew : open_.newStart = new + gap.length)
    (rest : List Text) :
    Turns old new (group open_ steps) (gap ++ open_.oldLines ++ (steps.flatMap Edit.old ++ rest))
      (gap ++ open_.newLines ++ (steps.flatMap Edit.new ++ rest)) := by
  induction steps generalizing open_ old new gap with
  | nil =>
    rw [group]
    split
    · rename_i hidle
      rw [Hunk.lines_of_isIdle hidle]
      exact .done _ _ _
    · exact .hunk hold hnew (.done _ _ _)
  | cons step steps ih =>
    have hpush : group open_ (step :: steps) = group (open_.push step) steps →
        Turns old new (group open_ (step :: steps))
          (gap ++ open_.oldLines ++ ((step :: steps).flatMap Edit.old ++ rest))
          (gap ++ open_.newLines ++ ((step :: steps).flatMap Edit.new ++ rest)) := by
      intro hgroup
      have hturns := ih (open_.push step) hold hnew
      rw [hgroup]
      simpa only [Hunk.oldLines_push, Hunk.newLines_push, List.flatMap_cons, List.append_assoc]
        using hturns
    cases step with
    | change old new => exact hpush rfl
    | keep lines =>
      by_cases hlong : 2 * context < lines.length
      · obtain ⟨middle, hsplit, hlength⟩ := exists_middle hlong
        let shown := open_.push (.keep (lines.take context))
        let next : Hunk := ⟨open_.oldStart + open_.oldLength + (lines.length - context),
          open_.newStart + open_.newLength + (lines.length - context),
          [.keep (lines.drop (lines.length - context))]⟩
        have hold' : next.oldStart = shown.oldStart + shown.oldLength + middle.length := by
          rw [Hunk.oldLength_push]
          simp only [next, shown, Hunk.push, Edit.old]
          omega
        have hnew' : next.newStart = shown.newStart + shown.newLength + middle.length := by
          rw [Hunk.newLength_push]
          simp only [next, shown, Hunk.push, Edit.new]
          omega
        have hturns : Turns old new (shown :: group next steps) _ _ :=
          .hunk hold hnew (ih next hold' hnew')
        have hgroup : group open_ (.keep lines :: steps) = shown :: group next steps := by
          rw [group, if_pos hlong]
        have hlines (more : List Text) : lines.take context ++
            (middle ++ (lines.drop (lines.length - context) ++ more)) = lines ++ more := by
          conv => rhs; rw [hsplit]
          simp only [List.append_assoc]
        rw [hgroup]
        simpa only [shown, next, Hunk.oldLines_push, Hunk.newLines_push, Hunk.oldLines_keep,
          Hunk.newLines_keep, List.flatMap_cons, Edit.old_keep, Edit.new_keep, List.append_assoc,
          hlines] using hturns
      · exact hpush (by rw [group, if_neg hlong])

/-- Cutting the last lines leaves kept lines behind. -/
theorem exists_rest_trimLast (steps : List Edit) :
    ∃ rest, steps.flatMap Edit.old = (trimLast steps).flatMap Edit.old ++ rest ∧
      steps.flatMap Edit.new = (trimLast steps).flatMap Edit.new ++ rest := by
  induction steps with
  | nil => exact ⟨[], rfl, rfl⟩
  | cons step steps ih =>
    cases steps with
    | nil =>
      cases step with
      | keep lines =>
        refine ⟨lines.drop context, ?_, ?_⟩
        · simp [trimLast, Edit.old_keep]
        · simp [trimLast, Edit.new_keep]
      | change old new => exact ⟨[], by simp [trimLast], by simp [trimLast]⟩
    | cons next steps =>
      obtain ⟨rest, hold, hnew⟩ := ih
      have htrim : trimLast (step :: next :: steps) = step :: trimLast (next :: steps) := by
        cases step <;> rfl
      refine ⟨rest, ?_, ?_⟩
      · rw [htrim, List.flatMap_cons, hold, List.flatMap_cons, List.append_assoc]
      · rw [htrim, List.flatMap_cons, hnew, List.flatMap_cons, List.append_assoc]

/-- The hunks of steps lead from what the steps take to what they give. -/
theorem turns_hunks (steps : List Edit) :
    Turns 0 0 (hunks steps) (steps.flatMap Edit.old) (steps.flatMap Edit.new) := by
  have hwhole (front : List Text) (steps : List Edit) :
      Turns 0 0 (group ⟨front.length, front.length, []⟩ (trimLast steps))
        (front ++ steps.flatMap Edit.old) (front ++ steps.flatMap Edit.new) := by
    obtain ⟨rest, hold, hnew⟩ := exists_rest_trimLast steps
    rw [hold, hnew]
    simpa [Hunk.oldLines, Hunk.newLines] using
      turns_group ⟨front.length, front.length, []⟩ (trimLast steps) (Nat.zero_add _).symm
        (Nat.zero_add _).symm rest
  unfold hunks
  split
  · rename_i lines rest
    let gap := lines.length - context
    have hlength : (lines.take gap).length = gap := by
      rw [List.length_take]
      omega
    have hturns := hwhole (lines.take gap) (.keep (lines.drop gap) :: rest)
    rw [hlength] at hturns
    simpa only [List.flatMap_cons, Edit.old_keep, Edit.new_keep, ← List.append_assoc,
      List.take_append_drop] using hturns
  · exact hwhole [] steps

/-- Steps that keep every line make no hunk. -/
theorem hunks_self (as : List Text) : hunks (steps as as) = [] := by
  rw [steps_self]
  split
  · rfl
  · have hshort : ¬ 2 * context < ((as.drop (as.length - context)).take context).length := by
      rw [List.length_take]
      unfold context
      omega
    simp only [hunks, trimLast, group, if_neg hshort]
    rfl

/-! ## The difference between two texts -/

theorem flatten_push (c : Char) (lines : List Text.Line) :
    ((Text.Line.push c lines).map Text.Line.whole).flatten =
      c :: (lines.map Text.Line.whole).flatten := by
  cases lines <;> rfl

/-- The lines of a text, with their breaks, join back to it. -/
theorem flatten_wholeLines (text : Text) : (Text.wholeLines text).flatten = text := by
  unfold Text.wholeLines
  induction text using Text.cutLines.induct with
  | case1 => rfl
  | case2 rest ih =>
    rw [Text.cutLines, List.map_cons, List.flatten_cons, ih]
    rfl
  | case3 c rest hpair hbreak ih =>
    rw [Text.cutLines, if_pos hbreak, List.map_cons, List.flatten_cons, ih]
    · rfl
    · exact hpair
  | case4 c rest hpair hbreak ih =>
    rw [Text.cutLines, if_neg hbreak, flatten_push, ih]
    exact hpair

/-- The difference between lists of lines, carried out on the old lines, makes the new ones. -/
theorem patch?_unifiedLines (name : Text) (as bs : List Text) :
    patch? (unifiedLines name as bs) as = some bs := by
  have hturns := turns_hunks (steps as bs)
  rw [old_steps, new_steps] at hturns
  unfold unifiedLines
  split
  · rename_i hnone
    rw [hnone] at hturns
    cases hturns with
    | done => rfl
  · have hbefore : ("--- " : Text) <+: "--- a/" ++ name ++ "\n" := ⟨"a/" ++ name ++ "\n", rfl⟩
    have hafter : ("+++ " : Text) <+: "+++ b/" ++ name ++ "\n" := ⟨"b/" ++ name ++ "\n", rfl⟩
    rw [patch?, if_pos ⟨hbefore, hafter⟩]
    exact patched_of_turns hturns rfl

example : patch? ["--- a/x\n", "+++ b/x\n", "@@ -1,2 +1 @@\n", "-a\n", " b\n"] ["a\n", "b\n", "c"] =
    some [("b\n" : Text), "c"] := by decide

/-- The lines behind the header are not those of the text. -/
example : patch? ["--- a/x\n", "+++ b/x\n", "@@ -1,2 +1 @@\n", "-a\n", " b\n"] ["a\n", "c"] =
    none := by decide

/-- The difference between two texts is empty exactly if they are equal. It joins the lines of a
patch which, carried out on the lines of the old text, makes those of the new one. -/
theorem the_difference_is_a_patch (name old new : Text) :
    (unified name old new = [] ↔ old = new) ∧
      ∃ lines, unified name old new = lines.flatten ∧
        lines = unifiedLines name (Text.wholeLines old) (Text.wholeLines new) ∧
        patch? lines (Text.wholeLines old) = some (Text.wholeLines new) := by
  have hpatch := patch?_unifiedLines name (Text.wholeLines old) (Text.wholeLines new)
  refine ⟨⟨fun hempty => ?_, ?_⟩, _, rfl, rfl, hpatch⟩
  · have hlines : unifiedLines name (Text.wholeLines old) (Text.wholeLines new) = [] := by
      unfold unified unifiedLines at hempty
      unfold unifiedLines
      split at hempty
      · rfl
      · have hfirst := (List.append_eq_nil_iff.mp hempty).1
        cases hfirst
    rw [hlines, patch?, Option.some.injEq] at hpatch
    rw [← flatten_wholeLines old, hpatch, flatten_wholeLines]
  · rintro rfl
    rw [unified, unifiedLines, hunks_self]
    rfl

end ImportLift.Diff
