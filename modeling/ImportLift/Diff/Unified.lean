-- Differences in the unified format: each change with three lines around it.
-- Changes that stand close together share a hunk. Lines are written with
-- their own breaks, so a last line without one has none in the difference.
import ImportLift.Diff.Edit
import ImportLift.Text.Lines

namespace ImportLift.Diff

/-- How many lines are shown before and behind a change. -/
def context : Nat := 3

/-- Steps that stand close together, and where they start. -/
structure Hunk where
  oldStart : Nat
  newStart : Nat
  steps : List Edit
deriving DecidableEq, Repr

namespace Hunk

/-- The old lines that the hunk covers. -/
def oldLines (h : Hunk) : List Text := h.steps.flatMap (·.old)

/-- The new lines that the hunk covers. -/
def newLines (h : Hunk) : List Text := h.steps.flatMap (·.new)

/-- The number of old lines. -/
def oldLength (h : Hunk) : Nat := h.oldLines.length

/-- The number of new lines. -/
def newLength (h : Hunk) : Nat := h.newLines.length

/-- The hunk with one more step. -/
def push (h : Hunk) (step : Edit) : Hunk := { h with steps := h.steps ++ [step] }

/-- The hunk changes nothing. -/
def isIdle (h : Hunk) : Bool :=
  match h.steps with
  | [] => true
  | [.keep _] => true
  | _ => false

end Hunk

/-! ## Grouping -/

/-- The hunks of steps that follow a hunk still open. Kept lines in a long row
end one hunk and start another. -/
def group (open_ : Hunk) : List Edit → List Hunk
  | [] => if open_.isIdle then [] else [open_]
  | .keep lines :: rest =>
    if 2 * context < lines.length then
      let gap := lines.length - context
      let start := open_.oldStart + open_.oldLength + gap
      let newStart := open_.newStart + open_.newLength + gap
      open_.push (.keep (lines.take context)) ::
        group ⟨start, newStart, [.keep (lines.drop gap)]⟩ rest
    else group (open_.push (.keep lines)) rest
  | .change old new :: rest => group (open_.push (.change old new)) rest

/-- Kept lines at the end are cut to what is shown. -/
def trimLast : List Edit → List Edit
  | [] => []
  | [.keep lines] => [.keep (lines.take context)]
  | step :: rest => step :: trimLast rest

/-- The hunks of steps. Kept lines at the start are cut to what is shown. -/
def hunks (steps : List Edit) : List Hunk :=
  match steps with
  | .keep lines :: rest =>
    let gap := lines.length - context
    group ⟨gap, gap, []⟩ (trimLast (.keep (lines.drop gap) :: rest))
  | steps => group ⟨0, 0, []⟩ (trimLast steps)

/-! ## The format -/

/-- A range of lines: its first line and its length. A length of one is left
out, and an empty range names the line before it. -/
def rangeText (start length : Nat) : Text :=
  if length = 1 then Text.ofNat (start + 1)
  else if length = 0 then Text.ofNat start ++ ",0"
  else Text.ofNat (start + 1) ++ "," ++ Text.ofNat length

/-- The lines of a step. -/
def stepLines : Edit → List Text
  | .keep lines => lines.map (' ' :: ·)
  | .change old new => old.map ('-' :: ·) ++ new.map ('+' :: ·)

/-- The lines of a hunk. -/
def hunkLines (h : Hunk) : List Text :=
  ("@@ -" ++ rangeText h.oldStart h.oldLength ++ " +" ++ rangeText h.newStart h.newLength ++ " @@\n") ::
    h.steps.flatMap stepLines

/-- The lines of a difference: none when nothing changes. -/
def unifiedLines (name : Text) (old new : List Text) : List Text :=
  match hunks (steps old new) with
  | [] => []
  | found => ("--- a/" ++ name ++ "\n") :: ("+++ b/" ++ name ++ "\n") :: found.flatMap hunkLines

/-- The difference between two texts of a file. -/
def unified (name old new : Text) : Text :=
  (unifiedLines name (Text.wholeLines old) (Text.wholeLines new)).flatten

end ImportLift.Diff
