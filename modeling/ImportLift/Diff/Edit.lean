-- How one list of lines becomes another. The longest common run of lines is
-- kept, and what stands before it and behind it is compared in the same way.
-- In a long text a line that occurs very often says little, so a run is not
-- looked for by such lines; it may still grow over them.
import ImportLift.Text.Basic

namespace ImportLift.Diff

/-- A step from the old lines to the new ones. -/
inductive Edit
  | keep (lines : List Text)
  | change (old new : List Text)
deriving DecidableEq, Repr

/-- The old lines that a step takes. -/
def Edit.old : Edit → List Text
  | keep lines => lines
  | change old _ => old

/-- The new lines that a step gives. -/
def Edit.new : Edit → List Text
  | keep lines => lines
  | change _ new => new

/-! ## The longest common run -/

/-- How many lines two lists have in common from their start on, as long as the
lines pass the test. -/
def commonLength (ok : Text → Bool) : List Text → List Text → Nat
  | a :: as, b :: bs => if a = b && ok a then commonLength ok as bs + 1 else 0
  | _, _ => 0

/-- A common run: where it starts in the old lines and in the new ones, and its length. -/
structure Run where
  old : Nat
  new : Nat
  size : Nat
deriving DecidableEq, Repr

/-- The better of two runs: the longer, and of equal ones the first. -/
def Run.better (a b : Run) : Run := if a.size < b.size then b else a

/-- The best run that starts with the first of the old lines; `new` is the
offset of the new lines. -/
def bestInNew (ok : Text → Bool) (old : Nat) (as : List Text) : Nat → Run → List Text → Run
  | _, best, [] => best
  | new, best, b :: bs =>
    bestInNew ok old as (new + 1) (best.better ⟨old, new, commonLength ok as (b :: bs)⟩) bs

/-- The best run of all; `old` is the offset of the old lines. -/
def bestRun (ok : Text → Bool) (bs : List Text) : Nat → Run → List Text → Run
  | _, best, [] => best
  | old, best, a :: as =>
    bestRun ok bs (old + 1) (bestInNew ok old (a :: as) 0 best bs) as

/-- The run, grown on both sides over equal lines. -/
def Run.grow (as bs : List Text) (r : Run) : Run :=
  let back := commonLength (fun _ => true) (as.take r.old).reverse (bs.take r.new).reverse
  let ahead := commonLength (fun _ => true) (as.drop (r.old + r.size)) (bs.drop (r.new + r.size))
  ⟨r.old - back, r.new - back, back + r.size + ahead⟩

/-- The longest common run of the lines that pass the test, grown over the others. -/
def longestRun (ok : Text → Bool) (as bs : List Text) : Run :=
  (bestRun ok bs 0 ⟨0, 0, 0⟩ as).grow as bs

/-! ## The steps -/

/-- The steps between two lists of lines; the first argument bounds their nesting. -/
def stepsFrom (ok : Text → Bool) : Nat → List Text → List Text → List Edit
  | 0, as, bs => [.change as bs]
  | fuel + 1, as, bs =>
    let r := longestRun ok as bs
    if r.size = 0 then [.change as bs]
    else
      stepsFrom ok fuel (as.take r.old) (bs.take r.new) ++
        .keep ((as.drop r.old).take r.size) ::
          stepsFrom ok fuel (as.drop (r.old + r.size)) (bs.drop (r.new + r.size))

/-- One more step in front: a change of nothing is left out, and kept lines that
follow each other are one step. -/
def pushStep : Edit → List Edit → List Edit
  | .change [] [], steps => steps
  | .keep lines, .keep more :: steps => .keep (lines ++ more) :: steps
  | step, steps => step :: steps

/-- The line occurs so often in a long text that no run is looked for by it. -/
def isPopular (bs : List Text) (line : Text) : Bool :=
  200 ≤ bs.length && bs.length / 100 + 1 < bs.count line

/-- The steps from the old lines to the new ones. -/
def steps (as bs : List Text) : List Edit :=
  let popular := bs.filter (isPopular bs)
  (stepsFrom (fun line => !popular.contains line) (as.length + 1) as bs).foldr pushStep []

end ImportLift.Diff
