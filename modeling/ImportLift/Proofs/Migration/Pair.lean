-- The laws of the work on one pair. A dry run says what the pair would become
-- and changes nothing; a real run does the same work and then stores what was
-- foreseen. Storing sets the target first and clears the document last, so
-- that each way to end has its own report and its own effect on the tree.
import Mathlib.Logic.ExistsUnique
import ImportLift.Migration
import ImportLift.Proofs.Conversion
import ImportLift.Proofs.FileTree

namespace ImportLift.Migration

open FileTree

/-! ## What is foreseen -/

/-- The pair can be read, and its texts are converted to the module. -/
def Becomes (t : FileTree) (options : Options) (layout : Layout) (pair : Pair) (m : Module) :
    Prop :=
  ∃ html script, readPair t pair = .ok (html, script) ∧
    Conversion.convert options layout script html pair.fileName = .ok m

/-- What a dry run says of a pair. -/
def foreseen (t : FileTree) (options : Options) (layout : Layout) (pair : Pair) : Outcome :=
  (process t options layout true pair).1

theorem unread_kind (fault : ReadFault) : (unread fault).kind ≠ .notWritten := by
  unfold unread
  split <;> simp

section

variable (t : FileTree) (options : Options) (layout : Layout) (pair : Pair)

theorem process_dry : process t options layout true pair = (foreseen t options layout pair, t) := by
  unfold foreseen process
  split
  · rfl
  · split <;> rfl

/-- A real run stores what a dry run foresees. -/
theorem process_real :
    process t options layout false pair =
      match (foreseen t options layout pair).result with
      | .error _ => (foreseen t options layout pair, t)
      | .ok m => store t pair m (foreseen t options layout pair).diff := by
  unfold foreseen process
  cases hread : readPair t pair with
  | error fault => rfl
  | ok texts =>
    obtain ⟨html, script⟩ := texts
    simp only
    cases Conversion.convert options layout script html pair.fileName <;> rfl

theorem foreseen_cases :
    (∃ f, f.kind ≠ .notWritten ∧ foreseen t options layout pair = ⟨pair, .error f, [], false⟩) ∨
    (∃ m diff, Becomes t options layout pair m ∧
      foreseen t options layout pair = ⟨pair, .ok m, diff, false⟩) := by
  unfold foreseen process Becomes
  cases readPair t pair with
  | error fault => exact .inl ⟨unread fault, unread_kind fault, rfl⟩
  | ok texts =>
    obtain ⟨html, script⟩ := texts
    cases hm : Conversion.convert options layout script html pair.fileName with
    | error f => exact .inl ⟨f, Conversion.kind_ne_notWritten hm, by simp [hm]⟩
    | ok m => exact .inr ⟨m, _, ⟨html, script, rfl, hm⟩, by simp [hm]; rfl⟩

theorem foreseen_pair : (foreseen t options layout pair).pair = pair := by
  rcases foreseen_cases t options layout pair with ⟨f, -, h⟩ | ⟨m, diff, -, h⟩
  · rw [h]
  · rw [h]

end

/-! ## What is stored -/

/-- Storing writes nothing, or sets the target to the module, or also clears the document. -/
theorem store_cases (t : FileTree) {pair : Pair} (m : Module) (diff : Text)
    (hfiles : pair.html.resolve ≠ pair.target.resolve) :
    let target := pair.target.resolve
    let html := pair.html.resolve
    (∃ detail, store t pair m diff = (⟨pair, .error ⟨.notWritten, detail⟩, diff, false⟩, t)) ∨
    (∃ detail after,
      store t pair m diff = (⟨pair, .error ⟨.notWritten, detail⟩, diff, true⟩, after) ∧
      after.get? target = some (.file (Utf8.encode m.text)) ∧
      SameExcept [target] t after ∧ KeepsDirectories t after) ∨
    (∃ after, store t pair m diff = (⟨pair, .ok m, diff, true⟩, after) ∧
      after.get? target = some (.file (Utf8.encode m.text)) ∧ after.get? html = none ∧
      SameExcept [target, html] t after ∧ KeepsDirectories t after) := by
  intro target html
  unfold store
  cases hwrite : t.write pair.target m.text with
  | error fault => exact .inl ⟨_, rfl⟩
  | ok written =>
    refine .inr ?_
    obtain ⟨-, htarget, hput⟩ := write_eq_ok hwrite
    have hset : written.get? target = some (.file (Utf8.encode m.text)) := by
      rw [hput, get?_put_self _ (ne_nil_of_isDirectory htarget)]
    have hsame : SameExcept [target] t written := hput ▸ sameExcept_put _ _ _
    have hdirs : KeepsDirectories t written := hput ▸ keepsDirectories_put htarget _
    simp only
    cases hdelete : written.delete pair.html with
    | error fault => exact .inl ⟨_, written, rfl, hset, hsame, hdirs⟩
    | ok cleared =>
      obtain ⟨hhtml, rfl⟩ := delete_eq_ok hdelete
      refine .inr ⟨_, rfl, ?_, get?_erase_self _ (ne_nil_of_isFile hhtml), ?_, ?_⟩
      · rw [get?_erase_of_ne _ hfiles.symm]
        exact hset
      · exact hsame.trans (sameExcept_erase _ _)
      · exact hdirs.trans (keepsDirectories_erase hhtml)

theorem store_wellFormed {t : FileTree} (ht : t.WellFormed) (pair : Pair) (m : Module)
    (diff : Text) : (store t pair m diff).2.WellFormed := by
  unfold store
  split
  · exact ht
  · rename_i written hwrite
    split
    · exact ht.write hwrite
    · rename_i cleared hdelete
      exact (ht.write hwrite).delete hdelete

/-! ## The ways to end -/

/-- The ways in which the work on a pair ends. -/
inductive Ending
  /-- The pair cannot be read or converted. -/
  | refused
  /-- A dry run says what the module would be. -/
  | foretold
  /-- The module is written and the document deleted. -/
  | converted
  /-- The module cannot be written. -/
  | unwritten
  /-- The module is written, but the document cannot be deleted. -/
  | undeleted
deriving DecidableEq, Repr

namespace Ending

/-- What is reported and what the tree holds, for each way to end. -/
def Holds (before : FileTree) (options : Options) (dryRun : Bool) (pair : Pair) (o : Outcome)
    (after : FileTree) : Ending → Prop
  | refused =>
    (∃ f, o.result = .error f ∧ f.kind ≠ .notWritten) ∧ o.written = false ∧ after = before
  | foretold =>
    dryRun = true ∧ (∃ m, o.result = .ok m ∧ Becomes before options .ofModules pair m) ∧
      o.written = false ∧ after = before
  | converted =>
    dryRun = false ∧ o.written = true ∧
      ∃ m, o.result = .ok m ∧ Becomes before options .ofModules pair m ∧
        after.get? pair.target.resolve = some (.file (Utf8.encode m.text)) ∧
        after.get? pair.html.resolve = none ∧
        SameExcept [pair.target.resolve, pair.html.resolve] before after
  | unwritten =>
    dryRun = false ∧ (∃ f, o.result = .error f ∧ f.kind = .notWritten) ∧ o.written = false ∧
      after = before
  | undeleted =>
    dryRun = false ∧ (∃ f, o.result = .error f ∧ f.kind = .notWritten) ∧ o.written = true ∧
      ∃ m, Becomes before options .ofModules pair m ∧
        after.get? pair.target.resolve = some (.file (Utf8.encode m.text)) ∧
        after.get? pair.html.resolve = before.get? pair.html.resolve ∧
        SameExcept [pair.target.resolve] before after

/-- The way to end that a report tells. -/
def told (o : Outcome) : Ending :=
  match o.result, o.written with
  | .ok _, false => foretold
  | .ok _, true => converted
  | .error f, written =>
    if f.kind ≠ .notWritten then refused else if written then undeleted else unwritten

variable {before after : FileTree} {options : Options} {dryRun : Bool} {pair : Pair} {o : Outcome}

end Ending

end ImportLift.Migration
