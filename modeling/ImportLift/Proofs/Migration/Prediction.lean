-- A dry run foretells the real run. The real run reads a pair after earlier
-- pairs were stored, so what it reads has to be what it was at the start. The
-- invariant of the loop says that all directories are still there, and that
-- the files of the pairs to come are untouched; it is kept because no two
-- pairs share a file.
import Mathlib.Data.List.Forall2
import ImportLift.Proofs.Migration.Pair
import ImportLift.Proofs.Scan

namespace ImportLift.Migration

open FileTree

/-! ## What is foretold and what is done -/

/-- The report of a real run agrees with that of the dry run, unless the module could not be
written or the document not deleted. -/
structure Fulfils (foretold done : Outcome) : Prop where
  pair : done.pair = foretold.pair
  diff : done.diff = foretold.diff
  result : done.result = foretold.result ∨
    (∃ detail, done.result = .error ⟨.notWritten, detail⟩) ∧ ∃ m, foretold.result = .ok m

/-- What the work on a pair leaves of its files. A converted pair has the foretold text in its
target and no document any more, one whose document could not be deleted has both, and the
files of any other pair are as they were. -/
def Leaves (before after : FileTree) (foretold done : Outcome) : Prop :=
  let target := done.pair.target.resolve
  let html := done.pair.html.resolve
  if done.ok = true then
    done.written = true ∧ ∃ m, foretold.result = .ok m ∧
      after.get? target = some (.file (Utf8.encode m.text)) ∧ after.get? html = none
  else if done.written = true then
    ∃ m, foretold.result = .ok m ∧
      after.get? target = some (.file (Utf8.encode m.text)) ∧ after.get? html = before.get? html
  else after.get? target = before.get? target ∧ after.get? html = before.get? html

/-- Only the files of the pair matter. -/
theorem Leaves.congr {before before' after after' : FileTree} {foretold done : Outcome}
    (hbefore : ∀ p ∈ done.pair.touched, before'.get? p = before.get? p)
    (hafter : ∀ p ∈ done.pair.touched, after'.get? p = after.get? p)
    (h : Leaves before after foretold done) : Leaves before' after' foretold done := by
  simp only [Pair.touched, List.mem_cons, List.not_mem_nil, or_false, forall_eq_or_imp,
    forall_eq] at hbefore hafter
  simp only [Leaves] at h ⊢
  rw [hbefore.1, hbefore.2, hafter.1, hafter.2]
  exact h

/-! ## One pair -/

section

variable {t u : FileTree} {options : Options} {layout : Layout} {pair : Pair}

theorem foreseen_congr (h : readPair u pair = readPair t pair) :
    foreseen u options layout pair = foreseen t options layout pair := by
  unfold foreseen process
  rw [h]
  cases readPair t pair with
  | error fault => rfl
  | ok texts =>
    obtain ⟨html, script⟩ := texts
    simp only
    cases Conversion.convert options layout script html pair.fileName <;> rfl

theorem readPair_congr (hhtml : u.read pair.html = t.read pair.html)
    (hscript : ∀ script, pair.script = some script → u.read script = t.read script) :
    readPair u pair = readPair t pair := by
  unfold readPair
  rw [hhtml]
  cases hs : pair.script with
  | none => rfl
  | some script => simp only [hscript script hs]

/-- A pair that stands is read as at the start, if its files and all directories are kept. -/
theorem readPair_of_kept (ht : t.WellFormed) (hstands : pair.Stands t)
    (hdirs : KeepsDirectories t u) (hkept : ∀ p ∈ pair.touched, u.get? p = t.get? p) :
    readPair u pair = readPair t pair := by
  have hread : ∀ p e, t.get? p = some e → p.resolve ∈ pair.touched → u.read p = t.read p := by
    intro p e hp hmem
    have hplain := ht.plain_of_get? hp
    refine read_of_keepsDirectories ht hp hdirs ?_
    rw [← hplain.resolve]
    exact hkept _ hmem
  obtain ⟨e, hhtml⟩ := hstands.html
  refine readPair_congr (hread _ e hhtml (by simp [Pair.touched])) fun script hs => ?_
  obtain ⟨e, hscript⟩ := hstands.script script hs
  exact hread _ e hscript (by simp [Pair.touched, Pair.target, hs])

/-- One step of a real run: the report fulfils what was foretold for the tree in front of it,
and only the files of the pair change. -/
theorem process_step (u : FileTree) (options : Options) (layout : Layout)
    (hfiles : pair.html.resolve ≠ pair.target.resolve) :
    let step := process u options layout false pair
    step.1.pair = pair ∧ Fulfils (foreseen u options layout pair) step.1 ∧
      Leaves u step.2 (foreseen u options layout pair) step.1 ∧
      SameExcept pair.touched u step.2 ∧ KeepsDirectories u step.2 := by
  intro step
  have hstep : step = _ := process_real u options layout pair
  rcases foreseen_cases u options layout pair with ⟨f, hkind, ho⟩ | ⟨m, diff, -, ho⟩
  · simp only [ho] at hstep
    rw [hstep, ho]
    exact ⟨rfl, ⟨rfl, rfl, .inl rfl⟩, ⟨rfl, rfl⟩, .refl _ _, .refl _⟩
  · simp only [ho] at hstep
    rw [hstep, ho]
    rcases store_cases u m diff hfiles with
      ⟨detail, h⟩ | ⟨detail, after, h, htarget, hsame, hdirs⟩ |
      ⟨after, h, htarget, hhtml, hsame, hdirs⟩
    · rw [h]
      exact ⟨rfl, ⟨rfl, rfl, .inr ⟨⟨detail, rfl⟩, m, rfl⟩⟩, ⟨rfl, rfl⟩, .refl _ _, .refl _⟩
    · rw [h]
      have hhtml := hsame.2 pair.html.resolve (by simpa using hfiles)
      exact ⟨rfl, ⟨rfl, rfl, .inr ⟨⟨detail, rfl⟩, m, rfl⟩⟩, ⟨m, rfl, htarget, hhtml⟩,
        hsame.mono (by simp [Pair.touched]), hdirs⟩
    · rw [h]
      exact ⟨rfl, ⟨rfl, rfl, .inl rfl⟩, ⟨rfl, m, rfl, htarget, hhtml⟩, hsame, hdirs⟩

theorem process_wellFormed (ht : t.WellFormed) (options : Options) (layout : Layout)
    (pair : Pair) : (process t options layout false pair).2.WellFormed := by
  rw [process_real]
  split
  · exact ht
  · exact store_wellFormed ht pair _ _

/-! ## All pairs -/

theorem processAll_dry (options : Options) (layout : Layout) (t : FileTree) (pairs : List Pair) :
    processAll options layout true t pairs = (pairs.map (foreseen t options layout), t) := by
  induction pairs with
  | nil => rfl
  | cons pair rest ih => simp only [processAll, process_dry, ih, List.map_cons]

/-- The invariant of a run: the tree is as systems hold them, all directories of the start are
there, and the files of the pairs to come are as they were. -/
structure Untouched (t u : FileTree) (pairs : List Pair) : Prop where
  wellFormed : u.WellFormed
  directories : KeepsDirectories t u
  files : ∀ pair ∈ pairs, ∀ p ∈ pair.touched, u.get? p = t.get? p

/-- A step keeps the invariant for the pairs behind it. -/
theorem Untouched.step {rest : List Pair} (h : Untouched t u (pair :: rest))
    (hapart : ∀ other ∈ rest, pair.Apart other) {v : FileTree} (hv : v.WellFormed)
    (hsame : SameExcept pair.touched u v) (hdirs : KeepsDirectories u v) : Untouched t v rest := by
  refine ⟨hv, h.directories.trans hdirs, fun other hother p hp => ?_⟩
  rw [hsame.2 p fun hmem => hapart other hother p hmem hp]
  exact h.files other (List.mem_cons_of_mem _ hother) p hp

/-- A real run does to each pair what a dry run from the same tree foretells, and changes no
other file. -/
theorem processAll_real (options : Options) (layout : Layout) (ht : t.WellFormed)
    {pairs : List Pair} (hapart : pairs.Pairwise Pair.Apart)
    (hstands : ∀ pair ∈ pairs, pair.Stands t) (huntouched : Untouched t u pairs) :
    let ended := processAll options layout false u pairs
    List.Forall₂ (fun foretold done => Fulfils foretold done ∧ Leaves t ended.2 foretold done)
        (pairs.map (foreseen t options layout)) ended.1 ∧
      ended.1.map (·.pair) = pairs ∧ SameExcept (pairs.flatMap (·.touched)) u ended.2 ∧
      ended.2.WellFormed := by
  induction pairs generalizing u with
  | nil => exact ⟨.nil, rfl, .refl _ _, huntouched.wellFormed⟩
  | cons pair rest ih =>
    rw [List.pairwise_cons] at hapart
    have hstand := hstands pair List.mem_cons_self
    have hread := readPair_of_kept ht hstand huntouched.directories
      (huntouched.files pair List.mem_cons_self)
    obtain ⟨hpair, hfulfils, hleaves, hsame, hdirs⟩ :=
      process_step u options layout hstand.apart
    rw [foreseen_congr hread] at hfulfils hleaves
    have hwellFormed := process_wellFormed huntouched.wellFormed options layout pair
    obtain ⟨houtcomes, hpairs, hrest, hended⟩ := ih hapart.2
      (fun other hother => hstands other (List.mem_cons_of_mem _ hother))
      (huntouched.step hapart.1 hwellFormed hsame hdirs)
    simp only [processAll, List.map_cons, List.flatMap_cons]
    refine ⟨.cons ⟨hfulfils, ?_⟩ houtcomes, by rw [hpair, hpairs], hsame.trans hrest, hended⟩
    -- The pairs behind leave the files of this one as the step left them.
    refine hleaves.congr ?_ ?_
    · rw [hpair]
      intro p hp
      exact (huntouched.files pair List.mem_cons_self p hp).symm
    · rw [hpair]
      intro p hp
      refine hrest.2 p fun hmem => ?_
      obtain ⟨other, hother, hp'⟩ := List.mem_flatMap.mp hmem
      exact hapart.1 other hother p hp hp'

end

/-! ## What a run has to do -/

section

variable {t : FileTree}

theorem workOnFile_cases {file : Path} {work : Work} (h : workOnFile t file = .ok work) :
    (file.hasSuffix ".html" = true ∧ ∃ found, t.probe (file.withSuffix ".js") = .ok found ∧
      work = .single ⟨file, if found.isSome then some (file.withSuffix ".js") else none⟩) ∨
    (file.hasSuffix ".html" = false ∧ ∃ e, t.probe (companion file) = .ok (some e) ∧
      work = .single ⟨companion file, some file⟩) ∨
    work = .incomplete ⟨companion file, some file⟩ := by
  simp only [workOnFile] at h
  split at h
  · rename_i hhtml
    cases hprobe : t.probe (file.withSuffix ".js") with
    | error fault =>
      rw [hprobe] at h
      cases h
    | ok found =>
      rw [hprobe] at h
      cases h
      exact .inl ⟨hhtml, found, rfl, rfl⟩
  · rename_i hhtml
    cases hprobe : t.probe (companion file) with
    | error fault =>
      rw [hprobe] at h
      cases h
    | ok found =>
      rw [hprobe] at h
      cases h
      cases found with
      | none => exact .inr (.inr rfl)
      | some e => exact .inr (.inl ⟨by simpa using hhtml, e, rfl, rfl⟩)

/-- The pair of a file that is there stands. -/
theorem workOnFile_stands (ht : t.WellFormed) {file : Path} (hfile : t.isFile file = true)
    {work : Work} (h : workOnFile t file = .ok work) :
    work.pairs.Pairwise Pair.Apart ∧ ∀ pair ∈ work.pairs, pair.Stands t := by
  obtain ⟨bytes, hget⟩ := isFile_iff.mp hfile
  have hplain := ht.plain_of_get? hget
  have hne := ne_nil_of_isFile hfile
  rcases workOnFile_cases h with ⟨hhtml, found, hprobe, rfl⟩ | ⟨hhtml, e, hprobe, rfl⟩ | rfl
  · have hscript := (hplain.withSuffix ".js" (by decide)).resolve
    refine ⟨List.pairwise_singleton _ _, ?_⟩
    simp only [Work.pairs, List.mem_singleton, forall_eq]
    refine ⟨⟨_, hget⟩, ?_, ?_⟩
    · rintro script hfound
      cases found with
      | none => cases hfound
      | some e =>
        cases hfound
        exact ⟨e, hscript ▸ probe_eq_some hprobe⟩
    · have htarget : Pair.target
          ⟨file, if found.isSome then some (file.withSuffix ".js") else none⟩ =
            file.withSuffix ".js" := by
        cases found <;> rfl
      rw [htarget, hplain.resolve, hscript]
      intro hsame
      rw [Path.hasSuffix, Path.suffix_of_withSuffix hne hsame.symm] at hhtml
      exact absurd hhtml (by decide)
  · have hdocument : (companion file).resolve = companion file :=
      (hplain.withSuffix ".html" (by decide)).resolve
    refine ⟨List.pairwise_singleton _ _, ?_⟩
    simp only [Work.pairs, List.mem_singleton, forall_eq]
    have hthere := probe_eq_some hprobe
    rw [hdocument] at hthere
    refine ⟨⟨e, hthere⟩, ?_, ?_⟩
    · rintro script ⟨⟩
      exact ⟨_, hget⟩
    · rw [Pair.target, Option.getD_some, hplain.resolve, hdocument]
      intro hsame
      rw [Path.hasSuffix, Path.suffix_of_withSuffix hne hsame] at hhtml
      exact absurd hhtml (by decide)
  · exact ⟨.nil, by simp [Work.pairs]⟩

theorem plan_eq_ok {request : Request} {p : Plan} (h : plan t request = .ok p) :
    p.root = request.path.resolve ∧ ∃ entry settings,
      t.probe p.root = .ok (some entry) ∧
      Settings.load t p.root.render (if entry = .directory then p.root else p.root.parent) =
        .ok settings ∧
      p.options = request.options.getD
        (settings.options.withLibrarySegment request.librarySegment) ∧
      workOn t p.root (entry = .directory) (request.exclude.getD settings.exclude) =
        .ok p.work := by
  simp only [plan] at h
  split at h
  · cases h
  split at h
  · cases h
  · cases h
  rename_i entry hprobe
  split at h
  · cases h
  rename_i settings hsettings
  split at h
  · cases h
  rename_i work hwork
  cases h
  exact ⟨rfl, entry, settings, hprobe, by simpa using hsettings, rfl, hwork⟩

/-- No two files below the directory are equal in lower case. -/
def KeysDifferBelow (t : FileTree) (root : Path) : Prop :=
  ∀ p q : Path, root <+: p → root <+: q → t.isFile p = true → t.isFile q = true →
    p.key = q.key → p = q

end

/-! ## The law -/

theorem processAll_foretold {t : FileTree} (ht : t.WellFormed) (options : Options)
    (layout : Layout) {pairs : List Pair} (hapart : pairs.Pairwise Pair.Apart)
    (hstands : ∀ pair ∈ pairs, pair.Stands t) :
    ∃ foretold done after,
      processAll options layout true t pairs = (foretold, t) ∧
      processAll options layout false t pairs = (done, after) ∧
      foretold.map (·.pair) = pairs ∧ done.map (·.pair) = pairs ∧
      List.Forall₂ (fun f d => Fulfils f d ∧ Leaves t after f d) foretold done ∧
      SameExcept (pairs.flatMap (·.touched)) t after ∧ after.WellFormed := by
  have hstart : Untouched t t pairs := ⟨ht, .refl t, fun _ _ _ _ => rfl⟩
  obtain ⟨houtcomes, hpairs, hsame⟩ :=
    processAll_real options layout ht hapart hstands hstart
  refine ⟨_, _, _, processAll_dry options layout t pairs, rfl, ?_, hpairs, houtcomes, hsame⟩
  simp [Function.comp_def, foreseen_pair]

end ImportLift.Migration
