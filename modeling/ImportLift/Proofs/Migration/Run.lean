-- What a run does to the tree, whatever the pairs share. A step that reports
-- nothing written leaves the tree as it was; any other sets the target of its
-- pair to the module and at most clears the document. So a run changes only
-- files of pairs that it reports as written, and what it leaves in a target is
-- the module of a pair as that stood at the start: a pair whose document was
-- cleared in between is not written. A run on a directory works on the pairs
-- of a scan.
import ImportLift.Proofs.Collision
import ImportLift.Proofs.Migration.Prediction
import ImportLift.Proofs.Scan.Listing

namespace ImportLift

/-- The work on the first pair leaves what the second is read from, but for a document that they
share. -/
structure Pair.Yields (a b : Pair) : Prop where
  html : b.html.resolve ≠ a.target.resolve
  script : ∀ script, b.script = some script → script.resolve ∉ a.touched

namespace Migration

open FileTree

/-! ## One step -/

/-- What one step can do: it reports nothing written and leaves the tree, or it sets the target
to what the pair becomes and keeps or clears the document. -/
theorem process_cases (u : FileTree) (options : Options) (layout : Layout) {pair : Pair}
    (hfiles : pair.html.resolve ≠ pair.target.resolve) :
    let step := process u options layout false pair
    (step.1.written = false ∧ step.2 = u) ∨
    (step.1.written = true ∧ ∃ m, Becomes u options layout pair m ∧
      step.2.get? pair.target.resolve = some (.file (Utf8.encode m.text)) ∧
      (step.2.get? pair.html.resolve = u.get? pair.html.resolve ∨
        step.2.get? pair.html.resolve = none)) := by
  intro step
  have hstep : step = _ := process_real u options layout pair
  rcases foreseen_cases u options layout pair with ⟨f, -, ho⟩ | ⟨m, diff, hm, ho⟩
  · simp only [ho] at hstep
    rw [hstep]
    exact .inl ⟨rfl, rfl⟩
  · simp only [ho] at hstep
    rw [hstep]
    rcases store_cases u m diff hfiles with
      ⟨detail, h⟩ | ⟨detail, after, h, htarget, hsame, -⟩ | ⟨after, h, htarget, hhtml, -, -⟩
    · rw [h]
      exact .inl ⟨rfl, rfl⟩
    · rw [h]
      exact .inr ⟨rfl, m, hm, htarget, .inl (hsame.2 _ (by simpa using hfiles))⟩
    · rw [h]
      exact .inr ⟨rfl, m, hm, htarget, .inr hhtml⟩

theorem process_pair (u : FileTree) (options : Options) (layout : Layout) (dryRun : Bool)
    (pair : Pair) : (process u options layout dryRun pair).1.pair = pair := by
  cases dryRun with
  | true =>
    rw [process_dry]
    exact foreseen_pair u options layout pair
  | false =>
    rw [process_real]
    split
    · exact foreseen_pair u options layout pair
    · unfold store
      split
      · rfl
      · split <;> rfl

/-! ## All steps -/

theorem processAll_pairs (u : FileTree) (options : Options) (layout : Layout) (dryRun : Bool)
    (pairs : List Pair) :
    (processAll options layout dryRun u pairs).1.map (·.pair) = pairs := by
  induction pairs generalizing u with
  | nil => rfl
  | cons pair rest ih => simp only [processAll, List.map_cons, process_pair, ih]

/-- A run keeps the directories, and what it changes it reports as written. -/
theorem processAll_frame (u : FileTree) (options : Options) (layout : Layout) {pairs : List Pair}
    (hfiles : ∀ pair ∈ pairs, pair.html.resolve ≠ pair.target.resolve) :
    let ended := processAll options layout false u pairs
    KeepsDirectories u ended.2 ∧
      ∀ p, ended.2.get? p ≠ u.get? p → ∃ o ∈ ended.1, o.written = true ∧ p ∈ o.pair.touched := by
  induction pairs generalizing u with
  | nil => exact ⟨.refl u, fun p hp => absurd rfl hp⟩
  | cons pair rest ih =>
    have hpair := hfiles pair List.mem_cons_self
    obtain ⟨-, -, -, hsame, hdirs⟩ := process_step u options layout hpair
    have hcases := process_cases u options layout hpair
    obtain ⟨hrest, hchanged⟩ := ih (process u options layout false pair).2
      fun other hother => hfiles other (List.mem_cons_of_mem _ hother)
    simp only [processAll]
    refine ⟨hdirs.trans hrest, fun p hp => ?_⟩
    by_cases hstep : (process u options layout false pair).2.get? p = u.get? p
    · rw [← hstep] at hp
      obtain ⟨o, ho, hwritten, htouched⟩ := hchanged p hp
      exact ⟨o, List.mem_cons_of_mem _ ho, hwritten, htouched⟩
    · refine ⟨_, List.mem_cons_self, ?_, ?_⟩
      · rcases hcases with ⟨-, hleft⟩ | ⟨hwritten, -⟩
        · exact absurd (by rw [hleft]) hstep
        · exact hwritten
      · rw [process_pair]
        by_contra hnot
        exact hstep (hsame.2 p hnot)

theorem processAll_wellFormed {u : FileTree} (hu : u.WellFormed) (options : Options)
    (layout : Layout) (pairs : List Pair) :
    (processAll options layout false u pairs).2.WellFormed := by
  induction pairs generalizing u with
  | nil => exact hu
  | cons pair rest ih => exact ih (process_wellFormed hu options layout pair)

/-! ## Targets -/

section

variable {t u : FileTree} {options : Options} {layout : Layout} {pair : Pair} {rest : List Pair}

/-- The invariant of a run: all directories are there, and of the pairs to come each script is as
it was, and each document too unless it was cleared. -/
structure Fresh (t u : FileTree) (pairs : List Pair) : Prop where
  directories : KeepsDirectories t u
  html : ∀ pair ∈ pairs, u.get? pair.html.resolve = t.get? pair.html.resolve ∨
    u.get? pair.html.resolve = none
  script : ∀ pair ∈ pairs, ∀ script, pair.script = some script →
    u.get? script.resolve = t.get? script.resolve

theorem read_of_readPair {texts : Text × Option Text} (h : readPair u pair = .ok texts) :
    ∃ text, u.read pair.html = .ok text := by
  unfold readPair at h
  cases hread : u.read pair.html with
  | error fault =>
    rw [hread] at h
    cases h
  | ok text => exact ⟨text, rfl⟩

/-- A pair that can still be read is read as at the start. -/
theorem Fresh.readPair (ht : t.WellFormed) (hstands : pair.Stands t)
    (h : Fresh t u (pair :: rest)) {texts : Text × Option Text}
    (hread : readPair u pair = .ok texts) : readPair t pair = .ok texts := by
  have hsame : ∀ p e, t.get? p = some e → u.get? p.resolve = t.get? p.resolve →
      u.read p = t.read p := by
    intro p e hp hkept
    rw [(ht.plain_of_get? hp).resolve] at hkept
    exact read_of_keepsDirectories ht hp h.directories hkept
  obtain ⟨e, hhtml⟩ := hstands.html
  rw [← hread]
  refine (readPair_congr (hsame _ e hhtml ?_) fun script hs => ?_).symm
  · rcases h.html pair List.mem_cons_self with hkept | hcleared
    · exact hkept
    · -- Without its document the pair could not be read.
      obtain ⟨text, htext⟩ := read_of_readPair hread
      have hfile := isFile_of_read htext
      rw [isFile, hcleared] at hfile
      cases hfile
  · obtain ⟨e, hscript⟩ := hstands.script script hs
    exact hsame _ e hscript (h.script pair List.mem_cons_self script hs)

theorem Fresh.step (h : Fresh t u (pair :: rest)) (hyields : ∀ other ∈ rest, pair.Yields other)
    (hfiles : pair.html.resolve ≠ pair.target.resolve) (options : Options) (layout : Layout) :
    Fresh t (process u options layout false pair).2 rest := by
  obtain ⟨-, -, -, hsame, hdirs⟩ := process_step u options layout hfiles
  refine ⟨h.directories.trans hdirs, fun other hother => ?_, fun other hother script hs => ?_⟩
  · by_cases hshared : other.html.resolve = pair.html.resolve
    · rcases process_cases u options layout hfiles with ⟨-, hleft⟩ | ⟨-, m, -, -, hkept | hcleared⟩
      · rw [hleft]
        exact h.html other (List.mem_cons_of_mem _ hother)
      · rw [hshared, hkept, ← hshared]
        exact h.html other (List.mem_cons_of_mem _ hother)
      · rw [hshared]
        exact .inr hcleared
    · rw [hsame.2 _ (by simp [Pair.touched, hshared, (hyields other hother).html])]
      exact h.html other (List.mem_cons_of_mem _ hother)
  · rw [hsame.2 _ ((hyields other hother).script script hs)]
    exact h.script other (List.mem_cons_of_mem _ hother) script hs

theorem Becomes.of_fresh (ht : t.WellFormed) (hstands : pair.Stands t)
    (h : Fresh t u (pair :: rest)) {m : Module} (hm : Becomes u options layout pair m) :
    Becomes t options layout pair m := by
  obtain ⟨html, script, hread, hconvert⟩ := hm
  exact ⟨html, script, h.readPair ht hstands hread, hconvert⟩

/-- A path that is no document of a run holds what it held, or the module of the last pair that
was written to it. -/
theorem processAll_target (ht : t.WellFormed) (options : Options) (layout : Layout)
    {pairs : List Pair} (hstands : ∀ pair ∈ pairs, pair.Stands t)
    (hyields : pairs.Pairwise Pair.Yields) (hfresh : Fresh t u pairs) {p : Path}
    (hp : ∀ pair ∈ pairs, p ≠ pair.html.resolve) :
    let ended := processAll options layout false u pairs
    (ended.2.get? p = u.get? p ∧
      ∀ o ∈ ended.1, o.written = true → o.pair.target.resolve ≠ p) ∨
    ∃ o ∈ ended.1, ∃ m, o.written = true ∧ o.pair.target.resolve = p ∧
      Becomes t options layout o.pair m ∧
      ended.2.get? p = some (.file (Utf8.encode m.text)) := by
  induction pairs generalizing u with
  | nil => exact .inl ⟨rfl, by simp [processAll]⟩
  | cons pair rest ih =>
    rw [List.pairwise_cons] at hyields
    have hstand := hstands pair List.mem_cons_self
    obtain ⟨-, -, -, hsame, -⟩ := process_step u options layout hstand.apart
    have hpair := process_pair u options layout false pair
    have hcases := process_cases u options layout hstand.apart
    have hrest := ih (fun other hother => hstands other (List.mem_cons_of_mem _ hother)) hyields.2
      (hfresh.step hyields.1 hstand.apart options layout)
      (fun other hother => hp other (List.mem_cons_of_mem _ hother))
    simp only [processAll]
    rcases hrest with ⟨hkept, hnone⟩ | ⟨o, ho, m, hwritten, htarget, hm, hget⟩
    · rcases hcases with ⟨hunwritten, hleft⟩ | ⟨hwritten, m, hm, hset, -⟩
      · left
        refine ⟨by rw [hkept, hleft], ?_⟩
        simp only [List.mem_cons, forall_eq_or_imp, hunwritten]
        exact ⟨fun h => absurd h (by decide), hnone⟩
      · by_cases htarget : pair.target.resolve = p
        · right
          refine ⟨_, List.mem_cons_self, m, hwritten, by rw [hpair, htarget], ?_, ?_⟩
          · rw [hpair]
            exact hm.of_fresh ht hstand hfresh
          · rw [hkept, ← htarget, hset]
        · left
          refine ⟨?_, ?_⟩
          · rw [hkept, hsame.2 p]
            simp [Pair.touched, Ne.symm htarget, hp pair List.mem_cons_self]
          · simp only [List.mem_cons, forall_eq_or_imp, hpair]
            exact ⟨fun _ => htarget, hnone⟩
    · exact .inr ⟨o, List.mem_cons_of_mem _ ho, m, hwritten, htarget, hm, hget⟩

end

/-! ## Runs -/

section

variable {t : FileTree} {request : Request}

theorem run_eq_ok {ended : Report × FileTree} (h : run t request = .ok ended) :
    ∃ p layout, plan t request = .ok p ∧ layoutFor t p = .ok layout ∧
      carryOut t p layout request.dryRun = ended := by
  unfold run at h
  cases hplan : plan t request with
  | error trouble =>
    rw [hplan] at h
    cases h
  | ok p =>
    simp only [hplan, bind, Except.bind] at h
    cases hlayout : layoutFor t p with
    | error fault =>
      rw [hlayout] at h
      cases h
    | ok layout =>
      rw [hlayout] at h
      exact ⟨p, layout, rfl, hlayout, Except.ok.inj h⟩

theorem run_of_plan {p : Plan} {layout : Layout} (hplan : plan t request = .ok p)
    (hlayout : layoutFor t p = .ok layout) :
    run t request = .ok (carryOut t p layout request.dryRun) := by
  simp only [run, hplan, bind, Except.bind, hlayout, pure, Except.pure]

/-! ## The pairs of a run -/

theorem pairs_yield (ht : t.WellFormed) (root : Path) (exclude : List Text) :
    (Scan.pairs t (Scan.files t root exclude)).Pairwise Pair.Yields := by
  refine (Scan.pairs_share t (Scan.files_nodup ht)).imp_of_mem ?_
  intro a b ha hb hshares
  have hatouched := Scan.touched_of_mem_pairs ht ha
  have hbtouched := Scan.touched_of_mem_pairs ht hb
  simp only [Pair.touched, List.cons.injEq, and_true] at hatouched hbtouched
  refine ⟨?_, fun script hs => ?_⟩
  · rw [hbtouched.2, hatouched.1]
    exact hshares.crosswise.2.symm
  · have htarget : b.target = script := by simp [Pair.target, hs]
    simp only [Pair.touched, hatouched, ← htarget, hbtouched, List.mem_cons, List.not_mem_nil,
      or_false, not_or]
    refine ⟨fun hsame => ?_, hshares.crosswise.1.symm⟩
    rw [(hshares.target hsame.symm).2.1] at hs
    cases hs

/-- The pairs of any run stand and yield to each other, and their documents are named so. -/
theorem plan_pairs (ht : t.WellFormed) {p : Plan} (h : plan t request = .ok p) :
    p.work.pairs.Pairwise Pair.Yields ∧ (∀ pair ∈ p.work.pairs, pair.Stands t) ∧
      ∀ pair ∈ p.work.pairs, ∃ stem, pair.html.resolve.key = stem ++ ".html" := by
  obtain ⟨hroot, entry, settings, hprobe, -, -, hwork⟩ := plan_eq_ok h
  have hplain := Path.resolve_isPlain request.path
  have hentry := probe_eq_some hprobe
  rw [← hroot] at hplain
  rw [hplain.resolve] at hentry
  cases entry with
  | directory =>
    simp only [workOn, decide_true, if_true, Except.ok.injEq] at hwork
    rw [← hwork]
    refine ⟨pairs_yield ht _ _, Scan.pairs_stand ht, fun pair hpair => ?_⟩
    obtain ⟨⟨stem, hstem⟩, -⟩ := Scan.mem_pairs hpair
    have htouched := Scan.touched_of_mem_pairs ht hpair
    simp only [Pair.touched, List.cons.injEq, and_true] at htouched
    exact ⟨stem, by rw [htouched.2, hstem.html]⟩
  | file bytes =>
    simp only [workOn] at hwork
    refine ⟨?_, (workOnFile_stands ht (isFile_iff.mpr ⟨bytes, hentry⟩) hwork).2, ?_⟩
    · rcases workOnFile_cases hwork with ⟨-, found, -, h⟩ | ⟨-, e, -, h⟩ | h
      · simp [h, Work.pairs]
      · simp [h, Work.pairs]
      · simp [h, Work.pairs]
    · rcases workOnFile_cases hwork with ⟨hhtml, found, -, h⟩ | ⟨-, e, -, h⟩ | h
      · simp only [h, Work.pairs, List.mem_singleton, forall_eq, hplain.resolve]
        exact ⟨_, Path.key_of_hasSuffix hhtml (by decide)⟩
      · simp only [h, Work.pairs, List.mem_singleton, forall_eq, companion,
          (hplain.withSuffix ".html" (by decide)).resolve]
        exact ⟨_, Path.key_withDocument p.root⟩
      · simp [h, Work.pairs]

/-! ## What a run leaves -/

variable {report : Report} {after : FileTree}

theorem foreseen_written (t : FileTree) (options : Options) (layout : Layout) (pair : Pair) :
    (foreseen t options layout pair).written = false := by
  rcases foreseen_cases t options layout pair with ⟨f, -, h⟩ | ⟨m, diff, -, h⟩
  · rw [h]
  · rw [h]

/-- A plan that is carried out writes nothing and says so, or it is the work on its pairs. -/
theorem carryOut_cases (t : FileTree) (p : Plan) (layout : Layout) (dryRun : Bool) :
    let ended := carryOut t p layout dryRun
    (ended.2 = t ∧ ∀ o ∈ ended.1.outcomes, o.written = false) ∨
    processAll p.options layout false t p.work.pairs = (ended.1.outcomes, ended.2) := by
  have hdry : ∀ pairs, ∀ o ∈ (processAll p.options layout true t pairs).1, o.written = false := by
    intro pairs o ho
    rw [processAll_dry] at ho
    obtain ⟨pair, -, rfl⟩ := List.mem_map.mp ho
    exact foreseen_written t p.options layout pair
  unfold carryOut
  cases p.work with
  | incomplete pair => exact .inl ⟨rfl, by simp [incompleteOutcome]⟩
  | tree pairs =>
    cases dryRun with
    | true => exact .inl ⟨by simp only [processAll_dry], hdry pairs⟩
    | false => exact .inr rfl
  | single pair =>
    cases dryRun with
    | true => exact .inl ⟨by simp only [processAll_dry], hdry [pair]⟩
    | false => exact .inr rfl

theorem run_cases (h : run t request = .ok (report, after)) :
    ∃ p layout, plan t request = .ok p ∧ layoutFor t p = .ok layout ∧
      ((after = t ∧ ∀ o ∈ report.outcomes, o.written = false) ∨
        processAll p.options layout false t p.work.pairs = (report.outcomes, after)) := by
  obtain ⟨p, layout, hplan, hlayout, hended⟩ := run_eq_ok h
  have hcases := carryOut_cases t p layout request.dryRun
  rw [hended] at hcases
  exact ⟨p, layout, hplan, hlayout, hcases⟩

theorem run_wellFormed (ht : t.WellFormed) (h : run t request = .ok (report, after)) :
    after.WellFormed := by
  obtain ⟨p, layout, -, -, ⟨rfl, -⟩ | hwork⟩ := run_cases h
  · exact ht
  · have hafter := processAll_wellFormed ht p.options layout p.work.pairs
    rw [hwork] at hafter
    exact hafter

/-- A run changes only files of pairs that it reports as written. -/
theorem run_changes (ht : t.WellFormed) (h : run t request = .ok (report, after)) {p : Path}
    (hp : after.get? p ≠ t.get? p) :
    ∃ o ∈ report.outcomes, o.written = true ∧ p ∈ o.pair.touched := by
  obtain ⟨plan, layout, hplan, -, ⟨rfl, -⟩ | hwork⟩ := run_cases h
  · exact absurd rfl hp
  · obtain ⟨-, hstands, -⟩ := plan_pairs ht hplan
    obtain ⟨-, hchanged⟩ := processAll_frame t plan.options layout
      fun pair hpair => (hstands pair hpair).apart
    rw [hwork] at hchanged
    exact hchanged p hp

/-- The run reports that it wrote to the path, and the path holds the module of that pair as it
stood before the run. -/
def Converts (t : FileTree) (request : Request) (report : Report) (after : FileTree) (p : Path) :
    Prop :=
  ∃ plan layout, Migration.plan t request = .ok plan ∧ layoutFor t plan = .ok layout ∧
    ∃ o ∈ report.outcomes, ∃ m, o.written = true ∧ o.pair.target.resolve = p ∧
      Becomes t plan.options layout o.pair m ∧ after.get? p = some (.file (Utf8.encode m.text))

/-- A path that is named like a script is as before if no pair was written to it, and else it
was converted. -/
theorem run_target (ht : t.WellFormed) (h : run t request = .ok (report, after)) {p : Path}
    {stem : Text} (hp : p.key = stem ++ ".js") :
    (after.get? p = t.get? p ∧
      ∀ o ∈ report.outcomes, o.written = true → o.pair.target.resolve ≠ p) ∨
    Converts t request report after p := by
  obtain ⟨plan, layout, hplan, hlayout, ⟨rfl, hnone⟩ | hwork⟩ := run_cases h
  · refine .inl ⟨rfl, fun o ho hwritten => ?_⟩
    rw [hnone o ho] at hwritten
    cases hwritten
  · obtain ⟨hyields, hstands, hhtml⟩ := plan_pairs ht hplan
    have hfresh : Fresh t t plan.work.pairs :=
      ⟨.refl t, fun _ _ => .inl rfl, fun _ _ _ _ => rfl⟩
    have hne : ∀ pair ∈ plan.work.pairs, p ≠ pair.html.resolve := by
      rintro pair hpair rfl
      obtain ⟨stem', hstem'⟩ := hhtml pair hpair
      exact Pair.html_ne_script stem' stem (hstem'.symm.trans hp)
    have hcases := processAll_target ht plan.options layout hstands hyields hfresh hne
    rw [hwork] at hcases
    rcases hcases with hkept | hconverted
    · exact .inl hkept
    · exact .inr ⟨plan, layout, hplan, hlayout, hconverted⟩

/-! ## Runs on a directory -/

/-- The options of a run. -/
def Request.optionsBy (request : Request) (settings : Settings) : Options :=
  request.options.getD (settings.options.withLibrarySegment request.librarySegment)

/-- The globs that exclude files from a run. -/
def Request.excludeBy (request : Request) (settings : Settings) : List Text :=
  request.exclude.getD settings.exclude

/-- The pairs that a run on a directory works on. -/
def Request.pairsIn (request : Request) (t : FileTree) (settings : Settings) : List Pair :=
  Scan.pairs t (Scan.files t request.path.resolve (request.excludeBy settings))

/-- The directory of a run can be asked for, and its settings can be read. -/
structure Starts (t : FileTree) (request : Request) (settings : Settings) : Prop where
  path : request.path.any Path.isImpossible = false
  directory : t.probe request.path.resolve = .ok (some .directory)
  settings : Settings.load t request.path.resolve.render request.path.resolve = .ok settings

variable {settings : Settings}

theorem Starts.plan (h : Starts t request settings) :
    plan t request = .ok
      ⟨request.path.resolve, request.optionsBy settings, .tree (request.pairsIn t settings)⟩ := by
  simp [Migration.plan, h.path, h.directory, h.settings, workOn, Request.optionsBy,
    Request.pairsIn, Request.excludeBy]

theorem starts_of_plan {p : Plan} (hdir : t.get? request.path.resolve = some .directory)
    (h : plan t request = .ok p) : ∃ settings, Starts t request settings := by
  have hpath : request.path.any Path.isImpossible = false := by
    by_contra hnot
    rw [Bool.not_eq_false] at hnot
    simp [plan, hnot] at h
  obtain ⟨hroot, entry, settings, hprobe, hload, -, -⟩ := plan_eq_ok h
  have hentry := probe_eq_some hprobe
  rw [hroot, (Path.resolve_isPlain _).resolve, hdir] at hentry
  cases hentry
  rw [hroot] at hprobe hload
  exact ⟨settings, hpath, hprobe, by simpa using hload⟩

/-- A run on a directory that goes through works on the pairs of a scan, one after another. -/
theorem run_of_directory (hdir : t.get? request.path.resolve = some .directory)
    (h : run t request = .ok (report, after)) :
    ∃ settings layout, Starts t request settings ∧
      processAll (request.optionsBy settings) layout request.dryRun t
        (request.pairsIn t settings) = (report.outcomes, after) := by
  obtain ⟨p, layout, hplan, -, hended⟩ := run_eq_ok h
  obtain ⟨settings, hstarts⟩ := starts_of_plan hdir hplan
  obtain rfl := Except.ok.inj (hplan.symm.trans hstarts.plan)
  obtain ⟨rfl, rfl⟩ := Prod.mk.inj hended
  exact ⟨settings, layout, hstarts, rfl⟩

/-- A run on a directory whose pairs are known. -/
theorem Starts.run (h : Starts t request settings) {layout : Layout}
    (hlayout : Layout.choose t (request.optionsBy settings).templatesDir = .ok layout)
    {pairs : List Pair} (hpairs : request.pairsIn t settings = pairs) :
    let ended := processAll (request.optionsBy settings) layout request.dryRun t pairs
    run t request = .ok (⟨request.path.resolve, request.dryRun, ended.1⟩, ended.2) := by
  subst hpairs
  exact run_of_plan h.plan (by rw [layoutFor, hlayout])

end

end Migration

end ImportLift
