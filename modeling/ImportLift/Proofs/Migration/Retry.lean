-- A run after one that could not delete a document. A step that writes its
-- module fails only where the document is locked, and no step deletes a
-- locked document, so the first run leaves the module and the document side
-- by side. To a further run they are a pair like any other: nothing marks a
-- script as a module already. So it leaves the module as it is, or converts
-- the pair once more and says so.
import ImportLift.Proofs.Migration.Run

namespace ImportLift.Migration

open FileTree

/-! ## Locked documents -/

section

variable {u : FileTree} {pair : Pair} {pairs : List Pair}

/-- A step that writes the module fails exactly if the document is locked. -/
theorem process_locked (hu : u.WellFormed) (hplain : pair.html.IsPlain) (options : Options)
    (layout : Layout) (hfiles : pair.html.resolve ≠ pair.target.resolve)
    (hwritten : (process u options layout false pair).1.written = true) :
    (process u options layout false pair).1.ok = false ↔ pair.html.resolve ∈ u.locked := by
  rw [process_real] at hwritten ⊢
  rcases foreseen_cases u options layout pair with ⟨f, -, ho⟩ | ⟨m, diff, hm, ho⟩
  · rw [ho] at hwritten
    cases hwritten
  · simp only [ho, store] at hwritten ⊢
    cases hwrite : u.write pair.target m.text with
    | error fault =>
      rw [hwrite] at hwritten
      cases hwritten
    | ok written =>
      obtain ⟨-, htarget, rfl⟩ := write_eq_ok hwrite
      obtain ⟨html, script, hread, -⟩ := hm
      obtain ⟨text, htext⟩ := read_of_readPair hread
      obtain ⟨bytes, hget⟩ := isFile_iff.mp (isFile_of_read htext)
      rw [hplain.resolve] at hfiles hget
      -- The module beside it does not change how the document is found.
      have hsame := read_of_keepsDirectories hu hget
        (keepsDirectories_put htarget (.file (Utf8.encode m.text))) (get?_put_of_ne u hfiles _)
      rw [htext] at hsame
      have hlocked := (sameExcept_put u pair.target.resolve (.file (Utf8.encode m.text))).1
      simp only [delete_of_read hsame, hlocked]
      by_cases hmem : pair.html.resolve ∈ u.locked
      · simp [hmem, Outcome.ok, Except.isOk, Except.toBool]
      · simp [hmem, Outcome.ok, Except.isOk, Except.toBool]

theorem processAll_undeleted (hu : u.WellFormed) (options : Options) (layout : Layout)
    (hpairs : ∀ pair ∈ pairs, pair.html.IsPlain ∧ pair.html.resolve ≠ pair.target.resolve)
    {o : Outcome} (ho : o ∈ (processAll options layout false u pairs).1)
    (hwritten : o.written = true) (hfailed : o.ok = false) : o.pair.html.resolve ∈ u.locked := by
  induction pairs generalizing u with
  | nil => cases ho
  | cons pair rest ih =>
    obtain ⟨hplain, hfiles⟩ := hpairs pair List.mem_cons_self
    obtain ⟨hpair, -, -, hsame, -⟩ := process_step u options layout hfiles
    simp only [processAll] at ho
    rcases List.mem_cons.mp ho with rfl | ho
    · rw [hpair]
      exact (process_locked hu hplain options layout hfiles hwritten).mp hfailed
    · rw [← hsame.1]
      exact ih (process_wellFormed hu options layout pair)
        (fun other hother => hpairs other (List.mem_cons_of_mem _ hother)) ho

/-- No run deletes a locked document. -/
theorem processAll_locked (hu : u.WellFormed) (options : Options) (layout : Layout)
    (hpairs : ∀ pair ∈ pairs, pair.html.IsPlain ∧ pair.html.resolve ≠ pair.target.resolve)
    {p : Path} (hp : p ∈ u.locked) (htargets : ∀ pair ∈ pairs, p ≠ pair.target.resolve) :
    (processAll options layout false u pairs).2.get? p = u.get? p := by
  induction pairs generalizing u with
  | nil => rfl
  | cons pair rest ih =>
    obtain ⟨hplain, hfiles⟩ := hpairs pair List.mem_cons_self
    obtain ⟨-, -, hleaves, hsame, -⟩ := process_step u options layout hfiles
    have hstep : (process u options layout false pair).2.get? p = u.get? p := by
      by_cases hhtml : p = pair.html.resolve
      · rcases process_cases u options layout hfiles with ⟨-, hleft⟩ | ⟨hwritten, -⟩
        · rw [hleft]
        · have hfailed := (process_locked hu hplain options layout hfiles hwritten).mpr (hhtml ▸ hp)
          simp only [Leaves, hfailed, hwritten, process_pair, Bool.false_eq_true, if_false,
            if_true] at hleaves
          obtain ⟨m, -, -, hkept⟩ := hleaves
          rw [hhtml, hkept]
      · exact hsame.2 p (by simp [Pair.touched, hhtml, htargets pair List.mem_cons_self])
    simp only [processAll]
    rw [← hstep]
    exact ih (process_wellFormed hu options layout pair)
      (fun other hother => hpairs other (List.mem_cons_of_mem _ hother)) (hsame.1 ▸ hp)
      (fun other hother => htargets other (List.mem_cons_of_mem _ hother))

end

/-! ## Targets -/

/-- The path of the request is a directory, or it is named like a script or a document. -/
def Request.Fits (request : Request) (t : FileTree) : Prop :=
  t.get? request.path.resolve = some .directory ∨
    request.path.resolve.hasSuffix ".js" = true ∨ request.path.resolve.hasSuffix ".html" = true

section

variable {t : FileTree} {request : Request} {report : Report} {after : FileTree}

theorem plan_targets (ht : t.WellFormed) {p : Plan} (hfits : request.Fits t)
    (h : plan t request = .ok p) :
    ∀ pair ∈ p.work.pairs, ∃ stem, pair.target.resolve.key = stem ++ ".js" := by
  obtain ⟨hroot, entry, settings, hprobe, -, -, hwork⟩ := plan_eq_ok h
  have hplain := Path.resolve_isPlain request.path
  have hentry := probe_eq_some hprobe
  rw [hroot, hplain.resolve] at hentry
  rw [hroot] at hwork
  unfold Request.Fits at hfits
  rw [hentry] at hfits
  cases entry with
  | directory =>
    simp only [workOn, decide_true, if_true, Except.ok.injEq] at hwork
    rw [← hwork]
    intro pair hpair
    obtain ⟨⟨stem, hstem⟩, -⟩ := Scan.mem_pairs hpair
    have htouched := Scan.touched_of_mem_pairs ht hpair
    simp only [Pair.touched, List.cons.injEq, and_true] at htouched
    exact ⟨stem, by rw [htouched.1, hstem.target]⟩
  | file bytes =>
    simp only [workOn] at hwork
    rcases workOnFile_cases hwork with ⟨-, found, -, hw⟩ | ⟨hhtml, e, -, hw⟩ | hw
    · have htarget : Pair.target ⟨request.path.resolve,
          if found.isSome then some (request.path.resolve.withSuffix ".js") else none⟩ =
            request.path.resolve.withSuffix ".js" := by
        cases found <;> rfl
      simp only [hw, Work.pairs, List.mem_singleton, forall_eq, htarget,
        (hplain.withSuffix ".js" (by decide)).resolve]
      exact ⟨_, Path.key_withScript _⟩
    · simp only [hw, Work.pairs, List.mem_singleton, forall_eq, Pair.target, Option.getD_some,
        hplain.resolve]
      rcases hfits with hdir | hjs | hdocument
      · cases hdir
      · exact ⟨_, Path.key_of_hasSuffix hjs (by decide)⟩
      · rw [hhtml] at hdocument
        cases hdocument
    · simp [hw, Work.pairs]

/-- What a run wrote, and where it could not delete the document, the document is as it was. -/
theorem run_undeleted (ht : t.WellFormed) (hfits : request.Fits t)
    (h : run t request = .ok (report, after)) {o : Outcome} (ho : o ∈ report.outcomes)
    (hwritten : o.written = true) :
    (∃ stem, o.pair.target.resolve.key = stem ++ ".js") ∧
      (o.ok = false → after.get? o.pair.html.resolve = t.get? o.pair.html.resolve) := by
  obtain ⟨p, layout, hplan, -, ⟨-, hnone⟩ | hwork⟩ := run_cases h
  · rw [hnone o ho] at hwritten
    cases hwritten
  · have htargets := plan_targets ht hfits hplan
    obtain ⟨-, hstands, hhtml⟩ := plan_pairs ht hplan
    have hreported := processAll_pairs t p.options layout false p.work.pairs
    rw [hwork] at hreported
    have hmem : o.pair ∈ p.work.pairs := hreported ▸ List.mem_map_of_mem ho
    have hpairs : ∀ pair ∈ p.work.pairs,
        pair.html.IsPlain ∧ pair.html.resolve ≠ pair.target.resolve := by
      intro pair hpair
      obtain ⟨⟨e, he⟩, -, hapart⟩ := hstands pair hpair
      exact ⟨ht.plain_of_get? he, hapart⟩
    refine ⟨htargets _ hmem, fun hfailed => ?_⟩
    have hlocked : o.pair.html.resolve ∈ t.locked :=
      processAll_undeleted ht p.options layout hpairs (by rw [hwork]; exact ho) hwritten hfailed
    have hkept := processAll_locked ht p.options layout hpairs hlocked fun pair hpair => ?_
    · rw [hwork] at hkept
      exact hkept
    · obtain ⟨stem, hstem⟩ := hhtml _ hmem
      obtain ⟨stem', hstem'⟩ := htargets pair hpair
      intro hsame
      rw [hsame, hstem'] at hstem
      exact Pair.html_ne_script stem stem' hstem.symm

end

/-- A module that was written beside a document that could not be deleted is left by any further
run as it is, unless that run converts the two again and says so. -/
theorem a_written_module_is_left_or_converted_again (t : FileTree) (request again : Request)
    (report report' : Report) (after after' : FileTree) (o : Outcome) (detail : Option Text)
    (ht : t.WellFormed) (hfits : request.Fits t) (hrun : run t request = .ok (report, after))
    (ho : o ∈ report.outcomes) (hwritten : o.written = true)
    (hfailed : o.result = .error ⟨.notWritten, detail⟩)
    (hagain : run after again = .ok (report', after')) :
    let target := o.pair.target.resolve
    after.get? o.pair.html.resolve = t.get? o.pair.html.resolve ∧
      Converts t request report after target ∧
      ((after'.get? target = after.get? target ∧
          ∀ o' ∈ report'.outcomes, o'.written = true → o'.pair.target.resolve ≠ target) ∨
        Converts after again report' after' target) := by
  intro target
  obtain ⟨⟨stem, hstem⟩, hhtml⟩ := run_undeleted ht hfits hrun ho hwritten
  have hconverts : Converts t request report after target := by
    rcases run_target ht hrun hstem with ⟨-, hnone⟩ | hconverts
    · exact absurd rfl (hnone o ho hwritten)
    · exact hconverts
  refine ⟨hhtml ?_, hconverts, run_target (run_wellFormed ht hrun) hagain hstem⟩
  simp [Outcome.ok, hfailed, Except.isOk, Except.toBool]

/-! ## A document that stays -/

/-- A script and its document, which cannot be deleted. -/
def lockedDocument : FileTree :=
  ⟨[(["r"], .directory),
    (["r", "B.js"], .file (Utf8.encode "class A\x7bstatic get is()\x7breturn 'a-b'\x7d\x7d")),
    (["r", "b.HTML"], .file (Utf8.encode
      "<dom-module id='a-b'><template>x</template></dom-module>"))], [["r", "b.HTML"]]⟩

def lockedPair : Pair := ⟨["r", "b.HTML"], some ["r", "B.js"]⟩

def onDirectory : Request := { path := ["r"], asked := "r" }

/-- The work on the pair. -/
def workOnLocked (t : FileTree) : List Outcome × FileTree :=
  processAll {} .ofModules false t [lockedPair]

theorem run_onDirectory {t : FileTree} (hstarts : Starts t onDirectory ⟨["r"], {}, []⟩)
    {below : List Path} (hbelow : Scan.filesBelow t ["r"] = below.mergeSort Scan.walkLe)
    (hnames : below = ([["B.js"], ["b.HTML"]] : List Path)) :
    run t onDirectory = .ok (⟨["r"], false, (workOnLocked t).1⟩, (workOnLocked t).2) := by
  subst hnames
  let files : List Path := [["r", "B.js"], ["r", "b.HTML"]]
  have hfiles : Scan.files t ["r"] [] = files :=
    Scan.files_of_sorted t ["r"] _ hbelow (by decide) (by decide)
  have hscripts : files.filterMap (Scan.scriptPair? files) = [lockedPair] := by decide
  -- The document has a script, so it is not asked what it declares.
  have hpaired : ∀ file ∈ files,
      (file.hasSuffix ".html" && !List.contains [lockedPair.html.key] file.key) = false := by
    decide
  have halone : files.filterMap (Scan.lonePair? t files [lockedPair.html.key]) = [] := by
    rw [List.filterMap_eq_nil_iff]
    intro file hfile
    rw [Scan.lonePair?, hpaired file hfile]
    rfl
  have hpairs : onDirectory.pairsIn t ⟨["r"], {}, []⟩ = [lockedPair] := by
    refine (congrArg (Scan.pairs t) hfiles).trans (Scan.pairs_of_sorted ?_ ?_)
    · simp only [hscripts, List.map_cons, List.map_nil, halone, List.append_nil]
    · exact List.pairwise_singleton _ _
  exact hstarts.run rfl hpairs

theorem Ending.eq_of_told_undeleted {o : Outcome} (h : told o = .undeleted) :
    o.written = true ∧ ∃ detail, o.result = .error ⟨.notWritten, detail⟩ := by
  obtain ⟨pair, result, diff, written⟩ := o
  cases result with
  | ok m => cases written <;> cases h
  | error f =>
    obtain ⟨kind, detail⟩ := f
    simp only [told] at h
    split at h
    · cases h
    · split at h
      · exact ⟨by assumption, detail, by simp_all⟩
      · cases h

/-- The first run cannot delete the document, and the second adds another head and another
template to the module of the first. -/
theorem lockedDocument_runs : ∃ (first second : List Outcome × FileTree) (o : Outcome),
    run lockedDocument onDirectory = .ok (⟨["r"], false, first.1⟩, first.2) ∧
      run first.2 onDirectory = .ok (⟨["r"], false, second.1⟩, second.2) ∧
      o ∈ first.1 ∧ o.pair = lockedPair ∧ Ending.told o = .undeleted ∧
      second.2.get? lockedPair.target.resolve ≠ first.2.get? lockedPair.target.resolve := by
  have hseen : let first := workOnLocked lockedDocument
      first.1.map (fun o => (o.pair, Ending.told o)) = [(lockedPair, .undeleted)] ∧
      first.2.probe ["r"] = .ok (some .directory) ∧
      Settings.load first.2 (Path.render ["r"]) ["r"] = .ok ⟨["r"], {}, []⟩ ∧
      (workOnLocked first.2).2.get? lockedPair.target.resolve ≠
        first.2.get? lockedPair.target.resolve := by
    decide +kernel
  obtain ⟨htold, hdir, hsettings, hdiffers⟩ := hseen
  obtain ⟨o, houtcomes, ho⟩ := List.map_eq_singleton_iff.mp htold
  obtain ⟨hpair, hundeleted⟩ := Prod.mk.inj ho
  refine ⟨workOnLocked lockedDocument, workOnLocked (workOnLocked lockedDocument).2, o, ?_, ?_, ?_,
    hpair, hundeleted, hdiffers⟩
  · exact run_onDirectory ⟨by decide, rfl, by decide +kernel⟩ rfl rfl
  · exact run_onDirectory ⟨by decide, hdir, hsettings⟩ rfl (by decide +kernel)
  · rw [houtcomes]
    exact List.mem_singleton_self o

theorem lockedDocument_wellFormed : lockedDocument.WellFormed := by decide

/-- A second run converts the module of the first like any script. -/
theorem a_module_beside_its_document_is_converted_again :
    lockedDocument.WellFormed ∧ ∃ report after report' after' o detail,
      run lockedDocument onDirectory = .ok (report, after) ∧ o ∈ report.outcomes ∧
      o.written = true ∧ o.result = .error ⟨.notWritten, detail⟩ ∧
      run after onDirectory = .ok (report', after') ∧
      after'.get? o.pair.target.resolve ≠ after.get? o.pair.target.resolve := by
  obtain ⟨first, second, o, hrun, hagain, ho, hpair, htold, hdiffers⟩ := lockedDocument_runs
  obtain ⟨hwritten, detail, hfailed⟩ := Ending.eq_of_told_undeleted htold
  refine ⟨lockedDocument_wellFormed, _, _, _, _, o, detail, hrun, ho, hwritten, hfailed, hagain, ?_⟩
  rw [hpair]
  exact hdiffers

/-- The document is still there after the first run, and the second writes to the target. -/
theorem a_second_run_writes_to_a_module_beside_its_document :
    ∃ report after report' after',
      run lockedDocument onDirectory = .ok (report, after) ∧
      run after onDirectory = .ok (report', after') ∧
      after.get? ["r", "b.HTML"] = lockedDocument.get? ["r", "b.HTML"] ∧
      Converts after onDirectory report' after' ["r", "B.js"] := by
  obtain ⟨first, second, o, hrun, hagain, ho, hpair, htold, hdiffers⟩ := lockedDocument_runs
  obtain ⟨hwritten, detail, hfailed⟩ := Ending.eq_of_told_undeleted htold
  obtain ⟨hhtml, -, hcases⟩ := a_written_module_is_left_or_converted_again lockedDocument
    onDirectory onDirectory _ _ first.2 second.2 o detail lockedDocument_wellFormed (.inl rfl) hrun
    ho hwritten hfailed hagain
  rw [hpair] at hhtml hcases
  refine ⟨_, _, _, _, hrun, hagain, hhtml, ?_⟩
  rcases hcases with ⟨hleft, -⟩ | hconverts
  · exact absurd hleft hdiffers
  · exact hconverts

end ImportLift.Migration
