-- A run that succeeds leaves nothing to do. Afterwards every document of a
-- pair is gone, and all that came new are targets. A pair of the tree that is
-- left would need a document that was there before, and with it the scan
-- before the run would have had a pair too, so that the document is gone. The
-- settings are read as before, since their file is no file of a pair.
import ImportLift.Proofs.Migration.Run

namespace ImportLift

/-! ## The settings -/

theorem Path.key_settings (dir : Path) :
    ∃ stem, Path.key (dir ++ [Settings.fileName]) = stem ++ ".yml" := by
  have hending : Text.IsEnding ".yml" := ⟨by decide +kernel, by decide⟩
  have hname : Settings.fileName = (".htmlimport2esm" : Text) ++ (".yml" : Text) := rfl
  refine ⟨Text.lowerBefore false (Path.render (dir ++ [(".htmlimport2esm" : Text)])), ?_⟩
  rw [Path.key, Path.render, hname, Path.join_append, ← List.cons_append]
  exact Text.lowerFrom_append hending false _

/-- The settings file is no file of a pair. -/
theorem Pair.Named.ne_settings {pair : Pair} {stem : Text} (h : pair.Named stem) (dir : Path) :
    dir ++ [Settings.fileName] ≠ pair.html ∧ dir ++ [Settings.fileName] ≠ pair.target := by
  obtain ⟨stem', hsettings⟩ := Path.key_settings dir
  constructor
  · intro hsame
    rw [hsame, h.html] at hsettings
    have hmark := congrArg (fun text => text.reverse[2]?) hsettings
    simp at hmark
  · intro hsame
    rw [hsame, h.target] at hsettings
    have hmark := congrArg (fun text => text.reverse[0]?) hsettings
    simp at hmark

open FileTree in
theorem Settings.load_congr {t u : FileTree} {dir : Path} (shown : Text) (ht : t.WellFormed)
    (hdir : t.probe dir = .ok (some .directory)) (hplain : dir.IsPlain)
    (hdirs : KeepsDirectories t u)
    (hfile : u.get? (dir ++ [fileName]) = t.get? (dir ++ [fileName])) :
    u.probe dir = .ok (some .directory) ∧ load u shown dir = load t shown dir := by
  have hthere := probe_eq_some hdir
  rw [hplain.resolve] at hthere
  have hprobe : u.probe dir = t.probe dir := by
    apply probe_congr
    · exact way_of_keepsDirectories ht hthere hdirs fun n _ => List.take_prefix n dir
    · rw [hplain.resolve, hthere, hdirs _ hthere]
  have hsettings : Path.IsPlain (dir ++ [fileName]) := by
    intro name hname
    rcases List.mem_append.mp hname with hname | hname
    · exact hplain name hname
    · rw [List.mem_singleton.mp hname]
      decide
  have hway : ∀ d ∈ ancestors (dir ++ [fileName]), u.get? d.resolve = t.get? d.resolve := by
    refine way_of_keepsDirectories ht hthere hdirs fun n hn => ?_
    rw [List.length_append, List.length_singleton] at hn
    rw [List.take_append_of_le_length (by omega)]
    exact List.take_prefix n dir
  have hplace : ∀ v : FileTree, v.probe dir = .ok (some .directory) →
      place v dir = .ok (dir ++ [fileName]) := by
    intro v hv
    simp [place, hv, Except.map]
  have hsame : u.get? (Path.resolve (dir ++ [fileName])) =
      t.get? (Path.resolve (dir ++ [fileName])) := by
    rw [hsettings.resolve]
    exact hfile
  rw [hdir] at hprobe
  refine ⟨hprobe, ?_⟩
  simp only [load, hplace u hprobe, hplace t hdir, hsettings.resolve]
  rw [probe_congr hway hsame, read_congr hway hsame]

namespace Migration

open FileTree

/-! ## The tree after success -/

/-- Every pair was converted: the documents are gone, the targets are files, and all else is as
it was. -/
structure Settled (t after : FileTree) (pairs : List Pair) : Prop where
  html : ∀ pair ∈ pairs, after.get? pair.html = none
  target : ∀ pair ∈ pairs, after.isFile pair.target = true
  others : ∀ p, (∀ pair ∈ pairs, p ≠ pair.html ∧ p ≠ pair.target) → after.get? p = t.get? p
  directories : KeepsDirectories t after

theorem exists_of_forall₂ {α β : Type} {R : α → β → Prop} {as : List α} {bs : List β}
    (h : List.Forall₂ R as bs) : ∀ b ∈ bs, ∃ a, R a b := by
  induction h with
  | nil => simp
  | cons hab _ ih =>
    intro b hb
    rcases List.mem_cons.mp hb with rfl | hb
    · exact ⟨_, hab⟩
    · exact ih b hb

section

variable {t after : FileTree} {root : Path} {exclude : List Text}

theorem settled_of_success (ht : t.WellFormed) (hapart : Scan.SpelledApart t root exclude)
    {options : Options} {layout : Layout} {outcomes : List Outcome}
    (hwork : processAll options layout false t (Scan.pairs t (Scan.files t root exclude)) =
      (outcomes, after)) (hsuccess : ∀ o ∈ outcomes, o.ok = true) :
    Settled t after (Scan.pairs t (Scan.files t root exclude)) := by
  have hstands : ∀ pair ∈ Scan.pairs t (Scan.files t root exclude), pair.Stands t :=
    Scan.pairs_stand ht
  obtain ⟨foretold, done, after', -, hreal, -, hpairs, hlaw, hsame, -⟩ :=
    processAll_foretold ht options layout (Scan.pairs_apart ht (hapart.keysDiffer ht)) hstands
  rw [hwork, Prod.mk.injEq] at hreal
  obtain ⟨rfl, rfl⟩ := hreal
  -- What is left of the files of one pair.
  have hleft : ∀ pair ∈ Scan.pairs t (Scan.files t root exclude),
      after.get? pair.html = none ∧ after.isFile pair.target = true := by
    intro pair hpair
    obtain ⟨o, ho, rfl⟩ := List.mem_map.mp (hpairs ▸ hpair)
    obtain ⟨f, -, hleaves⟩ := exists_of_forall₂ hlaw o ho
    have htouched := Scan.touched_of_mem_pairs ht hpair
    simp only [Pair.touched, List.cons.injEq, and_true] at htouched
    simp only [Leaves, hsuccess o ho, if_true, htouched] at hleaves
    obtain ⟨-, m, -, htarget, hhtml⟩ := hleaves
    exact ⟨hhtml, isFile_iff.mpr ⟨_, htarget⟩⟩
  have hframe := processAll_frame t options layout fun pair hpair => (hstands pair hpair).apart
  rw [hwork] at hframe
  refine ⟨fun pair h => (hleft pair h).1, fun pair h => (hleft pair h).2, ?_, hframe.1⟩
  intro p hp
  apply hsame.2
  intro hmem
  obtain ⟨pair, hpair, hmem⟩ := List.mem_flatMap.mp hmem
  rw [Scan.touched_of_mem_pairs ht hpair, List.mem_cons, List.mem_singleton] at hmem
  rcases hmem with htarget | hhtml
  · exact (hp pair hpair).2 htarget
  · exact (hp pair hpair).1 hhtml

theorem Settled.target_of_new {pairs : List Pair} (h : Settled t after pairs) {p : Path}
    (hbefore : ¬ t.isFile p = true) (hfile : after.isFile p = true) :
    ∃ pair ∈ pairs, p = pair.target := by
  by_contra hnone
  apply hbefore
  have hsame : after.get? p = t.get? p := by
    apply h.others
    intro pair hpair
    refine ⟨?_, fun heq => hnone ⟨pair, hpair, heq⟩⟩
    rintro rfl
    rw [isFile, h.html pair hpair] at hfile
    cases hfile
  rw [isFile, ← hsame]
  exact hfile

section

variable {pairs : List Pair} (h : Settled t after pairs)
  (hnamed : ∀ pair ∈ pairs, ∃ stem, pair.Named stem)

include h hnamed

/-- A document that is still there is as it was. -/
theorem Settled.get?_document {p : Path} {stem : Text} (hp : p.key = stem ++ ".html")
    (hfile : after.isFile p = true) : after.get? p = t.get? p := by
  apply h.others
  intro pair hpair
  obtain ⟨stem', hstem'⟩ := hnamed pair hpair
  constructor
  · rintro rfl
    rw [isFile, h.html pair hpair] at hfile
    cases hfile
  · rintro rfl
    exact Pair.html_ne_script stem stem' (hp.symm.trans hstem'.target)

/-- A file that is named like a script is still there. -/
theorem Settled.isFile_script {p : Path} {stem : Text} (hp : p.key = stem ++ ".js")
    (hfile : t.isFile p = true) : after.isFile p = true := by
  by_cases htarget : ∃ pair ∈ pairs, p = pair.target
  · obtain ⟨pair, hpair, rfl⟩ := htarget
    exact h.target pair hpair
  · have hsame : after.get? p = t.get? p := by
      apply h.others
      intro pair hpair
      refine ⟨?_, fun heq => htarget ⟨pair, hpair, heq⟩⟩
      rintro rfl
      obtain ⟨stem', hstem'⟩ := hnamed pair hpair
      exact Pair.html_ne_script stem' stem (hstem'.html.symm.trans hp)
    rw [isFile, hsame]
    exact hfile

end

/-- Nothing is left that a scan would list. -/
theorem Settled.pairs_eq_nil (ht : t.WellFormed) (hafter : after.WellFormed)
    (hapart : Scan.SpelledApart t root exclude)
    (h : Settled t after (Scan.pairs t (Scan.files t root exclude))) :
    Scan.pairs after (Scan.files after root exclude) = [] := by
  have hnamed : ∀ pair ∈ Scan.pairs t (Scan.files t root exclude), ∃ stem, pair.Named stem :=
    fun pair hpair => (Scan.mem_pairs hpair).1
  have hgone : ∀ {pair : Pair}, Scan.Belongs t root exclude pair → after.get? pair.html = none :=
    fun hpair => h.html _ ((Scan.mem_pairs_iff ht hapart).mpr hpair)
  -- A document that is kept now was kept before, so no pair of the first scan has it.
  have hdocument : ∀ {p : Path} {stem : Text}, p.key = stem ++ ".html" →
      Scan.Kept after root exclude p → Scan.Kept t root exclude p ∧ after.get? p = t.get? p := by
    intro p stem hp hkept
    have hsame := h.get?_document hnamed hp hkept.file
    refine ⟨⟨?_, hkept.below⟩, hsame⟩
    rw [isFile, ← hsame]
    exact hkept.file
  rw [List.eq_nil_iff_forall_not_mem]
  intro pair hpair
  have hbelongs := Scan.belongs_of_mem hafter hpair
  cases hbelongs with
  | @scripted script html hscript hsuffix hhtml hkey =>
    rw [Path.key_withDocument] at hkey
    obtain ⟨hbefore, -⟩ := hdocument hkey hhtml
    have hcleared : after.get? html = none := by
      by_cases hfile : t.isFile script = true
      · have hkept : Scan.Kept t root exclude script := ⟨hfile, hscript.below⟩
        exact hgone (.scripted hkept hsuffix hbefore (hkey.trans (Path.key_withDocument _).symm))
      · -- The script is new, so it is the target of a pair, and the document is that pair's.
        obtain ⟨pair, hmem, rfl⟩ := h.target_of_new hfile hscript.file
        obtain ⟨⟨stem, hstem⟩, hlisted, -⟩ := Scan.mem_pairs hmem
        have hscriptKey := Path.key_of_hasSuffix hsuffix (by decide)
        have hsame : stem = pair.target.stemKey :=
          List.append_cancel_right (hstem.target.symm.trans hscriptKey)
        have hpairKey : pair.html.key = html.key := by rw [hstem.html, hkey, hsame]
        rw [← hapart _ _ ((Scan.mem_files_iff ht).mp hlisted) hbefore hpairKey]
        exact h.html pair hmem
    have hfile := hhtml.file
    rw [isFile, hcleared] at hfile
    cases hfile
  | @alone html hhtml hsuffix hnone hdeclares =>
    have hkey := Path.key_of_hasSuffix hsuffix (by decide)
    obtain ⟨hbefore, hsame⟩ := hdocument hkey hhtml
    have hcleared : after.get? html = none := by
      refine hgone (.alone hbefore hsuffix ?_ ?_)
      · intro p hp hscript
        rw [Path.key_withScript] at hscript
        have hfile := h.isFile_script hnamed hscript hp.file
        exact hnone p ⟨hfile, hp.below⟩ (hscript.trans (Path.key_withScript _).symm)
      · obtain ⟨text, hread, hholds⟩ := hdeclares
        obtain ⟨bytes, hget⟩ := isFile_iff.mp hbefore.file
        refine ⟨text, ?_, hholds⟩
        rw [← read_of_keepsDirectories ht hget h.directories hsame]
        exact hread
    have hfile := hhtml.file
    rw [isFile, hcleared] at hfile
    cases hfile

end

/-! ## The second run -/

/-- A run without pairs needs no layout. -/
theorem layoutFor_of_no_pairs (t : FileTree) (root : Path) (options : Options) :
    ∃ layout, layoutFor t ⟨root, options, .tree []⟩ = .ok layout := by
  unfold layoutFor
  split
  · exact ⟨_, rfl⟩
  · exact ⟨.ofModules, rfl⟩

/-- After a run on a directory that reports success, a run that is asked the same finds no pair
and changes nothing. -/
theorem a_second_run_finds_nothing (t : FileTree) (request : Request) (report : Report)
    (after : FileTree) (ht : t.WellFormed)
    (hdir : t.get? request.path.resolve = some .directory)
    (hkeys : KeysDifferBelow t request.path.resolve) (hreal : request.dryRun = false)
    (hrun : run t request = .ok (report, after)) (hsuccess : report.success = true) :
    run after request = .ok (⟨request.path.resolve, false, []⟩, after) := by
  obtain ⟨settings, layout, hstarts, hwork⟩ := run_of_directory hdir hrun
  rw [hreal] at hwork
  have hapart : Scan.SpelledApart t request.path.resolve (request.excludeBy settings) := by
    intro p q hp hq
    obtain ⟨p', -, hp', -⟩ := hp.below
    obtain ⟨q', -, hq', -⟩ := hq.below
    exact hkeys p q (hp' ▸ List.prefix_append _ p') (hq' ▸ List.prefix_append _ q') hp.file hq.file
  have hok : ∀ o ∈ report.outcomes, o.ok = true := by
    simpa [Report.success, Report.failed, List.filter_eq_nil_iff] using hsuccess
  have hsettled := settled_of_success ht hapart hwork hok
  have hpairs : request.pairsIn after settings = [] :=
    hsettled.pairs_eq_nil ht (run_wellFormed ht hrun) hapart
  have hsettings := hsettled.others (request.path.resolve ++ [Settings.fileName]) fun pair hpair =>
    let ⟨_, hstem⟩ := (Scan.mem_pairs hpair).1
    hstem.ne_settings _
  obtain ⟨hprobe, hload⟩ := Settings.load_congr request.path.resolve.render ht hstarts.directory
    (Path.resolve_isPlain _) hsettled.directories hsettings
  have hagain : Starts after request settings :=
    ⟨hstarts.path, hprobe, hload.trans hstarts.settings⟩
  have hplan := hagain.plan
  rw [hpairs] at hplan
  obtain ⟨layout', hlayout⟩ := layoutFor_of_no_pairs after request.path.resolve
    (request.optionsBy settings)
  rw [run_of_plan hplan hlayout, hreal]
  rfl

/-- A pair in other spellings, and a document without a module, which stays. -/
theorem a_second_run_passes_over_a_plain_document :
    let t : FileTree := ⟨[(["r"], .directory),
      (["r", "B.js"], .file (Utf8.encode "class A\x7bstatic get is()\x7breturn 'a-b'\x7d\x7d")),
      (["r", "b.HTML"], .file (Utf8.encode
        "<dom-module id='a-b'><template>x</template></dom-module>")),
      (["r", "index.html"], .file (Utf8.encode "<p>"))], []⟩
    let request : Request := { path := ["r"], asked := "r" }
    t.WellFormed ∧ t.get? request.path.resolve = some .directory ∧
      KeysDifferBelow t request.path.resolve ∧
      ∃ report after, run t request = .ok (report, after) ∧ report.success = true ∧
        report.outcomes.length = 1 ∧ run after request = .ok (⟨["r"], false, []⟩, after) := by
  intro t request
  have ht : t.WellFormed := by decide +kernel
  have hkeys : KeysDifferBelow t request.path.resolve := by
    have hentries : ∀ a ∈ t.entries, ∀ b ∈ t.entries, Path.key a.1 = Path.key b.1 → a.1 = b.1 := by
      decide +kernel
    intro p q _ _ hp hq
    obtain ⟨_, hp⟩ := mem_of_isFile hp
    obtain ⟨_, hq⟩ := mem_of_isFile hq
    exact hentries _ hp _ hq
  have hstarts : Starts t request ⟨["r"], {}, []⟩ := ⟨by decide, rfl, by decide +kernel⟩
  let pairs : List Pair := [⟨["r", "b.HTML"], some ["r", "B.js"]⟩]
  have hfiles := Scan.files_of_sorted t ["r"] [["B.js"], ["b.HTML"], ["index.html"]] rfl
    (by decide +kernel) (by decide +kernel)
  have hpairs : request.pairsIn t ⟨["r"], {}, []⟩ = pairs := by
    refine (congrArg (Scan.pairs t) hfiles).trans (Scan.pairs_of_sorted ?_ ?_)
    · decide +kernel
    · exact List.pairwise_singleton _ _
  have hrun : run t request = .ok (⟨["r"], false, (processAll {} .ofModules false t pairs).1⟩,
      (processAll {} .ofModules false t pairs).2) := hstarts.run rfl hpairs
  have hok : (processAll {} .ofModules false t pairs).1.map (·.ok) = [true] := by
    decide +kernel
  generalize processAll {} .ofModules false t pairs = ended at hrun hok
  obtain ⟨o, houtcomes, hsuccess⟩ := List.map_eq_singleton_iff.mp hok
  have hsucceeds : Report.success ⟨["r"], false, ended.1⟩ = true := by
    simp [Report.success, Report.failed, houtcomes, hsuccess]
  refine ⟨ht, rfl, hkeys, _, _, hrun, hsucceeds, ?_, ?_⟩
  · exact congrArg List.length houtcomes
  · exact a_second_run_finds_nothing t request _ _ ht rfl hkeys rfl hrun hsucceeds

end Migration

end ImportLift
