-- What a run does to excluded paths. The work on a pair touches two paths
-- below the scanned directory, and no directory on the way to them is
-- excluded. A document and a script that is there are kept files. Only the
-- target of a document that stands alone is named without a look at the
-- exclusions, so an excluded path can be created or overwritten there, and
-- there alone.
import ImportLift.Proofs.Migration.Run

namespace ImportLift

namespace Scan

/-! ## Targets that are excluded -/

/-- The path below the directory is the target of a kept document that stands alone. It is
excluded itself, but lies in no excluded directory. -/
structure Stray (t : FileTree) (root : Path) (exclude : List Text) (html p : Path) : Prop where
  alone : Belongs t root exclude ⟨html, none⟩
  target : root ++ p = html.withSuffix ".js"
  excluded : isExcluded exclude (Text.join "/" p) = true
  way : ∀ dir : Path, dir <+: p → dir ≠ [] → dir ≠ p → enters exclude dir = true

section

variable {t : FileTree} {root : Path} {exclude : List Text} {pair : Pair}

theorem enters_withSuffix {q : Path} (hq : q ≠ []) (hkept : ¬ Excluded exclude q) (suffix : Text) :
    ∀ dir : Path, dir <+: q.withSuffix suffix → dir ≠ [] → dir ≠ q.withSuffix suffix →
      enters exclude dir = true := by
  intro dir hstarts hne hproper
  rw [Path.withSuffix, List.prefix_concat_iff] at hstarts
  rcases hstarts with hsame | hstarts
  · exact absurd hsame hproper
  · rw [enters_iff]
    intro hbarred
    refine hkept (.inr ⟨dir, ?_, hne, ?_, hbarred⟩)
    · exact hstarts.trans (List.dropLast_prefix q)
    · rintro rfl
      have hlength := hstarts.length_le
      have hpos := List.length_pos_iff.mpr hq
      rw [Path.parent, List.length_dropLast] at hlength
      omega

theorem Kept.isPlain (ht : t.WellFormed) {p : Path} (h : Kept t root exclude p) : p.IsPlain := by
  obtain ⟨bytes, hget⟩ := FileTree.isFile_iff.mp h.file
  exact ht.plain_of_get? hget

/-- The work on a pair touches paths below the directory, and no excluded one but the target of
a document that stands alone. -/
theorem Belongs.touched (ht : t.WellFormed) (h : Belongs t root exclude pair) {p : Path}
    (hp : p ∈ pair.touched) :
    ∃ q, q ≠ [] ∧ p = root ++ q ∧
      (Excluded exclude q → Stray t root exclude pair.html q) := by
  have hkept : ∀ p, Kept t root exclude p → ∃ q, q ≠ [] ∧ p = root ++ q ∧
      (Excluded exclude q → Stray t root exclude pair.html q) := by
    rintro p ⟨-, q, hq, rfl, hnot⟩
    exact ⟨q, hq, rfl, fun hexcluded => absurd hexcluded hnot⟩
  have halone := h
  cases h with
  | @scripted script html hscript hsuffix hhtml hkey =>
    simp only [Pair.touched, Pair.target, Option.getD_some, (hscript.isPlain ht).resolve,
      (hhtml.isPlain ht).resolve, List.mem_cons, List.not_mem_nil, or_false] at hp
    rcases hp with rfl | rfl
    · exact hkept _ hscript
    · exact hkept _ hhtml
  | @alone html hhtml hsuffix hnone hdeclares =>
    have htarget := ((hhtml.isPlain ht).withSuffix ".js" (by decide)).resolve
    simp only [Pair.touched, Pair.target, Option.getD_none, htarget, (hhtml.isPlain ht).resolve,
      List.mem_cons, List.not_mem_nil, or_false] at hp
    rcases hp with rfl | rfl
    · obtain ⟨q, hq, rfl, hnot⟩ := hhtml.below
      rw [Path.withSuffix_append root hq]
      refine ⟨Path.withSuffix q ".js", by simp [Path.withSuffix], rfl, fun hexcluded => ?_⟩
      have hway := enters_withSuffix hq hnot ".js"
      refine ⟨halone, (Path.withSuffix_append root hq ".js").symm, ?_, hway⟩
      rcases hexcluded with hitself | ⟨dir, hstarts, hne, hproper, hbarred⟩
      · exact hitself
      · exact absurd hbarred (enters_iff.mp (hway dir hstarts hne hproper))
    · exact hkept _ hhtml

theorem Stray.key {html p : Path} (h : Stray t root exclude html p) :
    (root ++ p).key = html.stemKey ++ ".js" := by
  rw [h.target]
  exact Path.key_withScript html

end

end Scan

namespace Migration

/-- A run on a directory changes nothing outside it. Of the excluded paths below it, it touches
only targets of documents that stand alone; these it may create or overwrite with a module, but
it deletes none of them. -/
theorem excluded_paths_change_only_as_targets_of_lone_documents (t : FileTree)
    (request : Request) (report : Report) (after : FileTree) (ht : t.WellFormed)
    (hdir : t.get? request.path.resolve = some .directory)
    (hrun : run t request = .ok (report, after)) :
    let root := request.path.resolve
    ∃ settings, Settings.load t root.render root = .ok settings ∧
      let exclude := request.excludeBy settings
      (∀ p, ¬ root <+: p → after.get? p = t.get? p) ∧
      (∀ q, Scan.Excluded exclude q → (∀ html, ¬ Scan.Stray t root exclude html q) →
        after.get? (root ++ q) = t.get? (root ++ q) ∧
          ∀ o ∈ report.outcomes, root ++ q ∉ o.pair.touched) ∧
      ∀ html q, Scan.Stray t root exclude html q →
        after.get? (root ++ q) = t.get? (root ++ q) ∨
          Converts t request report after (root ++ q) := by
  intro root
  obtain ⟨settings, layout, hstarts, hwork⟩ := run_of_directory hdir hrun
  refine ⟨settings, hstarts.settings, ?_⟩
  intro exclude
  have htouched : ∀ o ∈ report.outcomes, ∀ p ∈ o.pair.touched, ∃ q, q ≠ [] ∧ p = root ++ q ∧
      (Scan.Excluded exclude q → Scan.Stray t root exclude o.pair.html q) := by
    intro o ho p hp
    have hpairs := processAll_pairs t (request.optionsBy settings) layout request.dryRun
      (request.pairsIn t settings)
    rw [hwork] at hpairs
    have hmem : o.pair ∈ request.pairsIn t settings := hpairs ▸ List.mem_map_of_mem ho
    exact (Scan.belongs_of_mem ht hmem).touched ht hp
  refine ⟨?_, ?_, ?_⟩
  · intro p hp
    by_contra hchanged
    obtain ⟨o, ho, -, hmem⟩ := run_changes ht hrun hchanged
    obtain ⟨q, -, rfl, -⟩ := htouched o ho p hmem
    exact hp (List.prefix_append root q)
  · intro q hexcluded hstray
    have huntouched : ∀ o ∈ report.outcomes, root ++ q ∉ o.pair.touched := by
      intro o ho hmem
      obtain ⟨q', -, hq', hlone⟩ := htouched o ho _ hmem
      obtain rfl := List.append_cancel_left hq'
      exact hstray _ (hlone hexcluded)
    refine ⟨?_, huntouched⟩
    by_contra hchanged
    obtain ⟨o, ho, -, hmem⟩ := run_changes ht hrun hchanged
    exact huntouched o ho hmem
  · intro html q hstray
    rcases run_target ht hrun hstray.key with ⟨hkept, -⟩ | hconverted
    · exact .inl hkept
    · exact .inr hconverted

/-! ## An excluded script -/

/-- A script that somebody wrote, beside a document that has a script of its own. -/
def besideScript : FileTree :=
  ⟨[(["r"], .directory),
    (["r", "a.html"], .file (Utf8.encode
      ("<dom-module id='a-b'><template>x</template></dom-module>" ++
        "<script>class A\x7bstatic get is()\x7breturn 'a-b'\x7d\x7d</script>" : Text))),
    (["r", "a.js"], .file (Utf8.encode "own"))], []⟩

/-- A run that excludes the script. -/
def withoutScript : Request := { path := ["r"], asked := "r", exclude := some ["a.js"] }

theorem pairsIn_besideScript :
    withoutScript.pairsIn besideScript ⟨["r"], {}, []⟩ = [⟨["r", "a.html"], none⟩] := by
  let html : Path := ["r", "a.html"]
  have hfiles : Scan.files besideScript ["r"] ["a.js"] = [html] := by
    rw [Scan.files_of_listed besideScript ["r"] ["a.js"] [["a.html"], ["a.js"]] rfl
      (by decide +kernel)]
    decide +kernel
  refine (congrArg (Scan.pairs besideScript) hfiles).trans (Scan.pairs_of_sorted ?_ ?_)
  · decide +kernel
  · exact List.pairwise_singleton _ _

theorem run_besideScript :
    let ended := processAll {} .ofModules false besideScript [⟨["r", "a.html"], none⟩]
    run besideScript withoutScript = .ok (⟨["r"], false, ended.1⟩, ended.2) := by
  have hstarts : Starts besideScript withoutScript ⟨["r"], {}, []⟩ :=
    ⟨by decide, rfl, by decide⟩
  exact hstarts.run rfl pairsIn_besideScript

/-- The script is excluded, but the run overwrites it with the module of the document. -/
theorem an_excluded_script_is_overwritten :
    Scan.Excluded ["a.js"] ["a.js"] ∧
      ∃ report after, run besideScript withoutScript = .ok (report, after) ∧
        besideScript.get? ["r", "a.js"] = some (.file (Utf8.encode "own")) ∧
        after.get? ["r", "a.js"] ≠ besideScript.get? ["r", "a.js"] := by
  refine ⟨.inl (by decide +kernel), _, _, run_besideScript, rfl, ?_⟩
  decide +kernel

/-- The script is the target of a document that stands alone, so it is still there. -/
theorem an_excluded_script_is_not_deleted :
    besideScript.WellFormed ∧ besideScript.get? ["r"] = some .directory ∧
      ∃ report after, run besideScript withoutScript = .ok (report, after) ∧
        Scan.Stray besideScript ["r"] ["a.js"] ["r", "a.html"] ["a.js"] ∧
        ∃ e, after.get? ["r", "a.js"] = some e := by
  have ht : besideScript.WellFormed := by decide +kernel
  have hdir : besideScript.get? ["r"] = some .directory := rfl
  have hstray : Scan.Stray besideScript ["r"] ["a.js"] ["r", "a.html"] ["a.js"] := by
    refine ⟨?_, by decide +kernel, by decide +kernel, ?_⟩
    · have hmem : ⟨["r", "a.html"], none⟩ ∈ withoutScript.pairsIn besideScript ⟨["r"], {}, []⟩ := by
        rw [pairsIn_besideScript]
        exact List.mem_singleton.mpr rfl
      exact Scan.belongs_of_mem ht hmem
    · intro dir hstarts hne hproper
      rcases List.prefix_cons_iff.mp hstarts with hnil | ⟨rest, hrest, hstarts⟩
      · exact absurd hnil hne
      · rw [List.prefix_nil.mp hstarts] at hrest
        exact absurd hrest hproper
  refine ⟨ht, hdir, _, _, run_besideScript, hstray, ?_⟩
  obtain ⟨settings, -, -, -, hstrays⟩ := excluded_paths_change_only_as_targets_of_lone_documents
    besideScript withoutScript _ _ ht hdir run_besideScript
  rcases hstrays _ _ hstray with hkept | ⟨-, -, -, -, -, -, m, -, -, -, hget⟩
  · exact ⟨_, hkept⟩
  · exact ⟨_, hget⟩

end Migration

end ImportLift
