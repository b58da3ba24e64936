-- When two pairs of one scan share a file. A script is paired with a document
-- whatever the spelling of their names, so two scripts that differ only in
-- spelling get one document, and two documents that differ only in the
-- spelling of their suffix, neither with a script, get one target. In no
-- other way do two pairs share a file.
import ImportLift.Proofs.Scan

namespace ImportLift

/-- The pairs share the document exactly where their scripts differ only in spelling, and the
target only where they have no scripts and their documents differ only in spelling. -/
structure Pair.SharesBySpelling (a b : Pair) : Prop where
  crosswise : a.html ≠ b.target ∧ a.target ≠ b.html
  html : a.html = b.html ↔
    ∃ p q, a.script = some p ∧ b.script = some q ∧ p ≠ q ∧ p.key = q.key
  target : a.target = b.target →
    a.script = none ∧ b.script = none ∧ a.html ≠ b.html ∧ a.html.key = b.html.key

theorem Pair.SharesBySpelling.symm {a b : Pair} (h : a.SharesBySpelling b) :
    b.SharesBySpelling a := by
  refine ⟨⟨h.crosswise.2.symm, h.crosswise.1.symm⟩, ?_, ?_⟩
  · rw [eq_comm, h.html]
    constructor
    · rintro ⟨p, q, hp, hq, hne, hkey⟩
      exact ⟨q, p, hq, hp, hne.symm, hkey.symm⟩
    · rintro ⟨q, p, hq, hp, hne, hkey⟩
      exact ⟨p, q, hp, hq, hne.symm, hkey.symm⟩
  · intro htarget
    obtain ⟨ha, hb, hne, hkey⟩ := h.target htarget.symm
    exact ⟨hb, ha, hne.symm, hkey.symm⟩

namespace Scan

section

variable {t : FileTree} {files : List Path} {paired : List Text} {p q : Path} {a b : Pair}

/-! ## Two pairs -/

theorem find?_of_scriptPair? (h : scriptPair? files p = some a) :
    find? files (companion p).key = some a.html := by
  unfold scriptPair? at h
  split at h
  · obtain ⟨html, hfind, rfl⟩ := Option.map_eq_some_iff.mp h
    exact hfind
  · cases h

theorem scripts_share (hp : scriptPair? files p = some a) (hq : scriptPair? files q = some b)
    (hne : p ≠ q) : a.SharesBySpelling b := by
  obtain ⟨hps, -, hpa, hna⟩ := scriptPair?_eq_some hp
  obtain ⟨hqs, -, hqb, hnb⟩ := scriptPair?_eq_some hq
  have hpkey := Path.key_of_hasSuffix hps (by decide)
  have hqkey := Path.key_of_hasSuffix hqs (by decide)
  refine ⟨⟨hna.html_ne_target hnb, (hnb.html_ne_target hna).symm⟩, ?_, ?_⟩
  · constructor
    · intro hhtml
      refine ⟨p, q, hpa, hqb, hne, ?_⟩
      have hstem : p.stemKey = q.stemKey := by
        apply List.append_cancel_right
        rw [← hna.html, ← hnb.html, hhtml]
      rw [hpkey, hqkey, hstem]
    · rintro ⟨p', q', hp', hq', -, hkey⟩
      rw [hpa, Option.some.injEq] at hp'
      rw [hqb, Option.some.injEq] at hq'
      subst hp' hq'
      have hstem : p.stemKey = q.stemKey := by
        apply List.append_cancel_right
        rw [← hpkey, ← hqkey, hkey]
      have hfound := find?_of_scriptPair? hp
      have hcompanion : (companion p).key = (companion q).key := by
        unfold companion
        rw [Path.key_withDocument, Path.key_withDocument, hstem]
      rw [hcompanion, find?_of_scriptPair? hq, Option.some.injEq] at hfound
      exact hfound.symm
  · intro htarget
    apply absurd htarget
    rw [Pair.target, Pair.target, hpa, hqb]
    exact hne

theorem documents_share (hp : lonePair? t files paired p = some a)
    (hq : lonePair? t files paired q = some b) (hne : p ≠ q) : a.SharesBySpelling b := by
  obtain ⟨hps, rfl, hna, -⟩ := lonePair?_eq_some hp
  obtain ⟨hqs, rfl, hnb, -⟩ := lonePair?_eq_some hq
  refine ⟨⟨hna.html_ne_target hnb, (hnb.html_ne_target hna).symm⟩, by simp [hne], ?_⟩
  intro htarget
  refine ⟨rfl, rfl, hne, ?_⟩
  have hstem : p.stemKey = q.stemKey := by
    apply List.append_cancel_right
    rw [← hna.target, ← hnb.target, htarget]
  rw [hna.html, hnb.html, hstem]

/-- A document stands alone only if no script is there for it, so it shares nothing with a pair
that has a script. -/
theorem script_and_document_share (hp : scriptPair? files p = some a) (hmem : p ∈ files)
    (hq : lonePair? t files paired q = some b) : a.SharesBySpelling b := by
  obtain ⟨hps, -, hpa, hna⟩ := scriptPair?_eq_some hp
  obtain ⟨-, rfl, hnb, hnone⟩ := lonePair?_eq_some hq
  have hstem : p.stemKey ≠ q.stemKey := by
    intro hstem
    apply hnone p hmem
    rw [Path.key_of_hasSuffix hps (by decide), hstem]
  refine ⟨⟨hna.html_ne_target hnb, (hnb.html_ne_target hna).symm⟩, ?_, ?_⟩
  · constructor
    · intro hhtml
      apply absurd _ hstem
      apply List.append_cancel_right
      rw [← hna.html, ← hnb.html, hhtml]
    · rintro ⟨-, q', -, hq', -⟩
      cases hq'
  · intro htarget
    apply absurd _ hstem
    apply List.append_cancel_right
    rw [← hna.target, ← hnb.target, htarget]

end

/-! ## All pairs -/

theorem pairs_share (t : FileTree) {files : List Path} (hnodup : files.Nodup) :
    (pairs t files).Pairwise Pair.SharesBySpelling := by
  unfold pairs
  refine ((List.mergeSort_perm _ _).pairwise_iff Pair.SharesBySpelling.symm).mpr ?_
  rw [List.pairwise_append]
  refine ⟨?_, ?_, ?_⟩
  · refine List.pairwise_filterMap.mpr (hnodup.imp ?_)
    intro p q hne a ha b hb
    exact scripts_share ha hb hne
  · refine List.pairwise_filterMap.mpr (hnodup.imp ?_)
    intro p q hne a ha b hb
    exact documents_share ha hb hne
  · intro a ha b hb
    obtain ⟨p, hp, ha⟩ := List.mem_filterMap.mp ha
    obtain ⟨q, -, hb⟩ := List.mem_filterMap.mp hb
    exact script_and_document_share ha hp hb

theorem run_eq_ok {t : FileTree} {root : Path} {asked : Text} {exclude : List Text}
    {found : List Pair} (h : run t root asked exclude = .ok found) :
    found = pairs t (files t root.resolve exclude) := by
  unfold run at h
  split at h
  · cases h
  · split at h
    · cases h
    · cases h
    · cases h
    · exact (Except.ok.inj h).symm

/-- Two pairs of a scan share a document or a target only where two of the files differ in
nothing but spelling. Where no two do, the pairs share nothing. -/
theorem pairs_share_files_by_spelling_only {t : FileTree} (ht : t.WellFormed) {root : Path}
    {asked : Text} {exclude : List Text} {found : List Pair}
    (h : run t root asked exclude = .ok found) :
    found.Pairwise Pair.SharesBySpelling ∧
      (KeysDiffer (files t root.resolve exclude) →
        found.Pairwise fun a b => a.html ≠ b.html ∧ a.target ≠ b.target) := by
  rw [run_eq_ok h]
  have hnodup : (files t root.resolve exclude).Nodup := files_nodup ht
  have hshare := pairs_share t hnodup
  refine ⟨hshare, fun hkeys => hshare.imp_of_mem ?_⟩
  intro a b ha hb hab
  obtain ⟨-, hahtml, hascript⟩ := mem_pairs ha
  obtain ⟨-, hbhtml, hbscript⟩ := mem_pairs hb
  refine ⟨?_, ?_⟩
  · intro hhtml
    obtain ⟨p, q, hp, hq, hne, hkey⟩ := hab.html.mp hhtml
    exact hne (hkeys p (hascript p hp) q (hbscript q hq) hkey)
  · intro htarget
    obtain ⟨-, -, hne, hkey⟩ := hab.target htarget
    exact hne (hkeys _ hahtml _ hbhtml hkey)

/-! ## Trees that are in order -/

theorem files_of_listed (t : FileTree) (root : Path) (exclude : List Text) (below : List Path)
    (hbelow : filesBelow t root = below.mergeSort walkLe)
    (hsorted : below.Pairwise fun a b => walkLe a b = true) :
    files t root exclude = (below.filter (keeps exclude)).map (root ++ ·) := by
  rw [files, hbelow, List.mergeSort_of_pairwise hsorted]

theorem files_of_sorted (t : FileTree) (root : Path) (below : List Path)
    (hbelow : filesBelow t root = below.mergeSort walkLe)
    (hsorted : below.Pairwise fun a b => walkLe a b = true)
    (hkept : below.filter (keeps []) = below) : files t root [] = below.map (root ++ ·) := by
  rw [files_of_listed t root [] below hbelow hsorted, hkept]

theorem pairs_of_sorted {t : FileTree} {files : List Path} {found : List Pair}
    (hfound : let scripts := files.filterMap (scriptPair? files)
      scripts ++ files.filterMap (lonePair? t files (scripts.map (·.html.key))) = found)
    (hsorted : found.Pairwise fun a b => Text.le a.target.render b.target.render = true) :
    pairs t files = found :=
  (congrArg (List.mergeSort · _) hfound).trans (List.mergeSort_of_pairwise hsorted)

theorem run_of_sorted {t : FileTree} {root : Path} {files : List Path} {found : List Pair}
    (hroot : root.any Path.isImpossible = false ∧ root.resolve = root)
    (hdir : t.probe root = .ok (some .directory)) (hfiles : Scan.files t root [] = files)
    (hfound : let scripts := files.filterMap (scriptPair? files)
      scripts ++ files.filterMap (lonePair? t files (scripts.map (·.html.key))) = found)
    (hsorted : found.Pairwise fun a b => Text.le a.target.render b.target.render = true)
    (asked : Text) : run t root asked [] = .ok found := by
  have hpairs : pairs t files = found := pairs_of_sorted hfound hsorted
  unfold run
  rw [hroot.1, hroot.2, hdir]
  simp only [Bool.false_eq_true, if_false]
  rw [hfiles, hpairs]

theorem pairs_share_nothing_in_plain_spelling :
    let t : FileTree := ⟨[(["r"], .directory), (["r", "B.js"], .file []),
      (["r", "a.html"], .file (Utf8.encode "<DOM-module>")), (["r", "b.html"], .file [])], []⟩
    let found : List Pair := [⟨["r", "b.html"], some ["r", "B.js"]⟩, ⟨["r", "a.html"], none⟩]
    t.WellFormed ∧ KeysDiffer (files t ["r"] []) ∧ run t ["r"] "r" [] = .ok found ∧
      found.Pairwise fun a b => a.html ≠ b.html ∧ a.target ≠ b.target := by
  intro t found
  have ht : t.WellFormed := by
    refine ⟨by decide, ?_, by decide +kernel⟩
    unfold Path.IsPlain
    decide
  have hfiles := files_of_sorted t ["r"] [["B.js"], ["a.html"], ["b.html"]] rfl
    (by decide +kernel) (by decide +kernel)
  have hkeys : KeysDiffer (files t ["r"] []) := by
    rw [hfiles]
    unfold KeysDiffer
    decide +kernel
  have hrun : run t ["r"] "r" [] = .ok found :=
    run_of_sorted (by decide +kernel) rfl hfiles (by decide +kernel) (by decide +kernel) "r"
  exact ⟨ht, hkeys, hrun, (pairs_share_files_by_spelling_only ht hrun).2 hkeys⟩

/-- Two scripts whose directories differ only in spelling share a document, though each has one
of its own, and two documents whose suffixes differ only in spelling share their target. -/
theorem pairs_share_files_in_other_spellings :
    let scripts : FileTree := ⟨[(["r"], .directory),
      (["r", "A"], .directory), (["r", "A", "z.html"], .file []), (["r", "A", "z.js"], .file []),
      (["r", "a"], .directory), (["r", "a", "z.html"], .file []), (["r", "a", "z.js"], .file [])],
      []⟩
    let documents : FileTree := ⟨[(["r"], .directory),
      (["r", "a.HTML"], .file (Utf8.encode "<dom-module>")),
      (["r", "a.html"], .file (Utf8.encode "<dom-module>"))], []⟩
    let paired : List Pair := [⟨["r", "a", "z.html"], some ["r", "A", "z.js"]⟩,
      ⟨["r", "a", "z.html"], some ["r", "a", "z.js"]⟩]
    let lone : List Pair := [⟨["r", "a.HTML"], none⟩, ⟨["r", "a.html"], none⟩]
    run scripts ["r"] "r" [] = .ok paired ∧ ¬ paired.Pairwise (fun a b => a.html ≠ b.html) ∧
      run documents ["r"] "r" [] = .ok lone ∧ ¬ lone.Pairwise fun a b => a.target ≠ b.target := by
  intro scripts documents paired lone
  have hscripts := files_of_sorted scripts ["r"]
    [["A", "z.html"], ["A", "z.js"], ["a", "z.html"], ["a", "z.js"]] rfl
    (by decide +kernel) (by decide +kernel)
  have hdocuments := files_of_sorted documents ["r"] [["a.HTML"], ["a.html"]] rfl
    (by decide +kernel) (by decide +kernel)
  refine ⟨?_, by decide +kernel, ?_, by decide +kernel⟩
  · exact run_of_sorted (by decide +kernel) rfl hscripts (by decide +kernel) (by decide +kernel) "r"
  · exact run_of_sorted (by decide +kernel) rfl hdocuments (by decide +kernel)
      (by decide +kernel) "r"

end Scan

end ImportLift
