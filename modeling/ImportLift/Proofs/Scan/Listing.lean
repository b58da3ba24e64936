-- What a scan lists. A file below the directory is kept unless it, or a
-- directory on the way to it, is excluded. Where no two kept files are equal
-- in lower case, the scan lists every kept script with the kept document of
-- its name, every kept document that declares a module and has no script, and
-- nothing else, each once and by the path of its target.
import ImportLift.Proofs.Scan

namespace ImportLift

/-! ## Texts -/

namespace Text

theorem holds_iff {part text : Text} : holds part text = true ↔ part <:+: text := by
  induction text with
  | nil => simp [holds]
  | cons c rest ih => simp [holds, ih, List.infix_cons_iff]

theorem le_cons {c d : Char} {as bs : Text} :
    le (c :: as) (d :: bs) = true ↔
      c.toNat < d.toNat ∨ c.toNat = d.toNat ∧ le as bs = true := by
  simp only [le, UInt32.lt_iff_toNat_lt]
  change (if c.toNat < d.toNat then true else if d.toNat < c.toNat then false else le as bs) = true
    ↔ _
  split
  · simp [*]
  · split
    · simp only [Bool.false_eq_true, false_iff]
      omega
    · have heq : c.toNat = d.toNat := by omega
      simp [heq]

theorem le_total (a b : Text) : le a b = true ∨ le b a = true := by
  induction a generalizing b with
  | nil => simp [le]
  | cons c as ih =>
    cases b with
    | nil => simp [le]
    | cons d bs =>
      rw [le_cons, le_cons]
      rcases Nat.lt_trichotomy c.toNat d.toNat with hlt | heq | hgt
      · exact .inl (.inl hlt)
      · exact (ih bs).imp (fun h => .inr ⟨heq, h⟩) (fun h => .inr ⟨heq.symm, h⟩)
      · exact .inr (.inl hgt)

theorem le_trans {a b c : Text} (hab : le a b = true) (hbc : le b c = true) : le a c = true := by
  induction a generalizing b c with
  | nil => simp [le]
  | cons x as ih =>
    cases b with
    | nil => simp [le] at hab
    | cons y bs =>
      cases c with
      | nil => simp [le] at hbc
      | cons z cs =>
        rw [le_cons] at hab hbc ⊢
        rcases hab with hxy | ⟨hxy, hab⟩
        · left
          omega
        · rcases hbc with hyz | ⟨hyz, hbc⟩
          · left
            omega
          · exact .inr ⟨by omega, ih hab hbc⟩

end Text

namespace Scan

/-! ## Kept files -/

/-- The path below a scanned directory is excluded: itself, or by a directory on the way to it,
which may also be one of those that are never entered. -/
def Excluded (exclude : List Text) (p : Path) : Prop :=
  isExcluded exclude (Text.join "/" p) = true ∨
    ∃ dir : Path, dir <+: p ∧ dir ≠ [] ∧ dir ≠ p ∧
      (dir.name ∈ skippedDirectories ∨ isExcluded exclude (Text.join "/" dir) = true)

theorem mem_ancestors_drop {p dir : Path} :
    dir ∈ (FileTree.ancestors p).drop 1 ↔ dir <+: p ∧ dir ≠ [] ∧ dir ≠ p := by
  have hrange : (List.range p.length).drop 1 = List.range' 1 (p.length - 1) := by
    rw [List.range_eq_range', List.drop_range']
  rw [FileTree.ancestors, ← List.map_drop, hrange, List.mem_map]
  constructor
  · rintro ⟨n, hn, rfl⟩
    rw [List.mem_range'_1] at hn
    refine ⟨List.take_prefix n p, ?_, ?_⟩
    · intro hnil
      have hlength := congrArg List.length hnil
      rw [List.length_take, List.length_nil] at hlength
      omega
    · intro hsame
      have hlength := congrArg List.length hsame
      rw [List.length_take] at hlength
      omega
  · rintro ⟨hstarts, hne, hproper⟩
    refine ⟨dir.length, ?_, (List.prefix_iff_eq_take.mp hstarts).symm⟩
    rw [List.mem_range'_1]
    have hpos := List.length_pos_iff.mpr hne
    have hle := hstarts.length_le
    have hlt : dir.length ≠ p.length := fun h => hproper (hstarts.eq_of_length h)
    omega

theorem enters_iff {exclude : List Text} {dir : Path} :
    enters exclude dir = true ↔
      ¬ (dir.name ∈ skippedDirectories ∨ isExcluded exclude (Text.join "/" dir) = true) := by
  rw [not_or, enters, Bool.and_eq_true, Bool.not_eq_true', Bool.not_eq_true',
    ← List.contains_iff_mem, Bool.not_eq_true, Bool.not_eq_true]

theorem keeps_iff {exclude : List Text} {p : Path} :
    keeps exclude p = true ↔ ¬ Excluded exclude p := by
  rw [keeps, Bool.and_eq_true, List.all_eq_true, Bool.not_eq_true', ← Bool.not_eq_true,
    Excluded, not_or, and_comm]
  refine and_congr_right fun _ => ?_
  constructor
  · rintro hway ⟨dir, hstarts, hne, hproper, hbarred⟩
    exact enters_iff.mp (hway dir (mem_ancestors_drop.mpr ⟨hstarts, hne, hproper⟩)) hbarred
  · intro hnone dir hdir
    obtain ⟨hstarts, hne, hproper⟩ := mem_ancestors_drop.mp hdir
    exact enters_iff.mpr fun hbarred => hnone ⟨dir, hstarts, hne, hproper, hbarred⟩

/-- The file lies below the directory and is not excluded there. -/
structure Kept (t : FileTree) (root : Path) (exclude : List Text) (p : Path) : Prop where
  file : t.isFile p = true
  below : ∃ q, q ≠ [] ∧ p = root ++ q ∧ ¬ Excluded exclude q

section

variable {t : FileTree} {root : Path} {exclude : List Text} {pair : Pair}

theorem mem_below_of_mem {q : Path} {e : Entry} (hq : q ≠ []) (h : (root ++ q, e) ∈ t.entries) :
    (q, e) ∈ t.below root := by
  refine List.mem_filterMap.mpr ⟨_, h, ?_⟩
  have hbelow : Path.below? root (root ++ q) = some q := by simp [Path.below?]
  cases q with
  | nil => exact absurd rfl hq
  | cons name rest => simp [hbelow]

theorem mem_files_iff (ht : t.WellFormed) {p : Path} :
    p ∈ files t root exclude ↔ Kept t root exclude p := by
  constructor
  · intro h
    have hfile := FileTree.isFile_iff.mpr (mem_files ht h).2
    obtain ⟨q, hq, rfl⟩ := List.mem_map.mp h
    obtain ⟨hmem, hkeeps⟩ := List.mem_filter.mp hq
    exact ⟨hfile, q, (mem_filesBelow hmem).1, rfl, keeps_iff.mp hkeeps⟩
  · rintro ⟨hfile, q, hq, rfl, hkept⟩
    obtain ⟨bytes, hentry⟩ := FileTree.mem_of_isFile hfile
    refine List.mem_map_of_mem (List.mem_filter.mpr ⟨?_, keeps_iff.mpr hkept⟩)
    rw [filesBelow, (List.mergeSort_perm _ _).mem_iff]
    exact List.mem_filterMap.mpr ⟨_, mem_below_of_mem hq hentry, rfl⟩

/-! ## The pairs that a tree has -/

/-- The document can be read as text and declares a module element, in any case. -/
def Declares (t : FileTree) (document : Path) : Prop :=
  ∃ text, t.read document = .ok text ∧ ("<dom-module" : Text) <:+: Text.lower text

theorem declaresModule_iff {document : Path} :
    declaresModule t document = true ↔ Declares t document := by
  unfold declaresModule Declares
  cases t.read document with
  | error fault => simp
  | ok text => simp [Text.holds_iff]

/-- The pairs of a tree: a kept script with the kept document of its name, and a kept document
that declares a module and that no kept file is the script of. -/
inductive Belongs (t : FileTree) (root : Path) (exclude : List Text) : Pair → Prop
  | scripted {script html : Path} (hscript : Kept t root exclude script)
      (hsuffix : script.hasSuffix ".js" = true) (hhtml : Kept t root exclude html)
      (hkey : html.key = (script.withSuffix ".html").key) :
      Belongs t root exclude ⟨html, some script⟩
  | alone {html : Path} (hhtml : Kept t root exclude html)
      (hsuffix : html.hasSuffix ".html" = true)
      (hnone : ∀ p, Kept t root exclude p → p.key ≠ (html.withSuffix ".js").key)
      (hdeclares : Declares t html) : Belongs t root exclude ⟨html, none⟩

theorem belongs_of_mem (ht : t.WellFormed) (h : pair ∈ pairs t (files t root exclude)) :
    Belongs t root exclude pair := by
  unfold pairs at h
  rw [(List.mergeSort_perm _ _).mem_iff, List.mem_append, List.mem_filterMap,
    List.mem_filterMap] at h
  rcases h with ⟨script, hscript, h⟩ | ⟨html, hhtml, h⟩
  · unfold scriptPair? at h
    split at h
    · rename_i hsuffix
      obtain ⟨html, hfind, rfl⟩ := Option.map_eq_some_iff.mp h
      obtain ⟨hhtml, hkey⟩ := mem_of_find? hfind
      exact .scripted ((mem_files_iff ht).mp hscript) hsuffix ((mem_files_iff ht).mp hhtml) hkey
    · cases h
  · unfold lonePair? at h
    split at h
    · rename_i hlone
      simp only [Bool.and_eq_true, Option.isNone_iff_eq_none, find?_eq_none] at hlone
      obtain ⟨⟨⟨hsuffix, -⟩, hnone⟩, hdeclares⟩ := hlone
      cases h
      refine .alone ((mem_files_iff ht).mp hhtml) hsuffix ?_ (declaresModule_iff.mp hdeclares)
      intro p hp
      exact hnone p ((mem_files_iff ht).mpr hp)
    · cases h

/-- No two kept files are equal in lower case. -/
def SpelledApart (t : FileTree) (root : Path) (exclude : List Text) : Prop :=
  ∀ p q : Path, Kept t root exclude p → Kept t root exclude q → p.key = q.key → p = q

theorem SpelledApart.keysDiffer (ht : t.WellFormed) (h : SpelledApart t root exclude) :
    KeysDiffer (files t root exclude) :=
  fun p hp q hq => h p q ((mem_files_iff ht).mp hp) ((mem_files_iff ht).mp hq)

theorem find?_key {files : List Path} (hkeys : KeysDiffer files) {p : Path} (hp : p ∈ files) :
    find? files p.key = some p := by
  cases hfind : find? files p.key with
  | none => exact absurd rfl (find?_eq_none.mp hfind p hp)
  | some found =>
    obtain ⟨hmem, hkey⟩ := mem_of_find? hfind
    rw [hkeys found hmem p hp hkey]

/-- A document whose script is not there is not the document of another script either. -/
theorem not_paired {files : List Path} {html : Path} (hsuffix : html.hasSuffix ".html" = true)
    (hnone : ∀ p ∈ files, p.key ≠ (html.withSuffix ".js").key) :
    html.key ∉ (files.filterMap (scriptPair? files)).map (·.html.key) := by
  intro hmem
  obtain ⟨pair, hpair, hkey⟩ := List.mem_map.mp hmem
  obtain ⟨script, hscript, hpair⟩ := List.mem_filterMap.mp hpair
  obtain ⟨hjs, -, -, hnamed⟩ := scriptPair?_eq_some hpair
  apply hnone script hscript
  have hstem : script.stemKey = html.stemKey := by
    apply List.append_cancel_right
    rw [← hnamed.html, hkey, Path.key_of_hasSuffix hsuffix (by decide)]
  rw [Path.key_of_hasSuffix hjs (by decide), Path.key_withScript, hstem]

theorem mem_pairs_iff (ht : t.WellFormed) (hapart : SpelledApart t root exclude) :
    pair ∈ pairs t (files t root exclude) ↔ Belongs t root exclude pair := by
  refine ⟨belongs_of_mem ht, fun h => ?_⟩
  have hkeys := hapart.keysDiffer ht
  unfold pairs
  rw [(List.mergeSort_perm _ _).mem_iff, List.mem_append, List.mem_filterMap, List.mem_filterMap]
  cases h with
  | @scripted script html hscript hsuffix hhtml hkey =>
    refine .inl ⟨script, (mem_files_iff ht).mpr hscript, ?_⟩
    have hfind := find?_key hkeys ((mem_files_iff ht).mpr hhtml)
    rw [hkey] at hfind
    rw [scriptPair?, if_pos hsuffix, companion, hfind, Option.map_some]
  | @alone html hhtml hsuffix hnone hdeclares =>
    refine .inr ⟨html, (mem_files_iff ht).mpr hhtml, ?_⟩
    have hnone : ∀ p ∈ files t root exclude, p.key ≠ (html.withSuffix ".js").key :=
      fun p hp => hnone p ((mem_files_iff ht).mp hp)
    have hpaired := not_paired hsuffix hnone
    rw [← List.contains_iff_mem, Bool.not_eq_true] at hpaired
    rw [lonePair?, hsuffix, hpaired, find?_eq_none.mpr hnone, declaresModule_iff.mpr hdeclares]
    rfl

/-! ## The list -/

theorem pairs_sorted (t : FileTree) (files : List Path) :
    (pairs t files).Pairwise fun a b => Text.le a.target.render b.target.render = true := by
  apply List.pairwise_mergeSort
  · exact fun a b c hab hbc => Text.le_trans hab hbc
  · intro a b
    rw [Bool.or_eq_true]
    exact Text.le_total _ _

theorem pairs_nodup (ht : t.WellFormed) (hkeys : KeysDiffer (files t root exclude)) :
    (pairs t (files t root exclude)).Nodup := by
  refine (pairs_stemsDiffer t (files_nodup ht) hkeys).imp_of_mem ?_
  intro a b ha _ hdiffer hsame
  obtain ⟨⟨stem, hstem⟩, -⟩ := mem_pairs ha
  exact hdiffer stem stem hstem (hsame ▸ hstem) rfl

theorem run_of_directory {asked : Text} (hpath : root.any Path.isImpossible = false)
    (hdir : t.probe root.resolve = .ok (some .directory)) :
    run t root asked exclude = .ok (pairs t (files t root.resolve exclude)) := by
  simp [run, hpath, hdir]

end

/-- The scan of a directory lists precisely the pairs of its tree, each once, by the path of the
target. -/
theorem a_scan_lists_the_pairs_of_a_tree (t : FileTree) (root : Path) (asked : Text)
    (exclude : List Text) (ht : t.WellFormed) (hpath : root.any Path.isImpossible = false)
    (hdir : t.probe root.resolve = .ok (some .directory))
    (hapart : SpelledApart t root.resolve exclude) :
    ∃ found, run t root asked exclude = .ok found ∧
      (found.Pairwise fun a b => Text.le a.target.render b.target.render = true) ∧
      found.Nodup ∧ ∀ pair, pair ∈ found ↔ Belongs t root.resolve exclude pair :=
  ⟨_, run_of_directory hpath hdir, pairs_sorted t _, pairs_nodup ht (hapart.keysDiffer ht),
    fun _ => mem_pairs_iff ht hapart⟩

/-- A script and its document in other spellings, a document that stands alone, and a pair in an
excluded directory. -/
theorem a_scan_passes_over_an_excluded_pair :
    let t : FileTree := ⟨[(["r"], .directory), (["r", "B.js"], .file []),
      (["r", "a.html"], .file (Utf8.encode "<DOM-module>")), (["r", "b.HTML"], .file []),
      (["r", "demo"], .directory), (["r", "demo", "c.html"], .file []),
      (["r", "demo", "c.js"], .file [])], []⟩
    t.WellFormed ∧ t.probe ["r"] = .ok (some .directory) ∧ SpelledApart t ["r"] ["demo/"] ∧
      ∃ found, run t ["r"] "r" ["demo/"] = .ok found ∧ found.Nodup ∧
        ⟨["r", "b.HTML"], some ["r", "B.js"]⟩ ∈ found ∧ ⟨["r", "a.html"], none⟩ ∈ found ∧
        ⟨["r", "demo", "c.html"], some ["r", "demo", "c.js"]⟩ ∉ found := by
  intro t
  have ht : t.WellFormed := by decide +kernel
  have hapart : SpelledApart t ["r"] ["demo/"] := by
    have hkeys : ∀ a ∈ t.entries, ∀ b ∈ t.entries, Path.key a.1 = Path.key b.1 → a.1 = b.1 := by
      decide +kernel
    intro p q hp hq
    obtain ⟨_, hp⟩ := FileTree.mem_of_isFile hp.file
    obtain ⟨_, hq⟩ := FileTree.mem_of_isFile hq.file
    exact hkeys _ hp _ hq
  have hkept : ∀ name ∈ (["B.js", "a.html", "b.HTML"] : List Text),
      Kept t ["r"] ["demo/"] ["r", name] := by
    have hseen : ∀ name ∈ (["B.js", "a.html", "b.HTML"] : List Text),
        t.isFile ["r", name] = true ∧ keeps ["demo/"] [name] = true := by decide +kernel
    intro name hname
    obtain ⟨hfile, hkeeps⟩ := hseen name hname
    exact ⟨hfile, [name], by simp, rfl, keeps_iff.mp hkeeps⟩
  have hdir : t.probe ["r"] = .ok (some .directory) := rfl
  obtain ⟨found, hrun, -, hnodup, hmem⟩ :=
    a_scan_lists_the_pairs_of_a_tree t ["r"] "r" ["demo/"] ht (by decide) hdir hapart
  refine ⟨ht, hdir, hapart, found, hrun, hnodup, ?_, ?_, ?_⟩
  · exact (hmem _).mpr (.scripted (hkept _ (by decide)) (by decide +kernel) (hkept _ (by decide))
      (by decide +kernel))
  · have hnone : ∀ a ∈ t.entries,
        Path.key a.1 ≠ (Path.withSuffix ["r", "a.html"] ".js").key := by decide +kernel
    refine (hmem _).mpr (.alone (hkept _ (by decide)) (by decide +kernel) ?_
      (declaresModule_iff.mp (by decide +kernel)))
    intro p hp
    obtain ⟨_, hp⟩ := FileTree.mem_of_isFile hp.file
    exact hnone _ hp
  · intro hfound
    have hbelongs := (hmem _).mp hfound
    cases hbelongs with
    | scripted hscript =>
      obtain ⟨q, -, hq, hnot⟩ := hscript.below
      let inside : Path := ["demo", "c.js"]
      have hq : q = inside := (List.cons.inj hq).2.symm
      have hkeeps : keeps ["demo/"] inside = false := by decide +kernel
      rw [← keeps_iff, hq, hkeeps] at hnot
      cases hnot

end Scan

end ImportLift
