-- The pairs of a tree share no file. Both files of a pair have one stem in
-- lower case, whether its target is there already or not, and where no two
-- files are equal in lower case, no two pairs have one stem.
import ImportLift.Scan
import ImportLift.Proofs.FileTree

namespace ImportLift

namespace Pair

/-- The document and the target have one stem in lower case. -/
structure Named (pair : Pair) (stem : Text) : Prop where
  html : pair.html.key = stem ++ ".html"
  target : pair.target.key = stem ++ ".js"

/-- The files that the work on a pair may change. -/
def touched (pair : Pair) : List Path := [pair.target.resolve, pair.html.resolve]

/-- No file is touched by the work on both pairs. -/
def Apart (a b : Pair) : Prop := ∀ p ∈ a.touched, p ∉ b.touched

/-- What the pair is read from is there, and its document is not its target. -/
structure Stands (t : FileTree) (pair : Pair) : Prop where
  html : ∃ e, t.get? pair.html = some e
  script : ∀ script, pair.script = some script → ∃ e, t.get? script = some e
  apart : pair.html.resolve ≠ pair.target.resolve

theorem html_ne_script (a b : Text) : a ++ ".html" ≠ b ++ ".js" := by
  intro h
  have hlast := congrArg List.getLast? h
  simp at hlast

theorem Named.html_ne_target {a b : Pair} {k l : Text} (ha : a.Named k) (hb : b.Named l) :
    a.html ≠ b.target := by
  intro h
  have hkeys := congrArg Path.key h
  rw [ha.html, hb.target] at hkeys
  exact html_ne_script k l hkeys

theorem Named.apart {a b : Pair} {k l : Text} (ha : a.Named k) (hb : b.Named l) (hne : k ≠ l)
    (haplain : a.touched = [a.target, a.html]) (hbplain : b.touched = [b.target, b.html]) :
    a.Apart b := by
  have htargets : a.target ≠ b.target := by
    intro h
    have hkeys := congrArg Path.key h
    rw [ha.target, hb.target] at hkeys
    exact hne (List.append_cancel_right hkeys)
  have hhtmls : a.html ≠ b.html := by
    intro h
    have hkeys := congrArg Path.key h
    rw [ha.html, hb.html] at hkeys
    exact hne (List.append_cancel_right hkeys)
  intro p hpa hpb
  simp only [haplain, hbplain, List.mem_cons, List.not_mem_nil, or_false] at hpa hpb
  rcases hpa with rfl | rfl
  · rcases hpb with h | h
    · exact htargets h
    · exact hb.html_ne_target ha h.symm
  · rcases hpb with h | h
    · exact ha.html_ne_target hb h
    · exact hhtmls h

end Pair

namespace Scan

/-! ## One stem for each pair -/

section

variable {t : FileTree} {files : List Path} {paired : List Text} {file : Path} {pair : Pair}

theorem mem_of_find? {key : Text} {found : Path} (h : find? files key = some found) :
    found ∈ files ∧ found.key = key := by
  unfold find? at h
  exact ⟨by simpa using List.mem_of_find?_eq_some h, by simpa using List.find?_some h⟩

theorem find?_eq_none {key : Text} : find? files key = none ↔ ∀ p ∈ files, p.key ≠ key := by
  simp [find?]

theorem scriptPair?_eq_some (h : scriptPair? files file = some pair) :
    file.hasSuffix ".js" = true ∧ pair.html ∈ files ∧ pair.script = some file ∧
      pair.Named file.stemKey := by
  unfold scriptPair? at h
  split at h
  · rename_i hsuffix
    obtain ⟨html, hfind, rfl⟩ := Option.map_eq_some_iff.mp h
    obtain ⟨hmem, hkey⟩ := mem_of_find? hfind
    refine ⟨hsuffix, hmem, rfl, ?_, ?_⟩
    · exact hkey.trans (Path.key_withDocument file)
    · exact Path.key_of_hasSuffix hsuffix (by decide)
  · cases h

theorem lonePair?_eq_some (h : lonePair? t files paired file = some pair) :
    file.hasSuffix ".html" = true ∧ pair = ⟨file, none⟩ ∧ pair.Named file.stemKey ∧
      ∀ p ∈ files, p.key ≠ file.stemKey ++ ".js" := by
  unfold lonePair? at h
  split at h
  · rename_i hlone
    simp only [Bool.and_eq_true, Option.isNone_iff_eq_none, find?_eq_none] at hlone
    obtain ⟨⟨⟨hsuffix, -⟩, hnone⟩, -⟩ := hlone
    cases h
    refine ⟨hsuffix, rfl, ⟨?_, ?_⟩, ?_⟩
    · exact Path.key_of_hasSuffix hsuffix (by decide)
    · exact Path.key_withScript file
    · rw [← Path.key_withScript file]
      exact hnone
  · cases h

end

/-- The two pairs have no stem in common. -/
def StemsDiffer (a b : Pair) : Prop := ∀ k l, a.Named k → b.Named l → k ≠ l

theorem StemsDiffer.symm {a b : Pair} (h : StemsDiffer a b) : StemsDiffer b a :=
  fun k l hb ha => (h l k ha hb).symm

/-- A pair has at most one stem, so stems that are known to differ settle it. -/
theorem stemsDiffer_of_ne {a b : Pair} {k l : Text} (ha : a.Named k) (hb : b.Named l)
    (hne : k ≠ l) : StemsDiffer a b := by
  intro k' l' ha' hb'
  have hk : k = k' := List.append_cancel_right (ha.target.symm.trans ha'.target)
  have hl : l = l' := List.append_cancel_right (hb.target.symm.trans hb'.target)
  rwa [← hk, ← hl]

/-- No two of the files are equal in lower case. -/
def KeysDiffer (files : List Path) : Prop := ∀ p ∈ files, ∀ q ∈ files, p.key = q.key → p = q

/-- Among files that differ in lower case, no two pairs have one stem: two scripts or two
documents of one stem would be one file, and a document stands alone only if no file is
the script of its stem. -/
theorem pairs_stemsDiffer (t : FileTree) {files : List Path} (hnodup : files.Nodup)
    (hkeys : KeysDiffer files) : (pairs t files).Pairwise StemsDiffer := by
  have hstems : ∀ {suffix : Text}, suffix ∈ Path.pairSuffixes → ∀ p ∈ files, ∀ q ∈ files,
      p.hasSuffix suffix = true → q.hasSuffix suffix = true → p ≠ q → p.stemKey ≠ q.stemKey := by
    intro suffix hsuffix p hp q hq hps hqs hne hstem
    apply hne
    apply hkeys p hp q hq
    rw [Path.key_of_hasSuffix hps hsuffix, Path.key_of_hasSuffix hqs hsuffix, hstem]
  unfold pairs
  refine ((List.mergeSort_perm _ _).pairwise_iff StemsDiffer.symm).mpr ?_
  -- Two scripts, two documents that stand alone, and one of each.
  rw [List.pairwise_append]
  refine ⟨?_, ?_, ?_⟩
  · refine List.pairwise_filterMap.mpr (hnodup.imp_of_mem ?_)
    intro p q hp hq hne a ha b hb
    obtain ⟨hps, -, -, hna⟩ := scriptPair?_eq_some ha
    obtain ⟨hqs, -, -, hnb⟩ := scriptPair?_eq_some hb
    exact stemsDiffer_of_ne hna hnb (hstems (by decide) p hp q hq hps hqs hne)
  · refine List.pairwise_filterMap.mpr (hnodup.imp_of_mem ?_)
    intro p q hp hq hne a ha b hb
    obtain ⟨hps, -, hna, -⟩ := lonePair?_eq_some ha
    obtain ⟨hqs, -, hnb, -⟩ := lonePair?_eq_some hb
    exact stemsDiffer_of_ne hna hnb (hstems (by decide) p hp q hq hps hqs hne)
  · intro a ha b hb
    obtain ⟨p, hp, ha⟩ := List.mem_filterMap.mp ha
    obtain ⟨q, hq, hb⟩ := List.mem_filterMap.mp hb
    obtain ⟨-, -, hscript, hna⟩ := scriptPair?_eq_some ha
    obtain ⟨-, -, hnb, hnone⟩ := lonePair?_eq_some hb
    refine stemsDiffer_of_ne hna hnb fun hstem => hnone p hp ?_
    rw [← hstem, ← hna.target, Pair.target, hscript]
    rfl

theorem mem_pairs {t : FileTree} {files : List Path} {pair : Pair} (h : pair ∈ pairs t files) :
    (∃ stem, pair.Named stem) ∧ pair.html ∈ files ∧
      (∀ script, pair.script = some script → script ∈ files) := by
  unfold pairs at h
  rw [(List.mergeSort_perm _ _).mem_iff, List.mem_append, List.mem_filterMap,
    List.mem_filterMap] at h
  rcases h with ⟨file, hfile, h⟩ | ⟨file, hfile, h⟩
  · obtain ⟨-, hhtml, hscript, hnamed⟩ := scriptPair?_eq_some h
    refine ⟨⟨_, hnamed⟩, hhtml, ?_⟩
    rw [hscript]
    rintro script ⟨⟩
    exact hfile
  · obtain ⟨-, rfl, hnamed, -⟩ := lonePair?_eq_some h
    exact ⟨⟨_, hnamed⟩, hfile, by simp⟩

/-! ## The files of a tree -/

theorem seen_below {root p q : Path} {e e' : Entry}
    (h : (match Path.below? root p with
      | some (name :: rest) => some (name :: rest, e)
      | _ => none) = some (q, e')) : q ≠ [] ∧ p = root ++ q ∧ e = e' := by
  split at h
  · rename_i name rest hbelow
    unfold Path.below? at hbelow
    split at hbelow
    · rename_i hprefix
      obtain ⟨q', rfl⟩ := List.isPrefixOf_iff_prefix.mp hprefix
      simp only [List.drop_left, Option.some.injEq] at hbelow
      simp only [Option.some.injEq, Prod.mk.injEq] at h
      obtain ⟨rfl, rfl⟩ := h
      exact ⟨by simp, by rw [hbelow], rfl⟩
    · cases hbelow
  · cases h

theorem mem_below {t : FileTree} {root q : Path} {e : Entry} (h : (q, e) ∈ t.below root) :
    q ≠ [] ∧ (root ++ q, e) ∈ t.entries := by
  obtain ⟨⟨p, e'⟩, hmem, h⟩ := List.mem_filterMap.mp h
  obtain ⟨hne, rfl, rfl⟩ := seen_below h
  exact ⟨hne, hmem⟩

theorem mem_filesBelow {t : FileTree} {root q : Path} (h : q ∈ filesBelow t root) :
    q ≠ [] ∧ ∃ bytes, (root ++ q, .file bytes) ∈ t.entries := by
  unfold filesBelow at h
  rw [(List.mergeSort_perm _ _).mem_iff] at h
  obtain ⟨⟨q', e⟩, hmem, h⟩ := List.mem_filterMap.mp h
  obtain ⟨hne, hentry⟩ := mem_below hmem
  cases e with
  | file bytes =>
    cases h
    exact ⟨hne, bytes, hentry⟩
  | directory => cases h

section

variable {t : FileTree} {root : Path} {exclude : List Text}

theorem mem_files (ht : t.WellFormed) {p : Path} (h : p ∈ files t root exclude) :
    root <+: p ∧ ∃ bytes, t.get? p = some (.file bytes) := by
  obtain ⟨q, hq, rfl⟩ := List.mem_map.mp h
  obtain ⟨hne, bytes, hentry⟩ := mem_filesBelow (List.mem_filter.mp hq).1
  exact ⟨List.prefix_append root q, bytes, ht.get?_of_mem (by simp [hne]) hentry⟩

theorem filesBelow_nodup (ht : t.WellFormed) : (filesBelow t root).Nodup := by
  have honce : t.entries.Pairwise fun a b => a.1 ≠ b.1 := List.pairwise_map.mp ht.once
  have hbelow : (t.below root).Pairwise fun a b => a.1 ≠ b.1 := by
    refine List.pairwise_filterMap.mpr (honce.imp ?_)
    rintro ⟨p, e⟩ ⟨q, f⟩ hne ⟨p', e'⟩ hp ⟨q', f'⟩ hq hsame
    obtain ⟨-, rfl, -⟩ := seen_below hp
    obtain ⟨-, rfl, -⟩ := seen_below hq
    exact hne (congrArg (root ++ ·) hsame)
  refine (List.mergeSort_perm _ _).nodup_iff.mpr (List.pairwise_filterMap.mpr (hbelow.imp ?_))
  rintro ⟨p, e⟩ ⟨q, f⟩ hne p' hp q' hq
  cases e <;> cases f <;> cases hp <;> cases hq
  exact hne

theorem files_nodup (ht : t.WellFormed) : (files t root exclude).Nodup := by
  refine List.pairwise_map.mpr (((filesBelow_nodup ht).filter _).imp ?_)
  intro p q hne hsame
  exact hne (List.append_cancel_left hsame)

/-! ## The pairs of a tree -/

theorem touched_of_mem_pairs (ht : t.WellFormed) {pair : Pair}
    (h : pair ∈ pairs t (files t root exclude)) : pair.touched = [pair.target, pair.html] := by
  obtain ⟨-, hhtml, hscript⟩ := mem_pairs h
  have hplain : ∀ p ∈ files t root exclude, Path.IsPlain p := by
    intro p hp
    obtain ⟨-, bytes, hget⟩ := mem_files ht hp
    exact ht.plain_of_get? hget
  have htarget : Path.IsPlain pair.target := by
    unfold Pair.target
    cases hs : pair.script with
    | none => exact (hplain _ hhtml).withSuffix ".js" (by decide)
    | some script => exact hplain _ (hscript script hs)
  rw [Pair.touched, htarget.resolve, (hplain _ hhtml).resolve]

/-- Where no two files below the directory are equal in lower case, the pairs share no file. -/
theorem pairs_apart (ht : t.WellFormed) (hkeys : KeysDiffer (files t root exclude)) :
    (pairs t (files t root exclude)).Pairwise Pair.Apart := by
  refine (pairs_stemsDiffer t (files_nodup ht) hkeys).imp_of_mem ?_
  intro a b ha hb hdiffer
  obtain ⟨⟨k, hk⟩, -⟩ := mem_pairs ha
  obtain ⟨⟨l, hl⟩, -⟩ := mem_pairs hb
  exact hk.apart hl (hdiffer k l hk hl) (touched_of_mem_pairs ht ha) (touched_of_mem_pairs ht hb)

theorem pairs_stand (ht : t.WellFormed) :
    ∀ pair ∈ pairs t (files t root exclude), pair.Stands t := by
  intro pair h
  obtain ⟨⟨k, hk⟩, hhtml, hscript⟩ := mem_pairs h
  have hthere : ∀ p ∈ files t root exclude, ∃ e, t.get? p = some e := by
    intro p hp
    obtain ⟨-, bytes, hget⟩ := mem_files ht hp
    exact ⟨_, hget⟩
  have htouched := touched_of_mem_pairs ht h
  simp only [Pair.touched, List.cons.injEq, and_true] at htouched
  refine ⟨hthere _ hhtml, fun script hs => hthere _ (hscript script hs), ?_⟩
  rw [htouched.1, htouched.2]
  exact hk.html_ne_target hk

end

end Scan

end ImportLift
