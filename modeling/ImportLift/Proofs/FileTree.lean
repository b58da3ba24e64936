-- What the operations on a tree do to what its paths hold. A write sets one
-- path, a deletion clears one, and every other path is as before; an
-- operation that fails changes nothing. A file reads the same in two trees
-- that agree on its path and on the directories on the way to it; in a tree
-- as systems hold them, those directories are there.
import Mathlib.Data.List.Induction
import ImportLift.FileTree
import ImportLift.Proofs.Path

namespace ImportLift.FileTree

/-! ## The view after a change -/

theorem lookup_filter_ne (entries : List (Path × Entry)) (p q : Path) :
    (entries.filter (·.1 ≠ p)).lookup q = if q = p then none else entries.lookup q := by
  induction entries with
  | nil => simp
  | cons entry entries ih =>
    obtain ⟨r, e⟩ := entry
    by_cases hrp : r = p
    · subst hrp
      simp only [ne_eq, not_true_eq_false, decide_false, Bool.false_eq_true, not_false_eq_true,
        List.filter_cons_of_neg]
      rw [ih, List.lookup_cons]
      by_cases hqr : q = r
      · simp [hqr]
      · rw [beq_eq_false_iff_ne.mpr hqr]
    · rw [List.filter_cons_of_pos (by simpa using hrp), List.lookup_cons, List.lookup_cons]
      by_cases hqr : q = r
      · subst hqr
        simp [hrp]
      · rw [beq_eq_false_iff_ne.mpr hqr]
        exact ih

theorem get?_erase_of_ne (t : FileTree) {p q : Path} (h : q ≠ p) :
    (t.erase p).get? q = t.get? q := by
  simp only [get?, erase, lookup_filter_ne, if_neg h]

theorem get?_erase_self (t : FileTree) {p : Path} (h : p ≠ []) : (t.erase p).get? p = none := by
  simp only [get?, erase, lookup_filter_ne, if_true]
  simp [h]

theorem get?_put_of_ne (t : FileTree) {p q : Path} (h : q ≠ p) (e : Entry) :
    (t.put p e).get? q = t.get? q := by
  unfold get? put
  rw [List.lookup_cons, beq_eq_false_iff_ne.mpr h]
  simp only [erase, lookup_filter_ne, if_neg h]

theorem get?_put_self (t : FileTree) {p : Path} (h : p ≠ []) (e : Entry) :
    (t.put p e).get? p = some e := by
  simp [get?, put, h]

/-! ## Operations that succeed -/

theorem ne_nil_of_isDirectory {t : FileTree} {p : Path} (h : t.isDirectory p = false) : p ≠ [] := by
  rintro rfl
  simp [isDirectory, get?] at h

theorem isFile_iff {t : FileTree} {p : Path} :
    t.isFile p = true ↔ ∃ bytes, t.get? p = some (.file bytes) := by
  unfold isFile
  split <;> simp_all

theorem ne_nil_of_isFile {t : FileTree} {p : Path} (h : t.isFile p = true) : p ≠ [] := by
  rintro rfl
  simp [isFile, get?] at h

theorem write_eq_ok {t t' : FileTree} {p : Path} {text : Text} (h : t.write p text = .ok t') :
    t.obstacle? p.render p = none ∧ t.isDirectory p.resolve = false ∧
      t' = t.put p.resolve (.file (Utf8.encode text)) := by
  unfold write writeBytes at h
  split at h
  · cases h
  · rename_i hway
    split at h
    · cases h
    · rename_i hdir
      exact ⟨hway, by simpa using hdir, by simpa using h.symm⟩

theorem barrier?_eq_none_iff {t : FileTree} {shown : Text} {dir : Path} :
    t.barrier? shown dir = none ↔
      isLongName dir.name = false ∧ t.get? dir.resolve = some .directory := by
  unfold barrier?
  by_cases hlong : isLongName dir.name = true
  · simp [hlong]
  · simp only [hlong, Bool.false_eq_true, if_false, true_and]
    split <;> simp_all

/-- What stands in the way does not hang on how the path is shown. -/
theorem obstacle?_eq_none_iff {t : FileTree} {shown : Text} {p : Path} :
    t.obstacle? shown p = none ↔ isLongPath p = false ∧ isLongName p.name = false ∧
      ∀ dir ∈ ancestors p, isLongName dir.name = false ∧ t.get? dir.resolve = some .directory := by
  unfold obstacle?
  by_cases hpath : isLongPath p = true
  · simp [hpath]
  · by_cases hname : isLongName p.name = true
    · simp [hpath, hname]
    · simp [hpath, hname, barrier?_eq_none_iff]

/-- Without an obstacle, every directory on the way is there. -/
theorem isDirectory_of_obstacle? {t : FileTree} {shown : Text} {p dir : Path}
    (h : t.obstacle? shown p = none) (hdir : dir ∈ ancestors p) :
    t.isDirectory dir.resolve = true := by
  obtain ⟨-, -, hway⟩ := obstacle?_eq_none_iff.mp h
  simp [isDirectory, (hway dir hdir).2]

theorem stat_eq_ok {t : FileTree} {p : Path} {e : Entry} (h : t.stat p = .ok e) :
    t.get? p.resolve = some e := by
  unfold stat at h
  split at h
  · cases h
  · rename_i he
    cases h
    exact he
  · cases h

theorem probe_eq_some {t : FileTree} {p : Path} {e : Entry} (h : t.probe p = .ok (some e)) :
    t.get? p.resolve = some e := by
  unfold probe at h
  split at h
  · rename_i hstat
    cases h
    exact stat_eq_ok hstat
  · cases h
  · cases h

theorem stat_of_read {t : FileTree} {p : Path} {text : Text} (h : t.read p = .ok text) :
    ∃ bytes, t.stat p = .ok (.file bytes) := by
  unfold read readBytes at h
  split at h
  · cases h
  · rename_i bytes hbytes
    split at hbytes
    · cases hbytes
    · cases hbytes
    · rename_i hstat
      exact ⟨_, hstat⟩

theorem isFile_of_read {t : FileTree} {p : Path} {text : Text} (h : t.read p = .ok text) :
    t.isFile p.resolve = true := by
  obtain ⟨bytes, hstat⟩ := stat_of_read h
  exact isFile_iff.mpr ⟨bytes, stat_eq_ok hstat⟩

/-- A file that can be read is deleted unless it is locked. -/
theorem delete_of_read {t : FileTree} {p : Path} {text : Text} (h : t.read p = .ok text) :
    t.delete p =
      if p.resolve ∈ t.locked then .error (.denied p.render) else .ok (t.erase p.resolve) := by
  obtain ⟨bytes, hstat⟩ := stat_of_read h
  simp [delete, hstat]

theorem delete_eq_ok {t t' : FileTree} {p : Path} (h : t.delete p = .ok t') :
    t.isFile p.resolve = true ∧ t' = t.erase p.resolve := by
  unfold delete at h
  split at h
  · cases h
  · cases h
  · rename_i bytes hstat
    split at h
    · cases h
    · cases h
      exact ⟨isFile_iff.mpr ⟨bytes, stat_eq_ok hstat⟩, rfl⟩

/-! ## Reading -/

section

variable {t t' : FileTree} {p : Path}

theorem obstacle?_congr (shown : Text)
    (hway : ∀ dir ∈ ancestors p, t'.get? dir.resolve = t.get? dir.resolve) :
    t'.obstacle? shown p = t.obstacle? shown p := by
  have hbarrier : (ancestors p).map (t'.barrier? shown) = (ancestors p).map (t.barrier? shown) := by
    apply List.map_congr_left
    intro dir hdir
    rw [barrier?, barrier?, hway dir hdir]
  have hfirst : ∀ u : FileTree, (ancestors p).findSome? (u.barrier? shown) =
      ((ancestors p).map (u.barrier? shown)).findSome? id := by
    intro u
    rw [List.findSome?_map]
    rfl
  unfold obstacle?
  rw [hfirst t', hfirst t, hbarrier]

theorem probe_congr (hway : ∀ dir ∈ ancestors p, t'.get? dir.resolve = t.get? dir.resolve)
    (hp : t'.get? p.resolve = t.get? p.resolve) : t'.probe p = t.probe p := by
  unfold probe stat
  rw [obstacle?_congr p.render hway, hp]

/-- A path reads the same where it, and every directory on the way to it, are the same. -/
theorem read_congr (hway : ∀ dir ∈ ancestors p, t'.get? dir.resolve = t.get? dir.resolve)
    (hp : t'.get? p.resolve = t.get? p.resolve) : t'.read p = t.read p := by
  unfold read readBytes stat
  rw [obstacle?_congr p.render hway, hp]

end

/-! ## Trees that differ at few paths -/

/-- Both trees hold the same at every path but the given ones, and lock the same files. -/
def SameExcept (paths : List Path) (t t' : FileTree) : Prop :=
  t'.locked = t.locked ∧ ∀ p, p ∉ paths → t'.get? p = t.get? p

theorem SameExcept.refl (t : FileTree) (paths : List Path) : SameExcept paths t t :=
  ⟨rfl, fun _ _ => rfl⟩

theorem SameExcept.mono {t t' : FileTree} {paths more : List Path} (h : SameExcept paths t t')
    (hsub : paths ⊆ more) : SameExcept more t t' :=
  ⟨h.1, fun p hp => h.2 p fun hmem => hp (hsub hmem)⟩

theorem SameExcept.trans {t t' t'' : FileTree} {paths paths' : List Path}
    (h : SameExcept paths t t') (h' : SameExcept paths' t' t'') :
    SameExcept (paths ++ paths') t t'' := by
  refine ⟨h'.1.trans h.1, fun p hp => ?_⟩
  rw [List.mem_append, not_or] at hp
  exact (h'.2 p hp.2).trans (h.2 p hp.1)

theorem sameExcept_put (t : FileTree) (p : Path) (e : Entry) : SameExcept [p] t (t.put p e) :=
  ⟨rfl, fun _ hq => get?_put_of_ne t (by simpa using hq) e⟩

theorem sameExcept_erase (t : FileTree) (p : Path) : SameExcept [p] t (t.erase p) :=
  ⟨rfl, fun _ hq => get?_erase_of_ne t (by simpa using hq)⟩

/-- Every directory of the first tree is one of the second. -/
def KeepsDirectories (t t' : FileTree) : Prop :=
  ∀ dir, t.get? dir = some .directory → t'.get? dir = some .directory

theorem KeepsDirectories.refl (t : FileTree) : KeepsDirectories t t := fun _ hdir => hdir

theorem KeepsDirectories.trans {t t' t'' : FileTree} (h : KeepsDirectories t t')
    (h' : KeepsDirectories t' t'') : KeepsDirectories t t'' :=
  fun dir hdir => h' dir (h dir hdir)

theorem keepsDirectories_put {t : FileTree} {p : Path} (h : t.isDirectory p = false) (e : Entry) :
    KeepsDirectories t (t.put p e) := by
  intro dir hdir
  have hne : dir ≠ p := by
    rintro rfl
    simp [isDirectory, hdir] at h
  rw [get?_put_of_ne _ hne]
  exact hdir

theorem keepsDirectories_erase {t : FileTree} {p : Path} (h : t.isFile p = true) :
    KeepsDirectories t (t.erase p) := by
  intro dir hdir
  have hne : dir ≠ p := by
    rintro rfl
    simp [isFile, hdir] at h
  rw [get?_erase_of_ne _ hne]
  exact hdir

/-! ## Trees as systems hold them -/

/-- Every path stands once, without double dots, in a directory that is there. -/
structure WellFormed (t : FileTree) : Prop where
  once : (t.entries.map (·.1)).Nodup
  plain : ∀ entry ∈ t.entries, Path.IsPlain entry.1
  held : ∀ entry ∈ t.entries, t.isDirectory (Path.parent entry.1) = true

instance (t : FileTree) : Decidable t.WellFormed :=
  decidable_of_iff
    ((t.entries.map (·.1)).Nodup ∧ (∀ entry ∈ t.entries, Path.IsPlain entry.1) ∧
      ∀ entry ∈ t.entries, t.isDirectory (Path.parent entry.1) = true)
    ⟨fun ⟨once, plain, held⟩ => ⟨once, plain, held⟩, fun h => ⟨h.once, h.plain, h.held⟩⟩

theorem mem_of_get? {t : FileTree} {p : Path} {e : Entry} (hp : p ≠ []) (h : t.get? p = some e) :
    (p, e) ∈ t.entries := by
  simp only [get?, List.isEmpty_iff, if_neg hp] at h
  obtain ⟨before, behind, hentries, -⟩ := List.lookup_eq_some_iff.mp h
  simp [hentries]

theorem mem_of_isFile {t : FileTree} {p : Path} (h : t.isFile p = true) :
    ∃ bytes, (p, .file bytes) ∈ t.entries := by
  obtain ⟨bytes, hget⟩ := isFile_iff.mp h
  exact ⟨bytes, mem_of_get? (ne_nil_of_isFile h) hget⟩

namespace WellFormed

variable {t : FileTree} {p : Path} {e : Entry}

theorem get?_of_mem (h : t.WellFormed) (hp : p ≠ []) (hmem : (p, e) ∈ t.entries) :
    t.get? p = some e := by
  simp only [get?, List.isEmpty_iff, if_neg hp]
  obtain ⟨before, behind, hentries⟩ := List.append_of_mem hmem
  have honce := h.once
  rw [hentries, List.map_append, List.map_cons, List.nodup_append] at honce
  refine List.lookup_eq_some_iff.mpr ⟨before, behind, hentries, fun entry hentry => ?_⟩
  have hne := honce.2.2 entry.1 (List.mem_map_of_mem hentry) p List.mem_cons_self
  simpa using fun heq => hne heq.symm

theorem plain_of_get? (h : t.WellFormed) (hp : t.get? p = some e) : p.IsPlain := by
  by_cases hnil : p = []
  · subst hnil
    intro name hname
    cases hname
  · exact h.plain _ (mem_of_get? hnil hp)

/-- Every directory on the way to a path that is there is there too. -/
theorem get?_take (h : t.WellFormed) (hp : t.get? p = some e) {n : Nat} (hn : n < p.length) :
    t.get? (p.take n) = some .directory := by
  -- The parent is a directory, and what lies further up lies on the way to the parent.
  induction p using List.reverseRecOn generalizing e with
  | nil => simp at hn
  | append_singleton parent name ih =>
    have hparent : t.get? parent = some .directory := by
      have hheld := h.held _ (mem_of_get? (by simp) hp)
      simpa [isDirectory, Path.parent] using hheld
    rw [List.length_append, List.length_singleton] at hn
    rw [List.take_append_of_le_length (by omega)]
    by_cases hlast : n = parent.length
    · rw [hlast, List.take_length]
      exact hparent
    · exact ih hparent (by omega)

theorem put (h : t.WellFormed) (hplain : p.IsPlain) (hparent : t.isDirectory p.parent = true)
    (hdir : t.isDirectory p = false) (e : Entry) : (t.put p e).WellFormed := by
  have hkeeps := keepsDirectories_put hdir e
  refine ⟨?_, ?_, ?_⟩
  · have hrest : ((t.erase p).entries.map (·.1)).Nodup := h.once.sublist (List.filter_sublist.map _)
    refine List.nodup_cons.mpr ⟨?_, hrest⟩
    simp [erase]
  · intro entry hentry
    rcases List.mem_cons.mp hentry with rfl | hentry
    · exact hplain
    · exact h.plain entry (List.mem_filter.mp hentry).1
  · intro entry hentry
    simp only [isDirectory, decide_eq_true_eq]
    apply hkeeps
    rcases List.mem_cons.mp hentry with rfl | hentry
    · simpa [isDirectory] using hparent
    · simpa [isDirectory] using h.held entry (List.mem_filter.mp hentry).1

theorem erase (h : t.WellFormed) (hfile : t.isFile p = true) : (t.erase p).WellFormed := by
  have hkeeps := keepsDirectories_erase hfile
  refine ⟨h.once.sublist (List.filter_sublist.map _), ?_, ?_⟩
  · intro entry hentry
    exact h.plain entry (List.mem_filter.mp hentry).1
  · intro entry hentry
    simp only [isDirectory, decide_eq_true_eq]
    apply hkeeps
    simpa [isDirectory] using h.held entry (List.mem_filter.mp hentry).1

/-- What a path without obstacles leads to lies in a directory. -/
theorem isDirectory_parent (h : t.WellFormed) {shown : Text} (hway : t.obstacle? shown p = none)
    (hdir : t.isDirectory p.resolve = false) : t.isDirectory p.resolve.parent = true := by
  have hne : p ≠ [] := by
    rintro rfl
    exact ne_nil_of_isDirectory hdir rfl
  have hup : t.isDirectory p.parent.resolve = true := by
    refine isDirectory_of_obstacle? hway (List.mem_map.mpr ⟨p.length - 1, ?_, ?_⟩)
    · have := List.length_pos_iff.mpr hne
      simp
      omega
    · exact List.dropLast_eq_take.symm
  have hresolve : p.resolve = p.parent.resolve.climb (p.getLast hne) := by
    conv_lhs => rw [← List.dropLast_concat_getLast hne]
    simp [Path.resolve, Path.parent]
  rw [hresolve] at hdir ⊢
  unfold Path.climb at hdir ⊢
  split at hdir
  · -- A double dot at the end leads to the parent of a directory, which is one itself.
    exfalso
    by_cases hnil : p.parent.resolve = []
    · simp [hnil, isDirectory, get?] at hdir
    · have hheld := h.held _ (mem_of_get? hnil (by simpa [isDirectory] using hup))
      rw [Path.parent, hdir] at hheld
      cases hheld
  · rename_i hname
    rw [if_neg hname, Path.parent, List.dropLast_concat]
    exact hup

/-- A write that succeeds leaves a tree of the same kind. -/
theorem write (h : t.WellFormed) {text : Text} {t' : FileTree} (hwrite : t.write p text = .ok t') :
    t'.WellFormed := by
  obtain ⟨hway, hdir, rfl⟩ := write_eq_ok hwrite
  exact h.put (Path.resolve_isPlain p) (h.isDirectory_parent hway hdir) hdir _

theorem delete (h : t.WellFormed) {t' : FileTree} (hdelete : t.delete p = .ok t') :
    t'.WellFormed := by
  obtain ⟨hfile, rfl⟩ := delete_eq_ok hdelete
  exact h.erase hfile

end WellFormed

/-- A path in a directory leads over the same directories as long as all of them stay. -/
theorem way_of_keepsDirectories {t t' : FileTree} {dir p : Path} (h : t.WellFormed)
    (hdir : t.get? dir = some .directory) (hdirs : KeepsDirectories t t')
    (hp : ∀ n < p.length, p.take n <+: dir) :
    ∀ d ∈ ancestors p, t'.get? d.resolve = t.get? d.resolve := by
  intro d hd
  simp only [ancestors, List.mem_map, List.mem_range] at hd
  obtain ⟨n, hn, rfl⟩ := hd
  have hthere : t.get? (p.take n) = some .directory := by
    have hstarts := hp n hn
    rw [List.prefix_iff_eq_take.mp hstarts]
    rcases Nat.lt_or_ge (p.take n).length dir.length with hlt | hge
    · exact h.get?_take hdir hlt
    · rw [List.take_of_length_le hge]
      exact hdir
  rw [(h.plain_of_get? hthere).resolve, hthere, hdirs _ hthere]

/-- A path that is there reads the same as long as it and all directories stay. -/
theorem read_of_keepsDirectories {t t' : FileTree} {p : Path} {e : Entry} (h : t.WellFormed)
    (hp : t.get? p = some e) (hdirs : KeepsDirectories t t') (hsame : t'.get? p = t.get? p) :
    t'.read p = t.read p := by
  have hplain := h.plain_of_get? hp
  apply read_congr
  · intro dir hdir
    simp only [ancestors, List.mem_map, List.mem_range] at hdir
    obtain ⟨n, hn, rfl⟩ := hdir
    rw [(hplain.take n).resolve, h.get?_take hp hn, hdirs _ (h.get?_take hp hn)]
  · rw [hplain.resolve]
    exact hsame

end ImportLift.FileTree
