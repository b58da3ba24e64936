-- A run on one file against a run on its directory. Named by itself, a file
-- looks for its companion under one spelling alone, and anything under that
-- spelling will do; a scan takes a companion in any spelling, and only a file.
-- So either file of a pair leads back to the pair precisely where the other is
-- spelled as its companion, and a document that stands alone where no
-- directory has the name of its target.
import ImportLift.Proofs.Migration.Exclusion

namespace ImportLift

/-! ## Lengths -/

namespace Text

theorem length_lowerOne_le (c : Char) : (lowerOne c).length ≤ 2 := by
  unfold lowerOne
  split
  · simp
  · split
    · simp
    · split <;> simp

theorem length_lowerFrom_le (behind : Bool) (text : Text) :
    (lowerFrom behind text).length ≤ 2 * text.length := by
  induction text generalizing behind with
  | nil => simp [lowerFrom]
  | cons c rest ih =>
    simp only [lowerFrom, List.length_append, List.length_cons]
    have himage : (if c = 'Σ' then (if behind && !casedAhead rest then ['ς'] else ['σ'])
        else lowerOne c).length ≤ 2 := by
      split
      · split <;> simp
      · exact length_lowerOne_le c
    exact Nat.le_trans (Nat.add_le_add himage (ih _)) (by omega)

end Text

namespace Utf8

theorem encode_append (a b : Text) : encode (a ++ b) = encode a ++ encode b :=
  List.flatMap_append

theorem length_le_encode (text : Text) : text.length ≤ (encode text).length := by
  induction text with
  | nil => simp [encode]
  | cons c rest ih =>
    have hpos : 0 < (String.utf8EncodeChar c).length := by
      rw [String.length_utf8EncodeChar]
      exact Char.utf8Size_pos c
    simp only [encode, List.flatMap_cons, List.length_append, List.length_cons] at ih ⊢
    omega

end Utf8

namespace Text

/-- Lower case of an appended text is that of its parts, up to the forms of sigma. -/
theorem exists_lowerFrom_append (behind : Bool) (text ending : Text) :
    ∃ front b, lowerFrom behind (text ++ ending) = front ++ lowerFrom b ending ∧
      front.length = (lowerBefore behind text).length := by
  induction text generalizing behind with
  | nil => exact ⟨[], behind, rfl, rfl⟩
  | cons c rest ih =>
    obtain ⟨front, b, happend, hlength⟩ := ih (if c.toNat < 128 && c.isAlphanum then c.isAlpha
      else if isCaseIgnorable c then behind else isCased c)
    simp only [List.cons_append, lowerFrom, lowerBefore, happend, ← List.append_assoc]
    refine ⟨_, b, rfl, ?_⟩
    rw [List.length_append, List.length_append, hlength]
    congr 1
    split
    · split <;> split <;> rfl
    · rfl

end Text

namespace Path

/-- A path whose key is that of its stem and a suffix has the suffix. -/
theorem hasSuffix_of_key {p : Path} {suffix : Text} (hsuffix : suffix ∈ pairSuffixes)
    (h : p.key = p.stemKey ++ suffix) : p.hasSuffix suffix = true := by
  have hne : p ≠ [] := by
    rintro rfl
    revert h hsuffix suffix
    decide
  have hown : p.render = (p.withSuffix []).render ++ p.suffix := by
    rw [← render_withSuffix, withSuffix_self hne]
  obtain ⟨front, b, happend, hlength⟩ :=
    Text.exists_lowerFrom_append false (p.withSuffix []).render p.suffix
  rw [key, Text.lower, hown, happend] at h
  have hlower : Text.lowerFrom b p.suffix = suffix := List.append_inj_right h hlength
  have hplain : ∀ s ∈ pairSuffixes, 'σ' ∉ s ∧ 'ς' ∉ s := by decide
  have hsame : Text.lower p.suffix = Text.lowerFrom b p.suffix := by
    apply Text.lowerFrom_congr
    · rw [hlower]
      exact (hplain suffix hsuffix).1
    · rw [hlower]
      exact (hplain suffix hsuffix).2
  rw [hasSuffix, hsame, hlower]
  simp

/-- The suffix of a script takes no more bytes than that of a document. -/
theorem encode_script_le {p : Path} (h : p.hasSuffix ".html" = true) :
    (Utf8.encode ".js").length ≤ (Utf8.encode p.suffix).length := by
  have hlower : Text.lower p.suffix = ".html" := by simpa [hasSuffix] using h
  have hletters := Text.length_lowerFrom_le false p.suffix
  rw [← Text.lower, hlower] at hletters
  have hbytes := Utf8.length_le_encode p.suffix
  have hthree : (Utf8.encode ".js").length = 3 := by decide
  simp at hletters
  omega

theorem name_withSuffix (p : Path) (suffix : Text) :
    (p.withSuffix suffix).name = renamed p.name suffix := by
  simp [withSuffix, name]

theorem ne_nil_of_hasSuffix {p : Path} (h : p.hasSuffix ".html" = true) : p ≠ [] := by
  rintro rfl
  revert h
  decide

end Path

namespace FileTree

theorem ancestors_withSuffix {p : Path} (hp : p ≠ []) (suffix : Text) :
    ancestors (p.withSuffix suffix) = ancestors p := by
  have hpos := List.length_pos_iff.mpr hp
  have hlength : (p.withSuffix suffix).length = p.length := by
    simp [Path.withSuffix, Path.parent]
    omega
  unfold ancestors
  rw [hlength]
  apply List.map_congr_left
  intro n hn
  rw [List.mem_range] at hn
  rw [Path.withSuffix, Path.parent, List.take_append_of_le_length (by simp; omega),
    List.dropLast_eq_take, List.take_take, Nat.min_eq_left (by omega)]

theorem probe_of_obstacle? {t : FileTree} {p : Path} (h : t.obstacle? p.render p = none) :
    t.probe p = .ok (t.get? p.resolve) := by
  unfold probe stat
  rw [h]
  cases t.get? p.resolve <;> rfl

/-- Beside a document that is there nothing stands in the way of its script. -/
theorem obstacle?_withScript {t : FileTree} {html : Path} {shown shown' : Text}
    (hhtml : html.hasSuffix ".html" = true) (h : t.obstacle? shown html = none) :
    t.obstacle? shown' (html.withSuffix ".js") = none := by
  have hne := Path.ne_nil_of_hasSuffix hhtml
  have hbytes := Path.encode_script_le hhtml
  rw [obstacle?_eq_none_iff] at h ⊢
  obtain ⟨hpath, hname, hway⟩ := h
  refine ⟨?_, ?_, ?_⟩
  · have hown : html.render = (html.withSuffix []).render ++ html.suffix := by
      rw [← Path.render_withSuffix, Path.withSuffix_self hne]
    simp only [isLongPath, decide_eq_false_iff_not, Nat.not_le] at hpath ⊢
    rw [hown, Utf8.encode_append, List.length_append] at hpath
    rw [Path.render_withSuffix, Utf8.encode_append, List.length_append]
    omega
  · have hown : html.name = Path.renamed html.name [] ++ html.suffix := by
      conv_lhs => rw [← Path.renamed_suffixOf html.name]
      simp [Path.renamed, Path.suffix]
    have hscript : (html.withSuffix ".js").name = Path.renamed html.name [] ++ ".js" := by
      rw [Path.name_withSuffix]
      simp [Path.renamed]
    simp only [isLongName, decide_eq_false_iff_not, Nat.not_lt] at hname ⊢
    rw [hown, Utf8.encode_append, List.length_append] at hname
    rw [hscript, Utf8.encode_append, List.length_append]
    omega
  · rw [ancestors_withSuffix hne]
    exact hway

end FileTree

namespace Scan

/-- Without exclusions, a file of any other suffix beside a kept file is kept too. -/
theorem Kept.beside {t : FileTree} {root p : Path} (h : Kept t root [] p) {suffix : Text}
    (hfile : t.isFile (p.withSuffix suffix) = true) : Kept t root [] (p.withSuffix suffix) := by
  obtain ⟨q, hq, rfl, hnot⟩ := h.below
  refine ⟨hfile, Path.withSuffix q suffix, by simp [Path.withSuffix],
    Path.withSuffix_append root hq suffix, ?_⟩
  rintro (hitself | ⟨dir, hstarts, hne, hproper, hbarred⟩)
  · cases hitself
  · exact absurd hbarred (enters_iff.mp (enters_withSuffix hq hnot suffix dir hstarts hne hproper))

/-- What stands under the name of the target of a lone document is no file. -/
theorem Belongs.target_of_alone {t : FileTree} {root html : Path}
    (h : Belongs t root [] ⟨html, none⟩) :
    t.get? (html.withSuffix ".js") = none ∨ t.get? (html.withSuffix ".js") = some .directory := by
  cases h with
  | alone hhtml hsuffix hnone hdeclares =>
    cases hget : t.get? (html.withSuffix ".js") with
    | none => exact .inl rfl
    | some e =>
      cases e with
      | directory => exact .inr rfl
      | file bytes =>
        have hkept := hhtml.beside (FileTree.isFile_iff.mpr ⟨bytes, hget⟩)
        exact absurd rfl (hnone _ hkept)

end Scan

namespace Migration

open FileTree

section

variable {t : FileTree} {root html script : Path} {e : Entry}

/-! ## The work on one file -/

/-- Named by itself, a document gets as its script whatever has the name. -/
theorem workOnFile_document (hplain : html.IsPlain) (hhtml : html.hasSuffix ".html" = true)
    (hstat : t.stat html = .ok e) :
    workOnFile t html = .ok (.single ⟨html,
      if (t.get? (html.withSuffix ".js")).isSome then some (html.withSuffix ".js") else none⟩) := by
  have hway : t.obstacle? html.render html = none := by
    unfold stat at hstat
    split at hstat
    · cases hstat
    · assumption
    · cases hstat
  have hprobe := probe_of_obstacle? (obstacle?_withScript hhtml hway)
  rw [(hplain.withSuffix ".js" (by decide)).resolve] at hprobe
  rw [workOnFile, if_pos hhtml]
  simp only [hprobe, Except.map]

/-- Named by itself, a script gets as its document what has the name of its companion. -/
theorem workOnFile_script (hjs : script.hasSuffix ".js" = true) :
    workOnFile t script = (t.probe (companion script)).map fun found =>
      if found.isSome then .single ⟨companion script, some script⟩
      else .incomplete ⟨companion script, some script⟩ := by
  have hother : ¬ script.hasSuffix ".html" = true := by
    rw [Path.hasSuffix, decide_eq_true_iff] at hjs ⊢
    rw [hjs]
    decide
  rw [workOnFile, if_neg hother]

/-! ## Back to the pair -/

theorem script_leads_back (hjs : script.hasSuffix ".js" = true) (hstat : t.stat html = .ok e) :
    workOnFile t script = .ok (.single ⟨html, some script⟩) ↔ html = companion script := by
  rw [workOnFile_script hjs]
  constructor
  · intro hwork
    cases hprobe : t.probe (companion script) with
    | error fault =>
      rw [hprobe] at hwork
      cases hwork
    | ok found =>
      rw [hprobe] at hwork
      cases found with
      | none => cases hwork
      | some e => exact (congrArg Pair.html (Work.single.inj (Except.ok.inj hwork))).symm
  · intro hcompanion
    have hprobe : t.probe html = .ok (some e) := by simp [probe, hstat]
    rw [← hcompanion, hprobe]
    rfl

theorem document_leads_back (ht : t.WellFormed) (hjs : script.hasSuffix ".js" = true)
    (hscript : t.isFile script = true) (hhtml : t.isFile html = true)
    (hkey : html.key = (script.withSuffix ".html").key) (hstat : t.stat html = .ok e) :
    workOnFile t html = .ok (.single ⟨html, some script⟩) ↔ script = html.withSuffix ".js" := by
  constructor
  · intro hwork
    rcases workOnFile_cases hwork with ⟨-, found, -, hsingle⟩ | ⟨hother, e, -, hsingle⟩ | hnone
    · simp only [Work.single.injEq, Pair.mk.injEq, true_and] at hsingle
      split at hsingle
      · exact Option.some.inj hsingle
      · cases hsingle
    · -- A document is not its own companion.
      simp only [Work.single.injEq, Pair.mk.injEq] at hsingle
      have hsame := Path.suffix_of_withSuffix (ne_nil_of_isFile hhtml) hsingle.1.symm
      rw [Path.hasSuffix, hsame] at hother
      exact absurd hother (by decide)
    · cases hnone
  · rintro rfl
    have hstem : (html.withSuffix ".js").stemKey = html.stemKey := by
      apply List.append_cancel_right
      rw [← Path.key_of_hasSuffix hjs (by decide), Path.key_withScript]
    rw [Path.key_withDocument, hstem] at hkey
    have hsuffix := Path.hasSuffix_of_key (by decide) hkey
    obtain ⟨bytes, hget⟩ := isFile_iff.mp hhtml
    obtain ⟨bytes', hget'⟩ := isFile_iff.mp hscript
    rw [workOnFile_document (ht.plain_of_get? hget) hsuffix hstat, hget']
    rfl

theorem lone_document_leads_back (ht : t.WellFormed) (h : Scan.Belongs t root [] ⟨html, none⟩)
    (hstat : t.stat html = .ok e) :
    workOnFile t html = .ok (.single ⟨html, none⟩) ↔
      t.isDirectory (html.withSuffix ".js") = false := by
  have htarget := h.target_of_alone
  cases h with
  | alone hhtml hsuffix hnone hdeclares =>
    rw [workOnFile_document (hhtml.isPlain ht) hsuffix hstat]
    rcases htarget with hget | hget
    · rw [isDirectory, hget]
      simp
    · rw [isDirectory, hget]
      simp

end

/-- Each file of a pair that a scan without exclusions finds leads back to the pair precisely
where the other file is spelled as its companion, and a document that stands alone where no
directory has the name of its target. The path of the document may not be too long to be asked
for. -/
theorem a_file_leads_back_to_its_pair_by_spelling {t : FileTree} (ht : t.WellFormed)
    {root : Path} {asked : Text} {found : List Pair} (h : Scan.run t root asked [] = .ok found)
    {pair : Pair} (hpair : pair ∈ found) {e : Entry} (hstat : t.stat pair.html = .ok e) :
    (workOnFile t pair.html = .ok (.single pair) ↔
      pair.target = pair.html.withSuffix ".js" ∧
        (pair.script = none → t.isDirectory pair.target = false)) ∧
    ∀ script, pair.script = some script →
      (workOnFile t script = .ok (.single pair) ↔ pair.html = companion script) := by
  rw [Scan.run_eq_ok h] at hpair
  have hbelongs := Scan.belongs_of_mem ht hpair
  obtain ⟨html, script⟩ := pair
  cases script with
  | none =>
    refine ⟨?_, by simp⟩
    simp only [Pair.target, Option.getD_none, true_and, forall_const]
    exact lone_document_leads_back ht hbelongs hstat
  | some script =>
    cases hbelongs with
    | scripted hscript hjs hhtml hkey =>
      refine ⟨?_, ?_⟩
      · simp only [Pair.target, Option.getD_some, reduceCtorEq, false_implies, and_true]
        exact document_leads_back ht hjs hscript.file hhtml.file hkey hstat
      · rintro _ ⟨⟩
        exact script_leads_back hjs hstat

/-- A script and its document with suffixes in small letters, beside a script in other ones. -/
theorem either_file_of_a_plain_pair_leads_to_it :
    let t : FileTree := ⟨[(["r"], .directory), (["r", "B.html"], .file []),
      (["r", "B.js"], .file []), (["r", "a.JS"], .file [])], []⟩
    let pair : Pair := ⟨["r", "B.html"], some ["r", "B.js"]⟩
    t.WellFormed ∧ Scan.run t ["r"] "r" [] = .ok [pair] ∧
      workOnFile t ["r", "B.html"] = .ok (.single pair) ∧
      workOnFile t ["r", "B.js"] = .ok (.single pair) := by
  intro t pair
  have ht : t.WellFormed := by decide
  have hfiles := Scan.files_of_sorted t ["r"] [["B.html"], ["B.js"], ["a.JS"]] rfl
    (by decide) (by decide)
  have hrun : Scan.run t ["r"] "r" [] = .ok [pair] :=
    Scan.run_of_sorted (by decide) rfl hfiles (by decide) (by decide) "r"
  obtain ⟨hdocument, hscript⟩ := a_file_leads_back_to_its_pair_by_spelling ht hrun
    (List.mem_singleton_self pair) (e := .file []) (by decide)
  exact ⟨ht, hrun, hdocument.mpr ⟨by decide, by simp [pair]⟩, (hscript _ rfl).mpr (by decide)⟩

/-- A script whose document has a suffix in capitals is said to have none, and a document that
stands alone beside a directory is given that as its script. -/
theorem a_file_can_lead_to_another_pair :
    let spelled : FileTree := ⟨[(["r"], .directory), (["r", "a.HTML"], .file []),
      (["r", "a.js"], .file [])], []⟩
    let beside : FileTree := ⟨[(["r"], .directory),
      (["r", "b.html"], .file (Utf8.encode "<dom-module>")), (["r", "b.js"], .directory)], []⟩
    Scan.run spelled ["r"] "r" [] = .ok [⟨["r", "a.HTML"], some ["r", "a.js"]⟩] ∧
      workOnFile spelled ["r", "a.js"] = .ok (.incomplete ⟨["r", "a.html"], some ["r", "a.js"]⟩) ∧
      Scan.run beside ["r"] "r" [] = .ok [⟨["r", "b.html"], none⟩] ∧
      workOnFile beside ["r", "b.html"] = .ok (.single ⟨["r", "b.html"], some ["r", "b.js"]⟩) := by
  intro spelled beside
  have hspelled := Scan.files_of_sorted spelled ["r"] [["a.HTML"], ["a.js"]] rfl
    (by decide) (by decide)
  have hbeside := Scan.files_of_sorted beside ["r"] [["b.html"]] rfl
    (by decide) (by decide)
  refine ⟨?_, by decide, ?_, by decide⟩
  · exact Scan.run_of_sorted (by decide) rfl hspelled (by decide)
      (by decide) "r"
  · exact Scan.run_of_sorted (by decide) rfl hbeside (by decide +kernel)
      (by decide) "r"

end Migration

end ImportLift
