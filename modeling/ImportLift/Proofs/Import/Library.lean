-- The library in a reference. A reference enters the library where its segment
-- ends, and the search finds the first such place with what it asks for behind
-- it. The new ending of a reference holds no slash, so it moves none of these
-- places: the library root of a reference and the place where its import gets
-- the namespace are found in two texts, and are the same.
import Mathlib.Order.Bounds.Basic
import Mathlib.Order.Nat
import ImportLift.Proofs.Import

namespace ImportLift

/-! ## Where a segment ends -/

/-- In front of the offset stand the segment and a slash, and they start the text or stand behind
a slash themselves. -/
def EndsSegment (segment text : Text) (stop : Nat) : Prop :=
  stop ≤ text.length ∧ ∃ before, text.take stop = before ++ segment ++ ['/'] ∧
    (before = [] ∨ before.getLast? = some '/')

variable {segment text front rest ending : Text} {accept : Text → Bool} {stop : Nat}

/-- A segment that ends in a text starts in it. -/
theorem EndsSegment.length_le (h : EndsSegment segment text stop) : segment.length + 1 ≤ stop := by
  obtain ⟨hstop, before, hbefore, -⟩ := h
  have hlength := congrArg List.length hbefore
  simp at hlength
  omega

/-- What stands in front of the end of a segment ends in a slash. -/
theorem EndsSegment.getLast? (h : EndsSegment segment text stop) :
    (text.take stop).getLast? = some '/' := by
  obtain ⟨-, before, hbefore, -⟩ := h
  rw [hbefore, List.getLast?_concat]

theorem EndsSegment.take_ne_nil (h : EndsSegment segment text stop) : text.take stop ≠ [] := by
  intro hnil
  have hlast := h.getLast?
  simp [hnil] at hlast

/-- A segment ends where it is looked for exactly when the text goes on with it there. -/
theorem endsSegment_append :
    EndsSegment segment (front ++ rest) (front.length + (segment.length + 1)) ↔
      (front = [] ∨ front.getLast? = some '/') ∧ segment ++ ['/'] <+: rest := by
  constructor
  · rintro ⟨hstop, before, hbefore, hfresh⟩
    have hsplit := List.take_append_drop (front.length + (segment.length + 1)) (front ++ rest)
    have hlength := congrArg List.length hbefore
    rw [List.length_take_of_le hstop] at hlength
    simp only [List.length_append, List.length_singleton] at hlength
    rw [hbefore, List.append_assoc, List.append_assoc] at hsplit
    obtain ⟨rfl, hrest⟩ := List.append_inj hsplit (by omega)
    refine ⟨hfresh, ?_⟩
    rw [← hrest, ← List.append_assoc]
    exact List.prefix_append _ _
  · rintro ⟨hfresh, more, rfl⟩
    have hlength : front.length + (segment.length + 1) = (front ++ (segment ++ ['/'])).length := by
      simp
    refine ⟨by simp, front, ?_, hfresh⟩
    rw [← List.append_assoc, hlength, List.take_left, List.append_assoc]

/-- Where the segments end that start at the offset or behind it and are followed by what the test
accepts. -/
def endsFrom (segment : Text) (accept : Text → Bool) (text : Text) (start : Nat) : Set Nat :=
  {i | EndsSegment segment text i ∧ accept (text.drop i) = true ∧ start + (segment.length + 1) ≤ i}

theorem isLeast_endsFrom {start : Nat}
    (h : start + (segment.length + 1) ∈ endsFrom segment accept text start) :
    IsLeast (endsFrom segment accept text start) (start + (segment.length + 1)) :=
  ⟨h, fun _ hi => hi.2.2⟩

/-- Where no segment starts the search may as well start one character further on. -/
theorem endsFrom_succ {start : Nat}
    (h : start + (segment.length + 1) ∉ endsFrom segment accept text start) :
    endsFrom segment accept text (start + 1) = endsFrom segment accept text start := by
  ext i
  refine and_congr_right fun hends => and_congr_right fun haccept => ⟨by omega, fun hle => ?_⟩
  have hne : i ≠ start + (segment.length + 1) := by
    rintro rfl
    exact h ⟨hends, haccept, hle⟩
  omega

/-- One turn of the search asks whether a segment starts here. -/
theorem mem_endsFrom_append :
    front.length + (segment.length + 1) ∈ endsFrom segment accept (front ++ rest) front.length ↔
      (decide (front = [] ∨ front.getLast? = some '/') && (segment ++ ['/']).isPrefixOf rest &&
        accept (rest.drop (segment ++ ['/']).length)) = true := by
  have hdrop : (front ++ rest).drop (front.length + (segment.length + 1)) =
      rest.drop (segment ++ ['/']).length := by
    simp
  simp only [endsFrom, Set.mem_ofPred_eq, endsSegment_append, hdrop, le_rfl, and_true,
    Bool.and_eq_true, decide_eq_true_eq, List.isPrefixOf_iff_prefix]

/-- The search of a rest looks at the front only to see whether a segment may start at once. -/
theorem segmentEnd?_from (front rest : Text) :
    segmentEnd? segment accept front.length (front = [] ∨ front.getLast? = some '/') rest =
        some stop ↔
      IsLeast (endsFrom segment accept (front ++ rest) front.length) stop := by
  induction rest generalizing front with
  | nil =>
    have hnone : segmentEnd? segment accept front.length
        (front = [] ∨ front.getLast? = some '/') [] = none := by
      simp [segmentEnd?]
    rw [hnone]
    refine ⟨nofun, fun h => ?_⟩
    obtain ⟨⟨hstop, -⟩, -, hle⟩ := h.1
    simp at hstop
    omega
  | cons c rest ih =>
    rw [segmentEnd?]
    split
    · rename_i hfound
      have hleast := isLeast_endsFrom (mem_endsFrom_append.mpr hfound)
      rw [Option.some.injEq, List.length_append, List.length_singleton]
      exact ⟨fun h => h ▸ hleast, hleast.unique⟩
    · rename_i hmissed
      have hnext := ih (front ++ [c])
      have hfresh : decide (front ++ [c] = [] ∨ (front ++ [c]).getLast? = some '/') =
          decide (c = '/') := by
        simp
      rw [List.length_append, List.length_singleton, hfresh, List.append_assoc,
        List.singleton_append, endsFrom_succ (mem_endsFrom_append.not.mpr hmissed)] at hnext
      exact hnext

/-- The search finds the first end of a segment with what it asks for behind it. -/
theorem segmentEnd?_eq_some_iff :
    segmentEnd? segment accept 0 true text = some stop ↔
      IsLeast {i | EndsSegment segment text i ∧ accept (text.drop i) = true} stop := by
  have hall : endsFrom segment accept text 0 =
      {i | EndsSegment segment text i ∧ accept (text.drop i) = true} := by
    ext i
    have hlength : EndsSegment segment text i → 0 + (segment.length + 1) ≤ i := fun h => by
      have hle := h.length_le
      omega
    exact ⟨fun h => ⟨h.1, h.2.1⟩, fun h => ⟨h.1, h.2, hlength h.1⟩⟩
  rw [← hall]
  exact segmentEnd?_from [] text

/-- The search finds nothing only when there is nothing to find. -/
theorem segmentEnd?_eq_none_iff :
    segmentEnd? segment accept 0 true text = none ↔
      ∀ i, ¬ (EndsSegment segment text i ∧ accept (text.drop i) = true) := by
  rw [Option.eq_none_iff_forall_ne_some]
  simp only [ne_eq, segmentEnd?_eq_some_iff]
  refine ⟨fun h i hi => ?_, fun h i hi => h i hi.1⟩
  classical
  exact h _ (Nat.isLeast_find ⟨i, hi⟩)

/-- A beginning with all the slashes has all the segments. -/
theorem endsSegment_append_iff (h : '/' ∉ ending) :
    EndsSegment segment (text ++ ending) stop ↔ EndsSegment segment text stop := by
  by_cases hle : stop ≤ text.length
  · have htake : (text ++ ending).take stop = text.take stop := List.take_append_of_le_length hle
    have hle' : stop ≤ (text ++ ending).length := by
      rw [List.length_append]
      omega
    simp only [EndsSegment, htake, hle, hle', true_and]
  · constructor
    · intro hends
      exfalso
      have hstop := hends.1
      have hlast := hends.getLast?
      rw [List.length_append] at hstop
      rw [List.take_append, List.getLast?_append] at hlast
      cases hpart : (ending.take (stop - text.length)).getLast? with
      | none =>
        rw [List.getLast?_eq_none_iff, List.take_eq_nil_iff] at hpart
        rcases hpart with hpart | rfl
        · omega
        · exact hle hstop
      | some d =>
        rw [hpart, Option.some_or, Option.some.injEq] at hlast
        exact h (List.take_subset _ _ (hlast ▸ List.mem_of_getLast? hpart))
    · intro hends
      exact absurd hends.1 hle

/-! ## Where a path gets the namespace -/

/-- The characters that do not stand for themselves in the text of a pattern. -/
def patternSigns : Text := "()[]\x7b\x7d?*+-|^$\\.&~# \t\n\r\x0b\x0c"

/-- The text as a pattern for itself. -/
def escapedSigns (text : Text) : Text :=
  text.flatMap fun c => if patternSigns.contains c then ['\\', c] else [c]

/-- A pattern for any of the texts. -/
def alternation (texts : List Text) : Text := Text.join "|" (texts.map escapedSigns)

theorem escapedSigns_eq_nil {text : Text} : escapedSigns text = [] ↔ text = [] := by
  rw [escapedSigns, List.flatMap_eq_nil_iff]
  refine ⟨fun h => List.eq_nil_iff_forall_not_mem.mpr fun c hc => ?_, fun h => by simp [h]⟩
  have hsigns := h c hc
  split at hsigns <;> cases hsigns

/-- Nothing moves exactly when the pattern for the prefixes is the empty text. -/
theorem Options.relocates_eq_false_iff (options : Options) :
    options.relocates = false ↔ alternation options.relocatedPrefixes = [] := by
  unfold relocates alternation
  match options.relocatedPrefixes with
  | [] => simp [Text.join]
  | [only] => simp [Text.join, escapedSigns_eq_nil]
  | first :: second :: others => simp [Text.join]

/-- A segment of the library ends at the offset, and a prefix that moves follows. -/
def Options.MovesAt (options : Options) (path : Text) (i : Nat) : Prop :=
  EndsSegment options.librarySegment path i ∧
    ∃ start ∈ options.relocatedPrefixes, start <+: path.drop i

theorem Options.movesAt_iff {options : Options} {path : Text} {i : Nat} :
    options.MovesAt path i ↔
      EndsSegment options.librarySegment path i ∧ options.moves (path.drop i) = true := by
  simp [MovesAt, moves]

theorem Options.relocate_of_isLeast {options : Options} {path : Text} {i : Nat}
    (hmoves : options.relocates = true) (h : IsLeast {i | options.MovesAt path i} i) :
    options.relocate path = path.take i ++ options.relocationNamespace ++ ['/'] ++ path.drop i := by
  have hfound : segmentEnd? options.librarySegment options.moves 0 true path = some i := by
    rw [segmentEnd?_eq_some_iff]
    simpa only [movesAt_iff] using h
  rw [relocate, if_pos hmoves, hfound]

/-- A path gets the namespace once, at the first place where it moves, and what stands in front of
this place and behind it is kept. It stays as it is when it moves nowhere, or when nothing is given
that moves. -/
theorem a_path_gets_the_namespace_where_it_first_moves (options : Options) (path : Text) :
    ((alternation options.relocatedPrefixes = [] ∨ ∀ i, ¬ options.MovesAt path i) ∧
      options.relocate path = path) ∨
    (alternation options.relocatedPrefixes ≠ [] ∧ ∃ i, IsLeast {i | options.MovesAt path i} i ∧
      options.relocate path =
        path.take i ++ options.relocationNamespace ++ ['/'] ++ path.drop i) := by
  rw [Ne, ← options.relocates_eq_false_iff, Bool.not_eq_false]
  cases hmoves : options.relocates with
  | false =>
    refine .inl ⟨.inl rfl, ?_⟩
    rw [Options.relocate, if_neg (by simp [hmoves])]
  | true =>
    cases hfound : segmentEnd? options.librarySegment options.moves 0 true path with
    | none =>
      refine .inl ⟨.inr ?_, ?_⟩
      · simpa only [Options.movesAt_iff] using segmentEnd?_eq_none_iff.mp hfound
      · rw [Options.relocate, if_pos hmoves, hfound]
    | some i =>
      have hleast : IsLeast {i | options.MovesAt path i} i := by
        simpa only [Options.movesAt_iff] using segmentEnd?_eq_some_iff.mp hfound
      exact .inr ⟨rfl, i, hleast, Options.relocate_of_isLeast hmoves hleast⟩

/-- A segment that no prefix follows is passed over, also where the next one starts in it. -/
example : ({ librarySegment := "lib/lib" } : Options).relocate "a/lib/lib/lib/iron-a/lib/lib/iron-b" =
    "a/lib/lib/lib/@polymer/iron-a/lib/lib/iron-b".toList := by
  decide

/-! ## The library root -/

theorem Options.libraryRoot?_eq_some_iff {options : Options} {href root : Text} :
    options.libraryRoot? href = some root ↔
      ∃ i, IsLeast {i | EndsSegment options.librarySegment href i} i ∧ href.take i = root := by
  simp only [libraryRoot?, Option.map_eq_some_iff, segmentEnd?_eq_some_iff, and_true]

theorem Options.libraryRoot?_eq_none_iff {options : Options} {href : Text} :
    options.libraryRoot? href = none ↔ ∀ i, ¬ EndsSegment options.librarySegment href i := by
  simp only [libraryRoot?, Option.map_eq_none_iff, segmentEnd?_eq_none_iff, and_true]

/-- A path that goes on keeps its relative beginning. -/
theorem relative_append {front : Text} (h : front ≠ []) (rest : Text) :
    relative (front ++ rest) = relative front ++ rest := by
  obtain ⟨c, front, rfl⟩ := List.exists_cons_of_ne_nil h
  unfold relative
  split <;> simp_all

/-- A reference and its path under the new ending are equal as far as they hold slashes. -/
theorem replaceHtml_split (href : Text) :
    ∃ dir ending new, '/' ∉ ending ∧ '/' ∉ new ∧ href = dir ++ ending ∧
      replaceHtml ".js" href = dir ++ new := by
  obtain ⟨dir, ending, h, hhref, hnew⟩ | ⟨dir, ending, h, hhref, hnew⟩ | ⟨-, -, hnew⟩ :=
    replaceHtml_cases href
  · exact ⟨dir, _, _, by simp [h.isExtension.2.1], by decide, hhref, hnew _⟩
  · refine ⟨dir, '.' :: ending ++ ['\n'], ".js".toList ++ ['\n'], ?_, by decide, ?_, ?_⟩
    · simp [h.isExtension.2.1]
    · rw [hhref, List.append_assoc]
    · rw [hnew, List.append_assoc]
  · exact ⟨href, [], [], nofun, nofun, (List.append_nil _).symm, by rw [hnew, List.append_nil]⟩

/-- With its new ending a reference has the segments that it had, and the same text in front of
where they end. -/
theorem endsSegment_replaceHtml {href : Text} :
    EndsSegment segment (replaceHtml ".js" href) stop ↔ EndsSegment segment href stop := by
  obtain ⟨dir, ending, new, hending, hnew, hhref, hpath⟩ := replaceHtml_split href
  rw [hpath, hhref, endsSegment_append_iff hending, endsSegment_append_iff hnew]

theorem take_replaceHtml {href : Text} (h : EndsSegment segment href stop) :
    (replaceHtml ".js" href).take stop = href.take stop := by
  obtain ⟨dir, ending, new, hending, hnew, rfl, hpath⟩ := replaceHtml_split href
  have hstop := ((endsSegment_append_iff hending).mp h).1
  rw [hpath, List.take_append_of_le_length hstop, List.take_append_of_le_length hstop]

/-- An import that moves behind the library root of its reference stands in the namespace there. -/
theorem Options.path_importFor? {options : Options} {href start : Text} {e : Nat} {i : Import}
    (he : IsLeast {i | EndsSegment options.librarySegment href i} e)
    (hstart : start ∈ options.relocatedPrefixes) (hne : start ≠ [])
    (hmoves : start <+: (replaceHtml ".js" href).drop e)
    (hi : options.importFor? [] href = some i) :
    i.path = relative (href.take e) ++ options.relocationNamespace ++ ['/'] ++
      (replaceHtml ".js" href).drop e := by
  have hpath : i.path = relative (options.relocate (replaceHtml ".js" href)) := by
    rw [importFor?_eq] at hi
    split at hi
    · cases hi
    · cases hi
      rfl
  have hrelocates : options.relocates = true := by
    rw [relocates, Bool.and_eq_true, decide_eq_true_eq, decide_eq_true_eq]
    constructor
    · intro hnone
      simp [hnone] at hstart
    · intro hempty
      simp [hempty, hne] at hstart
  have hleast : IsLeast {i | options.MovesAt (replaceHtml ".js" href) i} e :=
    ⟨⟨endsSegment_replaceHtml.mpr he.1, start, hstart, hmoves⟩,
      fun i hi => he.2 (endsSegment_replaceHtml.mp hi.1)⟩
  rw [hpath, relocate_of_isLeast hrelocates hleast, take_replaceHtml he.1, List.append_assoc,
    List.append_assoc, relative_append he.1.take_ne_nil, List.append_assoc, List.append_assoc]

/-- The library root is the beginning of the first reference that has a segment of the library, up
to where the first of its segments ends, or the assumed root when there is no such reference. The
framework is imported from the namespace below this root. The reference that showed the root is
imported from there too, when no shared style is looked for and a prefix that moves follows the
segment in its path under the new ending. -/
theorem the_framework_stands_where_imports_move (options : Options) (hrefs : List Text) :
    ((∀ href ∈ hrefs, ∀ i, ¬ EndsSegment options.librarySegment href i) ∧
      options.libraryRoot hrefs =
        (List.replicate options.fallbackDepth.toNat "../".toList).flatten ++
          options.librarySegment ++ ['/']) ∨
    ∃ before href after e, hrefs = before ++ href :: after ∧
      (∀ other ∈ before, ∀ i, ¬ EndsSegment options.librarySegment other i) ∧
      IsLeast {i | EndsSegment options.librarySegment href i} e ∧
      options.libraryRoot hrefs = href.take e ∧
      let directory := relative (href.take e) ++ options.relocationNamespace ++ ['/']
      let path := replaceHtml ".js" href
      options.frameworkPath (options.libraryRoot hrefs) =
        directory ++ "polymer/polymer-element.js" ∧
      ∀ start ∈ options.relocatedPrefixes, start ≠ [] → start <+: path.drop e →
        ∀ i, options.importFor? [] href = some i → i.path = directory ++ path.drop e := by
  cases hroot : hrefs.findSome? options.libraryRoot? with
  | none =>
    have hnone := List.findSome?_eq_none_iff.mp hroot
    refine .inl ⟨fun href hhref => Options.libraryRoot?_eq_none_iff.mp (hnone href hhref), ?_⟩
    rw [Options.libraryRoot, hroot]
    rfl
  | some root =>
    obtain ⟨before, href, after, rfl, hhref, hbefore⟩ := List.findSome?_eq_some_iff.mp hroot
    obtain ⟨e, he, rfl⟩ := Options.libraryRoot?_eq_some_iff.mp hhref
    have hlibrary : options.libraryRoot (before ++ href :: after) = href.take e := by
      rw [Options.libraryRoot, hroot, Option.getD_some]
    refine .inr ⟨before, href, after, e, rfl,
      fun other hother => Options.libraryRoot?_eq_none_iff.mp (hbefore other hother), he, hlibrary,
      ?_, fun start hstart hne hmoves i hi => Options.path_importFor? he hstart hne hmoves hi⟩
    rw [hlibrary, Options.frameworkPath, List.append_assoc, relative_append he.1.take_ne_nil]
    simp

/-- The first of two segments shows the root, and the path moves there. -/
example :
    let href : Text := "../lib/iron-a/lib/paper-b.HTML"
    let options : Options := {}
    options.frameworkPath (options.libraryRoot ["x/a.html", href]) =
        "../lib/@polymer/polymer/polymer-element.js".toList ∧
      options.importFor? [] href = some ⟨"../lib/@polymer/iron-a/lib/paper-b.js", none⟩ := by
  decide

end ImportLift
