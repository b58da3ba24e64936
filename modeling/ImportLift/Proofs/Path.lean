-- Paths and their suffixes. A path is its stem followed by its suffix, also
-- when it is shown, and in lower case the stem is the same in front of either
-- suffix. So two scripts whose documents have one key have one key themselves,
-- and so do two documents whose modules go to one file.
import ImportLift.Path
import ImportLift.Proofs.Text.Mark

namespace ImportLift.Path

/-! ## Paths without double dots -/

/-- No name of the path is a double dot. -/
def IsPlain (p : Path) : Prop := ∀ name ∈ p, name ≠ ['.', '.']

instance (p : Path) : Decidable p.IsPlain :=
  inferInstanceAs (Decidable (∀ name ∈ p, name ≠ ['.', '.']))

theorem foldl_climb {p : Path} (h : p.IsPlain) (start : Path) :
    p.foldl climb start = start ++ p := by
  induction p generalizing start with
  | nil => simp
  | cons name rest ih =>
    have hname : climb start name = start ++ [name] := if_neg (h name List.mem_cons_self)
    rw [List.foldl_cons, hname, ih fun n hn => h n (List.mem_cons_of_mem _ hn)]
    simp

theorem IsPlain.resolve {p : Path} (h : p.IsPlain) : p.resolve = p := foldl_climb h []

theorem IsPlain.take {p : Path} (h : p.IsPlain) (n : Nat) : IsPlain (p.take n) :=
  fun name hname => h name (List.mem_of_mem_take hname)

theorem climb_isPlain {p : Path} (h : p.IsPlain) (name : Text) : IsPlain (p.climb name) := by
  unfold climb
  split
  · exact fun n hn => h n (List.dropLast_subset _ hn)
  · rename_i hname
    intro n hn
    rcases List.mem_append.mp hn with hn | hn
    · exact h n hn
    · rwa [List.mem_singleton.mp hn]

theorem resolve_isPlain (p : Path) : p.resolve.IsPlain := by
  have hfold : ∀ names start : Path, start.IsPlain → IsPlain (names.foldl climb start) := by
    intro names
    induction names with
    | nil => exact fun start h => h
    | cons name rest ih => exact fun start h => ih _ (climb_isPlain h name)
  exact hfold p [] (by simp [IsPlain])

/-- The suffixes that make pairs. -/
def pairSuffixes : List Text := [".js", ".html"]

theorem IsPlain.withSuffix {p : Path} (h : p.IsPlain) (suffix : Text)
    (hsuffix : suffix ∈ pairSuffixes) : IsPlain (p.withSuffix suffix) := by
  intro name hname
  simp only [Path.withSuffix, List.mem_append, List.mem_singleton] at hname
  rcases hname with hname | rfl
  · exact h name (List.dropLast_subset _ hname)
  · intro hdots
    have hlast := congrArg List.getLast? hdots
    simp only [pairSuffixes, List.mem_cons, List.not_mem_nil, or_false] at hsuffix
    rcases hsuffix with rfl | rfl
    · simp [renamed] at hlast
    · simp [renamed] at hlast

/-! ## The suffix of a name -/

theorem afterLast_suffix {mark : Char} {text : Text} (h : mark ∈ text) :
    mark :: Text.afterLast mark text <:+ text := by
  obtain ⟨before, ending, rfl, hending⟩ := Text.exists_last h
  rw [Text.afterLast_append_cons hending]
  exact List.suffix_append before _

theorem suffixOf_eq (name : Text) :
    suffixOf name = [] ∨ ∃ ending, suffixOf name = '.' :: ending ∧ '.' :: ending <:+ name := by
  simp only [suffixOf]
  split
  · rename_i h
    have hdot : '.' ∈ name := by simp_all
    exact .inr ⟨_, rfl, afterLast_suffix hdot⟩
  · exact .inl rfl

theorem suffixOf_suffix (name : Text) : suffixOf name <:+ name := by
  rcases suffixOf_eq name with h | ⟨ending, h, hend⟩
  · rw [h]
    exact List.nil_suffix
  · rw [h]
    exact hend

/-- A name is its stem and its suffix. -/
theorem renamed_suffixOf (name : Text) : renamed name (suffixOf name) = name :=
  List.suffix_iff_eq_append.mp (suffixOf_suffix name)

theorem withSuffix_self {p : Path} (h : p ≠ []) : p.withSuffix p.suffix = p := by
  unfold withSuffix suffix parent
  have hname : p.name = p.getLast h := by
    rw [name, List.getLast?_eq_some_getLast h, Option.getD_some]
  rw [renamed_suffixOf, hname, List.dropLast_concat_getLast]

/-- Only its own suffix leaves a path as it is. -/
theorem suffix_of_withSuffix {p : Path} (hp : p ≠ []) {suffix : Text}
    (h : p.withSuffix suffix = p) : p.suffix = suffix := by
  have hsame : p.withSuffix p.suffix = p.withSuffix suffix := (withSuffix_self hp).trans h.symm
  simp only [withSuffix, renamed, List.append_cancel_left_eq, List.cons.injEq, and_true] at hsame
  exact hsame

theorem withSuffix_append (dir : Path) {p : Path} (hp : p ≠ []) (suffix : Text) :
    (dir ++ p).withSuffix suffix = dir ++ p.withSuffix suffix := by
  have hname : name (dir ++ p) = p.name := by
    rw [name, name, List.getLast?_append, List.getLast?_eq_some_getLast hp, Option.some_or]
  rw [withSuffix, withSuffix, hname, parent, parent, List.dropLast_append_of_ne_nil hp,
    List.append_assoc]

/-! ## Paths as text -/

theorem join_append (pieces : List Text) (last ending : Text) :
    Text.join "/" (pieces ++ [last ++ ending]) = Text.join "/" (pieces ++ [last]) ++ ending := by
  rw [Text.join_append_cons, Text.join_append_cons, Text.join_cons, Text.join_cons,
    List.flatMap_nil, List.append_nil, List.append_nil, List.append_assoc]

theorem render_withSuffix (p : Path) (suffix : Text) :
    (p.withSuffix suffix).render = (p.withSuffix []).render ++ suffix := by
  have hrenamed : renamed p.name suffix = renamed p.name [] ++ suffix := by simp [renamed]
  unfold render withSuffix
  rw [hrenamed, join_append]
  rfl

/-! ## Keys -/

/-- The key of a path up to its suffix, where a letter follows. -/
def stemKey (p : Path) : Text := Text.lowerBefore false (p.withSuffix []).render

theorem key_withSuffix (p : Path) {ending : Text}
    (h : Text.lower ('.' :: ending) ∈ pairSuffixes) :
    (p.withSuffix ('.' :: ending)).key = p.stemKey ++ Text.lower ('.' :: ending) := by
  have hending : Text.IsEnding ('.' :: ending) := by
    simp only [pairSuffixes, List.mem_cons, List.not_mem_nil, or_false] at h
    rcases h with h | h
    · exact Text.isEnding_of_lower (l := 'j') (.inl rfl) h (by decide) (by decide)
    · exact Text.isEnding_of_lower (l := 'h') (.inr rfl) h (by decide) (by decide)
  rw [key, render_withSuffix]
  exact Text.lowerFrom_append hending false _

theorem key_withScript (p : Path) : (p.withSuffix ".js").key = p.stemKey ++ ".js" :=
  key_withSuffix p (by decide)

theorem key_withDocument (p : Path) : (p.withSuffix ".html").key = p.stemKey ++ ".html" :=
  key_withSuffix p (by decide)

theorem key_of_hasSuffix {p : Path} {suffix : Text} (h : p.hasSuffix suffix = true)
    (hsuffix : suffix ∈ pairSuffixes) : p.key = p.stemKey ++ suffix := by
  have hlower : Text.lower p.suffix = suffix := by simpa [hasSuffix] using h
  have hne : p ≠ [] := by
    rintro rfl
    revert hlower hsuffix suffix
    decide
  rcases suffixOf_eq p.name with hnone | ⟨ending, hdot, -⟩
  · have hnone : p.suffix = [] := hnone
    rw [hnone] at hlower
    subst hlower
    exact absurd hsuffix (by decide)
  · have hdot : p.suffix = '.' :: ending := hdot
    rw [← hlower, hdot] at hsuffix
    calc p.key = (p.withSuffix ('.' :: ending)).key := by rw [← hdot, withSuffix_self hne]
      _ = p.stemKey ++ Text.lower ('.' :: ending) := key_withSuffix p hsuffix
      _ = p.stemKey ++ suffix := by rw [← hdot, hlower]

end ImportLift.Path
