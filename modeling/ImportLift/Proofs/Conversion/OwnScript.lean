-- A component's own script among the sources of its document. A source that is
-- the file name, in any case, is left out. It is compared as it stands, before
-- its path is made relative; so the own script is imported where the document
-- writes the directory in front of its name, and in no other spelling.
import ImportLift.Proofs.Conversion.Header
import ImportLift.Proofs.Harvest.Excision

namespace ImportLift

namespace Text

/-- Behind a dot or a slash at its start a text has the lower case that it has alone. -/
theorem lowerFrom_cons {c : Char} (h : c = '.' ∨ c = '/') (rest : Text) :
    lowerFrom false (c :: rest) = c :: lowerFrom false rest := by
  have hdot : isCaseIgnorable '.' = true := by decide
  have hslash : isCaseIgnorable '/' = false := by decide +kernel
  have hcased : isCased '/' = false := by decide +kernel
  rcases h with rfl | rfl
  · simp [lowerFrom, lowerOne, hdot]
  · simp [lowerFrom, lowerOne, hslash, hcased]

/-- A name in the own directory stays there in lower case. -/
theorem lower_beside (name : Text) : lower ("./" ++ name) = "./" ++ lower name := by
  change lowerFrom false ('.' :: '/' :: name) = '.' :: '/' :: lowerFrom false name
  rw [lowerFrom_cons (.inl rfl), lowerFrom_cons (.inr rfl)]

theorem lower_eq_beside_iff {text name : Text} :
    lower text = "./" ++ name ↔ ∃ own, text = "./" ++ own ∧ lower own = name := by
  constructor
  · intro h
    obtain ⟨more, rfl⟩ := exists_of_lowerFrom (show IsMark '.' by decide) h
    rw [lower, lowerFrom_cons (.inl rfl)] at h
    have hmore : lowerFrom false more = '/' :: name := (List.cons.inj h).2
    obtain ⟨own, rfl⟩ := exists_of_lowerFrom (show IsMark '/' by decide) hmore
    rw [lowerFrom_cons (.inr rfl)] at hmore
    exact ⟨own, rfl, (List.cons.inj hmore).2⟩
  · rintro ⟨own, rfl, rfl⟩
    exact lower_beside own

end Text

/-- A source that is not the file name leads to the file in one spelling only. -/
theorem lower_relative_iff {src filename : Text} (h : Text.lower src ≠ Text.lower filename) :
    Text.lower (relative src) = Text.lower ("./" ++ filename) ↔
      ∃ own, src = "./" ++ own ∧ Text.lower own = Text.lower filename := by
  rw [Text.lower_beside]
  unfold relative
  split
  · exact Text.lower_eq_beside_iff
  · exact Text.lower_eq_beside_iff
  · rename_i hdot hslash
    rw [Text.lower_beside, List.append_cancel_left_eq]
    refine ⟨fun hsame => absurd hsame h, ?_⟩
    rintro ⟨own, rfl, -⟩
    exact absurd rfl (hdot _)

namespace Harvest

/-- The listed sources are those that the scripts of the document name, blank ones apart, and that
are not the file name in any case. -/
theorem mem_sources {filename src : Text} {found : List Match} :
    src ∈ sources filename found ↔
      (∃ m ∈ found, m.kept? .src = some src ∧ src.allBlank = false) ∧
        Text.lower src ≠ Text.lower filename := by
  rw [sources_of_file, List.mem_filter, decide_eq_true_eq]
  refine and_congr_left fun _ => ?_
  rw [sources_nil, List.mem_filterMap]
  simp only [Match.filled?_eq_some]

/-- With its directory in front of it the file name is listed whenever a script names it. -/
theorem mem_sources_beside {filename own : Text} (h : Text.lower own = Text.lower filename)
    {found : List Match} :
    "./" ++ own ∈ sources filename found ↔ ∃ m ∈ found, m.kept? .src = some ("./" ++ own) := by
  have hne : Text.lower ("./" ++ own) ≠ Text.lower filename := by
    intro hsame
    have hlength := congrArg List.length hsame
    rw [Text.lower_beside, h] at hlength
    simp at hlength
    omega
  have hblank : Text.allBlank ("./" ++ own) = false := rfl
  rw [mem_sources]
  simp only [hne, hblank, ne_eq, not_false_eq_true, and_true]

end Harvest

namespace Conversion

/-- Of the imports for scripts, those that lead to the component's own file, in any case, are those
whose source has the directory `./` in front of the file name, in any case; and every script of
the document with such a source is imported. -/
theorem the_own_script_is_imported_only_with_its_directory (options : Options) (layout : Layout)
    (script : Option Text) (html filename : Text) (m : Module)
    (h : convert options layout script html filename = .ok m) :
    let harvest := Harvest.ofDocument html filename
    ∃ p template, pieces options script html filename = .ok p ∧ m = p.assemble layout ∧
      Template.ofDocument harvest.html m.identity = .ok template ∧
      p.imports = harvest.imports.filterMap (options.importFor? template.styleIncludes) ++
        harvest.scripts.map Import.ofScript ∧
      (∀ src ∈ harvest.scripts,
        Text.sameLower (Import.ofScript src).path ("./" ++ filename) = true ↔
          ∃ own, src = "./" ++ own ∧ Text.sameLower own filename = true) ∧
      ∀ own, Text.sameLower own filename = true →
        ("./" ++ own ∈ harvest.scripts ↔
          ∃ found ∈ Rule.sourcedScript.pattern.findAll html,
            found.kept? .src = some ("./" ++ own)) := by
  intro harvest
  obtain ⟨p, hp, rfl⟩ := convert_eq_ok h
  obtain ⟨c, scripts, template, -, ht, rfl⟩ := pieces_eq_ok hp
  refine ⟨_, template, hp, rfl, ht, rfl, ?_, ?_⟩
  · intro src hsrc
    simp only [Text.sameLower, decide_eq_true_eq]
    exact lower_relative_iff (Harvest.mem_sources.mp hsrc).2
  · intro own hown
    rw [Text.sameLower, decide_eq_true_eq] at hown
    exact Harvest.mem_sources_beside hown

/-- A conversion is read off the imports among its pieces. -/
theorem convert_of_imports (options : Options) (script : Option Text) (html filename : Text)
    (imports : List Import)
    (h : (pieces options script html filename).toOption.map Pieces.imports = some imports)
    (layout : Layout) :
    ∃ p, pieces options script html filename = .ok p ∧ p.imports = imports ∧
      convert options layout script html filename = .ok (p.assemble layout) := by
  cases hp : pieces options script html filename with
  | error f => simp [hp, Except.toOption] at h
  | ok p =>
    rw [hp] at h
    exact ⟨p, rfl, Option.some.inj h, by rw [convert, hp, Except.map]⟩

/-- A document with a script from another directory and two spellings of the own one. -/
def ownDocument : Text :=
  "<script src='../s/My-El.js'></script>" ++ "<script src=MY-EL.js></script>" ++
    "<script src='./My-El.JS'></script>" ++ "<dom-module id='a-b'>" ++
    "<template>x</template>" ++ "</dom-module>"

/-- The own script is left out without its directory and imported with it, in whatever case. -/
theorem a_script_elsewhere_is_not_the_own_one :
    let filename : Text := "my-el.js"
    ∃ m p, convert {} .ofModules (some styledClass) ownDocument filename = .ok m ∧
      pieces {} (some styledClass) ownDocument filename = .ok p ∧
      p.imports = [⟨"../s/My-El.js", none⟩, ⟨"./My-El.JS", none⟩] ∧
      ∀ src ∈ (Harvest.ofDocument ownDocument filename).scripts,
        Text.sameLower (Import.ofScript src).path ("./" ++ filename) = true ↔
          ∃ own, src = "./" ++ own ∧ Text.sameLower own filename = true := by
  intro filename
  obtain ⟨p, hp, himports, hm⟩ := convert_of_imports {} (some styledClass) ownDocument filename
    [⟨"../s/My-El.js", none⟩, ⟨"./My-El.JS", none⟩] (by decide +kernel) .ofModules
  obtain ⟨-, -, -, -, -, -, hown, -⟩ := the_own_script_is_imported_only_with_its_directory {}
    .ofModules (some styledClass) ownDocument filename _ hm
  exact ⟨_, p, hm, hp, himports, hown⟩

/-- A module whose document names the component's own script with its directory imports itself. -/
theorem a_module_can_import_itself :
    let html : Text := "<script src=./my-el.js></script>" ++ "<dom-module id='a-b'>" ++
      "<template>x</template>" ++ "</dom-module>"
    let filename : Text := "my-el.js"
    filename ≠ [] ∧ '/' ∉ filename ∧ filename.head? ≠ some '.' ∧
    ∃ m p, convert {} .ofModules (some styledClass) html filename = .ok m ∧
      pieces {} (some styledClass) html filename = .ok p ∧ m.text = p.moduleText ∧
      ∃ src ∈ (Harvest.ofDocument html filename).scripts, Import.ofScript src ∈ p.imports ∧
        Text.sameLower (Import.ofScript src).path ("./" ++ filename) = true := by
  intro html filename
  obtain ⟨p, hp, himports, hm⟩ := convert_of_imports {} (some styledClass) html filename
    [⟨"./my-el.js", none⟩] (by decide +kernel) .ofModules
  have hscripts : (Harvest.ofDocument html filename).scripts = ["./my-el.js".toList] := by
    decide +kernel
  refine ⟨by decide, by decide, by decide, _, p, hm, hp, ?_, ?_⟩
  · rw [Pieces.assemble_ofModules]
  · rw [hscripts, himports]
    exact ⟨_, List.mem_singleton_self _, List.mem_singleton_self _, by decide +kernel⟩

end Conversion

end ImportLift
