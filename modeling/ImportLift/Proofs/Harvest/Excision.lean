-- What harvesting cuts out of a document. The scripts with a source go first,
-- then those that are found in what is left; both times the matches stand in
-- the text one behind the other, so no cut fails, and what is left is what no
-- match covers. The name of the component's own file only decides which
-- sources are listed.
import ImportLift.Proofs.Pattern.Matches
import ImportLift.Proofs.Text.Mark

namespace ImportLift.Harvest

/-- What is left without the matches of a search is what none of them covers. -/
theorem without_findAll (p : Pattern) (text : Text) :
    without text (p.findAll text) = Span.uncovered ((p.findAll text).map spanOf) text :=
  Span.cut_eq_uncovered (fitIn_findAll p text).firstFault? text

/-- Every part that harvesting asks for is one that the rule reports. -/
theorem harvest_captures (m : Match) :
    Rule.linkImport.capture m "href" = .ok (m.filled? .href) ∧
      Rule.sourcedScript.capture m "src" = .ok (m.filled? .src) ∧
      Rule.inlineScript.capture m "body" = .ok (m.filled? .body) :=
  ⟨rfl, rfl, rfl⟩

/-- No listed source is empty, so none is that of a file without a name. -/
theorem lower_ne_nil {filename src : Text} {found : List Match}
    (h : src ∈ sources filename found) : Text.lower src ≠ [] := by
  apply Text.lowerFrom_ne_nil
  rintro rfl
  obtain ⟨m, -, hsrc⟩ := List.mem_filterMap.mp (List.mem_filter.mp h).1
  simp [Match.filled?_eq_some, Text.allBlank] at hsrc

/-- For no file every source that is not blank is listed. -/
theorem sources_nil (found : List Match) : sources [] found = found.filterMap (·.filled? .src) :=
  List.filter_eq_self.mpr fun _ _ => rfl

/-- The sources for a file are those for no file, less the ones that name the file. -/
theorem sources_of_file (filename : Text) (found : List Match) :
    sources filename found =
      (sources [] found).filter fun src => Text.lower src ≠ Text.lower filename := by
  by_cases hname : filename = []
  · rw [hname, eq_comm, List.filter_eq_self]
    intro src hsrc
    have hnil : Text.lower [] = [] := rfl
    simpa [hnil] using lower_ne_nil hsrc
  · rw [sources_nil]
    unfold sources
    apply List.filter_congr
    intro src _
    simp [isOwn, Text.sameLower, hname]

/-- Harvesting never fails, and cuts out the scripts and nothing else. In each of its two passes
the matches stand in the text one behind the other; what is left is what none of them covers, so
the lengths add up. The file name changes the listed sources and nothing else: those that are the
file name in lower case are left out. -/
theorem harvesting_cuts_the_scripts_and_nothing_else (html filename : Text) :
    let harvest := ofDocument html filename
    let sourced := (Rule.sourcedScript.pattern.findAll html).map spanOf
    ∃ unsourced,
      let inline := (Rule.inlineScript.pattern.findAll unsourced).map spanOf
      (∀ m, Rule.linkImport.capture m "href" = .ok (m.filled? .href) ∧
        Rule.sourcedScript.capture m "src" = .ok (m.filled? .src) ∧
        Rule.inlineScript.capture m "body" = .ok (m.filled? .body)) ∧
      -- The first pass, then the second.
      Span.FitIn sourced html ∧ Span.remove html sourced = .ok unsourced ∧
      unsourced = Span.uncovered sourced html ∧
      Span.FitIn inline unsourced ∧ Span.remove unsourced inline = .ok harvest.html ∧
      harvest.html = Span.uncovered inline unsourced ∧
      (html.length : Int) =
        harvest.html.length + Span.totalSize sourced + Span.totalSize inline ∧
      -- Another file name.
      ∀ other,
        let elsewhere := ofDocument html other
        elsewhere.imports = harvest.imports ∧ elsewhere.inlineScripts = harvest.inlineScripts ∧
        elsewhere.html = harvest.html ∧
        elsewhere.scripts = (ofDocument html []).scripts.filter fun src =>
          Text.lower src ≠ Text.lower other := by
  intro harvest sourced
  let unsourced := without html (Rule.sourcedScript.pattern.findAll html)
  let inline := (Rule.inlineScript.pattern.findAll unsourced).map spanOf
  have hfit : Span.FitIn sourced html := fitIn_findAll _ _
  have hfit' : Span.FitIn inline unsourced := fitIn_findAll _ _
  have hleft : unsourced = Span.uncovered sourced html := without_findAll _ _
  have hleft' : harvest.html = Span.uncovered inline unsourced := without_findAll _ _
  refine ⟨unsourced, harvest_captures, hfit, remove_findAll _ _, hleft, hfit', remove_findAll _ _,
    hleft', ?_, fun other => ⟨rfl, rfl, rfl, sources_of_file other _⟩⟩
  have hlength := hfit.length_uncovered
  have hlength' := hfit'.length_uncovered
  rw [← hleft] at hlength
  rw [← hleft'] at hlength'
  change (html.length : Int) =
    harvest.html.length + Span.totalSize sourced + Span.totalSize inline
  omega

end ImportLift.Harvest
