-- The settings that steer every conversion, with their defaults.
import ImportLift.Path

namespace ImportLift

structure Options where
  /-- The path segment that names the shared library. -/
  librarySegment : Text := "lib"
  /-- How many levels up the library is assumed when no import shows it. -/
  fallbackDepth : Int := 2
  /-- The file names of imports that are dropped. -/
  deprecatedImports : List Text :=
    ["polymer.html", "polymer-element.html", "iron-flex-layout.html",
      "iron-flex-layout-classes.html"]
  /-- The namespace below the library that some imports move to. -/
  relocationNamespace : Text := "@polymer"
  /-- How the imports that move start, seen from the library. -/
  relocatedPrefixes : List Text := ["polymer/", "iron-", "paper-"]
  /-- The base class as components name it. -/
  legacyBaseClass : Text := "Polymer.Element"
  /-- The base class as modules name it. -/
  modernBaseClass : Text := "PolymerElement"
  /-- A directory that may hold a layout for modules. -/
  templatesDir : Option Path := none
deriving DecidableEq, Repr

/-- The options with another library segment, slashes around it dropped; no
segment or an empty one changes nothing. -/
def Options.withLibrarySegment (options : Options) : Option Text → Options
  | none => options
  | some [] => options
  | some segment => { options with librarySegment := Text.trimMark '/' segment }

end ImportLift
