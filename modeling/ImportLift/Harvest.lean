-- What a component's document depends on: the documents it links, the scripts
-- it names and the scripts it holds. Harvesting also gives the document
-- without any script, in which the template is looked for later.
import ImportLift.Rule
import ImportLift.Span
import ImportLift.Text.Case
import ImportLift.Text.Lines

namespace ImportLift

/-- The dependencies of a document and the document without its scripts. -/
structure Harvest where
  /-- The linked documents, in order. -/
  imports : List Text
  /-- The sources of the scripts, in order. -/
  scripts : List Text
  /-- The bodies of the other scripts, in order and dedented. -/
  inlineScripts : List Text
  /-- The document without its scripts. -/
  html : Text
deriving DecidableEq, Repr

namespace Harvest

/-- The span that a match covers. -/
def spanOf (m : Match) : Span := ⟨m.start, m.stop⟩

/-- The text without what the matches cover. -/
def without (text : Text) (found : List Match) : Text := Span.cut text (found.map spanOf)

/-! ## Dedenting -/

/-- How many white-space characters a line starts with. -/
def indentation (line : Text) : Nat := (line.takeWhile Text.isBlank).length

/-- The least indentation of the lines that are not blank, and 0 when all are. -/
def margin (lines : List Text) : Nat :=
  ((lines.filter fun line => !line.allBlank).map indentation).min?.getD 0

/-- A script body moved to the left margin: the line feeds around it go, each
line loses the margin, and trailing white space goes. -/
def dedent (body : Text) : Text :=
  let lines := Text.lines (Text.trimMark '\n' body)
  let left := margin lines
  Text.trimEnd (Text.join "\n" (lines.map (·.drop left)))

/-! ## Harvesting -/

/-- The link imports of a document that name one. -/
def linked (html : Text) : List Text :=
  (Rule.linkImport.pattern.findAll html).filterMap (·.filled? .href)

/-- The source is the component's own script file. -/
def isOwn (filename src : Text) : Bool := !filename.isEmpty && Text.sameLower src filename

/-- The sources of scripts other than the component's own. -/
def sources (filename : Text) (found : List Match) : List Text :=
  (found.filterMap (·.filled? .src)).filter fun src => !isOwn filename src

/-- The dedented bodies of the scripts that are not blank. -/
def bodies (found : List Match) : List Text :=
  (found.filterMap (·.filled? .body)).map dedent

/-- The dependencies of a document. Scripts with a source are cut out first,
and the others are looked for in what is left. -/
def ofDocument (html filename : Text) : Harvest :=
  let sourced := Rule.sourcedScript.pattern.findAll html
  let unsourced := without html sourced
  let inline := Rule.inlineScript.pattern.findAll unsourced
  ⟨linked html, sources filename sourced, bodies inline, without unsourced inline⟩

end Harvest

end ImportLift
