-- The extraction rules: seven named patterns over component markup and
-- scripts. Markup is matched without regard to case; directive lines are
-- matched exactly. Each rule says which parts it reports.
import ImportLift.Pattern.Search
import ImportLift.Text.Fold

namespace ImportLift

namespace Pattern

/-- This text, case disregarded; it is given in small letters. -/
def folded (text : Text) : Pattern := all (text.map fun letter => one (Text.sameFolded letter))

/-- White space, or none. -/
def blanks : Pattern := most Text.isBlank

/-- White space. -/
def blanks1 : Pattern := some1 Text.isBlank

/-- A word. -/
def word : Pattern := some1 Text.isWord

/-- Spaces and tabs, or none. -/
def spaces : Pattern := most fun c => c = ' ' || c = '\t'

/-- A double or single quotation mark. -/
def isQuote (c : Char) : Bool := c = '"' || c = '\''

/-- A character that may stand inside a tag. -/
def insideTag (c : Char) : Bool := c ≠ '>'

/-- A character that an unquoted attribute value may hold. -/
def insideValue (c : Char) : Bool := !(isQuote c || Text.isBlank c || c = '>')

/-- A reference attribute: its name, the equals sign and the value, quoted or bare. -/
def reference (name : Text) (value : Capture) : Pattern :=
  all [wordEdge, folded name, blanks, mark '=', blanks,
    keep .quote (maybe (one isQuote)), keep value (most insideValue), same .quote]

/-- The end tag of an element, up to its closing bracket. -/
def endTag (name : Text) : Pattern := all [folded ("</" ++ name), blanks, mark '>']

/-- The attribute that asks for white space to be stripped. -/
def stripWhitespace : Pattern := folded "strip-whitespace"

/-- Somewhere in the tag `rel` has the value `import`. -/
def relImport : Pattern :=
  all [least insideTag, wordEdge, folded "rel", blanks, mark '=', blanks,
    either (folded "\"import\"") (either (folded "'import'") (folded "import")),
    ahead (one fun c => Text.isBlank c || c = '/' || c = '>')]

/-- A link element that imports a document. -/
def linkImport : Pattern :=
  all [folded "<link", wordEdge, ahead relImport, least insideTag,
    reference "href" .href, most insideTag, mark '>']

/-- Two or more words joined by single dashes. -/
def dashed : Pattern := seq word (again (seq (mark '-') word))

/-- The static accessor that returns a component's name. -/
def accessor : Pattern :=
  all [folded "static", blanks1, folded "get", blanks1, folded "is", blanks, mark '(', blanks,
    mark ')', blanks, mark '\x7b', blanks, folded "return", blanks, keep .quote (one isQuote),
    either (keep .identity dashed) (most fun c => !isQuote c), same .quote, blanks,
    most (· = ';'), blanks, mark '\x7d']

/-- A script element that names a source and has a blank body. -/
def sourcedScript : Pattern :=
  all [folded "<script", wordEdge, least insideTag, reference "src" .src, most insideTag,
    mark '>', blanks, endTag "script"]

/-- A script element with its body. -/
def inlineScript : Pattern :=
  all [folded "<script", wordEdge, most insideTag, mark '>',
    keep .body (least fun _ => true), endTag "script"]

/-- A module element that holds one template. -/
def templateBlock : Pattern :=
  all [folded "<dom-module", blanks1, maybe (seq stripWhitespace blanks1), folded "id", blanks,
    mark '=', blanks, keep .quote (one isQuote),
    keep .id (some1 fun c => Text.isWord c || c = '-'), same .quote,
    maybe (seq blanks1 stripWhitespace), blanks, mark '>', blanks,
    folded "<template", maybe (seq blanks1 stripWhitespace), blanks, mark '>', blanks,
    keep .template (least fun _ => true), blanks,
    folded "</template>", blanks, folded "</dom-module>"]

/-- The attribute that lists shared styles. -/
def includeAttribute : Pattern :=
  all [blanks1, folded "include", blanks, mark '=', blanks, keep .quote (one isQuote),
    keep .includes (most fun c => !isQuote c), same .quote]

/-- A style element, with or without shared styles. -/
def styleBlock : Pattern :=
  all [folded "<style", maybe includeAttribute, blanks, mark '>',
    keep .css (least fun _ => true), endTag "style"]

/-- A line that holds only a type-check directive, its break included. -/
def directiveLine : Pattern :=
  all [lineStart, spaces, exactly "//", spaces, exactly "@ts-", maybe (exactly "no"),
    exactly "check", spaces, either (seq (maybe (mark '\r')) (mark '\n')) textEnd]

end Pattern

/-- The name by which a captured part is reported. -/
def Capture.label : Capture → Text
  | .quote => "quote"
  | .href => "href"
  | .identity => "is"
  | .src => "src"
  | .body => "body"
  | .id => "id"
  | .template => "template"
  | .includes => "include"
  | .css => "css"

/-- A named pattern and the parts it reports. -/
structure Rule where
  name : Text
  pattern : Pattern
  captures : List Capture

namespace Rule

def linkImport : Rule := ⟨"link-import", .linkImport, [.href]⟩

def accessor : Rule := ⟨"identity", .accessor, [.identity]⟩

def sourcedScript : Rule := ⟨"nested-script", .sourcedScript, [.src]⟩

def inlineScript : Rule := ⟨"inline-script", .inlineScript, [.body]⟩

def templateBlock : Rule := ⟨"template-block", .templateBlock, [.id, .template]⟩

def styleBlock : Rule := ⟨"style-block", .styleBlock, [.includes, .css]⟩

def directiveLine : Rule := ⟨"directive-comment", .directiveLine, []⟩

/-- Every rule. -/
def every : List Rule :=
  [linkImport, accessor, sourcedScript, inlineScript, templateBlock, styleBlock, directiveLine]

/-- The rule of a name. -/
def named? (name : Text) : Option Rule := every.find? (·.name = name)

/-- A part was asked for that the rule does not report. -/
structure UnknownCapture where
  rule : Text
  asked : Text
deriving DecidableEq, Repr

def UnknownCapture.message (e : UnknownCapture) : Text :=
  e.rule ++ " has no capture named '" ++ e.asked ++ "'"

/-- The part of a match that has the given label: absent when nothing was
kept or what was kept is blank. -/
def capture (rule : Rule) (m : Match) (label : Text) : Except UnknownCapture (Option Text) :=
  match rule.captures.find? (·.label = label) with
  | none => .error ⟨rule.name, label⟩
  | some name => .ok (m.filled? name)

end Rule

end ImportLift
