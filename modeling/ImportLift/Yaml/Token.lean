-- The tokens of a document. Where a nested block starts and ends is said by
-- indentation alone, so tokens for it are put in. A simple key is known as a
-- key only when its colon is met: the places where one may have started are
-- remembered, one for each level of brackets, and the key token is then put
-- in at that place.
import ImportLift.Integer
import ImportLift.Text.Utf8
import ImportLift.Yaml.Scalar

namespace ImportLift.Yaml

/-- What a directive says. -/
inductive Directive
  | version (major : Nat)
  | tag (handle lead : Text)
  | unknown
deriving DecidableEq, Repr

inductive Token
  | directive (content : Directive)
  | documentStart
  | documentEnd
  | streamEnd
  | blockSequence
  | blockMapping
  | blockEnd
  | flowSequence
  | flowSequenceEnd
  | flowMapping
  | flowMappingEnd
  | blockEntry
  | flowEntry
  | key
  | value
  | alias (name : Text)
  | anchor (name : Text)
  | tag (handle : Option Text) (rest : Text)
  | scalar (text : Text) (plain : Bool)
  /-- Where the document cannot be read on. -/
  | broken (fault : Fault)
deriving DecidableEq, Repr

/-! ## Names, tags and directives -/

/-- A character of the name of an anchor, a handle or a directive. -/
def isNameChar (c : Char) : Bool := c.isAlphanum || c = '-' || c = '_'

/-- A name, which is not empty, and the source past it. -/
def name (s : Source) : Except Fault (Text × Source) :=
  let found := s.run isNameChar
  if found.isEmpty then .error .malformed else .ok (found, s.skip found.length)

/-- The name of an anchor or an alias; the source is at its mark. -/
def anchorName (s : Source) : Except Fault (Text × Source) := do
  let (found, s) ← name s.step
  if endsToken s.peek || "?:,]\x7d%@`".toList.contains s.peek then return (found, s)
  else .error .malformed

/-- A character of a tag, the percent sign of an escape included. -/
def isTagChar (c : Char) : Bool := c.isAlphanum || "-;/?:@&=+$,_.!~*'()[]%".toList.contains c

/-- Escaped bytes in a tag. -/
def tagBytes : Nat → Source → Except Fault (List UInt8 × Source)
  | 0, s => .ok ([], s)
  | fuel + 1, s =>
    if s.peek = '%' then
      let digits := s.step.rest.take 2
      match if digits.length = 2 then Text.hexNumber? digits else none with
      | none => .error .malformed
      | some code =>
        (tagBytes fuel (s.skip 3)).map fun (bytes, s) => (UInt8.ofNat code :: bytes, s)
    else .ok ([], s)

/-- The characters of a tag with its escapes resolved. -/
def tagChars : Nat → Source → Except Fault (Text × Source)
  | 0, s => .ok ([], s)
  | fuel + 1, s =>
    if s.peek = '%' then do
      let (bytes, s) ← tagBytes (s.size + 1) s
      match Utf8.decode bytes with
      | .error _ => .error .malformed
      | .ok part =>
        let (text, s) ← tagChars fuel s
        return (part ++ text, s)
    else if isTagChar s.peek then
      (tagChars fuel s.step).map fun (text, s') => (s.peek :: text, s')
    else .ok ([], s)

/-- The text of a tag, which takes at least one character. -/
def tagText (s : Source) : Except Fault (Text × Source) := do
  let (text, s') ← tagChars (s.size + 1) s
  if s'.index = s.index then .error .malformed else return (text, s')

/-- The handle of a tag: an exclamation mark, or a name between two. -/
def tagHandle (s : Source) : Except Fault (Text × Source) :=
  if s.peek ≠ '!' then .error .malformed
  else if s.peekAt 1 = ' ' then .ok (['!'], s.step)
  else
    let found := s.step.run isNameChar
    let s' := s.skip (found.length + 1)
    if s'.peek = '!' then .ok ('!' :: found ++ ['!'], s'.step) else .error .malformed

/-- A tag; the source is at its exclamation mark. -/
def tagToken (s : Source) : Except Fault (Token × Source) := do
  let (token, s) ←
    if s.peekAt 1 = '<' then do
      let (text, s) ← tagText (s.skip 2)
      if s.peek = '>' then pure (Token.tag none text, s.step) else .error .malformed
    else if endsToken (s.peekAt 1) then pure (.tag none ['!'], s.step)
    else if (s.step.run fun c => !endsWord c).contains '!' then do
      let (handle, s) ← tagHandle s
      let (text, s) ← tagText s
      pure (.tag (some handle) text, s)
    else do
      let (text, s) ← tagText s.step
      pure (.tag (some ['!']) text, s)
  if endsWord s.peek then return (token, s) else .error .malformed

/-- A number of a version. -/
def versionNumber (s : Source) : Except Fault (Nat × Source) :=
  let digits := s.run Char.isDigit
  match Integer.read 10 digits with
  | .ok n => .ok (n.toNat, s.skip digits.length)
  | .error (.noNumber _ _) => .error .malformed
  | .error fault => .error (.noValue fault.message)

/-- A directive up to the end of its line; the source is at its percent sign. -/
def directive (s : Source) : Except Fault (Directive × Source) := do
  let (kind, s) ← name s.step
  if !endsWord s.peek then .error .malformed
  else
    let (content, s) ←
      if kind = "YAML".toList then do
        let (major, s) ← versionNumber (s.past (· = ' '))
        if s.peek ≠ '.' then .error .malformed
        else
          let (_, s) ← versionNumber s.step
          if endsWord s.peek then pure (Directive.version major, s) else .error .malformed
      else if kind = "TAG".toList then do
        let (handle, s) ← tagHandle (s.past (· = ' '))
        if s.peek ≠ ' ' then .error .malformed
        else
          let (lead, s) ← tagText (s.past (· = ' '))
          if endsWord s.peek then pure (.tag handle lead, s) else .error .malformed
      else pure (.unknown, s.past fun c => !endsLine c)
    return (content, ← s.restOfLine)

/-! ## The scanner -/

/-- A place where a simple key may have started. -/
structure KeyPlace where
  /-- How many tokens stand before it. -/
  token : Nat
  /-- Nothing but a key can stand there. -/
  required : Bool
  index : Nat
  line : Nat
  column : Nat
deriving DecidableEq, Repr

/-- The tokens that were found and not yet taken, and all that decides what
comes next. -/
structure Scanner where
  source : Source
  queue : List Token := []
  /-- How many tokens were taken. -/
  taken : Nat := 0
  /-- How many brackets and braces are open. -/
  flow : Nat := 0
  /-- The column of the innermost block, and those of the blocks around it. -/
  indent : Int := -1
  indents : List Int := []
  /-- A simple key may start here. -/
  keyAllowed : Bool := true
  /-- Where simple keys may have started, by the number of open brackets. -/
  keys : List (Nat × KeyPlace) := []
  /-- The last token was found. -/
  done : Bool := false

namespace Scanner

/-- How many tokens were found. -/
def count (sc : Scanner) : Nat := sc.taken + sc.queue.length

/-- One more token, and the source past it. -/
def push (sc : Scanner) (token : Token) (source : Source) : Scanner :=
  { sc with queue := sc.queue ++ [token], source := source }

/-- A token put in behind the first `i` of all tokens. -/
def insert (sc : Scanner) (i : Nat) (token : Token) : Scanner :=
  let k := i - sc.taken
  { sc with queue := sc.queue.take k ++ token :: sc.queue.drop k }

/-- The place can no longer be that of a simple key: its line is over, or it
lies more than 1024 characters back. -/
def isStale (sc : Scanner) (key : KeyPlace) : Bool :=
  key.line ≠ sc.source.line || 1024 < sc.source.index - key.index

/-- Forgets the places that can no longer be those of simple keys. -/
def dropStale (sc : Scanner) : Except Fault Scanner :=
  if sc.keys.any fun k => sc.isStale k.2 && k.2.required then .error .malformed
  else .ok { sc with keys := sc.keys.filter fun k => !sc.isStale k.2 }

/-- Forgets the place of the current level. -/
def dropKey (sc : Scanner) : Except Fault Scanner :=
  match sc.keys.lookup sc.flow with
  | some key => if key.required then .error .malformed
    else .ok { sc with keys := sc.keys.filter (·.1 ≠ sc.flow) }
  | none => .ok sc

/-- Remembers that a simple key may start here. -/
def saveKey (sc : Scanner) : Except Fault Scanner :=
  if sc.keyAllowed then do
    let sc ← sc.dropKey
    let s := sc.source
    let required := sc.flow = 0 && sc.indent = s.column
    return { sc with
      keys := (sc.flow, ⟨sc.count, required, s.index, s.line, s.column⟩) :: sc.keys }
  else .ok sc

/-- Ends the blocks that start right of a column; brackets keep blocks open. -/
def unwind (sc : Scanner) (column : Int) : Scanner :=
  if sc.flow ≠ 0 then sc
  else
    let ended := (sc.indent :: sc.indents).takeWhile (column < ·)
    let left := (sc.indent :: sc.indents).dropWhile (column < ·)
    { sc with
      queue := sc.queue ++ ended.map fun _ => Token.blockEnd
      indent := left.headD (-1)
      indents := left.drop 1 }

/-- Starts a block at a column if that lies right of the innermost one; its
token is put in at a place. -/
def openBlock (sc : Scanner) (column : Nat) (i : Nat) (token : Token) : Scanner :=
  if sc.indent < column then
    { (sc.insert i token) with indent := column, indents := sc.indent :: sc.indents }
  else sc

/-- The scanner at its next token: spaces, comments and line breaks are passed. -/
def advance : Nat → Scanner → Scanner
  | 0, sc => sc
  | fuel + 1, sc =>
    let s := sc.source.past (· = ' ')
    let s := if s.peek = '#' then s.past (fun c => !endsLine c) else s
    if isBreak s.peek then
      advance fuel { sc with source := s.lineBreak.2, keyAllowed := sc.keyAllowed || sc.flow = 0 }
    else { sc with source := s }

/-- The end of the document text. -/
def finish (sc : Scanner) : Except Fault Scanner := do
  let sc ← (sc.unwind (-1)).dropKey
  return { (sc.push .streamEnd sc.source) with keyAllowed := false, keys := [], done := true }

/-- The start or the end of a document. -/
def documentMark (sc : Scanner) (token : Token) : Except Fault Scanner := do
  let sc ← (sc.unwind (-1)).dropKey
  return { (sc.push token (sc.source.skip 3)) with keyAllowed := false }

/-- A directive line. -/
def directiveLine (sc : Scanner) : Except Fault Scanner := do
  let sc ← (sc.unwind (-1)).dropKey
  let (content, s) ← directive sc.source
  return { (sc.push (.directive content) s) with keyAllowed := false }

/-- An opening bracket or brace. -/
def openFlow (sc : Scanner) (token : Token) : Except Fault Scanner := do
  let sc ← sc.saveKey
  return { (sc.push token sc.source.step) with flow := sc.flow + 1, keyAllowed := true }

/-- A closing bracket or brace. -/
def closeFlow (sc : Scanner) (token : Token) : Except Fault Scanner := do
  let sc ← sc.dropKey
  if sc.flow = 0 then .error .malformed
  else return { (sc.push token sc.source.step) with flow := sc.flow - 1, keyAllowed := false }

/-- A comma between items. -/
def flowEntry (sc : Scanner) : Except Fault Scanner := do
  let sc ← sc.dropKey
  return { (sc.push .flowEntry sc.source.step) with keyAllowed := true }

/-- In a block, a mark opens a block of its kind, and only where a key could start. -/
def openBlockHere (sc : Scanner) (token : Token) : Except Fault Scanner :=
  if sc.flow ≠ 0 then .ok sc
  else if sc.keyAllowed then .ok (sc.openBlock sc.source.column sc.count token)
  else .error .malformed

/-- The dash of an entry. -/
def blockEntry (sc : Scanner) : Except Fault Scanner := do
  let sc ← (← sc.openBlockHere .blockSequence).dropKey
  return { (sc.push .blockEntry sc.source.step) with keyAllowed := true }

/-- The question mark of a key. -/
def explicitKey (sc : Scanner) : Except Fault Scanner := do
  let sc ← (← sc.openBlockHere .blockMapping).dropKey
  return { (sc.push .key sc.source.step) with keyAllowed := sc.flow = 0 }

/-- The colon of a value. If a simple key may have started before, it did. -/
def valueMark (sc : Scanner) : Except Fault Scanner :=
  match sc.keys.lookup sc.flow with
  | some key =>
    let sc := { sc with keys := sc.keys.filter (·.1 ≠ sc.flow) }
    let sc := sc.insert key.token .key
    let sc := if sc.flow = 0 then sc.openBlock key.column key.token .blockMapping else sc
    .ok { (sc.push .value sc.source.step) with keyAllowed := false }
  | none => do
    let sc ← (← sc.openBlockHere .blockMapping).dropKey
    return { (sc.push .value sc.source.step) with keyAllowed := sc.flow = 0 }

/-- A token that may be, or be part of, a simple key. -/
def content (sc : Scanner) (read : Source → Except Fault (Token × Source)) :
    Except Fault Scanner := do
  let sc ← sc.saveKey
  let (token, s) ← read sc.source
  return { (sc.push token s) with keyAllowed := false }

/-- A block scalar. -/
def blockText (sc : Scanner) (folded : Bool) : Except Fault Scanner := do
  let sc ← sc.dropKey
  let (text, s) ← blockScalar folded sc.indent sc.source
  return { (sc.push (.scalar text false) s) with keyAllowed := true }

/-- A plain scalar. -/
def plainText (sc : Scanner) : Except Fault Scanner := do
  let sc ← sc.saveKey
  let (text, s, broke) := plain (sc.flow ≠ 0) (sc.indent + 1) sc.source
  return { (sc.push (.scalar text true) s) with keyAllowed := broke }

/-- A plain scalar may start with the next character. -/
def startsPlain (sc : Scanner) : Bool :=
  let c := sc.source.peek
  !(endsToken c || "-?:,[]\x7b\x7d#&*!|>'\"%@`".toList.contains c) ||
    (!endsToken (sc.source.peekAt 1) && (c = '-' || (sc.flow = 0 && (c = '?' || c = ':'))))

/-- The scanner past its next token. -/
def next (sc : Scanner) : Except Fault Scanner := do
  let sc ← (advance (sc.source.size + 1) sc).dropStale
  let sc := sc.unwind sc.source.column
  let s := sc.source
  let c := s.peek
  let alone := endsToken (s.peekAt 1)
  if c = ending then sc.finish
  else if c = '%' && s.column = 0 then sc.directiveLine
  else if s.column = 0 && s.atMark '-' then sc.documentMark .documentStart
  else if s.column = 0 && s.atMark '.' then sc.documentMark .documentEnd
  else if c = '[' then sc.openFlow .flowSequence
  else if c = '\x7b' then sc.openFlow .flowMapping
  else if c = ']' then sc.closeFlow .flowSequenceEnd
  else if c = '\x7d' then sc.closeFlow .flowMappingEnd
  else if c = ',' then sc.flowEntry
  else if c = '-' && alone then sc.blockEntry
  else if c = '?' && (alone || sc.flow ≠ 0) then sc.explicitKey
  else if c = ':' && (alone || sc.flow ≠ 0) then sc.valueMark
  else if c = '*' then sc.content fun s => (anchorName s).map fun (n, s) => (.alias n, s)
  else if c = '&' then sc.content fun s => (anchorName s).map fun (n, s) => (.anchor n, s)
  else if c = '!' then sc.content tagToken
  else if c = '|' && sc.flow = 0 then sc.blockText false
  else if c = '>' && sc.flow = 0 then sc.blockText true
  else if c = '\'' then
    sc.content fun s => (quotedScalar false s).map fun (t, s) => (.scalar t false, s)
  else if c = '"' then
    sc.content fun s => (quotedScalar true s).map fun (t, s) => (.scalar t false, s)
  else if sc.startsPlain then sc.plainText
  else .error .malformed

/-- The first token that was not yet taken is settled: it may not turn out to
start a simple key. -/
def isReady (sc : Scanner) : Bool :=
  !sc.queue.isEmpty && !sc.keys.any fun k => k.2.token = sc.taken

/-- The scanner once its first token is settled, or the document ends; the first
argument bounds the number of tokens to be found for that. -/
def supply : Nat → Scanner → Except Fault Scanner
  | 0, _ => .error .malformed
  | fuel + 1, sc => do
    if sc.done then return sc
    else
      let sc ← if sc.queue.isEmpty then pure sc else sc.dropStale
      if sc.isReady then return sc else supply fuel (← sc.next)

/-- The tokens of a document, taken one by one. A fault stands where it is met
when no more is read ahead than each token needs. -/
def stream : Nat → Scanner → List Token
  | 0, _ => []
  | fuel + 1, sc =>
    match sc.supply (sc.source.size + 2) with
    | .error fault => [.broken fault]
    | .ok sc =>
      match sc.queue with
      | [] => []
      | token :: rest => token :: stream fuel { sc with queue := rest, taken := sc.taken + 1 }

end Scanner

/-- The character may stand in a document. -/
def isPrintable (c : Char) : Bool :=
  let n := c.toNat
  n = 0x09 || n = 0x0A || n = 0x0D || (0x20 ≤ n && n ≤ 0x7E) || n = 0x85 ||
    (0xA0 ≤ n && n ≤ 0xFFFD) || 0x10000 ≤ n

/-- The tokens of a document. A byte-order mark in front is passed. -/
def tokens (text : Text) : List Token :=
  if text.all isPrintable then
    let source : Source := { rest := text, size := text.length }
    let source := if source.peek = '\uFEFF' then source.step else source
    Scanner.stream (4 * text.length + 4) { source }
  else [.broken .malformed]

end ImportLift.Yaml
