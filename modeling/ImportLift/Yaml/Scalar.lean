-- Scalars: plain, quoted and block. A scalar may go over several lines; a
-- single line break inside it counts as a space, and of several breaks the
-- first does not count.
import ImportLift.Text.Digit
import ImportLift.Yaml.Source

namespace ImportLift.Yaml

/-! ## Plain scalars -/

/-- Characters that end a plain scalar inside brackets and braces. -/
def isFlowMark (c : Char) : Bool := c = ',' || c = '[' || c = ']' || c = '\x7b' || c = '\x7d'

/-- How many characters from here on belong to a plain scalar. -/
def plainLength (flow : Bool) : Text → Nat
  | [] => 0
  | c :: rest =>
    let next := rest.headD ending
    if endsToken c || (c = ':' && (endsToken next || (flow && isFlowMark next))) ||
        (flow && (isFlowMark c || c = '?')) then 0
    else plainLength flow rest + 1

/-- Further breaks and spaces behind a break in a plain scalar: the breaks, the
source past them, and whether a document ends there. -/
def plainBreaks : Nat → Source → Text × Source × Bool
  | 0, s => ([], s, true)
  | fuel + 1, s =>
    if s.peek = ' ' then plainBreaks fuel s.step
    else if isBreak s.peek then
      let (b, s) := s.lineBreak
      if s.atDocumentMark then ([], s, true)
      else
        let (breaks, s, ends) := plainBreaks fuel s
        (b ++ breaks, s, ends)
    else ([], s, false)

/-- A folded line break: what it adds to a scalar, with the breaks behind it. -/
def foldBreak (first breaks : Text) : Text :=
  (if first ≠ ['\n'] then first else if breaks.isEmpty then [' '] else []) ++ breaks

/-- The space between two parts of a plain scalar, empty when the scalar ends;
the source past it; and whether it breaks a line. -/
def plainSpace (s : Source) : Text × Source × Bool :=
  let spaces := s.run (· = ' ')
  let s := s.past (· = ' ')
  if isBreak s.peek then
    let (first, s) := s.lineBreak
    if s.atDocumentMark then ([], s, true)
    else
      match plainBreaks (s.size + 1) s with
      | (_, s, true) => ([], s, true)
      | (breaks, s, false) => (foldBreak first breaks, s, true)
  else (spaces, s, false)

/-- The rest of a plain scalar: its text, the source past it, and whether a
line was broken behind it. `space` is what stands before the next part. -/
def plainFrom (flow : Bool) (indent : Int) : Nat → Text → Bool → Source → Text × Source × Bool
  | 0, _, broke, s => ([], s, broke)
  | fuel + 1, space, broke, s =>
    let n := if s.peek = '#' then 0 else plainLength flow s.rest
    if n = 0 then ([], s, broke)
    else
      let part := s.rest.take n
      let (next, s, broke) := plainSpace (s.skip n)
      if next.isEmpty || s.peek = '#' || (!flow && (s.column : Int) < indent) then
        (space ++ part, s, broke)
      else
        let (text, s, broke) := plainFrom flow indent fuel next broke s
        (space ++ part ++ text, s, broke)

/-- A plain scalar. -/
def plain (flow : Bool) (indent : Int) (s : Source) : Text × Source × Bool :=
  plainFrom flow indent (s.size + 1) [] false s

/-! ## Quoted scalars -/

/-- The breaks behind a break in a quoted scalar. -/
def quotedBreaks : Nat → Source → Except Fault (Text × Source)
  | 0, _ => .error .malformed
  | fuel + 1, s =>
    if s.atDocumentMark then .error .malformed
    else
      let s := s.past fun c => c = ' ' || c = '\t'
      if isBreak s.peek then
        let (b, s) := s.lineBreak
        (quotedBreaks fuel s).map fun (breaks, s) => (b ++ breaks, s)
      else .ok ([], s)

/-- White space and breaks inside a quoted scalar. -/
def quotedSpace (s : Source) : Except Fault (Text × Source) :=
  let isSpace (c : Char) : Bool := c = ' ' || c = '\t'
  let spaces := s.run isSpace
  let s := s.past isSpace
  if s.peek = ending then .error .malformed
  else if isBreak s.peek then
    let (first, s) := s.lineBreak
    (quotedBreaks (s.size + 1) s).map fun (breaks, s) => (foldBreak first breaks, s)
  else .ok (spaces, s)

/-- The escapes of one character. -/
def escapes : List (Char × Char) :=
  [('0', '\x00'), ('a', '\x07'), ('b', '\x08'), ('t', '\t'), ('\t', '\t'), ('n', '\n'),
    ('v', '\x0b'), ('f', '\x0c'), ('r', '\r'), ('e', '\x1b'), (' ', ' '), ('"', '"'),
    ('\\', '\\'), ('/', '/'), ('N', '\u0085'), ('_', '\u00A0'), ('L', '\u2028'), ('P', '\u2029')]

/-- The number of digits of an escape by code. -/
def escapeWidth? : Char → Option Nat
  | 'x' => some 2
  | 'u' => some 4
  | 'U' => some 8
  | _ => none

/-- The character of a code. -/
def charOfCode (code : Nat) : Except Fault Char :=
  if code < 0x110000 then .ok (Char.ofNat code)
  else if code < Nat.pow 2 31 then .error (.noValue "chr() arg not in range(0x110000)")
  else .error .hugeCode

/-- What an escape stands for; the source is past the backslash. -/
def escape (s : Source) : Except Fault (Text × Source) :=
  match escapes.lookup s.peek, escapeWidth? s.peek with
  | some c, _ => .ok ([c], s.step)
  | none, some width =>
    let digits := s.step.rest.take width
    match if digits.length = width then Text.hexNumber? digits else none with
    | some code => (charOfCode code).map fun c => ([c], s.step.skip width)
    | none => .error .malformed
  | none, none =>
    if isBreak s.peek then quotedBreaks (s.size + 1) s.lineBreak.2 else .error .malformed

/-- The rest of a quoted scalar, up to its closing mark. -/
def quotedFrom (double : Bool) : Nat → Source → Except Fault (Text × Source)
  | 0, _ => .error .malformed
  | fuel + 1, s =>
    let mark := if double then '"' else '\''
    let c := s.peek
    if !double && c = mark && s.peekAt 1 = mark then
      (quotedFrom double fuel (s.skip 2)).map fun (text, s) => (mark :: text, s)
    else if c = mark then .ok ([], s.step)
    else if double && c = '\\' then do
      let (part, s) ← escape s.step
      let (text, s) ← quotedFrom double fuel s
      return (part ++ text, s)
    else if endsToken c then do
      let (space, s) ← quotedSpace s
      let (text, s) ← quotedFrom double fuel s
      return (space ++ text, s)
    else (quotedFrom double fuel s.step).map fun (text, s) => (c :: text, s)

/-- A quoted scalar; the source is at its opening mark. -/
def quotedScalar (double : Bool) (s : Source) : Except Fault (Text × Source) :=
  quotedFrom double (s.size + 1) s.step

/-! ## Block scalars -/

/-- What becomes of the breaks at the end of a block scalar. -/
inductive Chomp
  | keep
  | clip
  | strip
deriving DecidableEq, Repr

def chompOf? : Char → Option Chomp
  | '+' => some .keep
  | '-' => some .strip
  | _ => none

/-- A digit that gives the indentation of a block scalar; none for a character that is no digit. -/
def stepOf? (c : Char) : Except Fault (Option Nat) :=
  if c.isDigit then (if c = '0' then .error .malformed else .ok (some (c.toNat - '0'.toNat)))
  else .ok none

/-- The marks behind the opening of a block scalar, in either order. -/
def blockHeader (s : Source) : Except Fault (Chomp × Option Nat × Source) := do
  let (chomp, step, s) ← match chompOf? s.peek with
    | some chomp => do
      match ← stepOf? s.step.peek with
      | some n => pure (chomp, some n, s.step.step)
      | none => pure (chomp, none, s.step)
    | none => do
      match ← stepOf? s.peek with
      | none => pure (.clip, none, s)
      | some n =>
        match chompOf? s.step.peek with
        | some chomp => pure (chomp, some n, s.step.step)
        | none => pure (.clip, some n, s.step)
  if endsWord s.peek then return (chomp, step, ← s.restOfLine) else .error .malformed

/-- The breaks and spaces before the first line of a block scalar: the breaks,
the greatest column reached, and the source past them. -/
def blockLead : Nat → Nat → Source → Text × Nat × Source
  | 0, widest, s => ([], widest, s)
  | fuel + 1, widest, s =>
    if s.peek = ' ' then blockLead fuel (max widest s.step.column) s.step
    else if isBreak s.peek then
      let (b, s) := s.lineBreak
      let (breaks, widest, s) := blockLead fuel widest s
      (b ++ breaks, widest, s)
    else ([], widest, s)

/-- The source past the spaces up to the indentation. -/
def indented (indent : Nat) (s : Source) : Source :=
  s.skip (min (indent - s.column) (s.run (· = ' ')).length)

/-- The breaks between two lines of a block scalar. -/
def blockBreaks (indent : Nat) : Nat → Source → Text × Source
  | 0, s => ([], s)
  | fuel + 1, s =>
    let s := indented indent s
    if isBreak s.peek then
      let (b, s) := s.lineBreak
      let (breaks, s) := blockBreaks indent fuel s
      (b ++ breaks, s)
    else ([], s)

/-- The lines of a block scalar: their text, the break of the last line, the
breaks behind it, and the source past them. -/
def blockLines (folded : Bool) (indent : Nat) :
    Nat → Text → Source → Text × Text × Text × Source
  | 0, breaks, s => ([], [], breaks, s)
  | fuel + 1, breaks, s =>
    if s.column = indent && s.peek ≠ ending then
      let flush := s.peek ≠ ' ' && s.peek ≠ '\t'
      let line := s.run fun c => !endsLine c
      let (last, s) := (s.past fun c => !endsLine c).lineBreak
      let (next, s) := blockBreaks indent (s.size + 1) s
      if s.column = indent && s.peek ≠ ending then
        let joint :=
          if folded && last = ['\n'] && flush && s.peek ≠ ' ' && s.peek ≠ '\t' then
            (if next.isEmpty then [' '] else [])
          else last
        let (text, last, behind, s) := blockLines folded indent fuel next s
        (breaks ++ line ++ joint ++ text, last, behind, s)
      else (breaks ++ line, last, next, s)
    else ([], [], breaks, s)

/-- A block scalar below an indentation; the source is at its opening mark. -/
def blockScalar (folded : Bool) (parent : Int) (s : Source) : Except Fault (Text × Source) := do
  let (chomp, step, s) ← blockHeader s.step
  let least := max 1 (parent + 1).toNat
  let fuel := s.size + 1
  let (indent, breaks, s) := match step with
    | none =>
      let (breaks, widest, s) := blockLead fuel 0 s
      (max least widest, breaks, s)
    | some n =>
      let indent := least + n - 1
      let (breaks, s) := blockBreaks indent fuel s
      (indent, breaks, s)
  let (text, last, behind, s) := blockLines folded indent fuel breaks s
  return (match chomp with
    | .strip => text
    | .clip => text ++ last
    | .keep => text ++ last ++ behind, s)

end ImportLift.Yaml
