-- The words of a command line, one by one. A word that starts with a dash is
-- an option when it spells the name of one, or the beginning of exactly one
-- long name, with a value behind an equals sign or, after a short name, more
-- short names right behind it. A negative number and a word with a space are
-- no options, and after two dashes there are none.
import ImportLift.Integer

namespace ImportLift.CommandLine

/-! ## Options -/

inductive Flag
  | help
  | verbose
  | logFile
  | dryRun
  | librarySegment
  | host
  | port
deriving DecidableEq, Repr

namespace Flag

/-- The names of an option, a short one first. -/
def names : Flag → List Text
  | help => ["-h", "--help"]
  | verbose => ["-v", "--verbose"]
  | logFile => ["--log-file"]
  | dryRun => ["--dry-run"]
  | librarySegment => ["--library-segment"]
  | host => ["--host"]
  | port => ["--port"]

/-- The option comes with a value. Only options with a long name alone do. -/
def takesValue : Flag → Bool
  | help | verbose | dryRun => false
  | logFile | librarySegment | host | port => true

/-- The value fits the option. -/
def accepts (f : Flag) (value : Text) : Bool :=
  match f with
  | port => (Integer.read 10 value).isOk
  | _ => true

/-- The option as messages show it. -/
def label (f : Flag) : Text := Text.join "/" f.names

end Flag

/-! ## Misuse -/

/-- What is wrong with a command line. -/
inductive Misuse
  /-- The beginning of several names. -/
  | ambiguous (word : Text) (candidates : List Text)
  /-- The value of an option is missing. -/
  | noValue (flag : Flag)
  /-- A value for an option that takes none. -/
  | unusedValue (flag : Flag) (value : Text)
  /-- A value that is no number. -/
  | noNumber (flag : Flag) (value : Text)
  | noCommand
  | unknownCommand (word : Text)
  /-- Words that nothing takes. -/
  | unknownWords (words : List Text)
deriving DecidableEq, Repr

/-- The names of the commands. -/
def commandNames : List Text := ["convert", "serve"]

namespace Misuse

/-- What is wrong with an option. -/
def ofFlag (flag : Flag) (text : Text) : Text := "argument " ++ flag.label ++ ": " ++ text

def message : Misuse → Text
  | ambiguous word candidates =>
    "ambiguous option: " ++ word ++ " could match " ++ Text.join ", " candidates
  | noValue flag => ofFlag flag "expected one argument"
  | unusedValue flag value => ofFlag flag ("ignored explicit argument " ++ Text.quoted value)
  | noNumber flag value => ofFlag flag ("invalid int value: " ++ Text.quoted value)
  | noCommand => "the following arguments are required: command"
  | unknownCommand word =>
    "argument command: invalid choice: " ++ Text.quoted word ++
      " (choose from " ++ Text.join ", " (commandNames.map Text.quoted) ++ ")"
  | unknownWords words => "unrecognized arguments: " ++ Text.join " " words

end Misuse

/-! ## Words -/

/-- A value that stands in one word with its option. -/
inductive Attached
  | nothing
  /-- The value behind a long name and an equals sign. -/
  | equals (value : Text)
  /-- What stands behind a short name, with or without an equals sign between. -/
  | glued (rest : Text)
deriving DecidableEq, Repr

/-- What a word is taken for. -/
inductive Word
  | plain
  /-- Two dashes, after which no word is an option. -/
  | stop
  | option (flag : Flag) (attached : Attached)
  /-- A word like an option that is none. -/
  | unknown
deriving DecidableEq, Repr

/-- What may stand besides options. -/
inductive Operands
  | nothing
  /-- One word, which may be missing. -/
  | one
  /-- The name of a command, and all that follows it. -/
  | command
deriving DecidableEq, Repr

/-- What a command understands, and the name under which it speaks. -/
structure Grammar where
  name : Text
  flags : List Flag
  operands : Operands
deriving DecidableEq, Repr

namespace Grammar

/-- All names of options, each with its option. -/
def spellings (g : Grammar) : List (Text × Flag) :=
  g.flags.flatMap fun f => f.names.map fun name => (name, f)

/-- The option with a name. -/
def named? (g : Grammar) (name : Text) : Option Flag := g.spellings.lookup name

/-- The name is a short one: a dash and a character that is no dash. -/
def isShort (name : Text) : Bool :=
  match name with
  | ['-', c] => c ≠ '-'
  | _ => false

/-- What stands before the first equals sign, and the value behind it. -/
def splitValue (word : Text) : Text × Attached :=
  let name := word.takeWhile (· ≠ '=')
  match word.dropWhile (· ≠ '=') with
  | [] => (word, .nothing)
  | _ :: value => (name, if isShort name then .glued value else .equals value)

/-- The option that a word spells out, with its value. -/
def spelledOut? (g : Grammar) (word : Text) : Option Word :=
  let (name, attached) := splitValue word
  match g.named? word, g.named? name with
  | some flag, _ => some (.option flag .nothing)
  | none, some flag => some (.option flag attached)
  | none, none => none

/-- The options that a word may stand for: behind two dashes those whose name
it begins, behind one dash the one of the first letter. -/
def candidates (g : Grammar) (word : Text) : List (Text × Word) :=
  match word with
  | '-' :: '-' :: _ =>
    let (start, attached) := splitValue word
    (g.spellings.filter fun s => start.isPrefixOf s.1).map fun s => (s.1, .option s.2 attached)
  | _ =>
    (g.spellings.filter fun s => s.1 = word.take 2).map fun s =>
      (s.1, .option s.2 (.glued (word.drop 2)))

/-- All characters are digits, and there is one. -/
def isNumeral (text : Text) : Bool :=
  !text.isEmpty && text.all fun c => (Text.digitValue? c).isSome

/-- The word is a negative number: digits, or digits behind a point. One line
feed at the end does not count. -/
def isNegative (word : Text) : Bool :=
  let number := word.drop 1
  let number := if number.getLast? = some '\n' then number.dropLast else number
  match Text.cutAt '.' number with
  | [whole] => isNumeral whole
  | [whole, places] => (whole.isEmpty || isNumeral whole) && isNumeral places
  | _ => false

/-- What a word before two dashes is taken for. -/
def wordOf (g : Grammar) (word : Text) : Except Misuse Word :=
  if word.head? ≠ some '-' then .ok .plain
  else
    match g.spelledOut? word with
    | some found => .ok found
    | none =>
      if word.length = 1 then .ok .plain
      else
        match g.candidates word with
        | [] => .ok (if isNegative word || word.contains ' ' then .plain else .unknown)
        | [(_, found)] => .ok found
        | several => .error (.ambiguous word (several.map (·.1)))

/-- What the words are taken for. -/
def wordsOf (g : Grammar) : List Text → Except Misuse (List (Text × Word))
  | [] => .ok []
  | word :: rest =>
    if word = ['-', '-'] then .ok ((word, .stop) :: rest.map fun w => (w, .plain))
    else do
      let found ← g.wordOf word
      let others ← g.wordsOf rest
      return (word, found) :: others

end Grammar

end ImportLift.CommandLine
