-- The command line: the options of the program, then a command with options
-- and operands of its own. The words of a grammar are looked at before any of
-- them is acted on, then they are taken from left to right, and the first
-- misuse ends the reading. Words that nothing takes are kept and refused last.
import ImportLift.CommandLine.Word

namespace ImportLift.CommandLine

/-- The version of the program. -/
def version : Text := "0.1.0"

/-- What a grammar takes from words. -/
structure Reading where
  /-- The options with their values, in the order in which they were given. -/
  given : List (Flag × Text) := []
  operands : List Text := []
  /-- The words that nothing takes. -/
  extra : List Text := []
deriving DecidableEq, Repr

namespace Reading

/-- The option is given. -/
def has (r : Reading) (flag : Flag) : Bool := r.given.any (·.1 = flag)

/-- The value of an option; the one given last counts. -/
def value? (r : Reading) (flag : Flag) : Option Text := r.given.reverse.lookup flag

end Reading

/-- Why a command line is not carried out. -/
inductive Halt
  /-- Help is asked for. -/
  | help (grammar : Grammar)
  | misuse (grammar : Grammar) (cause : Misuse)
deriving DecidableEq, Repr

namespace Grammar

/-! ## Taking options -/

/-- The options that short names in one word stand for: the first, and those
of the letters behind it, of which there is at least one. From a letter on
that names no option, the rest is a value that the option before it does not take. -/
def cluster (g : Grammar) : Flag → Text → Except Misuse (List Flag)
  | flag, [] => .error (.unusedValue flag [])
  | flag, c :: rest =>
    match g.named? ['-', c], rest with
    | none, rest => .error (.unusedValue flag (c :: rest))
    | some next, [] => .ok [flag, next]
    | some next, rest => (g.cluster next rest).map (flag :: ·)

/-- An option that needs no further word, with its value or the options that
share its word. -/
def take (g : Grammar) (flag : Flag) : Attached → Except Misuse (List (Flag × Text))
  | .nothing => .ok [(flag, [])]
  | .equals value =>
    if flag.takesValue then .ok [(flag, value)] else .error (.unusedValue flag value)
  | .glued rest => (g.cluster flag rest).map fun flags => flags.map fun f => (f, [])

/-- Acts on options with their values: a value that does not fit and a call for
help end the reading. -/
def act (g : Grammar) : List (Flag × Text) → Except Halt Unit
  | [] => .ok ()
  | (flag, value) :: rest =>
    if flag = .help then .error (.help g)
    else if flag.accepts value then g.act rest
    else .error (.misuse g (.noNumber flag value))

/-! ## Taking all words -/

/-- What is taken from words. `slot` says which operands may still come, and
`pending` is an option whose value is the next word. -/
def readFrom (g : Grammar) (slot : Operands) (pending : Option Flag) :
    List (Text × Word) → Except Halt Reading
  | [] =>
    match pending with
    | some flag => .error (.misuse g (.noValue flag))
    | none => .ok {}
  | (text, word) :: rest =>
    match pending, word, slot with
    | some flag, .plain, _ => do
      g.act [(flag, text)]
      let r ← g.readFrom slot none rest
      return { r with given := (flag, text) :: r.given }
    | some flag, _, _ => .error (.misuse g (.noValue flag))
    | none, .option flag attached, _ =>
      if flag.takesValue && attached = .nothing then g.readFrom slot (some flag) rest
      else
        match g.take flag attached with
        | .error cause => .error (.misuse g cause)
        | .ok given => do
          g.act given
          let r ← g.readFrom slot none rest
          return { r with given := given ++ r.given }
    | none, .plain, .command => .ok { operands := text :: rest.map (·.1) }
    | none, .stop, .command =>
      if rest.isEmpty then .ok { extra := [text] }
      else .ok { operands := text :: rest.map (·.1) }
    | none, .plain, .one =>
      match rest with
      | (_, .stop) :: rest => do
        let r ← g.readFrom .nothing none rest
        return { r with operands := text :: r.operands }
      | rest => do
        let r ← g.readFrom .nothing none rest
        return { r with operands := text :: r.operands }
    | none, .stop, .one => g.readFrom .one none rest
    | none, _, _ => do
      let r ← g.readFrom slot none rest
      return { r with extra := text :: r.extra }

/-- What the grammar takes from words. -/
def read (g : Grammar) (words : List Text) : Except Halt Reading :=
  match g.wordsOf words with
  | .error cause => .error (.misuse g cause)
  | .ok words => g.readFrom g.operands none words

/-! ## The grammars of the program -/

/-- The program itself. -/
def program : Grammar := ⟨"htmlimport2esm", [.help, .verbose, .logFile], .command⟩

def convert : Grammar :=
  ⟨"htmlimport2esm convert", [.help, .verbose, .logFile, .dryRun, .librarySegment], .one⟩

def serve : Grammar :=
  ⟨"htmlimport2esm serve", [.help, .verbose, .logFile, .host, .port], .nothing⟩

/-- How a grammar is used. -/
def usage (g : Grammar) : Text :=
  "usage: " ++ g.name ++ Text.join [] (g.flags.map fun f =>
    " [" ++ f.names.headD [] ++ (if f.takesValue then " VALUE".toList else []) ++ "]") ++
    (match g.operands with
    | .nothing => "".toList
    | .one => " [path]".toList
    | .command => " \x7bconvert,serve\x7d ...".toList) ++ "\n"

end Grammar

/-! ## Commands -/

/-- What the program is to do. -/
inductive Command
  /-- Convert what the path leads to. -/
  | convert (path : Text) (dryRun : Bool) (librarySegment : Option Text)
  /-- Answer requests on a port of a host. -/
  | serve (host : Text) (port : Int)
deriving DecidableEq, Repr

structure Invocation where
  verbose : Bool
  logFile : Option Text
  command : Command
deriving DecidableEq, Repr

/-- The path that is converted unless another is given. -/
def defaultPath : Text := "."

/-- The host that requests are answered on unless another is given. -/
def defaultHost : Text := "127.0.0.1"

/-- The port that requests are answered on unless another is given. -/
def defaultPort : Int := 8000

/-- The grammar of a command and what it makes of a reading. -/
def command? (name : Text) : Option (Grammar × (Reading → Command)) :=
  if name = "convert".toList then
    some (.convert, fun r =>
      .convert (r.operands.headD defaultPath) (r.has .dryRun) (r.value? .librarySegment))
  else if name = "serve".toList then
    some (.serve, fun r =>
      .serve ((r.value? .host).getD defaultHost)
        (((r.value? .port).bind fun v => (Integer.read 10 v).toOption).getD defaultPort))
  else none

/-- What a command line asks for. What a command says about the journal wins
over what the program was told. -/
def read (words : List Text) : Except Halt Invocation := do
  let own ← Grammar.program.read words
  match own.operands with
  | [] => .error (.misuse .program .noCommand)
  | name :: rest =>
    match command? name with
    | none => .error (.misuse .program (.unknownCommand name))
    | some (grammar, command) =>
      let inner ← grammar.read rest
      let extra := own.extra ++ inner.extra
      if extra.isEmpty then
        .ok ⟨own.has .verbose || inner.has .verbose,
          (inner.value? .logFile).or (own.value? .logFile), command inner⟩
      else .error (.misuse .program (.unknownWords extra))

end ImportLift.CommandLine
