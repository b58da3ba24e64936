-- Layouts: texts with holes, by which a module is put together. A hole
-- `{{ name }}` stands for a value and `{% for x in xs %} … {% endfor %}`
-- repeats what it encloses for each item of a list. White space in front of a
-- tag `{% … %}` that starts a line goes, and so does a line feed right behind
-- it; one line feed at the very end of the layout goes as well. Values are
-- copied as they are and never read again.
import ImportLift.Text.Lines
import ImportLift.Text.Quoted
import ImportLift.Text.Word

namespace ImportLift

/-- What a name stands for in a layout. -/
inductive Value
  | text (content : Text)
  | list (items : List Text)
deriving DecidableEq, Repr

inductive Layout
  /-- The end. -/
  | done
  /-- A piece of text, then the rest. -/
  | text (piece : Text) (next : Layout)
  /-- The value of a name, then the rest. -/
  | put (name : Text) (next : Layout)
  /-- The body for each item of a list, then the rest. -/
  | each (item list : Text) (body next : Layout)
deriving DecidableEq, Repr

namespace Layout

/-- The values that a layout can name; the first of a name counts. -/
abbrev Values := List (Text × Value)

/-- The text of a name; a list is shown with its items quoted, and a name
without a value is empty. -/
def textOf (values : Values) (name : Text) : Text :=
  match values.lookup name with
  | some (.text content) => content
  | some (.list items) => Text.quotedList items
  | none => []

/-- The items of a name; a text has its characters as items. -/
def itemsOf (values : Values) (name : Text) : List Text :=
  match values.lookup name with
  | some (.list items) => items
  | some (.text content) => content.map ([·])
  | none => []

/-- The layout with its holes filled. -/
def render : Layout → Values → Text
  | done, _ => []
  | text piece next, values => piece ++ next.render values
  | put name next, values => textOf values name ++ next.render values
  | each item list body next, values =>
    ((itemsOf values list).flatMap fun value => body.render ((item, .text value) :: values)) ++
      next.render values

/-! ## Reading a layout -/

/-- A piece of a layout text. -/
inductive Token
  | text (piece : Text)
  | put (name : Text)
  | open (item list : Text)
  | close
deriving DecidableEq, Repr

/-- What stands before the first occurrence of a mark and what stands behind it. -/
def splitAt? (mark : Text) : Text → Option (Text × Text)
  | [] => none
  | c :: rest =>
    if mark.isPrefixOf (c :: rest) then some ([], (c :: rest).drop mark.length)
    else (splitAt? mark rest).map fun (before, after) => (c :: before, after)

/-- What stands before the first tag, and whether the tag is a hole. -/
def untilTag : Text → Text × Option (Bool × Text)
  | [] => ([], none)
  | '\x7b' :: '\x7b' :: rest => ([], some (true, rest))
  | '\x7b' :: '%' :: rest => ([], some (false, rest))
  | c :: rest =>
    let (before, tag) := untilTag rest
    (c :: before, tag)

/-- The text in front of a `{%` tag, without the white space that starts its
line. A piece without a line feed starts a line only if `fresh` says so. -/
def trimLineStart (fresh : Bool) (piece : Text) : Text :=
  let line := Text.afterLast '\n' piece
  if (fresh || piece.contains '\n') && line.allBlank then piece.take (piece.length - line.length)
  else piece

/-- The words of a tag as a token. -/
def tagOf? (content : Text) : Option Token :=
  match Text.words content with
  | [['f', 'o', 'r'], item, ['i', 'n'], list] => some (.open item list)
  | [['e', 'n', 'd', 'f', 'o', 'r']] => some .close
  | _ => none

/-- A name: a word that does not start with a digit. -/
def isName (name : Text) : Bool :=
  name.all Text.isWord && !name.isEmpty && !(name.head?.any Char.isDigit)

/-- The words that are values themselves, and how these are written. -/
def literals : List (Text × Text) :=
  [("true", "True"), ("True", "True"), ("false", "False"), ("False", "False"), ("none", "None"),
    ("None", "None")]

/-- The content of a hole as a token. -/
def holeOf? (content : Text) : Option Token :=
  let name := content.trim
  match literals.lookup name with
  | some written => some (.text written)
  | none => if isName name then some (.put name) else none

/-- The tokens of a layout text. `fresh` says whether a line starts here; the
first argument bounds the number of tags. -/
def tokensFrom? : Nat → Bool → Text → Option (List Token)
  | 0, _, _ => none
  | fuel + 1, fresh, source =>
    match untilTag source with
    | (piece, none) => some [.text piece]
    | (piece, some (true, rest)) => do
      let (content, rest) ← splitAt? "\x7d\x7d" rest
      let hole ← holeOf? content
      let tokens ← tokensFrom? fuel false rest
      return .text piece :: hole :: tokens
    | (piece, some (false, rest)) => do
      let (content, rest) ← splitAt? "%\x7d" rest
      let tag ← tagOf? content
      let tokens ← match rest with
        | '\n' :: rest => tokensFrom? fuel true rest
        | rest => tokensFrom? fuel false rest
      return .text (trimLineStart fresh piece) :: tag :: tokens

/-- One more token in front of the layouts that are open behind it: the
innermost first, the whole last. -/
def prepend? : Token → List Layout → Option (List Layout)
  | .text [], open_ => some open_
  | .text piece, inner :: outer => some (text piece inner :: outer)
  | .put name, inner :: outer => some (put name inner :: outer)
  | .close, open_ => some (done :: open_)
  | .open item list, body :: next :: outer => some (each item list body next :: outer)
  | _, _ => none

/-- The layout of a list of tokens, if each repetition is opened and closed. -/
def ofTokens? (tokens : List Token) : Option Layout :=
  match tokens.foldr (fun token open_ => open_.bind (prepend? token)) (some [done]) with
  | some [layout] => some layout
  | _ => none

/-- The text without one line feed at its end. -/
def dropFinalBreak (source : Text) : Text :=
  if source.getLast? = some '\n' then source.dropLast else source

/-- The layout that a text describes. -/
def ofText? (source : Text) : Option Layout :=
  let source := dropFinalBreak (Text.unifyBreaks source)
  (tokensFrom? (source.length + 1) true source).bind ofTokens?

end Layout

end ImportLift
