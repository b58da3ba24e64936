-- Writing data as JSON text, in one line and without spaces. A quotation
-- mark, a backslash and a control character are written as escapes, every
-- other character stands for itself.
import ImportLift.Data
import ImportLift.Text.Quoted

namespace ImportLift.Json

/-- A character inside a string. -/
def charText (c : Char) : Text :=
  if c = '"' then "\\\""
  else if c = '\\' then "\\\\"
  else if c = '\n' then "\\n"
  else if c = '\r' then "\\r"
  else if c = '\t' then "\\t"
  else if c.toNat < 32 then "\\u" ++ Text.hex 4 c.toNat
  else [c]

/-- A text as a string. -/
def stringText (text : Text) : Text := '"' :: text.flatMap charText ++ ['"']

mutual

/-- Data as JSON text. What JSON has no form for is written as null. -/
def render : Data → Text
  | .null | .bytes _ | .other => "null"
  | .bool value => if value then "true" else "false"
  | .int value => Text.ofInt value
  | .real value => value.render
  | .text value => stringText value
  | .list items => '[' :: renderItems items ++ [']']
  | .set members => '[' :: renderItems members ++ [']']
  | .mapping fields => '\x7b' :: renderFields fields ++ ['\x7d']

/-- Items with commas between them. -/
def renderItems : List Data → Text
  | [] => []
  | [item] => render item
  | item :: rest => render item ++ ',' :: renderItems rest

/-- Fields with commas between them. -/
def renderFields : List (Data × Data) → Text
  | [] => []
  | [(name, value)] => render name ++ ':' :: render value
  | (name, value) :: rest => render name ++ ':' :: render value ++ ',' :: renderFields rest

end

end ImportLift.Json
