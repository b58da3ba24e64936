-- Data as documents hold it: what a settings file or a request says before
-- anyone knows what it should say. The coercions take from a value what a
-- setting needs and ignore what does not fit.
import ImportLift.Binary64
import ImportLift.Integer

namespace ImportLift

inductive Data
  | null
  | bool (value : Bool)
  | int (value : Int)
  | real (value : Binary64)
  | text (value : Text)
  /-- Raw bytes. -/
  | bytes (value : List UInt8)
  /-- A date or a point in time: something that no setting takes. -/
  | other
  | list (items : List Data)
  | set (members : List Data)
  | mapping (fields : List (Data × Data))

namespace Data

/-- The value says nothing: null, false, zero or empty. -/
def isVoid : Data → Bool
  | null => true
  | bool b => !b
  | int n => n = 0
  | real x => x.isZero
  | text t => t.isEmpty
  | bytes value => value.isEmpty
  | other => false
  | list items => items.isEmpty
  | set members => members.isEmpty
  | mapping fields => fields.isEmpty

/-- The key is this text. -/
def isKey (name : Text) : Data → Bool
  | text t => t = name
  | _ => false

/-- The value of a field; of several fields of one name the last counts. -/
def field? (fields : List (Data × Data)) (name : Text) : Option Data :=
  (fields.reverse.find? fun f => f.1.isKey name).map (·.2)

/-- The value of a field, null when there is none. -/
def field (fields : List (Data × Data)) (name : Text) : Data := (field? fields name).getD null

mutual

/-- Some part of the value, it or one inside it, is of the given kind. -/
def anyPart (kind : Data → Bool) : Data → Bool
  | list items => kind (list items) || anyItem kind items
  | set members => kind (set members) || anyItem kind members
  | mapping fields => kind (mapping fields) || anyField kind fields
  | value => kind value

/-- Some part of an item is of the given kind. -/
def anyItem (kind : Data → Bool) : List Data → Bool
  | [] => false
  | item :: rest => anyPart kind item || anyItem kind rest

/-- Some part of a field, of its name or its value, is of the given kind. -/
def anyField (kind : Data → Bool) : List (Data × Data) → Bool
  | [] => false
  | (name, value) :: rest => anyPart kind name || anyPart kind value || anyField kind rest

end

/-! ## Coercions -/

/-- The fields of a mapping; of anything else, none. -/
def asFields : Data → List (Data × Data)
  | mapping fields => fields
  | _ => []

/-- The text of a text, a number or a truth value. -/
def asText? : Data → Except Integer.Fault (Option Text)
  | text t => .ok (some t)
  | bool b => .ok (some (if b then "True" else "False"))
  | int n => (Integer.write n).map some
  | real x => .ok (some x.render)
  | _ => .ok none

/-- The integer of an integer or of a text that writes one. -/
def asInt? : Data → Option Int
  | int n => some n
  | text t => (Integer.read 10 t).toOption
  | _ => none

/-- The texts of a list, where items that have none are left out; a text is a
list of one, and bytes are a list of numbers. -/
def asTexts : Data → Except Integer.Fault (List Text)
  | text t => .ok [t]
  | bytes value => .ok (value.map fun b => Text.ofNat b.toNat)
  | list items => (items.mapM asText?).map (·.filterMap id)
  | _ => .ok []

end Data

end ImportLift
