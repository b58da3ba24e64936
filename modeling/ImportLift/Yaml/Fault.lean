-- What is wrong with a document. Most faults are of one kind, that the
-- document is not well formed. The others are scalars that have the form, or
-- the tag, of a kind of value and name none.
import ImportLift.Text.Basic

namespace ImportLift.Yaml

/-- Why a document cannot be read. -/
inductive Fault
  /-- The document is not well formed, or holds what has no meaning. -/
  | malformed
  /-- A scalar names no value of its kind. -/
  | noValue (message : Text)
  /-- A truth value is spelled by an unknown word. -/
  | unknownWord (word : Text)
  /-- A number has no digits. -/
  | noDigits
  /-- A point in time has no form of one. -/
  | noMoment
  /-- A point in time is written as a mapping. -/
  | mappedMoment
  /-- The code of an escape is past all numbers of a character. -/
  | hugeCode
  /-- A digit of a number in base 60 has a place past all numbers. -/
  | hugePlace
  /-- Collections are nested too deep. -/
  | tooDeep
deriving DecidableEq, Repr

def Fault.message : Fault → Text
  | malformed => "malformed document"
  | noValue message => message
  | unknownWord word => word
  | noDigits => "string index out of range"
  | noMoment => "'NoneType' object has no attribute 'groupdict'"
  | mappedMoment => "expected string or bytes-like object, got 'list'"
  | hugeCode => "Python int too large to convert to C int"
  | hugePlace => "int too large to convert to float"
  | tooDeep => "maximum recursion depth exceeded"

end ImportLift.Yaml
