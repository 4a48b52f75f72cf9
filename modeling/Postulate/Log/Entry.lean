import Postulate.Json.Basic
import Postulate.Log.Severity

/-!
# Log entries

An entry is an event with a severity and named fields. It is written as one line of JSON: the
event, the severity, and then the fields in the order of the UTF-8 bytes of their names. When a
name is given more than once, its last value counts.
-/

namespace Postulate.Log

/-- Fields of an entry: names and values. -/
abbrev FieldList := List (String × String)

/-- A log entry. -/
structure Entry where
  severity : Severity
  event : String
  fields : FieldList
deriving Repr, DecidableEq, Inhabited

/-- The bytes of a text in UTF-8. -/
def utf8Bytes (text : String) : List UInt8 := text.toUTF8.data.toList

/-- Sets a field in a list that is ordered by name. -/
def insertField (name value : String) : FieldList → FieldList
  | [] => [(name, value)]
  | field :: fields =>
    if name = field.1 then (name, value) :: fields
    else if utf8Bytes name < utf8Bytes field.1 then (name, value) :: field :: fields
    else field :: insertField name value fields

/-- The fields by name, each name once and with its last value. -/
def sortedFields (fields : FieldList) : FieldList :=
  fields.foldl (fun sorted field => insertField field.1 field.2 sorted) []

namespace Entry

/-- The entry as a JSON object. -/
def json (e : Entry) : Json :=
  .ofMembers (("event", .ofString e.event) :: ("severity", .ofString e.severity.name) ::
    (sortedFields e.fields).map fun (name, value) => (name, .ofString value))

/-- The entry as a line without its end. -/
def line (e : Entry) : String := e.json.text

/-- The entry as a line with its end. -/
def render (e : Entry) : String := e.line ++ "\n"

end Entry

end Postulate.Log
