import CloudSearch.Json.Basic
import CloudSearch.Time.Instant

/-!
# Field values of documents

What a field of a document may hold, and the JSON value that is sent for it. Dates and instants are
sent as whole seconds since 1970-01-01, numbers that are not finite as null.
-/

namespace CloudSearch.Document

/-- What a field of a document holds. -/
inductive FieldValue
  | null
  | bool (b : Bool)
  | int (i : Int64)
  | float (x : Float)
  | text (s : String)
  | instant (t : Instant)
  | date (d : Date)
  | list (items : List FieldValue)
deriving Inhabited

/-- The seconds of an instant in a signed word. -/
def secondsJson (t : Instant) : Json :=
  .int (Int64.ofInt t.seconds)

mutual

/-- The JSON value that is sent for a field value. -/
def FieldValue.toJson : FieldValue → Json
  | .null => .null
  | .bool b => .bool b
  | .int i => .int i
  | .float x => .float x
  | .text s => .text s
  | .instant t => secondsJson t
  | .date d => secondsJson d.midnight
  | .list items => .array (fieldValuesJson items)
  termination_by structural v => v

/-- The JSON values that are sent for the items of a list. -/
def fieldValuesJson : List FieldValue → List Json
  | [] => []
  | v :: rest => v.toJson :: fieldValuesJson rest
  termination_by structural vs => vs

end

/-- The field is null itself; other values may still be sent as null. -/
def FieldValue.isNull : FieldValue → Bool
  | .null => true
  | _ => false

end CloudSearch.Document
