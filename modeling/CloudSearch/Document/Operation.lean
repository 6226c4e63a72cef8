import CloudSearch.Document.Field
import CloudSearch.Json.Printer

/-!
# Document operations

A document is added under its id in a version and a language with a table of fields, or deleted. An
encoder makes operations out of field values; it decides what becomes of fields that are null. A
batch of operations is sent as one JSON array.
-/

namespace CloudSearch.Document

/-- A change of one document. -/
inductive Operation
  | add (id : String) (version : Int64) (lang : String) (fields : Table Json)
  | delete (id : String) (version : Int64)

/-- The document that the operation changes. -/
def Operation.id : Operation → String
  | .add id .. => id
  | .delete id _ => id

/-- The operation as JSON. -/
def Operation.toJson : Operation → Json
  | .add id version lang fields =>
    .object [("type", .text "add"), ("id", .text id), ("version", .int version),
      ("lang", .text lang), ("fields", .object fields.entries)]
  | .delete id version =>
    .object [("type", .text "delete"), ("id", .text id), ("version", .int version)]

/-- What becomes of fields that are null. -/
inductive NullPolicy
  | emptyText
  | omit
deriving DecidableEq, Repr

/-- Makes operations in one language under one policy. -/
structure Encoder where
  lang : String := "en"
  nullFields : NullPolicy := .emptyText
deriving DecidableEq, Repr

/-- The JSON value for a field, unless the field is left out. -/
def NullPolicy.fieldJson? (p : NullPolicy) (v : FieldValue) : Option Json :=
  if v.isNull then
    match p with
    | .emptyText => some (.text "")
    | .omit => none
  else some v.toJson

/-- The table of the fields that are sent. -/
def Encoder.fields (e : Encoder) (fields : List (String × FieldValue)) : Table Json :=
  .ofList (fields.filterMap fun (name, v) => (e.nullFields.fieldJson? v).map fun j => (name, j))

/-- The operation that adds a document, or replaces it. -/
def Encoder.add (e : Encoder) (id : String) (fields : List (String × FieldValue))
    (version : Int64) : Operation :=
  .add id version e.lang (e.fields fields)

/-- A batch of operations as it is sent. -/
structure Request where
  url : String
  body : String
  headers : List (String × String)
deriving DecidableEq, Repr

/-- The JSON text of a batch. -/
def batchText (operations : List Operation) : String :=
  (Json.array (operations.map Operation.toJson)).print

/-- The request that sends a batch to an endpoint. -/
def Request.ofBatch (endpoint : String) (operations : List Operation) : Request :=
  ⟨endpoint, batchText operations, [("Content-Type", "application/json")]⟩

end CloudSearch.Document
