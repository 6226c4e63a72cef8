import CloudSearch.Document.Field
import CloudSearch.Search.Options

/-!
# Schemas

A schema names the fields of a model that are indexed, among them the one that holds its id.
-/

namespace CloudSearch

open Document (FieldValue)

/-- The indexed fields of a model. -/
structure Schema where
  name : String
  fields : List String
  idField : String := "id"
deriving DecidableEq, Repr

namespace Schema

/-- The fields, the id at the end unless it is one of them. -/
def returnFields (s : Schema) : List String :=
  if s.idField ∈ s.fields then s.fields else s.fields ++ [s.idField]

/-- The record reduced to the fields of the schema; those that it lacks are null. -/
def project (s : Schema) (record : Table FieldValue) : Table FieldValue :=
  .ofList (s.returnFields.map fun name => (name, (record.get? name).getD .null))

/-- Options that ask for the fields of the schema. -/
def searchOptions (s : Schema) : Search.Options :=
  .ofSettings [.returnFields s.returnFields]

end Schema

end CloudSearch
