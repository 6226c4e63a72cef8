import CloudSearch.Json.Basic
import CloudSearch.Page.Basic

/-!
# Hits

The hits of a search are the ids of documents, or documents with some of their fields if any hit
came with fields. Among documents an id counts once, with its first place and its last fields.
-/

namespace CloudSearch

/-- The fields that came with a hit. -/
abbrev HitFields := Table Json

namespace HitFields

/-- All values of a field: the items of an array, or the one value that is there. -/
def all (fields : HitFields) (name : String) : List Json :=
  match fields.get? name with
  | some (.array items) => items
  | some v => [v]
  | none => []

/-- The first value of a field. -/
def first? (fields : HitFields) (name : String) : Option Json :=
  match fields.get? name with
  | some (.array items) => items.head?
  | some v => some v
  | none => none

theorem first?_eq_head?_all (fields : HitFields) (name : String) :
    fields.first? name = (fields.all name).head? := by
  unfold first? all
  split <;> simp_all

end HitFields

/-- The hits of a search. -/
inductive Hits
  | ids (ids : List String)
  | documents (documents : Table HitFields)

namespace Hits

/-- The ids of the hits in their order. -/
def idList : Hits → List String
  | .ids list => list
  | .documents table => table.names

/-- The number of hits. -/
def size (h : Hits) : Nat :=
  h.idList.length

end Hits

/-- A hit as it comes from the service: an id, with fields under one of two names. -/
structure Hit where
  id : String
  data : Option HitFields := none
  fields : Option HitFields := none

/-- The hit came with fields. -/
def Hit.hasFields (h : Hit) : Bool :=
  h.data.isSome || h.fields.isSome

/-- The fields of the hit, those under `data` first. -/
def Hit.content (h : Hit) : HitFields :=
  (h.data.or h.fields).getD .empty

/-- What the hits of a response are. -/
def Hits.ofList (hits : List Hit) : Hits :=
  if hits.any Hit.hasFields then .documents (.ofList (hits.map fun h => (h.id, h.content)))
  else .ids (hits.map (·.id))

/-- What a response says. -/
structure Response where
  found : UInt64 := 0
  start : UInt64 := 0
  hits : List Hit := []

/-- The page that a response holds when so many hits were asked for, unless its start stops the
program. -/
def Response.page (r : Response) (size : UInt64) : Option (Page Hits) :=
  Page.ofStart (.ofList r.hits) r.found size r.start

/-- The page of a search that nobody answers. -/
def emptyPage : Page Hits :=
  .of (.ids []) 0 10 1

end CloudSearch
