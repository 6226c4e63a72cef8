import CloudSearch.Document.Operation
import CloudSearch.Proofs.Table
import CloudSearch.Schema
import Mathlib.Data.List.Nodup

/-!
# What a schema lets through

A record that is reduced to a schema has the fields of the schema, each once and in their order, with
null for those that the record lacks. Nothing else of the record is left (`project_eq_iff`): records
that hold the same under the names of the schema cannot be told apart any more, neither by what they
are reduced to nor by the documents that are made of it.
-/

namespace CloudSearch

open Document (Encoder FieldValue)

/-! ## Records reduced to a schema -/

namespace Schema

/-- What the record holds under a name, and null if it holds nothing. -/
def held (record : Table FieldValue) (name : String) : FieldValue :=
  (record.get? name).getD .null

/-- Under each of the names the records hold the same, or neither of them holds anything. -/
def AgreeOn (names : List String) (left right : Table FieldValue) : Prop :=
  ∀ name ∈ names, left.get? name = right.get? name

theorem names_project (s : Schema) (record : Table FieldValue) :
    (s.project record).names = s.returnFields.eraseDups :=
  Table.names_ofList_graph s.returnFields (held record)

theorem get?_project {s : Schema} {name : String} (field : name ∈ s.returnFields)
    (record : Table FieldValue) : (s.project record).get? name = some (held record name) :=
  Table.get?_ofList_graph (held record) field

theorem idField_mem_returnFields (s : Schema) : s.idField ∈ s.returnFields := by
  unfold returnFields
  split
  · next listed => exact listed
  · exact List.mem_append_right _ List.mem_cons_self

/-- **What can be told of a record** that is reduced to a schema is what it holds under the names of
the schema, where a field that is missing is like one that is null. -/
theorem project_eq_iff {s : Schema} {left right : Table FieldValue} :
    s.project left = s.project right ↔
      ∀ name ∈ s.returnFields, held left name = held right name := by
  constructor
  · intro same name field
    have found := get?_project field left
    rw [same, get?_project field right] at found
    exact (Option.some.inj found).symm
  · intro same
    have pairs : (s.returnFields.map fun name => (name, held left name)) =
        s.returnFields.map fun name => (name, held right name) := by
      refine List.map_congr_left fun name field => ?_
      rw [same name field]
    exact congrArg Table.ofList pairs

theorem project_eq_of_agreeOn {s : Schema} {left right : Table FieldValue}
    (agree : AgreeOn s.returnFields left right) : s.project left = s.project right := by
  apply project_eq_iff.2
  intro name field
  rw [held, agree name field, held]

/-- A record that has been reduced holds what it held under the names of the schema. -/
theorem project_project (s : Schema) (record : Table FieldValue) :
    s.project (s.project record) = s.project record := by
  apply project_eq_iff.2
  intro name field
  rw [held, get?_project field record, Option.getD_some]

/-- **Reducing to a schema is stable and lets nothing else through.** Whatever the record holds, it is
left with the names of the schema in the order in which they come first, the one of the id among them
once, and with what it held under them. Records that agree on these are reduced to the same and make
the same documents. What has been reduced is not reduced any further. -/
theorem project_discloses_fields_only (s : Schema) (left right : Table FieldValue) :
    (s.project left).names = s.returnFields.eraseDups ∧
    (s.project left).names.count s.idField = 1 ∧
    (∀ name ∈ s.returnFields, (s.project left).get? name = some (held left name)) ∧
    (AgreeOn s.returnFields left right → s.project left = s.project right ∧
      ∀ (e : Encoder) (id : String) (version : Int64),
        e.add id (s.project left).entries version = e.add id (s.project right).entries version) ∧
    s.project (s.project left) = s.project left := by
  refine ⟨names_project s left, ?_, fun _ field => get?_project field left, ?_,
    project_project s left⟩
  · apply List.count_eq_one_of_mem (s.project left).nodup
    show s.idField ∈ (s.project left).names
    rw [names_project, List.mem_eraseDups]
    exact idField_mem_returnFields s
  · intro agree
    have same := project_eq_of_agreeOn agree
    refine ⟨same, fun e id version => ?_⟩
    rw [same]

/-- A schema that lists a field twice. -/
def events : Schema :=
  { name := "Event", fields := ["name", "venue", "name"], idField := "event_id" }

/-- An event with a secret. -/
def gig : Table FieldValue :=
  .ofList [("name", .text "Gig"), ("secret", .text "hunter2"), ("event_id", .int 4)]

/-- The same event with another field and in another order. -/
def gigTurned : Table FieldValue :=
  .ofList [("event_id", .int 4), ("mood", .list [.float 0.5]), ("name", .text "Gig")]

/-- The secret is not to be seen in the document. -/
theorem project_discloses_fields_only_gig :
    AgreeOn events.returnFields gig gigTurned ∧
      (events.project gig).names = ["name", "venue", "event_id"] ∧
      ({} : Encoder).add "4" (events.project gig).entries 1 =
        ({} : Encoder).add "4" (events.project gigTurned).entries 1 :=
  have fields : events.returnFields = ["name", "venue", "name", "event_id"] := by decide
  have agree : AgreeOn events.returnFields gig gigTurned := by
    rw [fields, AgreeOn]
    simp only [List.forall_mem_cons]
    exact ⟨rfl, rfl, rfl, rfl, by simp⟩
  have law := project_discloses_fields_only events gig gigTurned
  ⟨agree, law.1, (law.2.2.2.1 agree).2 {} "4" 1⟩

end Schema

end CloudSearch
