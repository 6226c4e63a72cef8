import CloudSearch.Document.Operation
import CloudSearch.Proofs.Table

/-!
# Nulls in documents

A policy says what becomes of fields that are null. It looks at each pair of a name and a value by
itself, and the table is made of what it leaves: under each name stands the last of the values that
it keeps (`mem_fields_iff`). So null is sent after all where the last value kept is a number that is
not finite (`nullsKeptOut_iff`), and a null that is left out does not take back what was given before
(`omitsOnlyNulls_iff`).
-/

namespace CloudSearch.Document
open Table

/-- The table of the fields that the operation brings. -/
def Operation.fields : Operation → Table Json
  | .add _ _ _ fields => fields
  | .delete _ _ => .empty

/-- The pairs that the policy does not leave out. -/
def NullPolicy.kept (p : NullPolicy) (fields : List (String × FieldValue)) :
    List (String × FieldValue) :=
  match p with
  | .emptyText => fields
  | .omit => fields.filter fun f => !f.2.isNull

/-- The names in the order in which they come first. -/
def firstNames (fields : List (String × FieldValue)) : List String :=
  (fields.map (·.1)).eraseDups

/-- What is sent for a value that is not left out. -/
def FieldValue.sent (v : FieldValue) : Json :=
  if v.isNull then .text "" else v.toJson

/-! ## Values and what is sent for them -/

theorem FieldValue.isNull_iff {v : FieldValue} : v.isNull = true ↔ v = .null := by
  cases v <;> simp [isNull]

theorem FieldValue.toJson_eq_null_iff {v : FieldValue} :
    v.toJson = .null ↔ v = .null ∨ ∃ x, v = .float x ∧ ¬x.isFinite = true := by
  cases v with
  | float x =>
    rw [toJson, Json.float]
    split
    · next finite => simp [finite]
    · next infinite => simp [infinite]
  | null => simp [toJson]
  | bool | int | text | instant | date | list => simp [toJson, secondsJson, Json.int]

/-- Of the values that are not left out only numbers are sent as null. -/
theorem FieldValue.sent_eq_null_iff {v : FieldValue} :
    v.sent = .null ↔ ∃ x, v = .float x ∧ ¬x.isFinite = true := by
  unfold sent
  split
  · next null =>
    rw [isNull_iff.1 null]
    simp
  · next other =>
    rw [isNull_iff] at other
    rw [toJson_eq_null_iff, or_iff_right other]

theorem NullPolicy.filterMap_fieldJson? (p : NullPolicy) (fields : List (String × FieldValue)) :
    fields.filterMap (fun (name, v) => (p.fieldJson? v).map fun j => (name, j)) =
      (p.kept fields).map fun f => (f.1, f.2.sent) := by
  induction fields with
  | nil => cases p <;> rfl
  | cons f fields ih =>
    obtain ⟨name, v⟩ := f
    rw [List.filterMap_cons, ih]
    match p with
    | .emptyText => cases null : v.isNull <;> simp [fieldJson?, kept, FieldValue.sent, null]
    | .omit => cases null : v.isNull <;> simp [fieldJson?, kept, FieldValue.sent, null]

/-- **Under each name stands the last value kept**, as it is sent. -/
theorem mem_fields_iff {e : Encoder} {fields : List (String × FieldValue)} {name : String}
    {j : Json} :
    (name, j) ∈ (e.fields fields).entries ↔
      ∃ v, IsLast (e.nullFields.kept fields) name v ∧ v.sent = j := by
  rw [Encoder.fields, NullPolicy.filterMap_fieldJson?, mem_ofList_iff, isLast_map_iff]

theorem names_fields (e : Encoder) (fields : List (String × FieldValue)) :
    (e.fields fields).names = firstNames (e.nullFields.kept fields) := by
  rw [Encoder.fields, NullPolicy.filterMap_fieldJson?, names_ofList, List.map_map]
  rfl

/-- The operation adds the document, or replaces it, in the version and in the language of the
encoder. Its fields are those that are kept, in the order in which they come first, and each holds the
last value that is kept for it. -/
def Encoder.Adds (e : Encoder) (id : String) (fields : List (String × FieldValue)) (version : Int64)
    (o : Operation) : Prop :=
  ∃ table : Table Json, o = .add id version e.lang table ∧
    table.names = firstNames (e.nullFields.kept fields) ∧
    ∀ name j, (name, j) ∈ table.entries ↔
      ∃ v, IsLast (e.nullFields.kept fields) name v ∧ v.sent = j

theorem Encoder.adds_iff {e : Encoder} {id : String} {fields : List (String × FieldValue)}
    {version : Int64} {o : Operation} : e.Adds id fields version o ↔ o = e.add id fields version := by
  constructor
  · rintro ⟨table, rfl, names, values⟩
    rw [Encoder.add, Table.eq_of_names (names.trans (names_fields e fields).symm)]
    rintro ⟨name, j⟩ mem
    exact mem_fields_iff.2 ((values name j).1 mem)
  · rintro rfl
    exact ⟨e.fields fields, rfl, names_fields e fields, fun name j => mem_fields_iff⟩

theorem NullPolicy.mem_kept {p : NullPolicy} {fields : List (String × FieldValue)}
    {f : String × FieldValue} :
    f ∈ p.kept fields ↔ f ∈ fields ∧ (p = .omit → f.2 ≠ .null) := by
  match p with
  | .emptyText => simp [kept]
  | .omit => simp [kept, ← FieldValue.isNull_iff]

/-! ## Null is kept out -/

/-- No field is null: one whose last value has nothing to send but null is sent as the empty text,
or left out if it has no other values, as the policy says. -/
structure NullsKeptOut (p : NullPolicy) (fields : List (String × FieldValue)) (sent : Table Json) :
    Prop where
  no_null : ∀ m ∈ sent.entries, m.2 ≠ .null
  emptied : p = .emptyText → ∀ name v, IsLast fields name v → v.toJson = .null →
    sent.get? name = some (.text "")
  left_out : p = .omit → ∀ name, (∀ v, (name, v) ∈ fields → v.toJson = .null) → name ∉ sent.names

/-- **When nulls are kept out.** No field of a document that is added or replaced is null, whatever
the policy, unless the last of the values that are kept for it is a number that is not finite. -/
theorem nullsKeptOut_iff (e : Encoder) (id : String) (fields : List (String × FieldValue))
    (version : Int64) :
    NullsKeptOut e.nullFields fields (e.add id fields version).fields ↔
      ∀ name x, IsLast (e.nullFields.kept fields) name (.float x) → x.isFinite = true := by
  show NullsKeptOut e.nullFields fields (e.fields fields) ↔ _
  constructor
  · intro out name x last
    refine Classical.byContradiction fun infinite => ?_
    have sent : (FieldValue.float x).sent = .null :=
      FieldValue.sent_eq_null_iff.2 ⟨x, rfl, infinite⟩
    exact out.no_null _ (mem_fields_iff.2 ⟨_, last, sent⟩) rfl
  · intro finite
    have no_number : ∀ name v, IsLast (e.nullFields.kept fields) name v → v.toJson = .null →
        v = .null := by
      intro name v last null
      rcases FieldValue.toJson_eq_null_iff.1 null with rfl | ⟨x, rfl, infinite⟩
      · rfl
      · exact absurd (finite name x last) infinite
    constructor
    case no_null =>
      rintro ⟨name, j⟩ mem rfl
      obtain ⟨v, last, sent⟩ := mem_fields_iff.1 mem
      obtain ⟨x, rfl, infinite⟩ := FieldValue.sent_eq_null_iff.1 sent
      exact infinite (finite name x last)
    case emptied =>
      intro policy name v last null
      have kept : IsLast (e.nullFields.kept fields) name v := by
        rw [policy]
        exact last
      obtain rfl := no_number name v kept null
      exact mem_entries_iff.1 (mem_fields_iff.2 ⟨_, kept, rfl⟩)
    case left_out =>
      intro policy name nulls listed
      rw [names_fields, firstNames, List.mem_eraseDups] at listed
      obtain ⟨v, last⟩ := exists_isLast listed
      obtain ⟨given, other⟩ := NullPolicy.mem_kept.1 last.mem
      exact other policy (no_number name v last (nulls v given))

/-- The result of an operation that is not defined is sent as null under either policy. -/
theorem not_nullsKeptOut_undefined :
    ¬NullsKeptOut .emptyText [("price", .float (0.0 / 0.0))]
        (({} : Encoder).add "1" [("price", .float (0.0 / 0.0))] 1).fields ∧
      ¬NullsKeptOut .omit [("price", .float (0.0 / 0.0))]
        (({ nullFields := .omit } : Encoder).add "1" [("price", .float (0.0 / 0.0))] 1).fields := by
  have sent : (FieldValue.float (0.0 / 0.0)).sent = .null :=
    FieldValue.sent_eq_null_iff.2 ⟨_, rfl, by decide⟩
  have last : IsLast [("price", FieldValue.float (0.0 / 0.0))] "price" (.float (0.0 / 0.0)) :=
    ⟨[], [], rfl, by simp⟩
  constructor
  · intro out
    exact out.no_null _ (mem_fields_iff.2 ⟨_, last, sent⟩) rfl
  · intro out
    exact out.no_null _ (mem_fields_iff.2 ⟨_, last, sent⟩) rfl

/-! ## One policy beside the other -/

/-- The second table is the first one without the fields whose last value is null, and all others
stand in it with their values and in their order. -/
structure OmitsOnlyNulls (fields : List (String × FieldValue)) (emptied omitted : Table Json) :
    Prop where
  others : ∀ m, m ∈ omitted.entries ↔ m ∈ emptied.entries ∧ ¬IsLast fields m.1 .null
  order : omitted.entries.Sublist emptied.entries

/-- A value that is not null is the last one with its nulls or without them. -/
theorem isLast_kept_iff {fields : List (String × FieldValue)} {name : String} {v : FieldValue}
    (only : IsLast fields name .null → ∀ w, (name, w) ∈ fields → w = .null) :
    IsLast (NullPolicy.omit.kept fields) name v ↔ IsLast fields name v ∧ v ≠ .null := by
  constructor
  · intro last
    obtain ⟨given, other⟩ := NullPolicy.mem_kept.1 last.mem
    obtain ⟨w, last'⟩ := exists_isLast (List.mem_map_of_mem given)
    have not_null : w ≠ .null := by
      rintro rfl
      exact other rfl (only last' v given)
    have kept : IsLast (NullPolicy.omit.kept fields) name w :=
      last'.filter (by simpa [← FieldValue.isNull_iff] using not_null)
    obtain rfl := last.unique kept
    exact ⟨last', other rfl⟩
  · rintro ⟨last, other⟩
    exact last.filter (by simpa [← FieldValue.isNull_iff] using other)

/-- **When the policies differ in nulls only.** What is sent where nulls are left out is what is sent
where they are emptied, without the fields that are null in the end, exactly if these are given
nothing but nulls, and if leaving nulls out changes nothing about which of the other names comes
first. -/
theorem omitsOnlyNulls_iff (lang id : String) (fields : List (String × FieldValue))
    (version : Int64) :
    OmitsOnlyNulls fields ((Encoder.mk lang .emptyText).add id fields version).fields
        ((Encoder.mk lang .omit).add id fields version).fields ↔
      (∀ name, IsLast fields name .null → ∀ v, (name, v) ∈ fields → v = .null) ∧
        (firstNames (NullPolicy.omit.kept fields)).Sublist (firstNames fields) := by
  show OmitsOnlyNulls fields ((Encoder.mk lang .emptyText).fields fields)
    ((Encoder.mk lang .omit).fields fields) ↔ _
  constructor
  · rintro ⟨others, order⟩
    constructor
    · intro name last v given
      refine Classical.byContradiction fun other => ?_
      have kept : (name, v) ∈ NullPolicy.omit.kept fields :=
        NullPolicy.mem_kept.2 ⟨given, fun _ => other⟩
      obtain ⟨w, last'⟩ := exists_isLast (List.mem_map_of_mem kept)
      exact ((others _).1 (mem_fields_iff.2 ⟨w, last', rfl⟩)).2 last
    · have names := order.map (·.1)
      rwa [← Table.names, ← Table.names, names_fields, names_fields] at names
  · rintro ⟨only, order⟩
    have others : ∀ m, m ∈ ((Encoder.mk lang .omit).fields fields).entries ↔
        m ∈ ((Encoder.mk lang .emptyText).fields fields).entries ∧ ¬IsLast fields m.1 .null := by
      rintro ⟨name, j⟩
      rw [mem_fields_iff, mem_fields_iff]
      constructor
      · rintro ⟨v, last, sent⟩
        obtain ⟨last, other⟩ := (isLast_kept_iff (only name)).1 last
        exact ⟨⟨v, last, sent⟩, fun null => other (last.unique null)⟩
      · rintro ⟨⟨v, last, sent⟩, not_null⟩
        refine ⟨v, (isLast_kept_iff (only name)).2 ⟨last, ?_⟩, sent⟩
        rintro rfl
        exact not_null last
    refine ⟨others, sublist_of_names ?_ fun m mem => ((others m).1 mem).1⟩
    rwa [names_fields, names_fields]

/-- A null that is left out does not take back the number given before. -/
theorem not_omitsOnlyNulls_takenBack :
    ¬OmitsOnlyNulls [("price", .int 1), ("price", .null)]
      ((Encoder.mk "en" .emptyText).add "1" [("price", .int 1), ("price", .null)] 1).fields
      ((Encoder.mk "en" .omit).add "1" [("price", .int 1), ("price", .null)] 1).fields := by
  intro differ
  have sent : ("price", Json.int 1) ∈
      ((Encoder.mk "en" .omit).add "1" [("price", .int 1), ("price", .null)] 1).fields.entries :=
    mem_fields_iff.2 ⟨.int 1, ⟨[], [], rfl, by simp⟩, rfl⟩
  exact ((differ.others _).1 sent).2 ⟨[("price", .int 1)], [], rfl, by simp⟩

end CloudSearch.Document
