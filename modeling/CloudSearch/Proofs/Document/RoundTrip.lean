import CloudSearch.Document.Reader
import CloudSearch.Proofs.Json.RoundTrip

/-!
# Batches round-trip

The body of a batch, read as a list of operations, is the list that it was written for. An operation
is written as one object that names its kind along with its own members. The reader takes the kind
out of the members (`readOperation_ofMembers`) and looks the others up by name, each of which stands
there once (`ofMembers?_add`, `ofMembers?_delete`). Values of fields of any shape come back as they
are, since JSON values do.
-/

namespace CloudSearch.Document

open Json Outcome

/-- The values of the fields that the operation brings. -/
def Operation.values : Operation → List Json
  | .add _ _ _ fields => fields.entries.map (·.2)
  | .delete .. => []

/-! ## Reading one operation -/

theorem step_member (p : Parts) {room : Nat} {name : String} (other : name ≠ "type") {v : Json}
    (fits : v.depth ≤ room) :
    p.step room name v.draft = .ok { p with members := p.members ++ [(name, v)] } := by
  rw [Parts.step, if_neg other, value_draft v room fits, ok_bind, pure_eq_ok]

/-- The members of an operation are collected as they stand. -/
theorem foldMembers_step (p : Parts) {room : Nat} (members : List (String × Json))
    (others : ∀ m ∈ members, m.1 ≠ "type") (fits : ∀ m ∈ members, m.2.depth ≤ room) :
    Draft.foldMembers (Parts.step room) p (memberDrafts members) =
      .ok { p with members := p.members ++ members } := by
  induction members generalizing p with
  | nil => rw [memberDrafts, Draft.foldMembers, List.append_nil]
  | cons m members ih =>
    obtain ⟨other, others⟩ := List.forall_mem_cons.1 others
    obtain ⟨fits_first, fits⟩ := List.forall_mem_cons.1 fits
    rw [memberDrafts, Draft.foldMembers, step_member p other fits_first, ok_bind, ih _ others fits,
      List.append_assoc, List.singleton_append]

/-- The name of a kind. -/
def Kind.name : Kind → String
  | .add => "add"
  | .delete => "delete"

/-- An object that names a kind is the operation of that kind with the other members. -/
theorem readOperation_ofMembers (kind : Kind) {room : Nat} {members : List (String × Json)}
    (others : ∀ m ∈ members, m.1 ≠ "type") (fits : ∀ m ∈ members, m.2.depth ≤ room) :
    readOperation room (Json.object (("type", .text kind.name) :: members)).draft =
      required (Operation.ofMembers? kind members) := by
  have named : Parts.step room {} "type" (.text (some kind.name)) = .ok { kind := some kind } := by
    cases kind with
    | add => rfl
    | delete => rfl
  rw [Json.draft, memberDrafts, Json.draft, readOperation, Draft.foldMembers, named, ok_bind,
    foldMembers_step _ members others fits, ok_bind]
  rfl

theorem version?_int (version : Int64) : version? (.int version) = some version :=
  WordInt.toInt64?_ofInt64 version

theorem ofMembers?_add (id : String) (version : Int64) (lang : String) {fields : Table Json}
    (distinct : ∀ v ∈ fields.entries.map (·.2), v.All NamesDistinct) :
    Operation.ofMembers? .add [("id", .text id), ("version", .int version), ("lang", .text lang),
      ("fields", .object fields.entries)] = some (.add id version lang fields) := by
  have table : fields? (.object fields.entries) = some fields := by
    rw [fields?, mergedMembers_eq_self _ (allMembers_iff.2 distinct), Table.ofList_entries]
  simp [Operation.ofMembers?, only?, operation?, text?, version?_int, table]

theorem ofMembers?_delete (id : String) (version : Int64) :
    Operation.ofMembers? .delete [("id", .text id), ("version", .int version)] =
      some (.delete id version) := by
  simp [Operation.ofMembers?, only?, operation?, text?, version?_int]

/-- A written operation is read back, where there is room for its fields. -/
theorem readOperation_draft {o : Operation} (distinct : ∀ v ∈ o.values, v.All NamesDistinct)
    {room : Nat} (fits : o.toJson.depth ≤ room + 1) :
    readOperation room o.toJson.draft = .ok o := by
  cases o with
  | add id version lang fields =>
    have room_each : ∀ m ∈ [("id", Json.text id), ("version", .int version), ("lang", .text lang),
        ("fields", .object fields.entries)], m.2.depth ≤ room := by
      rw [Operation.toJson, depth, membersDepth] at fits
      exact membersDepth_le_iff.1 (by omega)
    rw [Operation.toJson]
    refine (readOperation_ofMembers .add ?_ room_each).trans ?_
    · simp
    · rw [ofMembers?_add id version lang distinct, required]
  | delete id version =>
    have room_each : ∀ m ∈ [("id", Json.text id), ("version", .int version)],
        m.2.depth ≤ room := by
      rw [Operation.toJson, depth, membersDepth] at fits
      exact membersDepth_le_iff.1 (by omega)
    rw [Operation.toJson]
    refine (readOperation_ofMembers .delete ?_ room_each).trans ?_
    · simp
    · rw [ofMembers?_delete id version, required]

/-! ## Reading batches -/

/-- The only doubles in an operation are those in its fields. -/
theorem all_floatReadsBack_toJson {o : Operation}
    (floats : ∀ v ∈ o.values, v.All FloatReadsBack) : o.toJson.All FloatReadsBack := by
  cases o with
  | add id version lang fields =>
    have of_fields : (Json.object fields.entries).All FloatReadsBack :=
      ⟨trivial, allMembers_iff.2 floats⟩
    exact ⟨trivial, trivial, trivial, trivial, trivial, of_fields, trivial⟩
  | delete id version => exact ⟨trivial, trivial, trivial, trivial, trivial⟩

theorem mapM_readOperation {operations : List Operation}
    (distinct : ∀ o ∈ operations, ∀ v ∈ o.values, v.All NamesDistinct) {room : Nat}
    (fits : ∀ o ∈ operations, o.toJson.depth ≤ room + 1) :
    (itemDrafts (operations.map Operation.toJson)).mapM (readOperation room) = .ok operations := by
  induction operations with
  | nil => rfl
  | cons o operations ih =>
    obtain ⟨distinct_first, distinct⟩ := List.forall_mem_cons.1 distinct
    obtain ⟨fits_first, fits⟩ := List.forall_mem_cons.1 fits
    rw [List.map_cons, itemDrafts, List.mapM_cons, readOperation_draft distinct_first fits_first,
      ok_bind, ih distinct fits, ok_bind, pure_eq_ok]

/-- What a reader needs of operations: that no object in their fields repeats a name, that containers
stand in one another no deeper than it goes, and that doubles are read back each from its own text. -/
structure Readable (operations : List Operation) : Prop where
  distinct : ∀ o ∈ operations, ∀ v ∈ o.values, v.All NamesDistinct
  fits : (Json.array (operations.map Operation.toJson)).depth ≤ maxDepth
  floats : ∀ o ∈ operations, ∀ v ∈ o.values, v.All FloatReadsBack

theorem readBatch_batchText {operations : List Operation} (readable : Readable operations) :
    readBatch (batchText operations) = .ok operations := by
  have all_floats : (Json.array (operations.map Operation.toJson)).All FloatReadsBack := by
    refine ⟨trivial, allItems_iff.2 ?_⟩
    intro v mem
    obtain ⟨o, mem_o, rfl⟩ := List.mem_map.1 mem
    exact all_floatReadsBack_toJson (readable.floats o mem_o)
  have fits_each : ∀ o ∈ operations, o.toJson.depth ≤ maxDepth - 2 + 1 := by
    intro o mem
    have fits := readable.fits
    rw [depth] at fits
    have fits_items : itemsDepth (operations.map Operation.toJson) ≤ maxDepth - 2 + 1 := by
      simp only [maxDepth] at fits ⊢
      omega
    exact itemsDepth_le_iff.1 fits_items _ (List.mem_map_of_mem mem)
  have items := mapM_readOperation readable.distinct fits_each
  rw [batchText, readBatch, ofText_print all_floats, Document.read, Json.draft, Draft.arrayOf, items,
    ok_bind, if_pos rfl, pure_eq_ok, ok_bind, if_pos rfl, pure_eq_ok]

/-- **Reading a batch undoes writing it.** The operations come back in the same order, with the same
kinds, ids, versions, languages, fields in their order and values. The fields of the operations hold
JSON values of any shape whose objects repeat no name, whose containers stand in one another no deeper
than a reader goes, and whose doubles are read back each from its own text. -/
theorem readBatch_ofBatch (endpoint : String) (operations : List Operation)
    (distinct : ∀ o ∈ operations, ∀ v ∈ o.values, v.All NamesDistinct)
    (fits : (Json.array (operations.map Operation.toJson)).depth ≤ maxDepth)
    (floats : ∀ o ∈ operations, ∀ v ∈ o.values, v.All FloatReadsBack) :
    readBatch (Request.ofBatch endpoint operations).body = .ok operations :=
  readBatch_batchText ⟨distinct, fits, floats⟩

/-- A batch whose texts hold what JSON has to escape, and whose fields hold numbers of all kinds. -/
def mixedBatch : List Operation :=
  [.add "a\"b\\c\n\u0001/é😀" (-0x8000000000000000) "en"
      ⟨[("id", .text ""), ("type", .null),
        ("greatest", .number (.integer (.ofUInt64 0xffffffffffffffff))),
        ("nested", .array [.object [], .object [("zero", .float (-0.0)), ("small", .float 1e-7)],
          .array [.bool true, .float 0.1, .float 1.25e20]])], by decide⟩,
    .delete "a\"b\\c\n\u0001/é😀" 0x7fffffffffffffff]

theorem readBatch_ofBatch_mixedBatch :
    readBatch (Request.ofBatch "http://doc" mixedBatch).body = .ok mixedBatch :=
  readBatch_ofBatch "http://doc" mixedBatch (by decide +kernel) (by decide +kernel)
    (by decide +kernel)

/-! ## The text of a batch -/

/-- The text of an operation, member by member. -/
def Operation.text : Operation → String
  | .add id version lang fields => "\x7b" ++ ",".intercalate
      ["\"type\":\"add\"", "\"id\":" ++ quoteText id, "\"version\":" ++ toString version.toInt,
        "\"lang\":" ++ quoteText lang, "\"fields\":" ++ (Json.object fields.entries).print] ++ "\x7d"
  | .delete id version => "\x7b" ++ ",".intercalate
      ["\"type\":\"delete\"", "\"id\":" ++ quoteText id, "\"version\":" ++ toString version.toInt] ++
        "\x7d"

/-- The text is that of a JSON array of the operations in their order, each as it is and nothing
besides, and readers get the same operations out of it. -/
structure IsBatch (operations : List Operation) (body : String) : Prop where
  text : body = "[" ++ ",".intercalate (operations.map Operation.text) ++ "]"
  reads : Readable operations → readBatch body = .ok operations

theorem print_toJson (o : Operation) : o.toJson.print = o.text := by
  -- the names are written as they stand, since nothing in them has to be escaped
  have id_name : quoteText "id" ++ ":" = "\"id\":" := by decide
  have version_name : quoteText "version" ++ ":" = "\"version\":" := by decide
  have lang_name : quoteText "lang" ++ ":" = "\"lang\":" := by decide
  have fields_name : quoteText "fields" ++ ":" = "\"fields\":" := by decide
  have add_kind : quoteText "type" ++ ":" ++ quoteText "add" = "\"type\":\"add\"" := by decide
  have delete_kind : quoteText "type" ++ ":" ++ quoteText "delete" = "\"type\":\"delete\"" := by
    decide
  cases o with
  | add id version lang fields =>
    rw [Operation.text, ← id_name, ← version_name, ← lang_name, ← fields_name, ← add_kind]
    rfl
  | delete id version =>
    rw [Operation.text, ← id_name, ← version_name, ← delete_kind]
    rfl

theorem printItems_toJson (operations : List Operation) :
    printItems (operations.map Operation.toJson) = operations.map Operation.text := by
  induction operations with
  | nil => rfl
  | cons o operations ih => rw [List.map_cons, printItems, print_toJson, ih, List.map_cons]

/-- What is written for a batch is known by its text. -/
theorem isBatch_iff {operations : List Operation} {body : String} :
    IsBatch operations body ↔ body = batchText operations := by
  have written : batchText operations =
      "[" ++ ",".intercalate (operations.map Operation.text) ++ "]" := by
    rw [batchText, print, printItems_toJson]
  constructor
  · intro batch
    rw [batch.text, written]
  · rintro rfl
    exact ⟨written, readBatch_batchText⟩

end CloudSearch.Document
