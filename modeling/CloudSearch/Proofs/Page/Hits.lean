import CloudSearch.Proofs.Page.Numbers
import CloudSearch.Proofs.Page.Response
import CloudSearch.Proofs.Table

/-!
# Hits as they were sent

Whatever body is read, its page shows the hits that stand in it. What stands in a body is said of
its draft, since a body may be read though some part of it, for which nobody asks, has no value:
`Tells` names the number of matches and the values that are listed, and `AreHits` what hits these
are. `Shows` says what a payload has to do with the hits. What has been read is opened step by step
until it is known from which parts of the draft it comes.
-/

namespace CloudSearch

open Json (Draft Fault)
open Outcome

/-! ## What a body tells -/

/-- What the draft holds as its member with the name: an object the members so called, an array the
item at the place of that member. -/
def Json.Draft.parts (name : String) (place : Nat) : Draft → List Draft
  | .object members _ => Draft.named name members
  | .array items _ => items[place]?.toList
  | _ => []

/-- The text of a response has this number of matches and lists these values as hits, unless it
leaves the one or the other out. -/
def Tells (body : String) (found : Option UInt64) (listed : Option (List Json)) : Prop :=
  ∃ result, (Json.Document.ofText body).root.parts "hits" 0 = [result] ∧
    (result.parts "found" 0).mapM (Draft.value (Json.maxDepth - 2)) =
      .ok (found.map Json.word).toList ∧
    (result.parts "hit" 2).mapM (Draft.value (Json.maxDepth - 2)) =
      .ok (listed.map Json.array).toList

/-- The members of the object that the values, at most one, are, where null counts as none. -/
inductive OptionalMap : List Json → Option (List (String × Json)) → Prop
  | missing : OptionalMap [] none
  | null : OptionalMap [.null] none
  | map (members : List (String × Json)) : OptionalMap [.object members] (some members)

/-- Hits as a body tells them: their ids, each with the members of the fields that it carries. -/
abbrev ToldHits := List (String × Option (List (String × Json)))

/-- The value is a hit with this id, which carries these fields, if any. -/
inductive IsHit : Json → String → Option (List (String × Json)) → Prop
  | bare (id : String) : IsHit (.text id) id none
  | document {members : List (String × Json)} {id : String}
      {data fields : Option (List (String × Json))}
      (named : valuesNamed "id" members = [.text id])
      (data_is : OptionalMap (valuesNamed "data" members) data)
      (fields_is : OptionalMap (valuesNamed "fields" members) fields) :
      IsHit (.object members) id (data.or fields)

/-- The values are hits, each with its id and the fields that it carries. -/
inductive AreHits : List Json → ToldHits → Prop
  | nil : AreHits [] []
  | cons {v : Json} {vs : List Json} {id : String} {carried : Option (List (String × Json))}
      {hits : ToldHits} (first : IsHit v id carried) (rest : AreHits vs hits) :
      AreHits (v :: vs) ((id, carried) :: hits)

/-! ## What a payload shows -/

/-- The fields are those of the members: each name at its first place with its last value, and all
of them as they stand if no name stands twice in an object. -/
structure AreFields (members : List (String × Json)) (fields : HitFields) : Prop where
  names : fields.names = (members.map (·.1)).eraseDups
  values : ∀ name ∈ fields.names, ∃ v, Table.IsLast members name v ∧ fields.get? name = some v.merged
  exact : (Json.object members).All Json.NamesDistinct → fields.entries = members

/-- The payload is what the hits are to be shown as: documents if any of them carries fields, which
an id has from its last hit, and all the ids in their order otherwise. -/
structure Shows (payload : Hits) (hits : ToldHits) : Prop where
  documents_iff : (∃ table, payload = .documents table) ↔ ∃ id members, (id, some members) ∈ hits
  ids : ∀ list, payload = .ids list → list = hits.map (·.1)
  names : ∀ table, payload = .documents table → table.names = (hits.map (·.1)).eraseDups
  fields : ∀ table, payload = .documents table → ∀ id ∈ table.names, ∃ carried fields,
    Table.IsLast hits id carried ∧ table.get? id = some fields ∧ AreFields (carried.getD []) fields
  first : ∀ table, payload = .documents table → ∀ id fields, table.get? id = some fields →
    ∀ name, fields.first? name = (fields.all name).head?

/-! ## Opening what has been read -/

theorem value_of_uint64? {d : Draft} {n : UInt64} (read : d.uint64? = .ok n) (room : Nat) :
    d.value room = .ok (Json.word n) := by
  cases d with
  | number o =>
    cases o with
    | none => cases read
    | some m =>
      cases m with
      | float x => cases read
      | integer i =>
        rw [Draft.uint64?] at read
        split at read
        · next w is_word =>
          cases read
          rw [Json.word, WordInt.ofUInt64_of_toUInt64? is_word, Draft.value]
        · cases read
  | text o => cases o <;> cases read
  | absent | null | bool | array | object => cases read

/-- What is read as hits has values, and these are the hits. -/
theorem values_of_mapM_readHit {room : Nat} {items : List Draft} {hits : List Hit}
    (read : items.mapM (readHit room) = .ok hits) :
    ∃ vs, Draft.values room items = .ok vs ∧ vs.mapM Hit.ofJson? = some hits := by
  induction items generalizing hits with
  | nil =>
    cases read
    exact ⟨[], rfl, rfl⟩
  | cons d items ih =>
    obtain ⟨h, hits', first, others, rfl⟩ := mapM_cons_eq_ok_iff.1 read
    obtain ⟨v, value, is_hit⟩ := bind_eq_ok_iff.1 first
    obtain ⟨vs, values, are⟩ := ih others
    have v_is : Hit.ofJson? v = some h := by
      split at is_hit
      · next h' v_is =>
        cases is_hit
        exact v_is
      · cases is_hit
    refine ⟨v :: vs, Draft.values_cons_eq_ok_iff.2 ⟨v, vs, value, values, rfl⟩, ?_⟩
    rw [List.mapM_cons, v_is, are]
    rfl

theorem isHitList_of_readHits {d : Draft} {hits : List Hit} (read : readHits d = .ok hits) :
    ∃ vs, d.value (Json.maxDepth - 2) = .ok (.array vs) ∧ vs.mapM Hit.ofJson? = some hits := by
  cases d with
  | array items closed =>
    obtain ⟨hits', inner, ends⟩ := bind_eq_ok_iff.1 read
    cases closed with
    | false => cases ends
    | true =>
      cases ends
      obtain ⟨vs, values, are⟩ := values_of_mapM_readHit inner
      exact ⟨vs, Draft.value_array_eq_ok_iff.2 ⟨by decide, rfl, vs, values, rfl⟩, are⟩
  | number o | text o => cases o <;> cases read
  | absent | null | bool | object => cases read

/-- One more member of `hits` is one of the three that are kept, or is passed over. -/
theorem ResultParts.step_cases {p p' : ResultParts} {name : String} {d : Draft}
    (stepped : p.step name d = .ok p') :
    (name = "found" ∧ p.found = none ∧ ∃ n, d.uint64? = .ok n ∧ p' = { p with found := some n }) ∨
    (name = "start" ∧ p.start = none ∧ ∃ n, d.uint64? = .ok n ∧ p' = { p with start := some n }) ∨
    (name = "hit" ∧ p.hits = none ∧ ∃ hits, readHits d = .ok hits ∧
      p' = { p with hits := some hits }) ∨
    (name ≠ "found" ∧ name ≠ "start" ∧ name ≠ "hit" ∧ p' = p) := by
  unfold ResultParts.step at stepped
  split at stepped
  · next is_found =>
    split at stepped
    · cases stepped
    · next fresh =>
      obtain ⟨n, read, rfl⟩ := map_eq_ok_iff.1 stepped
      exact .inl ⟨is_found, Option.not_isSome_iff_eq_none.1 fresh, n, read, rfl⟩
  split at stepped
  · next is_start =>
    split at stepped
    · cases stepped
    · next fresh =>
      obtain ⟨n, read, rfl⟩ := map_eq_ok_iff.1 stepped
      exact .inr (.inl ⟨is_start, Option.not_isSome_iff_eq_none.1 fresh, n, read, rfl⟩)
  split at stepped
  · next is_hit =>
    split at stepped
    · cases stepped
    · next fresh =>
      obtain ⟨hits, read, rfl⟩ := map_eq_ok_iff.1 stepped
      exact .inr (.inr (.inl ⟨is_hit, Option.not_isSome_iff_eq_none.1 fresh, hits, read, rfl⟩))
  · next not_found not_start not_hit =>
    obtain ⟨-, -, rfl⟩ := map_eq_ok_iff.1 stepped
    exact .inr (.inr (.inr ⟨not_found, not_start, not_hit, rfl⟩))

/-- The members `found` of a result are read as what is kept of them. -/
theorem mapM_found_of_foldMembers {members : List (Option String × Draft)} {p : ResultParts}
    (folded : Draft.foldMembers ResultParts.step {} members = .ok p) :
    (Draft.named "found" members).mapM Draft.uint64? = .ok p.found.toList := by
  obtain ⟨ns, read, kept⟩ := Draft.mapM_named_of_foldMembers Draft.uint64?
    (fun p => p.found.toList) "found" (fun p name d p' stepped => by
      obtain ⟨rfl, fresh, n, read, rfl⟩ | ⟨rfl, -, n, -, rfl⟩ | ⟨rfl, -, hits, -, rfl⟩ |
        ⟨other, -, -, rfl⟩ := ResultParts.step_cases stepped
      · exact .inl ⟨rfl, n, read, by simp [fresh]⟩
      · exact .inr ⟨by decide, rfl⟩
      · exact .inr ⟨by decide, rfl⟩
      · exact .inr ⟨other, rfl⟩) folded
  rw [read, kept]
  rfl

/-- The members `hit` of a result are read as what is kept of them. -/
theorem mapM_hit_of_foldMembers {members : List (Option String × Draft)} {p : ResultParts}
    (folded : Draft.foldMembers ResultParts.step {} members = .ok p) :
    (Draft.named "hit" members).mapM readHits = .ok p.hits.toList := by
  obtain ⟨lists, read, kept⟩ := Draft.mapM_named_of_foldMembers readHits
    (fun p => p.hits.toList) "hit" (fun p name d p' stepped => by
      obtain ⟨rfl, -, n, -, rfl⟩ | ⟨rfl, -, n, -, rfl⟩ | ⟨rfl, fresh, hits, read, rfl⟩ |
        ⟨-, -, other, rfl⟩ := ResultParts.step_cases stepped
      · exact .inr ⟨by decide, rfl⟩
      · exact .inr ⟨by decide, rfl⟩
      · exact .inl ⟨rfl, hits, read, by simp [fresh]⟩
      · exact .inr ⟨other, rfl⟩) folded
  rw [read, kept]
  rfl

theorem Response.step_cases {r r' : Option Response} {name : String} {d : Draft}
    (stepped : Response.step r name d = .ok r') :
    (name = "hits" ∧ r = none ∧ ∃ result, readResult d = .ok result ∧ r' = some result) ∨
    (name ≠ "hits" ∧ r' = r) := by
  unfold Response.step at stepped
  split at stepped
  · next is_hits =>
    cases r with
    | some earlier => cases stepped
    | none =>
      obtain ⟨result, read, rfl⟩ := map_eq_ok_iff.1 stepped
      exact .inl ⟨is_hits, rfl, result, read, rfl⟩
  · next other =>
    obtain ⟨-, -, rfl⟩ := map_eq_ok_iff.1 stepped
    exact .inr ⟨other, rfl⟩

/-- The members `hits` of a response are read as what is kept of them. -/
theorem mapM_hits_of_foldMembers {members : List (Option String × Draft)} {r : Option Response}
    (folded : Draft.foldMembers Response.step none members = .ok r) :
    (Draft.named "hits" members).mapM readResult = .ok r.toList := by
  obtain ⟨results, read, kept⟩ := Draft.mapM_named_of_foldMembers readResult
    (fun r => r.toList) "hits" (fun r name d r' stepped => by
      obtain ⟨rfl, rfl, result, read, rfl⟩ | ⟨other, rfl⟩ := Response.step_cases stepped
      · exact .inl ⟨rfl, result, read, rfl⟩
      · exact .inr ⟨other, rfl⟩) folded
  rw [read, kept]
  rfl

/-- A result that is read holds what has been read of its parts. -/
theorem parts_of_readResult {d : Draft} {r : Response} (read : readResult d = .ok r) :
    ∃ p : ResultParts, p.response = r ∧ (d.parts "found" 0).mapM Draft.uint64? = .ok p.found.toList ∧
      (d.parts "hit" 2).mapM readHits = .ok p.hits.toList := by
  cases d with
  | object members closed =>
    obtain ⟨p, folded, ends⟩ := bind_eq_ok_iff.1 read
    cases closed with
    | false => cases ends
    | true =>
      cases ends
      exact ⟨p, rfl, mapM_found_of_foldMembers folded, mapM_hit_of_foldMembers folded⟩
  | array items closed =>
    obtain ⟨p, listed, ends⟩ := bind_eq_ok_iff.1 read
    cases closed with
    | false => cases ends
    | true =>
      cases ends
      refine ⟨p, rfl, ?_⟩
      -- the members stand in their order, and the last of them may be missing
      match items, listed with
      | [], listed =>
        cases listed
        exact ⟨rfl, rfl⟩
      | [found], listed =>
        obtain ⟨n, found_is, ⟨⟩⟩ := bind_eq_ok_iff.1 listed
        exact ⟨mapM_eq_ok_toList_iff.2 (.inr ⟨found, n, rfl, rfl, found_is⟩), rfl⟩
      | [found, start], listed =>
        obtain ⟨n, found_is, listed⟩ := bind_eq_ok_iff.1 listed
        obtain ⟨m, -, ⟨⟩⟩ := bind_eq_ok_iff.1 listed
        exact ⟨mapM_eq_ok_toList_iff.2 (.inr ⟨found, n, rfl, rfl, found_is⟩), rfl⟩
      | found :: start :: hits :: rest, listed =>
        obtain ⟨n, found_is, listed⟩ := bind_eq_ok_iff.1 listed
        obtain ⟨m, -, listed⟩ := bind_eq_ok_iff.1 listed
        obtain ⟨list, hits_are, ends⟩ := bind_eq_ok_iff.1 listed
        cases rest with
        | nil =>
          cases ends
          exact ⟨mapM_eq_ok_toList_iff.2 (.inr ⟨found, n, rfl, rfl, found_is⟩),
            mapM_eq_ok_toList_iff.2 (.inr ⟨hits, list, rfl, rfl, hits_are⟩)⟩
        | cons => cases ends
  | number o | text o => cases o <;> cases read
  | absent | null | bool => cases read

/-- A response that is read is what its one result was read as. -/
theorem parts_of_readResponse {d : Draft} {r : Response} (read : readResponse d = .ok r) :
    ∃ result, d.parts "hits" 0 = [result] ∧ readResult result = .ok r := by
  cases d with
  | object members closed =>
    obtain ⟨r', folded, ends⟩ := bind_eq_ok_iff.1 read
    cases closed with
    | false => cases ends
    | true =>
      cases r' with
      | none => cases ends
      | some r' =>
        cases ends
        obtain ⟨-, ⟨⟩⟩ | ⟨result, r', one, ⟨⟩, result_read⟩ :=
          mapM_eq_ok_toList_iff.1 (mapM_hits_of_foldMembers folded)
        exact ⟨result, one, result_read⟩
  | array items closed =>
    cases items with
    | nil => cases closed <;> cases read
    | cons result rest =>
      obtain ⟨r', result_read, ends⟩ := bind_eq_ok_iff.1 read
      cases rest with
      | cons => cases ends
      | nil =>
        cases closed with
        | false => cases ends
        | true =>
          cases ends
          exact ⟨result, rfl, result_read⟩
  | number o | text o => cases o <;> cases read
  | absent | null | bool => cases read

/-! ## What has been read is what the body tells -/

/-- The response that a body is read as has the number of matches and the hits that the body tells. -/
theorem tells_of_ofText {body : String} {r : Response} (read : Response.ofText body = .ok r) :
    ∃ found listed, Tells body found listed ∧ r.found = found.getD 0 ∧
      (listed.getD []).mapM Hit.ofJson? = some r.hits := by
  obtain ⟨root, -⟩ := Json.read_eq_ok_iff.1 read
  obtain ⟨result, one, result_read⟩ := parts_of_readResponse root
  obtain ⟨p, rfl, found_read, hits_read⟩ := parts_of_readResult result_read
  have found_told : (result.parts "found" 0).mapM (Draft.value (Json.maxDepth - 2)) =
      .ok (p.found.map Json.word).toList := by
    rw [mapM_eq_ok_toList_iff]
    obtain ⟨none_there, missing⟩ | ⟨d, n, there, given, d_is⟩ := mapM_eq_ok_toList_iff.1 found_read
    · exact .inl ⟨none_there, by rw [missing, Option.map_none]⟩
    · exact .inr ⟨d, Json.word n, there, by rw [given, Option.map_some], value_of_uint64? d_is _⟩
  have hits_told : ∃ listed : Option (List Json),
      (result.parts "hit" 2).mapM (Draft.value (Json.maxDepth - 2)) =
        .ok (listed.map Json.array).toList ∧
      (listed.getD []).mapM Hit.ofJson? = some (p.hits.getD []) := by
    obtain ⟨none_there, missing⟩ | ⟨d, hits, there, given, d_is⟩ := mapM_eq_ok_toList_iff.1 hits_read
    · refine ⟨none, mapM_eq_ok_toList_iff.2 (.inl ⟨none_there, rfl⟩), ?_⟩
      rw [missing]
      rfl
    · obtain ⟨vs, value, are⟩ := isHitList_of_readHits d_is
      refine ⟨some vs, mapM_eq_ok_toList_iff.2 (.inr ⟨d, .array vs, there, rfl, value⟩), ?_⟩
      rw [given]
      exact are
  obtain ⟨listed, hits_told, are⟩ := hits_told
  exact ⟨p.found, listed, ⟨result, one, found_told, hits_told⟩, rfl, are⟩

/-! ## Hits and their fields -/

/-- The fields that the members of an object are read as. -/
def fieldsOf (members : List (String × Json)) : HitFields :=
  .ofList (Json.mergedMembers members)

theorem mergedMembers_eq_map (members : List (String × Json)) :
    Json.mergedMembers members = members.map fun m => (m.1, m.2.merged) := by
  induction members with
  | nil => rfl
  | cons m rest ih => rw [Json.mergedMembers, List.map_cons, ih]

theorem names_fieldsOf (members : List (String × Json)) :
    (fieldsOf members).names = (members.map (·.1)).eraseDups := by
  rw [fieldsOf, Table.names_ofList, mergedMembers_eq_map, List.map_map]
  rfl

theorem areFields_fieldsOf (members : List (String × Json)) :
    AreFields members (fieldsOf members) where
  names := names_fieldsOf members
  values := by
    intro name there
    rw [names_fieldsOf, List.mem_eraseDups] at there
    obtain ⟨v, last⟩ := Table.exists_isLast there
    refine ⟨v, last, ?_⟩
    rw [fieldsOf, mergedMembers_eq_map]
    exact Table.get?_ofList_of_isLast (last.map Json.merged)
  exact := by
    intro distinct
    obtain ⟨names, inner⟩ := distinct
    rw [fieldsOf, Json.mergedMembers_eq_self members inner, Table.entries_ofList names]

theorem optionalMap_of_fieldsUnder? {name : String} {members : List (String × Json)}
    {fields : Option HitFields} (read : fieldsUnder? name members = some fields) :
    ∃ map, OptionalMap (valuesNamed name members) map ∧ fields = map.map fieldsOf := by
  unfold fieldsUnder? at read
  unfold valuesNamed
  split at read
  · next nothing =>
    cases read
    rw [nothing]
    exact ⟨none, .missing, rfl⟩
  · next m one =>
    rw [one]
    obtain ⟨_, v⟩ := m
    cases v with
    | null =>
      cases read
      exact ⟨none, .null, rfl⟩
    | object ms =>
      cases read
      exact ⟨some ms, .map ms, rfl⟩
    | bool | number | text | array => cases read
  · cases read

/-- A value that is read as a hit is one, with the fields that were read. -/
theorem isHit_of_ofJson? {v : Json} {h : Hit} (read : Hit.ofJson? v = some h) :
    ∃ carried, IsHit v h.id carried ∧ h.data.or h.fields = carried.map fieldsOf := by
  cases v with
  | text id =>
    cases read
    exact ⟨none, .bare id, rfl⟩
  | object members =>
    rw [Hit.ofJson?] at read
    split at read
    · -- the one form that is read: a single id, which is a text
      next id only =>
      obtain ⟨data, data_read, read⟩ := Option.bind_eq_some_iff.1 read
      obtain ⟨fields, fields_read, read⟩ := Option.bind_eq_some_iff.1 read
      cases read
      obtain ⟨data_map, data_is, rfl⟩ := optionalMap_of_fieldsUnder? data_read
      obtain ⟨fields_map, fields_is, rfl⟩ := optionalMap_of_fieldsUnder? fields_read
      refine ⟨data_map.or fields_map, .document ?_ data_is fields_is, ?_⟩
      · rw [valuesNamed, only]
        rfl
      · cases data_map <;> rfl
    · cases read
  | null | bool | number | array => cases read

theorem areHits_of_mapM {vs : List Json} {hits : List Hit} (read : vs.mapM Hit.ofJson? = some hits) :
    ∃ told, AreHits vs told ∧
      hits.map (fun h => (h.id, h.data.or h.fields)) =
        told.map fun hit => (hit.1, hit.2.map fieldsOf) := by
  induction vs generalizing hits with
  | nil =>
    cases read
    exact ⟨[], .nil, rfl⟩
  | cons v vs ih =>
    rw [List.mapM_cons] at read
    obtain ⟨h, first, read⟩ := Option.bind_eq_some_iff.1 read
    obtain ⟨hits', others, read⟩ := Option.bind_eq_some_iff.1 read
    cases read
    obtain ⟨carried, is_hit, content⟩ := isHit_of_ofJson? first
    obtain ⟨told, are, contents⟩ := ih others
    refine ⟨(h.id, carried) :: told, .cons is_hit are, ?_⟩
    rw [List.map_cons, List.map_cons, content, contents]

theorem Hit.hasFields_eq_isSome (h : Hit) : h.hasFields = (h.data.or h.fields).isSome := by
  rw [Hit.hasFields, Option.isSome_or]

theorem getD_map_fieldsOf (carried : Option (List (String × Json))) :
    (carried.map fieldsOf).getD .empty = fieldsOf (carried.getD []) := by
  cases carried <;> rfl

/-- The payload depends on the ids of the hits and on the fields that they carry. -/
theorem Hits.ofList_eq {hits : List Hit} {told : ToldHits}
    (same : hits.map (fun h => (h.id, h.data.or h.fields)) =
      told.map fun hit => (hit.1, hit.2.map fieldsOf)) :
    Hits.ofList hits =
      if told.any (·.2.isSome) then
        .documents (.ofList (told.map fun hit => (hit.1, fieldsOf (hit.2.getD []))))
      else .ids (told.map (·.1)) := by
  have carry_same : hits.any Hit.hasFields = told.any (·.2.isSome) := by
    have carry := congrArg (·.any (·.2.isSome)) same
    simp only [List.any_map, Function.comp_def, Option.isSome_map] at carry
    rw [funext Hit.hasFields_eq_isSome]
    exact carry
  have ids_same : hits.map (·.id) = told.map (·.1) := by
    have ids := congrArg (·.map (·.1)) same
    simp only [List.map_map, Function.comp_def] at ids
    exact ids
  have contents_same : hits.map (fun h => (h.id, h.content)) =
      told.map fun hit => (hit.1, fieldsOf (hit.2.getD [])) := by
    have contents := congrArg (·.map fun hit => (hit.1, hit.2.getD .empty)) same
    simp only [List.map_map, Function.comp_def, getD_map_fieldsOf] at contents
    exact contents
  rw [Hits.ofList, carry_same, ids_same, contents_same]

/-- The table of the hits has their ids in the order in which they come first. -/
theorem names_documents (told : ToldHits) :
    (Table.ofList (told.map fun hit => (hit.1, fieldsOf (hit.2.getD [])))).names =
      (told.map (·.1)).eraseDups := by
  rw [Table.names_ofList, List.map_map]
  rfl

theorem Hits.ofList_shows {hits : List Hit} {told : ToldHits}
    (same : hits.map (fun h => (h.id, h.data.or h.fields)) =
      told.map fun hit => (hit.1, hit.2.map fieldsOf)) :
    Shows (Hits.ofList hits) told := by
  rw [Hits.ofList_eq same]
  split
  · next carries =>
    obtain ⟨hit, there, some_fields⟩ := List.any_eq_true.1 carries
    obtain ⟨members, members_are⟩ := Option.isSome_iff_exists.1 some_fields
    have carrier : (hit.1, some members) ∈ told := by
      rw [← members_are]
      exact there
    refine ⟨⟨fun _ => ⟨hit.1, members, carrier⟩, fun _ => ⟨_, rfl⟩⟩, nofun, ?names, ?fields, ?first⟩
    case names =>
      rintro _ ⟨⟩
      exact names_documents told
    case fields =>
      rintro _ ⟨⟩ id there
      rw [names_documents, List.mem_eraseDups] at there
      obtain ⟨carried, last⟩ := Table.exists_isLast there
      exact ⟨carried, fieldsOf (carried.getD []), last,
        Table.get?_ofList_of_isLast (last.map fun carried => fieldsOf (carried.getD [])),
        areFields_fieldsOf _⟩
    case first =>
      intro table _ id fields _ name
      exact fields.first?_eq_head?_all name
  · next plain =>
    refine ⟨⟨nofun, ?none⟩, ?ids, nofun, nofun, nofun⟩
    case none =>
      rintro ⟨id, members, there⟩
      exact absurd (List.any_eq_true.2 ⟨(id, some members), there, rfl⟩) plain
    case ids =>
      rintro _ ⟨⟩
      rfl

/-- **Pages show the hits that were sent.** The page that a body is read as counts the matches that
the body tells, none if it leaves them out, and shows the hits that it lists. -/
theorem Page.shows_of_ofText {body : String} {size : UInt64} {page : Page Hits}
    (read : Page.ofText body size = some (.ok page)) :
    ∃ found listed hits, Tells body found listed ∧ AreHits (listed.getD []) hits ∧
      page.total = found.getD 0 ∧ Shows page.items hits := by
  obtain ⟨r, response_read, held⟩ := Page.ofText_eq_ok_iff.1 read
  obtain ⟨items, counted, -, -⟩ := Page.ofStart_eq_some_iff.1 held
  obtain ⟨found, listed, tells, total, are⟩ := tells_of_ofText response_read
  obtain ⟨hits, are_hits, contents⟩ := areHits_of_mapM are
  rw [items, counted]
  exact ⟨found, listed, hits, tells, are_hits, total, Hits.ofList_shows contents⟩

/-- A response with hits of all forms, of which `a` comes twice and `b` has null as its data. -/
def mixedHits : List (String × Json) :=
  [("hits", .object [("found", .word 7), ("hit", .array [.text "a",
    .object [("id", .text "b"), ("data", .null), ("fields", .object [("x", .array [.null])])],
    .object [("fields", .object [("z", .null)]), ("id", .text "a"),
      ("data", .object [("y", .text "why"), ("x", .array [])])],
    .object [("id", .text "c"), ("score", .float 0.5)]])])]

theorem isResponseBody_mixedHits : IsResponseBody (Json.object mixedHits).print
    { found := some 7
      hits := some [{ id := "a" }, { id := "b", fields := some (fieldsOf [("x", .array [.null])]) },
        { id := "a", data := some (fieldsOf [("y", .text "why"), ("x", .array [])]),
          fields := some (fieldsOf [("z", .null)]) }, { id := "c" }] } := by
  refine isResponseBody_print (by decide +kernel) (by decide) rfl ⟨_, rfl, ?_⟩
  exact ⟨.value rfl, .nothing, .value ⟨_, rfl, rfl⟩⟩

theorem Page.shows_of_ofText_mixedHits : ∃ page,
    Page.ofText (Json.object mixedHits).print 2 = some (.ok page) ∧
    ∃ found listed hits, Tells (Json.object mixedHits).print found listed ∧
      AreHits (listed.getD []) hits ∧ page.total = found.getD 0 ∧ Shows page.items hits := by
  obtain ⟨page, read⟩ : ∃ page, Page.ofText (Json.object mixedHits).print 2 = some (.ok page) := by
    rw [Page.ofText, ofText_of_isResponseBody isResponseBody_mixedHits]
    exact ⟨_, rfl⟩
  exact ⟨page, read, Page.shows_of_ofText read⟩

end CloudSearch
