import CloudSearch.Page.Response
import CloudSearch.Proofs.Json.Reader
import CloudSearch.Proofs.Json.RoundTrip

/-!
# Responses as JSON values

A response is read from a draft and may be refused before all of it is known. For a document that
has a JSON value this makes no difference: what is read depends on the value alone. `IsResponseBody`
says of the value what makes it a response, with unknown members anywhere and known ones at most
once, and `ofText_of_isResponseBody` that such a body is read.
-/

namespace CloudSearch

open Json (Draft Fault)
open Outcome

/-! ## Values with a given name -/

/-- The unsigned word as a JSON value. -/
def Json.word (n : UInt64) : Json :=
  .number (.integer (.ofUInt64 n))

/-- The values of the members with the given name, in their order. -/
def valuesNamed (name : String) (members : List (String × Json)) : List Json :=
  (members.filter (·.1 == name)).map (·.2)

theorem valuesNamed_cons_self (name : String) (v : Json) (members : List (String × Json)) :
    valuesNamed name ((name, v) :: members) = v :: valuesNamed name members := by
  simp [valuesNamed]

theorem valuesNamed_cons_of_ne {name other : String} (ne : other ≠ name) (v : Json)
    (members : List (String × Json)) :
    valuesNamed name ((other, v) :: members) = valuesNamed name members := by
  simp [valuesNamed, ne]

/-- The values, at most one, are read, if nothing has been read before. -/
inductive ReadsOnce {β : Type} (IsReadAs : Json → β → Prop) :
    Option β → List Json → Option β → Prop
  | nothing {b : Option β} : ReadsOnce IsReadAs b [] b
  | value {v : Json} {b : β} (read : IsReadAs v b) : ReadsOnce IsReadAs none [v] (some b)

/-- Where a value is due to be read, nothing has been read before and nothing is left behind it. -/
theorem ReadsOnce.of_cons {β : Type} {IsReadAs : Json → β → Prop} {b b' : Option β} {v : Json}
    {vs : List Json} (reads : ReadsOnce IsReadAs b (v :: vs) b') :
    b = none ∧ ∃ x, IsReadAs v x ∧ ReadsOnce IsReadAs (some x) vs b' := by
  cases reads with
  | value read => exact ⟨rfl, _, read, .nothing⟩

/-! ## What a response is -/

/-- The values are hits. -/
def IsHitList (v : Json) (hits : List Hit) : Prop :=
  ∃ items, v = .array items ∧ items.mapM Hit.ofJson? = some hits

/-- Reading the members of `hits` adds to the first parts what makes them the second. -/
structure ResultParts.Reads (p : ResultParts) (members : List (String × Json))
    (p' : ResultParts) : Prop where
  found : ReadsOnce (· = Json.word ·) p.found (valuesNamed "found" members) p'.found
  start : ReadsOnce (· = Json.word ·) p.start (valuesNamed "start" members) p'.start
  hits : ReadsOnce IsHitList p.hits (valuesNamed "hit" members) p'.hits

/-- The value is an object with the parts of a result. -/
def IsResult (v : Json) (p : ResultParts) : Prop :=
  ∃ members, v = .object members ∧ ({} : ResultParts).Reads members p

/-- The text is the JSON document of an object whose one member `hits` has these parts. -/
def IsResponseBody (body : String) (p : ResultParts) : Prop :=
  ∃ members v, (Json.Document.ofText body).read (Draft.value Json.maxDepth) = .ok (.object members) ∧
    valuesNamed "hits" members = [v] ∧ IsResult v p

/-! ## Reading responses -/

theorem uint64?_of_value {d : Draft} {room : Nat} {n : UInt64}
    (read : d.value room = .ok (Json.word n)) : d.uint64? = .ok n := by
  rw [Draft.eq_of_value_number read, Draft.uint64?, WordInt.toUInt64?_ofUInt64]

/-- Drafts of hits are read as the hits that their values are. -/
theorem mapM_readHit {room : Nat} {items : List Draft} {vs : List Json} {hits : List Hit}
    (read : Draft.values room items = .ok vs) (are : vs.mapM Hit.ofJson? = some hits) :
    items.mapM (readHit room) = .ok hits := by
  induction items generalizing vs hits with
  | nil =>
    cases read
    cases are
    rfl
  | cons d items ih =>
    obtain ⟨v, vs', first, others, rfl⟩ := Draft.values_cons_eq_ok_iff.1 read
    rw [List.mapM_cons] at are
    obtain ⟨h, is_hit, are⟩ := Option.bind_eq_some_iff.1 are
    obtain ⟨hits', others_are, are⟩ := Option.bind_eq_some_iff.1 are
    cases are
    have first_hit : readHit room d = .ok h := by
      rw [readHit, first, ok_bind, is_hit]
      rfl
    rw [List.mapM_cons, first_hit, ok_bind, ih others others_are]
    rfl

theorem readHits_of_isHitList {d : Draft} {v : Json} {hits : List Hit}
    (read : d.value (Json.maxDepth - 2) = .ok v) (list : IsHitList v hits) :
    readHits d = .ok hits := by
  obtain ⟨vs, rfl, are⟩ := list
  obtain ⟨items, rfl, inner⟩ := Draft.eq_of_value_array read
  have hits_read : items.mapM (readHit (Json.maxDepth - 3)) = .ok hits := mapM_readHit inner are
  rw [readHits, Draft.arrayOf, hits_read]
  rfl

/-- Reading one more member of `hits` goes one step of what the members are read as. -/
theorem ResultParts.Reads.step {p p' : ResultParts} {name : String} {v : Json}
    {rest : List (String × Json)} (reads : p.Reads ((name, v) :: rest) p') {d : Draft}
    (read : d.value (Json.maxDepth - 2) = .ok v) :
    ∃ q, p.step name d = .ok q ∧ q.Reads rest p' := by
  obtain ⟨found, start, hits⟩ := reads
  by_cases is_found : name = "found"
  · subst is_found
    rw [valuesNamed_cons_self] at found
    rw [valuesNamed_cons_of_ne (by decide)] at start hits
    obtain ⟨none_yet, n, rfl, rest_found⟩ := found.of_cons
    refine ⟨{ p with found := some n }, ?_, rest_found, start, hits⟩
    simp [ResultParts.step, none_yet, uint64?_of_value read]
  by_cases is_start : name = "start"
  · subst is_start
    rw [valuesNamed_cons_self] at start
    rw [valuesNamed_cons_of_ne (by decide)] at found hits
    obtain ⟨none_yet, n, rfl, rest_start⟩ := start.of_cons
    refine ⟨{ p with start := some n }, ?_, found, rest_start, hits⟩
    simp [ResultParts.step, none_yet, uint64?_of_value read]
  by_cases is_hit : name = "hit"
  · subst is_hit
    rw [valuesNamed_cons_self] at hits
    rw [valuesNamed_cons_of_ne (by decide)] at found start
    obtain ⟨none_yet, list, is_list, rest_hits⟩ := hits.of_cons
    refine ⟨{ p with hits := some list }, ?_, found, start, rest_hits⟩
    simp [ResultParts.step, none_yet, readHits_of_isHitList read is_list]
  · rw [valuesNamed_cons_of_ne is_found] at found
    rw [valuesNamed_cons_of_ne is_start] at start
    rw [valuesNamed_cons_of_ne is_hit] at hits
    refine ⟨p, ?_, found, start, hits⟩
    simp [ResultParts.step, is_found, is_start, is_hit, Draft.skip_of_value read]

theorem ResultParts.Reads.eq_of_nil {p p' : ResultParts} (reads : p.Reads [] p') : p = p' := by
  obtain ⟨found, start, hits⟩ := p
  obtain ⟨found', start', hits'⟩ := p'
  obtain ⟨⟨⟩, ⟨⟩, ⟨⟩⟩ := reads
  rfl

/-- The members of `hits` are read as what their values are. -/
theorem foldMembers_step_of_reads {members : List (Option String × Draft)}
    {values : List (String × Json)} {p p' : ResultParts}
    (read : Draft.memberValues (Json.maxDepth - 2) members = .ok values)
    (reads : p.Reads values p') : Draft.foldMembers ResultParts.step p members = .ok p' := by
  induction members generalizing p values with
  | nil =>
    cases read
    rw [reads.eq_of_nil, Draft.foldMembers]
  | cons m members ih =>
    obtain ⟨name, d⟩ := m
    obtain ⟨s, v, rest, rfl, first, others, rfl⟩ := Draft.memberValues_cons_eq_ok_iff.1 read
    obtain ⟨q, stepped, reads⟩ := reads.step first
    rw [Draft.foldMembers, stepped, ok_bind, ih others reads]

theorem readResult_of_isResult {d : Draft} {v : Json} {p : ResultParts}
    (read : d.value (Json.maxDepth - 1) = .ok v) (result : IsResult v p) :
    readResult d = .ok p.response := by
  obtain ⟨values, rfl, reads⟩ := result
  obtain ⟨members, rfl, inner⟩ := Draft.eq_of_value_object read
  rw [readResult, foldMembers_step_of_reads inner reads, ok_bind, if_pos rfl, pure_eq_ok]

/-- The members of a response are read as what the one among them is that is called `hits`. -/
theorem foldMembers_step_of_readsOnce {members : List (Option String × Draft)}
    {values : List (String × Json)} {r r' : Option Response}
    (read : Draft.memberValues (Json.maxDepth - 1) members = .ok values)
    (reads : ReadsOnce (fun v r => ∃ p, IsResult v p ∧ p.response = r) r
      (valuesNamed "hits" values) r') :
    Draft.foldMembers Response.step r members = .ok r' := by
  induction members generalizing r values with
  | nil =>
    cases read
    cases reads
    rfl
  | cons m members ih =>
    obtain ⟨name, d⟩ := m
    obtain ⟨s, v, rest, rfl, first, others, rfl⟩ := Draft.memberValues_cons_eq_ok_iff.1 read
    by_cases is_hits : s = "hits"
    · subst is_hits
      rw [valuesNamed_cons_self] at reads
      obtain ⟨rfl, _, ⟨p, result, rfl⟩, reads⟩ := reads.of_cons
      have stepped : Response.step none "hits" d = .ok (some p.response) := by
        rw [Response.step, if_pos rfl, readResult_of_isResult first result]
        rfl
      rw [Draft.foldMembers, stepped, ok_bind, ih others reads]
    · rw [valuesNamed_cons_of_ne is_hits] at reads
      have stepped : Response.step r s d = .ok r := by
        rw [Response.step, if_neg is_hits, Draft.skip_of_value first]
        rfl
      rw [Draft.foldMembers, stepped, ok_bind, ih others reads]

/-- **A response is read.** What the text of a response is read as depends on the JSON value that it
has, and on nothing but the known members of that. -/
theorem ofText_of_isResponseBody {body : String} {p : ResultParts}
    (response : IsResponseBody body p) : Response.ofText body = .ok p.response := by
  obtain ⟨values, v, read, named, result⟩ := response
  obtain ⟨root, ended⟩ := Json.read_eq_ok_iff.1 read
  obtain ⟨members, object, inner⟩ := Draft.eq_of_value_object root
  have reads : ReadsOnce (fun v r => ∃ p, IsResult v p ∧ p.response = r) none
      (valuesNamed "hits" values) (some p.response) := by
    rw [named]
    exact .value ⟨p, result, rfl⟩
  rw [Response.ofText, Json.read_eq_ok_iff]
  refine ⟨?_, ended⟩
  rw [object, readResponse, foldMembers_step_of_readsOnce inner reads]
  rfl

/-- A text gives a page if it is read as a response that holds one. -/
theorem Page.ofText_eq_ok_iff {body : String} {size : UInt64} {page : Page Hits} :
    Page.ofText body size = some (.ok page) ↔
      ∃ r, Response.ofText body = .ok r ∧ r.page size = some page := by
  unfold Page.ofText
  cases Response.ofText body with
  | error f => simp
  | ok r => simp

/-- The text that is written for a response is the body of one. -/
theorem isResponseBody_print {members : List (String × Json)} {v : Json} {p : ResultParts}
    (floats : (Json.object members).All Json.FloatReadsBack)
    (fits : (Json.object members).depth ≤ Json.maxDepth)
    (named : valuesNamed "hits" members = [v]) (result : IsResult v p) :
    IsResponseBody (Json.object members).print p := by
  refine ⟨members, v, ?_, named, result⟩
  rw [Json.ofText_print floats, Json.read_eq_ok_iff]
  exact ⟨Json.value_draft (.object members) Json.maxDepth fits, rfl⟩

end CloudSearch
