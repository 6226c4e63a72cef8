import CloudSearch.Json.Reader
import CloudSearch.Proofs.Outcome

/-!
# Drafts that have a value

A draft that has a value is known by it, up to what stands inside: a container is closed and its
parts have the parts of the value. In particular nothing of it is missing, so that it can be skipped.
Of an object that is read member by member it is known what the members of one name were read as.
-/

namespace CloudSearch.Json

open Outcome

theorem read_eq_ok_iff {α : Type} {d : Document} {reader : Draft → Except Fault α} {a : α} :
    d.read reader = .ok a ↔ reader d.root = .ok a ∧ d.ended = true := by
  rw [Document.read, bind_eq_ok_iff]
  cases d.ended <;> simp

namespace Draft

theorem value_array_eq_ok_iff {items : List Draft} {closed : Bool} {room : Nat} {v : Json} :
    (array items closed).value room = .ok v ↔
      room ≠ 0 ∧ closed = true ∧ ∃ vs, values (room - 1) items = .ok vs ∧ v = .array vs := by
  rw [value]
  split
  · next none => simp [none]
  · next some_room =>
    rw [bind_eq_ok_iff]
    cases closed <;> simp [some_room, eq_comm]

theorem value_object_eq_ok_iff {members : List (Option String × Draft)} {closed : Bool}
    {room : Nat} {v : Json} :
    (object members closed).value room = .ok v ↔
      room ≠ 0 ∧ closed = true ∧ ∃ ms, memberValues (room - 1) members = .ok ms ∧ v = .object ms := by
  rw [value]
  split
  · next none => simp [none]
  · next some_room =>
    rw [bind_eq_ok_iff]
    cases closed <;> simp [some_room, eq_comm]

theorem memberValues_cons_eq_ok_iff {name : Option String} {d : Draft}
    {rest : List (Option String × Draft)} {room : Nat} {ms : List (String × Json)} :
    memberValues room ((name, d) :: rest) = .ok ms ↔ ∃ s v ms', name = some s ∧
      d.value room = .ok v ∧ memberValues room rest = .ok ms' ∧ (s, v) :: ms' = ms := by
  cases name with
  | none => simp [memberValues]
  | some s => simp [memberValues, bind_eq_ok_iff]

theorem values_cons_eq_ok_iff {d : Draft} {rest : List Draft} {room : Nat} {vs : List Json} :
    values room (d :: rest) = .ok vs ↔ ∃ v vs', d.value room = .ok v ∧
      values room rest = .ok vs' ∧ v :: vs' = vs := by
  simp [values, bind_eq_ok_iff]

theorem eq_of_value_number {d : Draft} {room : Nat} {n : Number}
    (read : d.value room = .ok (.number n)) : d = .number (some n) := by
  cases d with
  | number o =>
    cases o with
    | none => cases read
    | some m =>
      cases read
      rfl
  | text o => cases o <;> cases read
  | array =>
    obtain ⟨-, -, _, -, ⟨⟩⟩ := value_array_eq_ok_iff.1 read
  | object =>
    obtain ⟨-, -, _, -, ⟨⟩⟩ := value_object_eq_ok_iff.1 read
  | absent | null | bool => cases read

theorem eq_of_value_array {d : Draft} {room : Nat} {vs : List Json}
    (read : d.value room = .ok (.array vs)) :
    ∃ items, d = .array items true ∧ values (room - 1) items = .ok vs := by
  cases d with
  | array items closed =>
    obtain ⟨-, rfl, vs', inner, ⟨⟩⟩ := value_array_eq_ok_iff.1 read
    exact ⟨items, rfl, inner⟩
  | object =>
    obtain ⟨-, -, _, -, ⟨⟩⟩ := value_object_eq_ok_iff.1 read
  | number o | text o => cases o <;> cases read
  | absent | null | bool => cases read

theorem eq_of_value_object {d : Draft} {room : Nat} {ms : List (String × Json)}
    (read : d.value room = .ok (.object ms)) :
    ∃ members, d = .object members true ∧ memberValues (room - 1) members = .ok ms := by
  cases d with
  | object members closed =>
    obtain ⟨-, rfl, ms', inner, ⟨⟩⟩ := value_object_eq_ok_iff.1 read
    exact ⟨members, rfl, inner⟩
  | array =>
    obtain ⟨-, -, _, -, ⟨⟩⟩ := value_array_eq_ok_iff.1 read
  | number o | text o => cases o <;> cases read
  | absent | null | bool => cases read

mutual

/-- What has a value follows the grammar. -/
theorem whole_of_value : ∀ (d : Draft) {room : Nat} {v : Json}, d.value room = .ok v →
    d.whole = true
  | .absent, _, _, read => by cases read
  | .null, _, _, _ => rfl
  | .bool _, _, _, _ => rfl
  | .number _, _, _, _ => rfl
  | .text _, _, _, _ => rfl
  | .array items closed, room, v, read => by
    obtain ⟨-, rfl, vs, inner, -⟩ := value_array_eq_ok_iff.1 read
    rw [whole, wholeItems_of_values items inner, Bool.and_self]
  | .object members closed, room, v, read => by
    obtain ⟨-, rfl, ms, inner, -⟩ := value_object_eq_ok_iff.1 read
    rw [whole, wholeMembers_of_memberValues members inner, Bool.and_self]
  termination_by structural d => d

theorem wholeItems_of_values : ∀ (ds : List Draft) {room : Nat} {vs : List Json},
    values room ds = .ok vs → wholeItems ds = true
  | [], _, _, _ => rfl
  | d :: ds, room, vs, read => by
    obtain ⟨v, vs', first, others, -⟩ := values_cons_eq_ok_iff.1 read
    rw [wholeItems, whole_of_value d first, wholeItems_of_values ds others, Bool.and_self]
  termination_by structural ds => ds

theorem wholeMembers_of_memberValues : ∀ (ms : List (Option String × Draft)) {room : Nat}
    {vs : List (String × Json)}, memberValues room ms = .ok vs → wholeMembers ms = true
  | [], _, _, _ => rfl
  | (name, d) :: ms, room, vs, read => by
    obtain ⟨s, v, ms', -, first, others, -⟩ := memberValues_cons_eq_ok_iff.1 read
    rw [wholeMembers, whole_of_value d first, wholeMembers_of_memberValues ms others,
      Bool.and_self]
  termination_by structural ms => ms

end

theorem skip_of_value {d : Draft} {room : Nat} {v : Json} (read : d.value room = .ok v) :
    d.skip = .ok () :=
  if_pos (whole_of_value d read)

/-! ## Members that are read by name -/

/-- The drafts of the members so called, in their order. -/
def named (name : String) (members : List (Option String × Draft)) : List Draft :=
  (members.filter (·.1 == some name)).map (·.2)

/-- What is kept of the members with one name is what these are read as, in their order, if the
steps that read them add what they read and the other steps leave alone what is kept. -/
theorem mapM_named_of_foldMembers {σ γ : Type} {step : σ → String → Draft → Except Fault σ}
    (reader : Draft → Except Fault γ) (kept : σ → List γ) (name : String)
    (keeps : ∀ s other d s', step s other d = .ok s' →
      (other = name ∧ ∃ c, reader d = .ok c ∧ kept s' = kept s ++ [c]) ∨
      (other ≠ name ∧ kept s' = kept s))
    {members : List (Option String × Draft)} {s s' : σ}
    (folded : foldMembers step s members = .ok s') :
    ∃ cs, (named name members).mapM reader = .ok cs ∧ kept s' = kept s ++ cs := by
  induction members generalizing s with
  | nil =>
    cases folded
    exact ⟨[], rfl, (List.append_nil _).symm⟩
  | cons m rest ih =>
    obtain ⟨other, d⟩ := m
    cases other with
    | none => cases folded
    | some other =>
      obtain ⟨t, stepped, folded⟩ := bind_eq_ok_iff.1 folded
      obtain ⟨cs, read, adds⟩ := ih folded
      obtain ⟨rfl, c, first, added⟩ | ⟨differs, unchanged⟩ := keeps s other d t stepped
      · have at_head : named other ((some other, d) :: rest) = d :: named other rest := by
          simp [named]
        refine ⟨c :: cs, ?_, ?_⟩
        · rw [at_head]
          exact mapM_cons_eq_ok_iff.2 ⟨c, cs, first, read, rfl⟩
        · rw [adds, added, List.append_assoc]
          rfl
      · have passed : named name ((some other, d) :: rest) = named name rest := by
          simp [named, differs]
        exact ⟨cs, by rw [passed, read], by rw [adds, unchanged]⟩

end Draft

end CloudSearch.Json
