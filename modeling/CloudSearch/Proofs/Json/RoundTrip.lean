import CloudSearch.Proofs.Json.Draft
import CloudSearch.Proofs.Outcome
import CloudSearch.Proofs.Table

/-!
# JSON values round-trip

The value of the draft of a value is the value, as long as its containers do not stand too deep in
one another, and merging repeated names leaves it alone, as long as no name stands twice in an object.
So a written value is read back as that value (`parse_print`).
-/

namespace CloudSearch.Json

open Outcome

/-- If the value is an object, each name stands in it once. -/
def NamesDistinct : Json → Prop
  | .object members => (members.map (·.1)).Nodup
  | _ => True

instance : DecidablePred NamesDistinct := fun v =>
  match v with
  | .object members => inferInstanceAs (Decidable (members.map (·.1)).Nodup)
  | .null | .bool _ | .number _ | .text _ | .array _ => .isTrue trivial

/-! ## Values of drafts -/

theorem itemsDepth_le_iff {items : List Json} {n : Nat} :
    itemsDepth items ≤ n ↔ ∀ v ∈ items, v.depth ≤ n := by
  induction items with
  | nil => simp [itemsDepth]
  | cons v items ih => rw [itemsDepth, Nat.max_le, List.forall_mem_cons, ih]

theorem membersDepth_le_iff {members : List (String × Json)} {n : Nat} :
    membersDepth members ≤ n ↔ ∀ m ∈ members, m.2.depth ≤ n := by
  induction members with
  | nil => simp [membersDepth]
  | cons m members ih => rw [membersDepth, Nat.max_le, List.forall_mem_cons, ih]

mutual

/-- The value of a value's draft is the value, where there is room for it. -/
theorem value_draft : ∀ (v : Json) (room : Nat), v.depth ≤ room → v.draft.value room = .ok v
  | .null, _, _ => rfl
  | .bool _, _, _ => rfl
  | .number _, _, _ => rfl
  | .text _, _, _ => rfl
  | .array items, room, fits => by
    rw [depth] at fits
    have some_room : room ≠ 0 := by omega
    have inner := values_itemDrafts items (room - 1) (by omega)
    rw [draft, Draft.value, if_neg some_room, inner, ok_bind, if_pos rfl]
  | .object members, room, fits => by
    rw [depth] at fits
    have some_room : room ≠ 0 := by omega
    have inner := memberValues_memberDrafts members (room - 1) (by omega)
    rw [draft, Draft.value, if_neg some_room, inner, ok_bind, if_pos rfl]
  termination_by structural v => v

theorem values_itemDrafts : ∀ (items : List Json) (room : Nat), itemsDepth items ≤ room →
    Draft.values room (itemDrafts items) = .ok items
  | [], _, _ => rfl
  | v :: items, room, fits => by
    rw [itemsDepth] at fits
    have first := value_draft v room (by omega)
    have others := values_itemDrafts items room (by omega)
    rw [itemDrafts, Draft.values, first, ok_bind, others, ok_bind, pure_eq_ok]
  termination_by structural items => items

theorem memberValues_memberDrafts : ∀ (members : List (String × Json)) (room : Nat),
    membersDepth members ≤ room → Draft.memberValues room (memberDrafts members) = .ok members
  | [], _, _ => rfl
  | (name, v) :: members, room, fits => by
    rw [membersDepth] at fits
    have first := value_draft v room (by omega)
    have others := memberValues_memberDrafts members room (by omega)
    rw [memberDrafts, Draft.memberValues, first, ok_bind, others, ok_bind, pure_eq_ok]
  termination_by structural members => members

end

/-! ## Merging repeated names -/

mutual

/-- Where no name is repeated, there is nothing to merge. -/
theorem merged_eq_self : ∀ v : Json, v.All NamesDistinct → v.merged = v
  | .null, _ => rfl
  | .bool _, _ => rfl
  | .number _, _ => rfl
  | .text _, _ => rfl
  | .array items, distinct => by
    rw [merged, mergedItems_eq_self items distinct.2]
  | .object members, distinct => by
    have names : (members.map (·.1)).Nodup := distinct.1
    rw [merged, mergedMembers_eq_self members distinct.2, Table.foldl_place names, List.nil_append]
  termination_by structural v => v

theorem mergedItems_eq_self : ∀ items : List Json, AllItems NamesDistinct items →
    mergedItems items = items
  | [], _ => rfl
  | v :: items, distinct => by
    rw [mergedItems, merged_eq_self v distinct.1, mergedItems_eq_self items distinct.2]
  termination_by structural items => items

theorem mergedMembers_eq_self : ∀ members : List (String × Json), AllMembers NamesDistinct members →
    mergedMembers members = members
  | [], _ => rfl
  | (name, v) :: members, distinct => by
    rw [mergedMembers, merged_eq_self v distinct.1, mergedMembers_eq_self members distinct.2]
  termination_by structural members => members

end

/-- **A written value is read back as that value**, if no object repeats a name, no more containers
than may be read stand in one another, and the text of each double reads back. -/
theorem parse_print {v : Json} (floats : v.All FloatReadsBack) (distinct : v.All NamesDistinct)
    (fits : v.depth ≤ maxDepth) : parse v.print = .ok v := by
  unfold parse Document.read
  rw [ofText_print floats, value_draft v maxDepth fits, ok_bind, if_pos rfl, pure_eq_ok, ok_bind, pure_eq_ok,
    merged_eq_self v distinct]

end CloudSearch.Json
