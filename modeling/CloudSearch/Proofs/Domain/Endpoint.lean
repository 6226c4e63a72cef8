import CloudSearch.Domain.Name

/-!
# Ids in endpoints

An endpoint has a usable id when the first label of its host is `search-` with something behind it,
and then this is the id: it is not empty, has no dot, and ends where the label ends. There is at most
one such id, and it is the one that is read (`idOfEndpoint?_eq_some_iff`).
-/

namespace CloudSearch.Domain

/-- The id stands in the endpoint: behind the scheme, if there is one, the host begins with the
prefix of search endpoints and the id, and its first label ends there. -/
structure IsIdIn (id endpoint : String) : Prop where
  nonempty : id ≠ ""
  dotless : '.' ∉ id.toList
  host : ∃ rest, afterScheme endpoint.toList = hostPrefix ++ id.toList ++ rest ∧
    ∀ c ∈ rest.head?, c = '.'

/-- The first label of a host reaches up to the first dot, or to the end. -/
theorem takeWhile_eq_label_iff {host label : List Char} :
    host.takeWhile (· != '.') = label ↔
      '.' ∉ label ∧ ∃ rest, host = label ++ rest ∧ ∀ c ∈ rest.head?, c = '.' := by
  constructor
  · rintro rfl
    refine ⟨?_, host.dropWhile (· != '.'), List.takeWhile_append_dropWhile.symm, ?_⟩
    · intro dot
      simpa using List.all_eq_true.1 List.all_takeWhile _ dot
    · intro c first
      have stopped := List.head?_dropWhile_not (fun c => c != '.') host
      rw [Option.mem_def.1 first] at stopped
      simpa using stopped
  · rintro ⟨dotless, rest, rfl, ends⟩
    have each : ∀ c ∈ label, (c != '.') = true := by
      intro c mem
      rw [bne_iff_ne]
      rintro rfl
      exact dotless mem
    have stops : rest.takeWhile (· != '.') = [] := by
      cases rest with
      | nil => rfl
      | cons c rest =>
        obtain rfl : c = '.' := ends c rfl
        rfl
    rw [List.takeWhile_append_of_pos each, stops, List.append_nil]

/-- What is read is what the first label has behind the prefix. -/
theorem idOfEndpoint?_eq_some_iff_label {endpoint id : String} :
    idOfEndpoint? endpoint = some id ↔
      id ≠ "" ∧ (afterScheme endpoint.toList).takeWhile (· != '.') = hostPrefix ++ id.toList := by
  simp only [idOfEndpoint?]
  generalize (afterScheme endpoint.toList).takeWhile (· != '.') = label
  constructor
  · intro read
    split at read
    next begins =>
      cases read
      rw [Bool.and_eq_true, List.isPrefixOf_iff_prefix, decide_eq_true_eq] at begins
      obtain ⟨⟨rest, rfl⟩, longer⟩ := begins
      rw [List.drop_left, String.toList_ofList]
      refine ⟨?_, rfl⟩
      intro empty
      rw [String.ofList_eq_empty_iff] at empty
      rw [empty, List.append_nil] at longer
      exact Nat.lt_irrefl _ longer
    next => cases read
  · rintro ⟨nonempty, rfl⟩
    have longer : 0 < id.toList.length := by
      rw [List.length_pos_iff]
      intro empty
      exact nonempty (String.toList_eq_nil_iff.1 empty)
    rw [if_pos, List.drop_left, String.ofList_toList]
    rw [Bool.and_eq_true, List.isPrefixOf_iff_prefix, decide_eq_true_eq, List.length_append]
    exact ⟨List.prefix_append _ _, by omega⟩

/-- **The id that is read is the one in the endpoint**, and nothing is read from an endpoint without
one. -/
theorem idOfEndpoint?_eq_some_iff {endpoint id : String} :
    idOfEndpoint? endpoint = some id ↔ IsIdIn id endpoint := by
  rw [idOfEndpoint?_eq_some_iff_label, takeWhile_eq_label_iff, List.mem_append, not_or]
  constructor
  · rintro ⟨nonempty, ⟨-, dotless⟩, host⟩
    exact ⟨nonempty, dotless, host⟩
  · rintro ⟨nonempty, dotless, host⟩
    exact ⟨nonempty, ⟨by decide, dotless⟩, host⟩

end CloudSearch.Domain
