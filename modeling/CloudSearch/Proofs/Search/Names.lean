import CloudSearch.Proofs.Search.Paging
import Mathlib.Data.List.Count
import Mathlib.Data.List.Nodup

/-!
# The names of parameters

Which parameters a request has depends on what is asked for, but they always come in one order, and
the query and the page size are never left out. Facets have names that are made of what the user asks
for: the text `facet.` with the facet behind it. No other parameter has a name that begins so, and
therefore a facet can only ever share its name with the same facet asked for again. Where that does
not happen, the value that is found under a name is the only one (`isInOrder_of_request`).
-/

namespace CloudSearch.Search
open Outcome CloudSearch.Filter

/-- The names of the parameters of a request, in their order. -/
def Request.names (r : Request) : List String :=
  r.params.map (·.1)

/-- The names that the parameters of a search with the given facets can have, in their order. -/
def orderedNames (d : Dialect) (facets : List String) : List String :=
  match d with
  | .structured =>
    ["q", "q.parser"] ++ facets.map ("facet." ++ ·) ++
      ["size", "return", "start", "sort", "expr.distance", "q.options"]
  | .legacy =>
    ["q", "bq", "facet", "size", "return-fields", "start", "rank", "rank-distance", "q.options"]

/-- The parameters of a request come in order and can be told apart by their names, up to facets that
are asked for more than once. -/
structure Request.IsInOrder (o : Options) (d : Dialect) (r : Request) : Prop where
  order : r.names.Sublist (orderedNames d o.facets)
  query : "q" ∈ r.names
  size : "size" ∈ r.names
  start : "start" ∈ r.names ↔ ∃ n, o.page = some n
  repeated : ∀ name, 1 < r.names.count name ↔
    d = .structured ∧ ∃ f, name = "facet." ++ f ∧ 1 < o.facets.count f
  single : (d = .structured → o.facets.Nodup) → ∀ name, r.values name = (r.param? name).toList

/-! ## Names in their order -/

/-- The name of the parameter that a filter adds to that of the term. -/
def filterName : Dialect → String
  | .structured => "q.parser"
  | .legacy => "bq"

/-- The names of the parameters that facets are asked for by. -/
def facetNames (d : Dialect) (facets : List String) : List String :=
  match d with
  | .structured => facets.map ("facet." ++ ·)
  | .legacy => ["facet"]

theorem orderedNames_eq (d : Dialect) (facets : List String) :
    orderedNames d facets = ["q", filterName d] ++ (facetNames d facets ++ ["size"] ++
      [d.returnFieldsParam] ++ ["start"] ++ [d.rankParam] ++
      [d.expressionParam Geo.DistanceSort.name] ++ ["q.options"]) := by
  have legacyName : Dialect.legacy.expressionParam Geo.DistanceSort.name = "rank-distance" := by
    decide
  have structuredName : Dialect.structured.expressionParam Geo.DistanceSort.name =
      "expr.distance" := by
    decide
  cases d with
  | legacy => rw [legacyName]; rfl
  | structured =>
    rw [structuredName]
    simp [orderedNames, facetNames, filterName, Dialect.returnFieldsParam, Dialect.rankParam]

/-- The term is a parameter by itself or has that of the filter behind it. -/
theorem names_query {d : Dialect} {term : String} {cs : List Clause}
    {query : List (String × String)} (written : queryParams d term cs = .ok query) :
    query.map (·.1) = ["q"] ∨ query.map (·.1) = ["q", filterName d] := by
  cases d with
  | legacy =>
    rw [queryParams_legacy, map_eq_ok_iff] at written
    obtain ⟨filter, -, rfl⟩ := written
    split
    · exact .inl rfl
    · exact .inr rfl
  | structured =>
    cases cs with
    | nil =>
      cases written
      exact .inl rfl
    | cons c cs =>
      rw [queryParams_structured_cons, map_eq_ok_iff] at written
      obtain ⟨filter, -, rfl⟩ := written
      exact .inr rfl

theorem names_facetParams_structured (facets : List String) :
    (facetParams .structured facets).map (·.1) = facets.map ("facet." ++ ·) :=
  List.map_map ..

theorem names_facetParams_sublist (d : Dialect) (facets : List String) :
    ((facetParams d facets).map (·.1)).Sublist (facetNames d facets) := by
  cases d with
  | structured =>
    rw [names_facetParams_structured]
    exact List.Sublist.refl _
  | legacy =>
    rw [facetParams]
    split
    · exact List.nil_sublist _
    · exact List.Sublist.refl _

/-- A parameter that is left out on some condition has its name or none. -/
theorem names_ite_sublist {c : Prop} [Decidable c] (name value : String) :
    ((if c then [] else [(name, value)]).map (·.1)).Sublist [name] := by
  split
  · exact List.nil_sublist _
  · exact List.Sublist.refl _

theorem names_rankParams_sublist (d : Dialect) (distance : Option Geo.DistanceSort)
    (rank : Option Rank) : ((rankParams d distance rank).map (·.1)).Sublist [d.rankParam] :=
  names_ite_sublist _ _

theorem names_distanceParams_sublist (d : Dialect) (distance : Option Geo.DistanceSort) :
    ((distanceParams d distance).map (·.1)).Sublist
      [d.expressionParam Geo.DistanceSort.name] := by
  cases distance with
  | none => exact List.nil_sublist _
  | some s => exact List.Sublist.refl _

theorem names_weightParams_sublist (weights : Table Float) :
    ((weightParams weights).map (·.1)).Sublist ["q.options"] :=
  names_ite_sublist _ _

/-- The parameters behind the query come in order. -/
theorem Options.names_params_sublist (o : Options) (d : Dialect)
    (distance : Option Geo.DistanceSort) :
    ((o.params d distance).map (·.1)).Sublist (facetNames d o.facets ++ ["size"] ++
      [d.returnFieldsParam] ++ ["start"] ++ [d.rankParam] ++
      [d.expressionParam Geo.DistanceSort.name] ++ ["q.options"]) := by
  simp only [Options.params, List.map_append]
  have facets := names_facetParams_sublist d o.facets
  have size : ([("size", toString o.pageSize.toNat)].map (·.1)).Sublist ["size"] :=
    List.Sublist.refl _
  have returned := names_ite_sublist (c := o.returnFields.isEmpty = true) d.returnFieldsParam
    (",".intercalate o.returnFields)
  have start := names_ite_sublist (c := o.page.isNone = true) "start" (toString o.offset.toNat)
  have rank := names_rankParams_sublist d distance o.rank
  have expression := names_distanceParams_sublist d distance
  have weights := names_weightParams_sublist o.weights
  exact (((((facets.append size).append returned).append start).append rank).append
    expression).append weights

/-! ## Names that occur more than once -/

/-- The names in the structured dialect that are not made of a facet. -/
def fixedNames : List String :=
  ["q", "q.parser", "size", "return", "start", "sort", "expr.distance", "q.options"]

theorem facetName_not_mem_fixedNames (f : String) : "facet." ++ f ∉ fixedNames := by
  have heads : ∀ n ∈ fixedNames, n.toList.head? ≠ some 'f' := by decide
  intro mem
  apply heads _ mem
  simp

theorem facetName_injective : Function.Injective fun f : String => "facet." ++ f := by
  intro f f' same
  exact (String.append_right_inj "facet.").1 same

theorem count_orderedNames_structured (facets : List String) (name : String) :
    (orderedNames .structured facets).count name =
      fixedNames.count name + (facets.map ("facet." ++ ·)).count name := by
  have parted : fixedNames = ["q", "q.parser"] ++
      ["size", "return", "start", "sort", "expr.distance", "q.options"] := rfl
  rw [orderedNames, parted, List.count_append, List.count_append, List.count_append]
  omega

/-- No name but that of a facet can occur more than once, however the facets are named. -/
theorem one_lt_count_orderedNames_iff {d : Dialect} {facets : List String} {name : String} :
    1 < (orderedNames d facets).count name ↔
      d = .structured ∧ ∃ f, name = "facet." ++ f ∧ 1 < facets.count f := by
  cases d with
  | legacy =>
    have distinct : (orderedNames .legacy facets).Nodup := by
      show ["q", "bq", "facet", "size", "return-fields", "start", "rank", "rank-distance",
        "q.options"].Nodup
      decide
    have single := List.nodup_iff_count_le_one.1 distinct name
    refine iff_of_false (by omega) ?_
    rintro ⟨legacy, -⟩
    cases legacy
  | structured =>
    rw [count_orderedNames_structured]
    by_cases facet : ∃ f, name = "facet." ++ f
    · obtain ⟨f, rfl⟩ := facet
      have fixed : fixedNames.count ("facet." ++ f) = 0 :=
        List.count_eq_zero.2 (facetName_not_mem_fixedNames f)
      have asked : (facets.map ("facet." ++ ·)).count ("facet." ++ f) = facets.count f :=
        List.count_map_of_injective facets ("facet." ++ ·) facetName_injective f
      rw [fixed, asked, Nat.zero_add]
      constructor
      · intro many
        exact ⟨rfl, f, rfl, many⟩
      · rintro ⟨-, f', same, many⟩
        rw [facetName_injective same]
        exact many
    · have distinct : fixedNames.Nodup := by decide
      have fixed := List.nodup_iff_count_le_one.1 distinct name
      have asked : (facets.map ("facet." ++ ·)).count name = 0 := by
        apply List.count_eq_zero.2
        intro mem
        obtain ⟨f, -, same⟩ := List.mem_map.1 mem
        exact facet ⟨f, same.symm⟩
      refine iff_of_false (by omega) ?_
      rintro ⟨-, f, same, -⟩
      exact facet ⟨f, same⟩

/-! ## Values under a name -/

theorem Request.length_values (r : Request) (name : String) :
    (r.values name).length = r.names.count name := by
  rw [values, valuesOf, List.length_map, names, List.count, List.countP_map,
    List.countP_eq_length_filter]
  rfl

theorem Request.mem_names_iff {r : Request} {name : String} :
    name ∈ r.names ↔ r.values name ≠ [] := by
  rw [← List.count_pos_iff, ← r.length_values, List.length_pos_iff]

/-- Under a name that occurs at most once, what is found is all there is. -/
theorem Request.values_eq_of_count_le_one {r : Request} {name : String}
    (single : r.names.count name ≤ 1) : r.values name = (r.param? name).toList := by
  rw [r.param?_eq]
  rw [← r.length_values] at single
  match r.values name, single with
  | [], _ => rfl
  | [_], _ => rfl

/-! ## Requests in order -/

/-- The facets are all asked for, each by a parameter of its own. -/
theorem Options.facetNames_sublist (o : Options) (distance : Option Geo.DistanceSort) :
    (o.facets.map ("facet." ++ ·)).Sublist ((o.params .structured distance).map (·.1)) := by
  simp only [Options.params, List.map_append, List.append_assoc]
  rw [names_facetParams_structured]
  exact List.sublist_append_left _ _

/-- The names of a request are those of its query and those of the parameters behind it. -/
theorem Options.names_of_request {o : Options} {endpoint term : String} {d : Dialect} {r : Request}
    (built : o.request endpoint term d = .ok r) :
    ∃ query distance, r.names = query ++ (o.params d distance).map (·.1) ∧
      (query = ["q"] ∨ query = ["q", filterName d]) := by
  rw [o.request_eq] at built
  obtain ⟨p, -, built⟩ := bind_eq_ok_iff.1 built
  obtain ⟨query, written, rfl⟩ := map_eq_ok_iff.1 built
  refine ⟨query.map (·.1), p.sort d, ?_, names_query written⟩
  exact List.map_append

/-- **The parameters come in order and no name is ambiguous.** Whatever the facets are called, a name
that occurs more than once is that of a facet that is asked for more than once, in the structured
dialect. -/
theorem isInOrder_of_request {o : Options} {endpoint term : String} {d : Dialect} {r : Request}
    (built : o.request endpoint term d = .ok r) : r.IsInOrder o d := by
  obtain ⟨query, distance, names, form⟩ := Options.names_of_request built
  have queryOrder : query.Sublist ["q", filterName d] := by
    rcases form with rfl | rfl
    · exact List.sublist_append_left ["q"] _
    · exact List.Sublist.refl _
  have order : r.names.Sublist (orderedNames d o.facets) := by
    rw [names, orderedNames_eq]
    exact queryOrder.append (o.names_params_sublist d distance)
  have repeated (name : String) : 1 < r.names.count name ↔
      d = .structured ∧ ∃ f, name = "facet." ++ f ∧ 1 < o.facets.count f := by
    constructor
    · intro many
      apply one_lt_count_orderedNames_iff.1
      exact Nat.lt_of_lt_of_le many (order.count_le name)
    · rintro ⟨rfl, f, rfl, many⟩
      have asked := (o.facetNames_sublist distance).count_le ("facet." ++ f)
      rw [List.count_map_of_injective o.facets ("facet." ++ ·) facetName_injective] at asked
      rw [names, List.count_append]
      omega
  constructor
  case order => exact order
  case query =>
    rw [names]
    apply List.mem_append_left
    rcases form with rfl | rfl <;> exact List.mem_cons_self
  case size =>
    rw [names]
    apply List.mem_append_right
    simp [Options.params]
  case start =>
    rw [Request.mem_names_iff, o.values_start built]
    cases o.page <;> simp
  case repeated => exact repeated
  case single =>
    intro distinct name
    apply Request.values_eq_of_count_le_one
    apply Nat.le_of_not_lt
    intro many
    obtain ⟨structured, f, -, twice⟩ := (repeated name).1 many
    have once := List.nodup_iff_count_le_one.1 (distinct structured) f
    omega

/-- A search with facets that are called like parameters, and with everything else that can be asked
for. -/
def facetsLikeParameters : Options :=
  .ofSettings [.facets ["size", "", "q", "facet.q"], .page 2, .pageSize 25,
    .filter [("year", .range ⟨.excluded (.int 1990), .unbounded⟩)],
    .geo { field := "place", point := some (45.5, -122.25) }, .rank ⟨"year", .descending⟩,
    .returnFields ["title", "year"], .weight "title" 2.5]

/-- Its parameters can be told apart all the same. -/
theorem isInOrder_facetsLikeParameters :
    ∃ r, facetsLikeParameters.request "http://search" "x" .structured = .ok r ∧
      r.IsInOrder facetsLikeParameters .structured :=
  have built : facetsLikeParameters.request "http://search" "x" .structured =
      .ok (.ofParams "http://search" [("q", "(and 'x' (range field=year \x7b1990,\x7d))"),
        ("q.parser", "structured"), ("facet.size", "\x7bsort:'bucket',size:999\x7d"),
        ("facet.", "\x7bsort:'bucket',size:999\x7d"),
        ("facet.q", "\x7bsort:'bucket',size:999\x7d"),
        ("facet.facet.q", "\x7bsort:'bucket',size:999\x7d"), ("size", "25"),
        ("return", "title,year"), ("start", "25"), ("sort", "distance asc,year desc"),
        ("expr.distance", "haversin(45.5,-122.25,place.latitude,place.longitude)"),
        ("q.options", "\x7bfields:['title^2.5']\x7d")]) := by rfl
  ⟨_, built, isInOrder_of_request built⟩

end CloudSearch.Search
