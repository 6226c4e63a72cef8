import CloudSearch.Proofs.Filter.Inside
import CloudSearch.Proofs.Geo.Constraint
import CloudSearch.Search.Request

/-!
# One search in two dialects

A search is made sense of before it is written: its weights are checked, its filter becomes clauses
and its geographic query a target (`Options.parts`). All of this is the same in both dialects, and
so is what can be wrong with it. Writing the parts down always succeeds in the structured dialect;
in the legacy one it fails where a bound of the filter has no form. `dialects_agree` adds up what
follows for the requests of one search.
-/

namespace CloudSearch.Search
open Outcome CloudSearch.Filter

/-! ## The parts of a search -/

/-- What a search is made of: the clauses of its filter, and its geographic query with what it asks
for. -/
structure Parts where
  clauses : List Clause
  place : Option (Geo.Query × Geo.Target)

/-- The geographic query of a search with what it asks for. -/
def Options.place (o : Options) : Except CompileError (Option (Geo.Query × Geo.Target)) :=
  match o.geo with
  | some q => (q.target.mapError .geo).map (Option.map (q, ·))
  | none => .ok none

/-- The parts of a search, if nothing is wrong with it. -/
def Options.parts (o : Options) : Except CompileError Parts := do
  o.checkWeights
  let clauses ← o.clauses
  let place ← o.place
  return ⟨clauses, place⟩

/-- What the place adds to the search. -/
def Parts.constraint (p : Parts) (d : Dialect) : Option Geo.Constraint :=
  p.place.map fun (q, t) => q.constraint d t

/-- The clause of the place, if hits are restricted to it. -/
def Parts.placeClause (p : Parts) (d : Dialect) : List Clause :=
  ((p.constraint d).bind (·.filter)).toList

/-- The ranking by distance, if hits are ordered by it. -/
def Parts.sort (p : Parts) (d : Dialect) : Option Geo.DistanceSort :=
  (p.constraint d).bind (·.sort)

theorem Options.constraint_eq (o : Options) (d : Dialect) :
    o.constraint d = o.place.map (Option.map fun (q, t) => q.constraint d t) := by
  unfold Options.constraint Options.place
  cases o.geo with
  | none => rfl
  | some q =>
    simp only [q.compile_eq d]
    rcases q.target with e | _ | t <;> rfl

/-- **A search is taken apart before it is written.** Only the writing depends on the dialect. -/
theorem Options.request_eq (o : Options) (endpoint term : String) (d : Dialect) :
    o.request endpoint term d = o.parts >>= fun p =>
      (queryParams d term (p.clauses ++ p.placeClause d)).map fun query =>
        .ofParams endpoint (query ++ o.params d (p.sort d)) := by
  unfold Options.request Options.parts
  rw [o.constraint_eq d]
  cases o.checkWeights with
  | error e => rfl
  | ok _ =>
    cases o.clauses with
    | error e => rfl
    | ok clauses =>
      cases o.place with
      | error e => rfl
      | ok place => rfl

theorem Options.checkWeights_eq_ok_iff {o : Options} :
    o.checkWeights = .ok () ↔ ∀ e ∈ o.weights.entries, e.2.isFinite = true := by
  unfold Options.checkWeights
  cases found : o.weights.entries.find? fun e => !e.2.isFinite with
  | none => simpa using found
  | some e =>
    have infinite := List.find?_some found
    have mem := List.mem_of_find?_eq_some found
    constructor
    · rintro ⟨⟩
    · intro finite
      rw [finite e mem] at infinite
      cases infinite

theorem Options.parts_eq_ok_iff {o : Options} {p : Parts} :
    o.parts = .ok p ↔ (∀ e ∈ o.weights.entries, e.2.isFinite = true) ∧
      o.clauses = .ok p.clauses ∧ o.place = .ok p.place := by
  rw [← Options.checkWeights_eq_ok_iff, Options.parts]
  cases o.checkWeights with
  | error e => simp
  | ok _ =>
    cases o.clauses with
    | error e => simp
    | ok clauses =>
      cases o.place with
      | error e => simp
      | ok place =>
        obtain ⟨clauses', place'⟩ := p
        simp

/-! ## What can be wrong with the parts -/

/-- The error is no bound without a form in the legacy dialect. -/
def IsCommon (err : CompileError) : Prop :=
  ∀ field side, err ≠ .exclusiveBound field side

/-- Nothing that can be wrong with an expression has to do with the legacy dialect. -/
theorem isCommon_of_clauses {e : Expression} {err : CompileError} (refused : e.clauses = .error err) :
    IsCommon err := by
  obtain ⟨p, -, fault⟩ := exists_fault_of_clauses refused
  rintro field side rfl
  cases fault.origin with
  | shape shape => exact shape
  | leaf _ leaf_fault => cases leaf_fault

/-- No search is refused for the legacy dialect's sake before it is written. -/
theorem isCommon_of_parts {o : Options} {err : CompileError} (refused : o.parts = .error err) :
    IsCommon err := by
  obtain weights | ⟨_, -, refused⟩ := bind_eq_error_iff.1 refused
  · unfold Options.checkWeights at weights
    split at weights
    · cases weights
      simp [IsCommon]
    · cases weights
  obtain filter | ⟨_, -, refused⟩ := bind_eq_error_iff.1 refused
  · unfold Options.clauses at filter
    split at filter
    · exact isCommon_of_clauses filter
    · cases filter
  obtain place | ⟨_, -, refused⟩ := bind_eq_error_iff.1 refused
  · unfold Options.place at place
    split at place
    · next q _ =>
      cases target : q.target with
      | error e =>
        rw [target] at place
        cases place
        simp [IsCommon]
      | ok t =>
        rw [target] at place
        cases place
    · cases place
  · cases refused

/-! ## Leaves of the parts -/

theorem Parts.isPlainRange_of_mem_placeClause (p : Parts) (d : Dialect) :
    ∀ a ∈ leavesOf (p.placeClause d), Geo.IsPlainRange a := by
  obtain ⟨clauses, place⟩ := p
  unfold Parts.placeClause Parts.constraint
  rcases place with _ | ⟨q, t⟩
  · simp [leavesOf, Clause.formulas, Formula.leavesOf]
  · obtain ⟨area, center, sort⟩ := t
    rcases area with _ | ⟨box, encoded⟩
    · simp [Geo.Query.constraint, leavesOf, Clause.formulas, Formula.leavesOf]
    · intro a mem
      have single : leavesOf [q.boxClause d box encoded] =
          (q.boxClause d box encoded).formula.leaves := leavesOf_singleton _
      exact Geo.Query.isPlainRange_of_mem_boxClause a (single ▸ mem)

theorem Options.sound_of_clauses {o : Options} {cs : List Clause} (made : o.clauses = .ok cs) :
    ∀ a ∈ leavesOf cs, a.Sound := by
  unfold Options.clauses at made
  split at made
  · exact Filter.sound_of_clauses made
  · cases made
    simp [leavesOf, Clause.formulas, Formula.leavesOf]

/-- All that a search without faults has to say is sound. -/
theorem Options.sound_of_parts {o : Options} {p : Parts} (made : o.parts = .ok p) (d : Dialect) :
    ∀ a ∈ leavesOf (p.clauses ++ p.placeClause d), a.Sound := by
  rw [leavesOf_append, List.forall_mem_append]
  exact ⟨Options.sound_of_clauses (Options.parts_eq_ok_iff.1 made).2.1,
    fun a mem => (p.isPlainRange_of_mem_placeClause d a mem).1⟩

/-! ## Writing the parts -/

theorem queryParams_legacy (term : String) (cs : List Clause) :
    queryParams .legacy term cs = (render .legacy cs).map fun filter =>
      if filter = "" then [("q", term)] else [("q", term), ("bq", filter)] := by
  unfold queryParams
  cases render .legacy cs with
  | error e => rfl
  | ok filter =>
    by_cases blank : filter = ""
    · simp [blank, Dialect.combinesTermAndFilter]
    · simp [blank, Dialect.combinesTermAndFilter, Dialect.filterParam]

theorem structuredQuery_cons (term : String) (c : Clause) (cs : List Clause) :
    structuredQuery term (c :: cs) = (render .structured (c :: cs)).map fun filter =>
      if !Text.isBlankText term then "(and " ++ Text.quote term ++ " " ++ filter ++ ")"
      else if 1 < (c :: cs).length then "(and " ++ filter ++ ")"
      else filter := by
  rw [structuredQuery, List.isEmpty_cons, if_neg Bool.false_ne_true]
  cases render .structured (c :: cs) with
  | error e => rfl
  | ok filter =>
    simp only [ok_bind, map_ok]
    split
    · rfl
    split <;> rfl

theorem queryParams_structured_cons (term : String) (c : Clause) (cs : List Clause) :
    queryParams .structured term (c :: cs) = (structuredQuery term (c :: cs)).map fun query =>
      [("q", query), ("q.parser", "structured")] := by
  have combines : Dialect.structured.combinesTermAndFilter = true := rfl
  rw [queryParams, if_pos combines, List.isEmpty_cons, if_neg Bool.false_ne_true]
  rfl

/-- The structured dialect never fails to write sound clauses. -/
theorem exists_queryParams_structured (term : String) {cs : List Clause}
    (sound : ∀ a ∈ leavesOf cs, a.Sound) :
    ∃ query, queryParams .structured term cs = .ok query := by
  obtain ⟨filter, written⟩ := exists_render_structured sound
  cases cs with
  | nil => exact ⟨_, rfl⟩
  | cons c cs =>
    rw [queryParams_structured_cons, structuredQuery_cons, written]
    exact ⟨_, rfl⟩

/-- **In the structured dialect** a search is refused for its parts only. -/
theorem Options.request_structured_eq_error_iff {o : Options} {endpoint term : String}
    {err : CompileError} :
    o.request endpoint term .structured = .error err ↔ o.parts = .error err := by
  rw [o.request_eq, bind_eq_error_iff]
  constructor
  · rintro (refused | ⟨p, made, unwritten⟩)
    · exact refused
    · obtain ⟨query, written⟩ :=
        exists_queryParams_structured term (Options.sound_of_parts made .structured)
      rw [map_eq_error_iff, written] at unwritten
      cases unwritten
  · exact .inl

/-- **In the legacy dialect** a search is refused for its parts, or else for the first bound of its
filter that has no form. A place has no such bound. -/
theorem Options.request_legacy_eq_error_iff {o : Options} {endpoint term : String}
    {err : CompileError} :
    o.request endpoint term .legacy = .error err ↔ o.parts = .error err ∨
      ∃ p, o.parts = .ok p ∧ First Atom.Expressible Atom.BoundFault (leavesOf p.clauses) err := by
  rw [o.request_eq, bind_eq_error_iff]
  refine or_congr_right (exists_congr fun p => and_congr_right fun made => ?_)
  rw [map_eq_error_iff, queryParams_legacy, map_eq_error_iff,
    render_legacy_eq_error_iff (Options.sound_of_parts made .legacy), leavesOf_append,
    first_append_iff, or_iff_left]
  rintro ⟨-, first⟩
  obtain ⟨before, a, after, split, -, fault⟩ := first
  have plain := p.isPlainRange_of_mem_placeClause .legacy a (by simp [split])
  cases fault with
  | lower low => exact plain.2.1 low
  | upper _ high => exact plain.2.2 high

/-! ## Values of parameters -/

/-- All values of the parameters with the given name, in their order. -/
def valuesOf (params : List (String × String)) (name : String) : List String :=
  (params.filter (·.1 == name)).map (·.2)

/-- All values of the parameters of a request with the given name. -/
def Request.values (r : Request) (name : String) : List String :=
  valuesOf r.params name

theorem valuesOf_append (ps qs : List (String × String)) (name : String) :
    valuesOf (ps ++ qs) name = valuesOf ps name ++ valuesOf qs name := by
  simp [valuesOf]

theorem valuesOf_eq_nil {ps : List (String × String)} {name : String}
    (other : ∀ p ∈ ps, p.1 ≠ name) : valuesOf ps name = [] := by
  rw [valuesOf, List.filter_eq_nil_iff.2 (by simpa using other), List.map_nil]

/-- The names of the parameters that ask for facets begin alike. -/
theorem head_of_mem_facetParams {d : Dialect} {facets : List String} {p : String × String}
    (mem : p ∈ facetParams d facets) : p.1.toList.head? = some 'f' := by
  cases d with
  | structured =>
    obtain ⟨f, -, rfl⟩ := List.mem_map.1 mem
    simp
  | legacy =>
    simp only [facetParams] at mem
    split at mem
    · cases mem
    · cases List.mem_singleton.1 mem
      show "facet".toList.head? = some 'f'
      decide

/-- The parameter that defines the ranking by distance. -/
def distanceParams (d : Dialect) (distance : Option Geo.DistanceSort) : List (String × String) :=
  (distance.map fun s => (d.expressionParam Geo.DistanceSort.name, s.expression)).toList

/-- The parameters that have the same names in both dialects. -/
def Options.sharedParams (o : Options) : List (String × String) :=
  [("size", toString o.pageSize.toNat)] ++
    (if o.page.isNone then [] else [("start", toString o.offset.toNat)]) ++
    weightParams o.weights

theorem Options.name_of_mem_sharedParams {o : Options} {p : String × String}
    (mem : p ∈ o.sharedParams) : p.1 = "size" ∨ p.1 = "start" ∨ p.1 = "q.options" := by
  unfold Options.sharedParams weightParams at mem
  grind

/-- Under a name that neither facets nor the fields to return nor the order of the hits are asked
for by, there are the shared parameters and the distance. -/
theorem Options.valuesOf_params {o : Options} {d : Dialect} {distance : Option Geo.DistanceSort}
    {name : String} (facet : name.toList.head? ≠ some 'f') (fields : name ≠ d.returnFieldsParam)
    (rank : name ≠ d.rankParam) :
    valuesOf (o.params d distance) name =
      valuesOf [("size", toString o.pageSize.toNat)] name ++
        valuesOf (if o.page.isNone then [] else [("start", toString o.offset.toNat)]) name ++
        valuesOf (distanceParams d distance) name ++ valuesOf (weightParams o.weights) name := by
  have facets : valuesOf (facetParams d o.facets) name = [] := by
    refine valuesOf_eq_nil fun p mem same => facet ?_
    rw [← same, head_of_mem_facetParams mem]
  have returned : valuesOf (if o.returnFields.isEmpty then []
      else [(d.returnFieldsParam, ",".intercalate o.returnFields)]) name = [] := by
    refine valuesOf_eq_nil fun p mem same => fields ?_
    split at mem
    · cases mem
    · rw [← same, List.mem_singleton.1 mem]
  have ranks : valuesOf (rankParams d distance o.rank) name = [] := by
    refine valuesOf_eq_nil fun p mem same => rank ?_
    unfold rankParams at mem
    dsimp only at mem
    split at mem
    · cases mem
    · rw [← same, List.mem_singleton.1 mem]
  simp only [Options.params, valuesOf_append, facets, returned, ranks, List.nil_append,
    List.append_nil]
  rfl

theorem valuesOf_distanceParams {d : Dialect} {distance : Option Geo.DistanceSort} :
    valuesOf (distanceParams d distance) (d.expressionParam Geo.DistanceSort.name) =
      (distance.map (·.expression)).toList := by
  cases distance <;> simp [distanceParams, valuesOf]

theorem valuesOf_distanceParams_of_ne {d : Dialect} {distance : Option Geo.DistanceSort}
    {name : String} (other : name ≠ d.expressionParam Geo.DistanceSort.name) :
    valuesOf (distanceParams d distance) name = [] := by
  refine valuesOf_eq_nil fun p mem same => other ?_
  cases distance with
  | none => cases mem
  | some s => rw [← same, List.mem_singleton.1 mem]

/-- The size and the start of the page and the weights are asked for alike in both dialects. -/
theorem Options.valuesOf_shared {o : Options} {d : Dialect} {distance : Option Geo.DistanceSort}
    {name : String} (shared : name ∈ ["size", "start", "q.options"]) :
    valuesOf (o.params d distance) name = valuesOf o.sharedParams name := by
  have apart : ∀ n ∈ ["size", "start", "q.options"], n.toList.head? ≠ some 'f' ∧
      n ≠ d.returnFieldsParam ∧ n ≠ d.rankParam ∧
      n ≠ d.expressionParam Geo.DistanceSort.name := by
    cases d <;> decide
  obtain ⟨facet, fields, rank, expression⟩ := apart name shared
  rw [Options.valuesOf_params facet fields rank, valuesOf_distanceParams_of_ne expression,
    List.append_nil, Options.sharedParams, valuesOf_append, valuesOf_append]

/-- The parameters behind the query are no part of it. -/
theorem Options.valuesOf_query {o : Options} {d : Dialect} {distance : Option Geo.DistanceSort}
    {name : String} (query : name ∈ ["q", "bq", "q.parser"]) :
    valuesOf (o.params d distance) name = [] := by
  have apart : ∀ n ∈ ["q", "bq", "q.parser"], n.toList.head? ≠ some 'f' ∧
      n ≠ d.returnFieldsParam ∧ n ≠ d.rankParam ∧
      n ≠ d.expressionParam Geo.DistanceSort.name ∧
      n ≠ "size" ∧ n ≠ "start" ∧ n ≠ "q.options" := by
    cases d <;> decide
  obtain ⟨facet, fields, rank, expression, size, start, weights⟩ := apart name query
  have others : valuesOf o.sharedParams name = [] := by
    refine valuesOf_eq_nil fun p mem same => ?_
    rcases Options.name_of_mem_sharedParams mem with h | h | h
    · exact size (same.symm.trans h)
    · exact start (same.symm.trans h)
    · exact weights (same.symm.trans h)
  rw [Options.sharedParams, valuesOf_append, valuesOf_append] at others
  rw [Options.valuesOf_params facet fields rank, valuesOf_distanceParams_of_ne expression,
    List.append_nil, others]

/-- The distance is defined exactly where hits are ordered by it. -/
theorem Options.valuesOf_expression {o : Options} {d : Dialect}
    {distance : Option Geo.DistanceSort} :
    valuesOf (o.params d distance) (d.expressionParam Geo.DistanceSort.name) =
      (distance.map (·.expression)).toList := by
  have apart : (d.expressionParam Geo.DistanceSort.name).toList.head? ≠ some 'f' ∧
      d.expressionParam Geo.DistanceSort.name ≠ d.returnFieldsParam ∧
      d.expressionParam Geo.DistanceSort.name ≠ d.rankParam ∧
      d.expressionParam Geo.DistanceSort.name ∉ ["size", "start", "q.options"] := by
    cases d <;> decide
  obtain ⟨facet, fields, rank, shared⟩ := apart
  have others : valuesOf o.sharedParams (d.expressionParam Geo.DistanceSort.name) = [] := by
    refine valuesOf_eq_nil fun p mem same => shared ?_
    rw [← same]
    simpa using Options.name_of_mem_sharedParams mem
  rw [Options.sharedParams, valuesOf_append, valuesOf_append, List.append_eq_nil_iff,
    List.append_eq_nil_iff] at others
  rw [Options.valuesOf_params facet fields rank, valuesOf_distanceParams, others.1.1, others.1.2,
    others.2, List.nil_append, List.nil_append, List.append_nil]

/-! ## The query of either dialect -/

theorem valuesOf_of_names {ps : List (String × String)} {names : List String}
    (named : ∀ p ∈ ps, p.1 ∈ names) {name : String} (other : name ∉ names) :
    valuesOf ps name = [] := by
  refine valuesOf_eq_nil fun p mem same => other ?_
  rw [← same]
  exact named p mem

/-- In the legacy dialect the term is a parameter by itself, beside the filter if there is one. -/
theorem valuesOf_legacyQuery {term : String} {cs : List Clause} {query : List (String × String)}
    (written : queryParams .legacy term cs = .ok query) :
    valuesOf query "q" = [term] ∧ (valuesOf query "bq" = [] ↔ cs = []) ∧
      ∀ name ∉ ["q", "bq"], valuesOf query name = [] := by
  rw [queryParams_legacy, map_eq_ok_iff] at written
  obtain ⟨filter, rendered, form⟩ := written
  rw [← render_eq_empty_iff rendered, ← form]
  split
  · next blank =>
    exact ⟨rfl, iff_of_true rfl blank, fun name other => valuesOf_of_names (by simp) other⟩
  · next filled =>
    exact ⟨rfl, iff_of_false (by simp [valuesOf]) filled,
      fun name other => valuesOf_of_names (by simp) other⟩

/-- In the structured dialect a query with a filter names its parser. -/
theorem valuesOf_structuredQuery {term : String} {cs : List Clause}
    {query : List (String × String)} (written : queryParams .structured term cs = .ok query) :
    (valuesOf query "q.parser" = [] ↔ cs = []) ∧
      ∀ name ∉ ["q", "q.parser"], valuesOf query name = [] := by
  cases cs with
  | nil =>
    cases written
    exact ⟨iff_of_true rfl rfl, fun name other => valuesOf_of_names (by simp) other⟩
  | cons c cs =>
    rw [queryParams_structured_cons, map_eq_ok_iff] at written
    obtain ⟨filter, rendered, form⟩ := written
    rw [← form]
    exact ⟨iff_of_false (by simp [valuesOf]) (by simp),
      fun name other => valuesOf_of_names (by simp) other⟩

/-! ## Requests of one search -/

/-- What the requests of one search have in common: both carry a filter or neither does, both define
the distance or neither does, and the size and the start of the page and the weights are the same.
The legacy one has the term as it stands. -/
structure Counterparts (term : String) (legacy structured : Request) : Prop where
  term : legacy.values "q" = [term]
  filter : legacy.values "bq" = [] ↔ structured.values "q.parser" = []
  distance : legacy.values "rank-distance" = [] ↔ structured.values "expr.distance" = []
  shared : ∀ name ∈ ["size", "start", "q.options"],
    legacy.values name = structured.values name

theorem Parts.placeClause_eq_nil_iff (p : Parts) :
    p.placeClause .legacy = [] ↔ p.placeClause .structured = [] := by
  obtain ⟨clauses, place⟩ := p
  rcases place with _ | ⟨q, ⟨area, center, sort⟩⟩
  · rfl
  · cases area with
    | none => rfl
    | some area => exact iff_of_false (by rintro ⟨⟩) (by rintro ⟨⟩)

theorem Parts.sort_eq_none_iff (p : Parts) : p.sort .legacy = none ↔ p.sort .structured = none := by
  obtain ⟨clauses, place⟩ := p
  rcases place with _ | ⟨q, ⟨area, center, sort⟩⟩
  · rfl
  · cases sort with
    | false => rfl
    | true => exact iff_of_false (by rintro ⟨⟩) (by rintro ⟨⟩)

theorem values_ofParams (endpoint : String) (query rest : List (String × String)) (name : String) :
    (Request.ofParams endpoint (query ++ rest)).values name =
      valuesOf query name ++ valuesOf rest name :=
  valuesOf_append query rest name

/-- The requests of one search are counterparts. -/
theorem counterparts_of_request {o : Options} {endpoint term : String} {legacy structured : Request}
    (left : o.request endpoint term .legacy = .ok legacy)
    (right : o.request endpoint term .structured = .ok structured) :
    Counterparts term legacy structured := by
  rw [o.request_eq] at left right
  obtain ⟨p, made, left⟩ := bind_eq_ok_iff.1 left
  rw [made, ok_bind] at right
  obtain ⟨query, written, form⟩ := map_eq_ok_iff.1 left
  obtain ⟨query', written', form'⟩ := map_eq_ok_iff.1 right
  rw [← form, ← form']
  obtain ⟨single, filter, others⟩ := valuesOf_legacyQuery written
  obtain ⟨parser, others'⟩ := valuesOf_structuredQuery written'
  constructor
  case term =>
    rw [values_ofParams, single, Options.valuesOf_query (by simp), List.append_nil]
  case filter =>
    rw [values_ofParams, values_ofParams, Options.valuesOf_query (by simp),
      Options.valuesOf_query (by simp), List.append_nil, List.append_nil, filter, parser,
      List.append_eq_nil_iff, List.append_eq_nil_iff, p.placeClause_eq_nil_iff]
  case distance =>
    have legacyName : Dialect.legacy.expressionParam Geo.DistanceSort.name = "rank-distance" := by
      decide
    have structuredName : Dialect.structured.expressionParam Geo.DistanceSort.name =
        "expr.distance" := by
      decide
    rw [values_ofParams, values_ofParams, others _ (by decide), others' _ (by decide), ← legacyName,
      ← structuredName, Options.valuesOf_expression, Options.valuesOf_expression]
    simp [p.sort_eq_none_iff]
  case shared =>
    intro name shared
    have apart : ∀ n ∈ ["size", "start", "q.options"],
        n ∉ ["q", "bq"] ∧ n ∉ ["q", "q.parser"] := by
      decide
    rw [values_ofParams, values_ofParams, others name (apart name shared).1,
      others' name (apart name shared).2, Options.valuesOf_shared shared,
      Options.valuesOf_shared shared]

/-- The geographic query of the search, if there is one, can be put into both dialects. -/
def Options.PlaceCompiles (o : Options) : Prop :=
  ∀ d, ∃ c, o.constraint d = .ok c

theorem Options.placeCompiles_iff {o : Options} :
    o.PlaceCompiles ↔ ∃ place, o.place = .ok place := by
  unfold Options.PlaceCompiles
  simp only [o.constraint_eq, map_eq_ok_iff]
  constructor
  · intro compiles
    obtain ⟨_, place, made, -⟩ := compiles .legacy
    exact ⟨place, made⟩
  · rintro ⟨place, made⟩ d
    exact ⟨_, place, made, rfl⟩

/-- A search has parts exactly when its weights are finite, its filter has clauses and its
geographic query compiles. -/
theorem Options.exists_parts_iff (o : Options) (P : List Clause → Prop) :
    (∃ p, o.parts = .ok p ∧ P p.clauses) ↔
      (∀ e ∈ o.weights.entries, e.2.isFinite = true) ∧ o.PlaceCompiles ∧
        ∃ cs, o.clauses = .ok cs ∧ P cs := by
  simp only [Options.parts_eq_ok_iff, Options.placeCompiles_iff]
  constructor
  · rintro ⟨p, ⟨finite, clauses, place⟩, holds⟩
    exact ⟨finite, ⟨_, place⟩, _, clauses, holds⟩
  · rintro ⟨finite, ⟨place, made⟩, cs, clauses, holds⟩
    exact ⟨⟨cs, place⟩, ⟨finite, clauses, made⟩, holds⟩

/-- **The two dialects agree on which searches can be built.** What is wrong with a search in one
dialect is wrong with it in the other, except for bounds that only the structured dialect has a form
for. These are refused in the legacy dialect alone, the first of them in the order in which the
filter is written, and only where nothing else is wrong; geographic queries have none. Where both
requests can be built, they are counterparts. -/
theorem dialects_agree (o : Options) (endpoint term : String) :
    (∀ err, (∀ field side, err ≠ .exclusiveBound field side) →
      (o.request endpoint term .legacy = .error err ↔
        o.request endpoint term .structured = .error err)) ∧
    (∀ field side, o.request endpoint term .structured ≠ .error (.exclusiveBound field side)) ∧
    (∀ field side, o.request endpoint term .legacy = .error (.exclusiveBound field side) →
      ∃ r, o.request endpoint term .structured = .ok r) ∧
    (∀ field side, o.request endpoint term .legacy = .error (.exclusiveBound field side) ↔
      (∀ e ∈ o.weights.entries, e.2.isFinite = true) ∧ o.PlaceCompiles ∧
        ∃ cs, o.clauses = .ok cs ∧
          First Atom.Expressible Atom.BoundFault (leavesOf cs) (.exclusiveBound field side)) ∧
    ∀ legacy structured, o.request endpoint term .legacy = .ok legacy →
      o.request endpoint term .structured = .ok structured →
      Counterparts term legacy structured := by
  have parts : ∀ field side, o.parts ≠ .error (.exclusiveBound field side) :=
    fun field side refused => isCommon_of_parts refused field side rfl
  refine ⟨?_, ?_, ?_, ?_, fun _ _ => counterparts_of_request⟩
  · intro err common
    rw [Options.request_legacy_eq_error_iff, Options.request_structured_eq_error_iff, or_iff_left]
    rintro ⟨p, -, before, a, after, -, -, fault⟩
    cases fault with
    | lower => exact common _ _ rfl
    | upper => exact common _ _ rfl
  · intro field side
    rw [ne_eq, Options.request_structured_eq_error_iff]
    exact parts field side
  · intro field side refused
    obtain absent | ⟨p, made, -⟩ := Options.request_legacy_eq_error_iff.1 refused
    · exact absurd absent (parts field side)
    · rw [exists_ok_iff]
      intro err refused
      rw [Options.request_structured_eq_error_iff, made] at refused
      cases refused
  · intro field side
    rw [Options.request_legacy_eq_error_iff, or_iff_right (parts field side)]
    exact o.exists_parts_iff fun cs =>
      First Atom.Expressible Atom.BoundFault (leavesOf cs) (.exclusiveBound field side)

/-- A search for titles behind a letter, which is not to be one of them. -/
def titlesAfterM : Options :=
  .ofSettings [.weight "title" 2.5, .page 3,
    .filter [("year", .range ⟨.excluded (.int 1990), .unbounded⟩),
      ("or", .expr [("title", .range ⟨.excluded (.text "m"), .excluded (.float 0)⟩)])]]

/-- Integers can be excluded in the legacy dialect, texts cannot, and the lower bound is named. -/
theorem dialects_agree_titlesAfterM :
    titlesAfterM.request "http://search" "x" .legacy = .error (.exclusiveBound "title" .lower) ∧
      ∃ r, titlesAfterM.request "http://search" "x" .structured = .ok r :=
  have refused : titlesAfterM.request "http://search" "x" .legacy =
      .error (.exclusiveBound "title" .lower) := by rfl
  ⟨refused, (dialects_agree titlesAfterM "http://search" "x").2.2.1 _ _ refused⟩

end CloudSearch.Search
