import CloudSearch.Search.Options
import CloudSearch.Text.FormUrl

/-!
# Search requests

A search becomes a list of parameters, and the parameters a URL. In the legacy dialect the term and
the filter are two parameters, in the structured one they are one query; the parameters after them
differ in their names and in how facets are asked for.
-/

namespace CloudSearch.Search

/-- A search as it is sent: the URL and the parameters that it carries. -/
structure Request where
  url : String
  params : List (String × String)
deriving DecidableEq, Repr

/-- The value of the first parameter with the given name. -/
def Request.param? (r : Request) (name : String) : Option String :=
  (r.params.find? (·.1 == name)).map (·.2)

/-- The greatest number of values that a facet lists. -/
def maxFacetSize : Nat := 999

/-- The parameters of the term and the filter. -/
def queryParams (d : Dialect) (term : String) (clauses : List Filter.Clause) :
    Except Filter.CompileError (List (String × String)) :=
  if d.combinesTermAndFilter then
    if clauses.isEmpty then .ok [("q", term)]
    else do
      let query ← Filter.structuredQuery term clauses
      return [("q", query), ("q.parser", "structured")]
  else do
    let filter ← Filter.render d clauses
    if filter = "" then return [("q", term)]
    else return [("q", term), (d.filterParam, filter)]

/-- The parameters that ask for facets. -/
def facetParams (d : Dialect) (facets : List String) : List (String × String) :=
  match d with
  | .structured => facets.map fun f =>
    ("facet." ++ f, "\x7bsort:'bucket',size:" ++ toString maxFacetSize ++ "\x7d")
  | .legacy => if facets.isEmpty then [] else [("facet", ",".intercalate facets)]

/-- The parameter that orders the hits, by distance before anything else. -/
def rankParams (d : Dialect) (distance : Option Geo.DistanceSort) (rank : Option Rank) :
    List (String × String) :=
  let ranks := ",".intercalate
    ((distance.map (·.rank d)).toList ++ (rank.map fun r => d.rank r.field r.direction).toList)
  if ranks = "" then [] else [(d.rankParam, ranks)]

/-- The parameter that weights the fields. -/
def weightParams (weights : Table Float) : List (String × String) :=
  if weights.entries.isEmpty then []
  else
    let fields := weights.entries.map fun e => "'" ++ e.1 ++ "^" ++ Decimal.plain.float e.2 ++ "'"
    [("q.options", "\x7bfields:[" ++ ",".intercalate fields ++ "]\x7d")]

/-- The parameters behind the query. -/
def Options.params (o : Options) (d : Dialect) (distance : Option Geo.DistanceSort) :
    List (String × String) :=
  facetParams d o.facets ++
  [("size", toString o.pageSize.toNat)] ++
  (if o.returnFields.isEmpty then [] else [(d.returnFieldsParam, ",".intercalate o.returnFields)]) ++
  (if o.page.isNone then [] else [("start", toString o.offset.toNat)]) ++
  rankParams d distance o.rank ++
  (distance.map fun s => (d.expressionParam Geo.DistanceSort.name, s.expression)).toList ++
  weightParams o.weights

/-- The request that the parameters make at an endpoint. -/
def Request.ofParams (endpoint : String) (params : List (String × String)) : Request :=
  ⟨endpoint ++ "?" ++ Text.FormUrl.encodePairs params, params⟩

/-- Refuses weights that are not finite. -/
def Options.checkWeights (o : Options) : Except Filter.CompileError Unit :=
  match o.weights.entries.find? fun e => !e.2.isFinite with
  | some (field, _) => .error (.nonFinite field)
  | none => .ok ()

/-- The clauses of the filter. -/
def Options.clauses (o : Options) : Except Filter.CompileError (List Filter.Clause) :=
  match o.filter with
  | some e => e.clauses
  | none => .ok []

/-- What the geographic query adds. -/
def Options.constraint (o : Options) (d : Dialect) :
    Except Filter.CompileError (Option Geo.Constraint) :=
  match o.geo with
  | some q => (q.compile d).mapError .geo
  | none => .ok none

/-- The request that searches for `term` at an endpoint. -/
def Options.request (o : Options) (endpoint term : String) (d : Dialect) :
    Except Filter.CompileError Request := do
  o.checkWeights
  let clauses ← o.clauses
  let constraint ← o.constraint d
  let query ← queryParams d term (clauses ++ (constraint.bind (·.filter)).toList)
  return .ofParams endpoint (query ++ o.params d (constraint.bind (·.sort)))

end CloudSearch.Search
