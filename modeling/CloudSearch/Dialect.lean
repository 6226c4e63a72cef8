import CloudSearch.Text.Character

/-!
# The two query dialects

The service speaks one of two dialects, depending on the version of its interface that a request
names: the legacy one, with a boolean query beside the search term, and the structured one, with a
single query that takes in the term.
-/

namespace CloudSearch

/-- A query dialect. -/
inductive Dialect
  | legacy
  | structured
deriving DecidableEq, Repr

/-- The order of a ranking. -/
inductive Direction
  | ascending
  | descending
deriving DecidableEq, Repr

/-- The order as the structured dialect writes it. -/
def Direction.name : Direction → String
  | .ascending => "asc"
  | .descending => "desc"

namespace Dialect

/-- The version of the interface that speaks the dialect. -/
def apiVersion : Dialect → String
  | .legacy => "2011-02-01"
  | .structured => "2013-01-01"

/-- The dialect that a version of the interface speaks. Blanks around the version do not matter,
and unknown versions speak the legacy dialect. -/
def ofApiVersion (version : String) : Dialect :=
  if Text.trim version = structured.apiVersion then structured else legacy

/-- The dialect in words. -/
def name : Dialect → String
  | .legacy => "legacy"
  | .structured => "structured"

/-- The parameter that carries the filter. -/
def filterParam : Dialect → String
  | .legacy => "bq"
  | .structured => "q"

/-- The parameter that carries the order of the hits. -/
def rankParam : Dialect → String
  | .legacy => "rank"
  | .structured => "sort"

/-- The parameter that lists the fields to return. -/
def returnFieldsParam : Dialect → String
  | .legacy => "return-fields"
  | .structured => "return"

/-- The search term and the filter travel in one parameter. -/
def combinesTermAndFilter : Dialect → Bool
  | .legacy => false
  | .structured => true

/-- The parameter that defines the rank expression `name`. -/
def expressionParam (d : Dialect) (name : String) : String :=
  match d with
  | .legacy => "rank-" ++ name
  | .structured => "expr." ++ name

/-- A ranking by `field` as it is written. -/
def rank (d : Dialect) (field : String) (direction : Direction) : String :=
  match d, direction with
  | .legacy, .ascending => field
  | .legacy, .descending => "-" ++ field
  | .structured, _ => field ++ " " ++ direction.name

end Dialect

end CloudSearch
