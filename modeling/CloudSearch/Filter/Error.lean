import CloudSearch.Filter.Expression
import CloudSearch.Geo.Error

/-!
# Why a search cannot be compiled

The reasons for which a filter, or a search with one, has no wire form, and their wording.
-/

namespace CloudSearch.Filter

/-- A side of a range. -/
inductive Side
  | lower
  | upper
deriving DecidableEq, Repr

/-- The side in words. -/
def Side.name : Side → String
  | .lower => "lower"
  | .upper => "upper"

/-- A reason to refuse a search. -/
inductive CompileError
  | operatorNeedsExpression (op : Connective)
  | emptyFieldName
  | nestedExpression (field : String)
  | nestedList (field : String)
  | nonFinite (field : String)
  | unboundedRange (field : String)
  | orShorthandShape (name : String)
  | exclusiveBound (field : String) (side : Side)
  | integerOutOfRange (digits : String)
  | notAnExpression (json : String)
  | geo (e : Geo.Error)
deriving DecidableEq, Repr

/-- The reason in words. -/
def CompileError.message : CompileError → String
  | .operatorNeedsExpression op => "Operator `" ++ op.name ++ "` expects a nested expression"
  | .emptyFieldName => "Filter keys must not be empty"
  | .nestedExpression field => "Field `" ++ field ++ "` cannot hold a nested expression"
  | .nestedList field => "Field `" ++ field ++ "` holds a list nested inside a list"
  | .nonFinite field => "Field `" ++ field ++ "` holds a number that is not finite"
  | .unboundedRange field => "Range on `" ++ field ++ "` has neither a lower nor an upper bound"
  | .orShorthandShape name =>
    "Group `" ++ name ++ "` may only hold fields with scalar, range or list values"
  | .exclusiveBound field side =>
    "Range on `" ++ field ++ "` has an exclusive " ++ side.name ++
      " bound the legacy dialect cannot express"
  | .integerOutOfRange digits => "Number `" ++ digits ++ "` does not fit a signed 64-bit integer"
  | .notAnExpression json =>
    "Expected a JSON object for a filter expression, found `" ++ json ++ "`"
  | .geo e => "Geo error: " ++ e.message

end CloudSearch.Filter
