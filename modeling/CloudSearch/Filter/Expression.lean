import CloudSearch.Filter.Range

/-!
# Filter expressions

A filter expression is a list of keys with values, in order and with repetitions. The keys `and`,
`or` and `not` are connectives over a nested expression. A key that ends in `_or` and holds an
expression is a shorthand for the disjunction of what stands in it. Every other key is the name of
a field.
-/

namespace CloudSearch.Filter

/-- A boolean operator. -/
inductive Connective
  | and
  | or
  | not
deriving DecidableEq, Repr

/-- The operator as it is written. -/
def Connective.name : Connective → String
  | .and => "and"
  | .or => "or"
  | .not => "not"

/-- The operator that a key stands for. -/
def Connective.ofKey? (key : String) : Option Connective :=
  if key = "and" then some .and
  else if key = "or" then some .or
  else if key = "not" then some .not
  else none

/-- What a key of an expression may hold. -/
inductive Value
  | null
  | bool (b : Bool)
  | int (i : Int64)
  | float (x : Float)
  | text (s : String)
  | instant (t : Instant)
  | range (r : Range)
  | list (items : List Value)
  | expr (entries : List (String × Value))
deriving Inhabited

/-- Keys with their values. -/
abbrev Expression := List (String × Value)

/-- The end of the keys that hold a shorthand. -/
def orSuffix : List Char := ['_', 'o', 'r']

/-- What an entry of an expression is. -/
inductive KeyKind
  | operator (op : Connective)
  | orShorthand (name : String) (terms : Expression)
  | field (name : String)

/-- Tells what an entry is by its key and, for a shorthand, its value. -/
def KeyKind.classify (key : String) (v : Value) : KeyKind :=
  match Connective.ofKey? key with
  | some op => .operator op
  | none => match v with
    | .expr terms => if orSuffix.isSuffixOf key.toList then .orShorthand key terms else .field key
    | _ => .field key

theorem Connective.ofKey?_eq_some_iff {key : String} {op : Connective} :
    ofKey? key = some op ↔ key = op.name := by
  constructor
  · unfold ofKey?
    intro h
    split at h
    · next hk => cases h; exact hk
    split at h
    · next hk => cases h; exact hk
    split at h
    · next hk => cases h; exact hk
    cases h
  · rintro rfl
    cases op <;> decide

end CloudSearch.Filter
