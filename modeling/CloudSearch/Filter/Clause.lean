import CloudSearch.Filter.Error
import CloudSearch.Text.Character

/-!
# Clauses

A clause is a filter with everything said out: groups with their connective, terms and ranges on a
named field, and the disjunctions that shorthands and lists stand for. `Expression.clauses` turns
an expression into its clauses, one for each entry that has a content. Nulls and blank texts have
none, nor have lists and groups in which nothing else stands. Shapes that no clause can have are
refused, the first of them in order.
-/

namespace CloudSearch.Filter

/-- What a field is compared with. -/
inductive Scalar
  | bool (b : Bool)
  | int (i : Int64)
  | float (x : Float)
  | text (s : String)
  | instant (t : Instant)
deriving DecidableEq, Repr

/-- A filter with everything said out. -/
inductive Clause
  /-- A connective over the children. -/
  | group (op : Connective) (children : List Clause)
  /-- The disjunction that the shorthand `name` stands for. -/
  | orShorthand (name : String) (clauses : List Clause)
  /-- The disjunction that a list under `field` stands for. -/
  | anyOf (field : String) (clauses : List Clause)
  | term (field : String) (value : Scalar)
  | range (field : String) (r : Range)
deriving Inhabited

/-- The clause of a value that is neither list nor expression, if it has a content. -/
def Value.leaf (field : String) : Value → Except CompileError (Option Clause)
  | .null => .ok none
  | .text s => .ok (if Text.isBlankText s then none else some (.term field (.text s)))
  | .bool b => .ok (some (.term field (.bool b)))
  | .int i => .ok (some (.term field (.int i)))
  | .float x =>
    if x.isFinite then .ok (some (.term field (.float x))) else .error (.nonFinite field)
  | .instant t => .ok (some (.term field (.instant t)))
  | .range r =>
    if r.isUnbounded then .error (.unboundedRange field)
    else if r.hasNonFinite then .error (.nonFinite field)
    else .ok (some (.range field r))
  | .list _ => .error (.nestedList field)
  | .expr _ => .error (.nestedExpression field)

/-- The clauses of the items of a list. -/
def listClauses (field : String) : List Value → Except CompileError (List Clause)
  | [] => .ok []
  | v :: rest => do
    let c ← v.leaf field
    let cs ← listClauses field rest
    return c.toList ++ cs

/-- The clause of a value under a field, if it has a content. A list with one item of content is
that item. -/
def Value.fieldClause (field : String) : Value → Except CompileError (Option Clause)
  | .list items => do
    match ← listClauses field items with
    | [] => return none
    | [c] => return some c
    | cs => return some (.anyOf field cs)
  | v => v.leaf field

/-- The clauses of a field in the shorthand `name`; those of a list are not grouped. -/
def Value.shorthandClauses (name field : String) : Value → Except CompileError (List Clause)
  | .expr _ => .error (.orShorthandShape name)
  | .list items => listClauses field items
  | v => do
    let c ← v.leaf field
    return c.toList

/-- The clauses of all fields in the shorthand `name`. -/
def shorthandClauses (name : String) : Expression → Except CompileError (List Clause)
  | [] => .ok []
  | (field, v) :: rest => do
    if field = "" then throw .emptyFieldName
    let cs ← v.shorthandClauses name field
    let others ← shorthandClauses name rest
    return cs ++ others

/-- The clause made of the given ones, unless there are none. -/
def unlessEmpty (wrap : List Clause → Clause) : List Clause → Option Clause
  | [] => none
  | cs => some (wrap cs)

mutual

/-- The clause of an entry, if it has a content. -/
def Value.clause (key : String) : Value → Except CompileError (Option Clause)
  | .expr entries =>
    match KeyKind.classify key (.expr entries) with
    | .operator op => do
      let children ← Expression.clauses entries
      return unlessEmpty (.group op) children
    | .orShorthand name terms => do
      let cs ← shorthandClauses name terms
      return unlessEmpty (.orShorthand name) cs
    | .field field => .error (.nestedExpression field)
  | v =>
    match KeyKind.classify key v with
    | .operator op => .error (.operatorNeedsExpression op)
    | _ => v.fieldClause key
  termination_by structural v => v

/-- The clauses of the entries that have a content, in order. -/
def Expression.clauses : Expression → Except CompileError (List Clause)
  | [] => .ok []
  | (key, v) :: rest => do
    if key = "" then throw .emptyFieldName
    let c ← v.clause key
    let cs ← Expression.clauses rest
    return c.toList ++ cs
  termination_by structural e => e

end

end CloudSearch.Filter
