import CloudSearch.Dialect
import CloudSearch.Filter.Clause
import CloudSearch.Text.Quoted

/-!
# The wire form of clauses

Groups are written the same way in both dialects, terms and ranges are not. The legacy dialect has
inclusive ranges only, so that an exclusive bound is written as the next integer inwards, where
there is one.
-/

namespace CloudSearch.Filter

/-- What a field is compared with, as it is written. -/
def Scalar.token : Scalar → String
  | .bool b => Text.quote (if b then "true" else "false")
  | .int i => toString i.toInt
  | .float x => Decimal.plain.float x
  | .text s => Text.quote s
  | .instant t => Text.quote t.text

/-- The end of a range as a value to compare with. -/
def Endpoint.scalar : Endpoint → Scalar
  | .int i => .int i
  | .float x => .float x
  | .text s => .text s
  | .instant t => .instant t

/-- The end of a range as it is written. -/
def Endpoint.token (e : Endpoint) : String :=
  e.scalar.token

/-- A term as it is written. -/
def termText (d : Dialect) (field : String) (v : Scalar) : String :=
  match d with
  | .legacy => field ++ ":" ++ v.token
  | .structured => "(term field=" ++ field ++ " " ++ v.token ++ ")"

/-- The integer next to an excluded one, towards the inside of a range. -/
def tighten? (side : Side) (i : Int64) : Option Int64 :=
  match side with
  | .lower => if i = Int64.maxValue then none else some (i + 1)
  | .upper => if i = Int64.minValue then none else some (i - 1)

/-- A bound as the legacy dialect writes it. -/
def Bound.legacyText (field : String) (side : Side) : Bound → Except CompileError String
  | .unbounded => .ok ""
  | .included e => .ok e.token
  | .excluded (.int i) => match tighten? side i with
    | some j => .ok (toString j.toInt)
    | none => .error (.exclusiveBound field side)
  | .excluded _ => .error (.exclusiveBound field side)

/-- The lower bound as the structured dialect writes it. -/
def Bound.lowerText : Bound → String
  | .unbounded => "\x7b"
  | .included e => "[" ++ e.token
  | .excluded e => "\x7b" ++ e.token

/-- The upper bound as the structured dialect writes it. -/
def Bound.upperText : Bound → String
  | .unbounded => "\x7d"
  | .included e => e.token ++ "]"
  | .excluded e => e.token ++ "\x7d"

/-- A range as it is written. -/
def rangeText (d : Dialect) (field : String) (r : Range) : Except CompileError String :=
  if r.isUnbounded then .error (.unboundedRange field)
  else match d with
    | .structured =>
      .ok ("(range field=" ++ field ++ " " ++ r.lower.lowerText ++ "," ++ r.upper.upperText ++ ")")
    | .legacy => do
      let lower ← r.lower.legacyText field .lower
      let upper ← r.upper.legacyText field .upper
      return field ++ ":" ++ lower ++ ".." ++ upper

/-- A group as it is written; a negation of several clauses is one of their conjunction. -/
def groupText (op : Connective) (children : List String) : String :=
  let inner := " ".intercalate children
  if op = .not ∧ 1 < children.length then "(not (and " ++ inner ++ "))"
  else "(" ++ op.name ++ " " ++ inner ++ ")"

mutual

/-- A clause as it is written. -/
def Clause.text (d : Dialect) : Clause → Except CompileError String
  | .group op children => do
    let texts ← clauseTexts d children
    return groupText op texts
  | .orShorthand _ clauses => do
    let texts ← clauseTexts d clauses
    return groupText .or texts
  | .anyOf _ clauses => do
    let texts ← clauseTexts d clauses
    return groupText .or texts
  | .term field v => .ok (termText d field v)
  | .range field r => rangeText d field r
  termination_by structural c => c

/-- Each of the clauses as it is written. -/
def clauseTexts (d : Dialect) : List Clause → Except CompileError (List String)
  | [] => .ok []
  | c :: rest => do
    let t ← c.text d
    let ts ← clauseTexts d rest
    return t :: ts
  termination_by structural cs => cs

end

/-- Clauses side by side as they are written. -/
def render (d : Dialect) (clauses : List Clause) : Except CompileError String := do
  let texts ← clauseTexts d clauses
  return " ".intercalate texts

/-- The wire form of an expression. -/
def Expression.compile (d : Dialect) (e : Expression) : Except CompileError String := do
  let clauses ← e.clauses
  render d clauses

/-- The one query that the structured dialect makes of a search term and clauses. Without clauses
it is the term as it stands; a blank term counts as none. -/
def structuredQuery (term : String) (clauses : List Clause) : Except CompileError String :=
  if clauses.isEmpty then .ok term
  else do
    let filter ← render .structured clauses
    if !Text.isBlankText term then return "(and " ++ Text.quote term ++ " " ++ filter ++ ")"
    else if 1 < clauses.length then return "(and " ++ filter ++ ")"
    else return filter

end CloudSearch.Filter
