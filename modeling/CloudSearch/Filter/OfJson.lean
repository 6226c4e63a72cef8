import CloudSearch.Filter.Error
import CloudSearch.Json.Printer
import CloudSearch.Json.Basic

/-!
# Filter expressions from JSON

An object is an expression with the same keys, and every JSON value has a filter value of its own
kind. Only integers may fail to have one: those above the range of a signed word are refused, the
first of them in the order of the document. `Value.toJson?` goes back.
-/

namespace CloudSearch.Filter

mutual

/-- The filter value of a JSON value. -/
def Value.ofJson : Json → Except CompileError Value
  | .null => .ok .null
  | .bool b => .ok (.bool b)
  | .number (.float x) => .ok (.float x.val)
  | .number (.integer n) => match n.toInt64? with
    | some i => .ok (.int i)
    | none => .error (.integerOutOfRange n.text)
  | .text s => .ok (.text s)
  | .array items => do
    let vs ← listOfJson items
    return .list vs
  | .object members => do
    let entries ← entriesOfJson members
    return .expr entries
  termination_by structural v => v

/-- The filter values of JSON values. -/
def listOfJson : List Json → Except CompileError (List Value)
  | [] => .ok []
  | v :: rest => do
    let w ← Value.ofJson v
    let ws ← listOfJson rest
    return w :: ws
  termination_by structural vs => vs

/-- The entries that the members of an object are. -/
def entriesOfJson : List (String × Json) → Except CompileError Expression
  | [] => .ok []
  | (name, v) :: rest => do
    let w ← Value.ofJson v
    let entries ← entriesOfJson rest
    return (name, w) :: entries
  termination_by structural ms => ms

end

/-- The expression that a JSON value is; only objects are expressions. -/
def Expression.ofJson : Json → Except CompileError Expression
  | .object members => entriesOfJson members
  | v => .error (.notAnExpression v.print)

mutual

/-- The JSON value of a filter value, where there is one: instants, ranges and numbers that are not
finite have none. -/
def Value.toJson? : Value → Option Json
  | .null => some .null
  | .bool b => some (.bool b)
  | .int i => some (.int i)
  | .float x => if h : x.isFinite = true then some (.number (.float ⟨x, h⟩)) else none
  | .text s => some (.text s)
  | .instant _ => none
  | .range _ => none
  | .list items => (listToJson? items).map .array
  | .expr entries => (entriesToJson? entries).map .object
  termination_by structural v => v

/-- The JSON values of filter values. -/
def listToJson? : List Value → Option (List Json)
  | [] => some []
  | v :: rest => do
    let w ← v.toJson?
    let ws ← listToJson? rest
    return w :: ws
  termination_by structural vs => vs

/-- The members that the entries of an expression are. -/
def entriesToJson? : List (String × Value) → Option (List (String × Json))
  | [] => some []
  | (name, v) :: rest => do
    let w ← v.toJson?
    let ms ← entriesToJson? rest
    return (name, w) :: ms
  termination_by structural es => es

end

end CloudSearch.Filter
