import CloudSearch.Json.Number
import CloudSearch.Table

/-!
# JSON values

The members of an object keep their order. As they come from a document a name may stand there
more than once; `merged` gives such a name its first place and its last value, at every level.
-/

namespace CloudSearch

/-- A JSON value. -/
inductive Json
  | null
  | bool (b : Bool)
  | number (n : Json.Number)
  | text (s : String)
  | array (items : List Json)
  | object (members : List (String × Json))
deriving Inhabited

namespace Json

/-- The integer in a signed word. -/
def int (i : Int64) : Json :=
  .number (.integer (.ofInt64 i))

/-- The double, or null where it is not finite. -/
def float (x : Float) : Json :=
  if h : x.isFinite = true then .number (.float ⟨x, h⟩) else .null

mutual

/-- The value with repeated names merged at every level. -/
def merged : Json → Json
  | .null => .null
  | .bool b => .bool b
  | .number n => .number n
  | .text s => .text s
  | .array items => .array (mergedItems items)
  | .object members =>
    .object ((mergedMembers members).foldl (fun ms m => Table.place m.1 m.2 ms) [])
  termination_by structural v => v

/-- Each of the values with repeated names merged. -/
def mergedItems : List Json → List Json
  | [] => []
  | v :: rest => v.merged :: mergedItems rest
  termination_by structural vs => vs

/-- Each of the members with repeated names merged inside its value. -/
def mergedMembers : List (String × Json) → List (String × Json)
  | [] => []
  | (name, v) :: rest => (name, v.merged) :: mergedMembers rest
  termination_by structural ms => ms

end

mutual

/-- How many containers stand inside one another in the value. -/
def depth : Json → Nat
  | .array items => itemsDepth items + 1
  | .object members => membersDepth members + 1
  | _ => 0
  termination_by structural v => v

/-- The greatest depth among the values. -/
def itemsDepth : List Json → Nat
  | [] => 0
  | v :: rest => max v.depth (itemsDepth rest)
  termination_by structural vs => vs

/-- The greatest depth among the values of the members. -/
def membersDepth : List (String × Json) → Nat
  | [] => 0
  | (_, v) :: rest => max v.depth (membersDepth rest)
  termination_by structural ms => ms

end

end Json

end CloudSearch
