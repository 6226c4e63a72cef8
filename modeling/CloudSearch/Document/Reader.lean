import CloudSearch.Document.Operation
import CloudSearch.Json.Reader

/-!
# Reading batches of operations

An operation is an object whose member `type` names its kind and may stand anywhere; members that
the kind does not know are passed over. It may also be an array of its kind and its members in
their order.
-/

namespace CloudSearch.Document

open Json (Draft Fault)

/-- The kinds of operations. -/
inductive Kind
  | add
  | delete
deriving DecidableEq, Repr

/-- The kind that a draft names. -/
def readKind (d : Draft) : Except Fault Kind := do
  let s ← d.text?
  if s = "add" then return .add
  else if s = "delete" then return .delete
  else throw .unexpected

/-- The value of the only member with the given name. -/
def only? (name : String) (members : List (String × Json)) : Option Json :=
  match members.filter (·.1 == name) with
  | [m] => some m.2
  | _ => none

/-- The text that a JSON value is. -/
def text? : Json → Option String
  | .text s => some s
  | _ => none

/-- The version that a JSON value is. -/
def version? : Json → Option Int64
  | .number (.integer n) => n.toInt64?
  | _ => none

/-- The table of fields that a JSON value is. -/
def fields? : Json → Option (Table Json)
  | .object members => some (.ofList (Json.mergedMembers members))
  | _ => none

/-- The operation with the given parts. -/
def operation? (kind : Kind) (id version : Json) (rest : List Json) : Option Operation :=
  match kind, rest with
  | .add, [lang, fields] => do
    return .add (← text? id) (← version? version) (← text? lang) (← fields? fields)
  | .delete, [] => do
    return .delete (← text? id) (← version? version)
  | _, _ => none

/-- The operation of an object. -/
def Operation.ofMembers? (kind : Kind) (members : List (String × Json)) : Option Operation := do
  let id ← only? "id" members
  let version ← only? "version" members
  match kind with
  | .add =>
    let lang ← only? "lang" members
    let fields ← only? "fields" members
    operation? .add id version [lang, fields]
  | .delete => operation? .delete id version []

/-- The operation of an array behind its kind. -/
def Operation.ofItems? (kind : Kind) : List Json → Option Operation
  | id :: version :: rest => operation? kind id version rest
  | _ => none

/-- What has been read of the members of an operation. -/
structure Parts where
  kind : Option Kind := none
  members : List (String × Json) := []

/-- Reads one more member, in which so many containers may stand in one another. -/
def Parts.step (room : Nat) (p : Parts) (name : String) (d : Draft) : Except Fault Parts :=
  if name = "type" then
    if p.kind.isSome then .error .unexpected
    else do
      let kind ← readKind d
      return { p with kind := some kind }
  else do
    let v ← d.value room
    return { p with members := p.members ++ [(name, v)] }

/-- The operation with something wrong with its shape where there is none. -/
def required (o : Option Operation) : Except Fault Operation :=
  match o with
  | some o => .ok o
  | none => .error .unexpected

/-- Reads an operation, in whose members so many containers may stand in one another. -/
def readOperation (room : Nat) : Draft → Except Fault Operation
  | .object members closed => do
    let p ← Json.Draft.foldMembers (Parts.step room) {} members
    if !closed then throw .malformed
    required (p.kind.bind fun kind => Operation.ofMembers? kind p.members)
  | .array [] closed => .error (if closed then .unexpected else .malformed)
  | .array (kind :: items) closed => do
    let kind ← readKind kind
    let vs ← Json.Draft.values room items
    if !closed then throw .malformed
    required (Operation.ofItems? kind vs)
  | d => .error d.misfit

/-- Reads the operations of a batch. The batch and the operation are two containers. -/
def readBatch (s : String) : Except Fault (List Operation) :=
  (Json.Document.ofText s).read fun d =>
    d.arrayOf (readOperation (Json.maxDepth - 2))

end CloudSearch.Document
