import CloudSearch.Json.Basic
import CloudSearch.Json.Draft

/-!
# Reading values out of a draft

Reading goes through a draft in the order of the document and stops at the first fault: `malformed`
where the document is no JSON, `unexpected` where it is JSON of another shape than asked for.
Containers may stand in one another up to `maxDepth` deep. Parts that nobody asks for are skipped;
they need to follow the grammar but may be nested to any depth and may hold numbers and strings
that stand for no value.
-/

namespace CloudSearch.Json

/-- Why a document cannot be read. -/
inductive Fault
  | malformed
  | unexpected
deriving DecidableEq, Repr

/-- How many containers may stand in one another. -/
def maxDepth : Nat := 127

namespace Draft

mutual

/-- The value of the draft, in which at most `room` containers may stand in one another. -/
def value (room : Nat) : Draft → Except Fault Json
  | .absent => .error .malformed
  | .null => .ok .null
  | .bool b => .ok (.bool b)
  | .number none => .error .malformed
  | .number (some n) => .ok (.number n)
  | .text none => .error .malformed
  | .text (some s) => .ok (.text s)
  | .array items closed =>
    if room = 0 then .error .malformed
    else do
      let vs ← values (room - 1) items
      if closed then .ok (.array vs) else .error .malformed
  | .object members closed =>
    if room = 0 then .error .malformed
    else do
      let ms ← memberValues (room - 1) members
      if closed then .ok (.object ms) else .error .malformed
  termination_by structural d => d

/-- The values of the drafts. -/
def values (room : Nat) : List Draft → Except Fault (List Json)
  | [] => .ok []
  | d :: rest => do
    let v ← d.value room
    let vs ← values room rest
    return v :: vs
  termination_by structural ds => ds

/-- The members with their values. -/
def memberValues (room : Nat) : List (Option String × Draft) → Except Fault (List (String × Json))
  | [] => .ok []
  | (none, _) :: _ => .error .malformed
  | (some name, d) :: rest => do
    let v ← d.value room
    let ms ← memberValues room rest
    return (name, v) :: ms
  termination_by structural ms => ms

end

mutual

/-- The draft follows the grammar to its end. -/
def whole : Draft → Bool
  | .absent => false
  | .array items closed => wholeItems items && closed
  | .object members closed => wholeMembers members && closed
  | _ => true
  termination_by structural d => d

/-- All of the drafts follow the grammar. -/
def wholeItems : List Draft → Bool
  | [] => true
  | d :: rest => d.whole && wholeItems rest
  termination_by structural ds => ds

/-- The values of all members follow the grammar. -/
def wholeMembers : List (Option String × Draft) → Bool
  | [] => true
  | (_, d) :: rest => d.whole && wholeMembers rest
  termination_by structural ms => ms

end

/-- Passes over a part that nobody asks for. -/
def skip (d : Draft) : Except Fault Unit :=
  if d.whole then .ok () else .error .malformed

/-- The fault of a draft that is asked for something it is not. -/
def misfit : Draft → Fault
  | .absent | .number none | .text none => .malformed
  | _ => .unexpected

/-- The text that the draft is. -/
def text? : Draft → Except Fault String
  | .text (some s) => .ok s
  | d => .error d.misfit

/-- The unsigned word that the draft is. -/
def uint64? : Draft → Except Fault UInt64
  | .number (some (.integer n)) => match n.toUInt64? with
    | some w => .ok w
    | none => .error .unexpected
  | d => .error d.misfit

/-- Reads the members of an object in order. -/
def foldMembers {σ : Type} (step : σ → String → Draft → Except Fault σ) (s : σ) :
    List (Option String × Draft) → Except Fault σ
  | [] => .ok s
  | (none, _) :: _ => .error .malformed
  | (some name, d) :: rest => do
    let s' ← step s name d
    foldMembers step s' rest

/-- Reads the items of an array in order. -/
def arrayOf {α : Type} (item : Draft → Except Fault α) : Draft → Except Fault (List α)
  | .array items closed => do
    let as ← items.mapM item
    if closed then return as else throw .malformed
  | d => .error d.misfit

end Draft

/-- Reads a document by reading its value, behind which nothing else may stand. -/
def Document.read {α : Type} (d : Document) (reader : Draft → Except Fault α) : Except Fault α := do
  let a ← reader d.root
  if d.ended then return a else throw .malformed

/-- The value that a text is the JSON document of. -/
def parse (s : String) : Except Fault Json := do
  let v ← (Document.ofText s).read (Draft.value maxDepth)
  return v.merged

end CloudSearch.Json
