import CloudSearch.Json.Reader
import CloudSearch.Page.Hits

/-!
# Reading responses

A response has one known member, `hits`, and this has `found`, `start` and `hit`, which may be
missing. Unknown members are passed over, known ones may not be repeated. Both objects may also be
arrays of their members in order. A hit is an id, or an object with an `id` and, as objects or
null, `data` and `fields`.
-/

namespace CloudSearch

open Json (Draft Fault)

/-- The table of fields that a JSON value is, where null stands for none. -/
def optionalFields? : Json → Option (Option HitFields)
  | .null => some none
  | .object members => some (some (.ofList (Json.mergedMembers members)))
  | _ => none

/-- The fields under a name that may be missing but not repeated. -/
def fieldsUnder? (name : String) (members : List (String × Json)) : Option (Option HitFields) :=
  match members.filter (·.1 == name) with
  | [] => some none
  | [m] => optionalFields? m.2
  | _ => none

/-- The hit that a JSON value is. -/
def Hit.ofJson? : Json → Option Hit
  | .text id => some { id }
  | .object members => do
    match members.filter (·.1 == "id") with
    | [(_, .text id)] =>
      return { id, data := ← fieldsUnder? "data" members, fields := ← fieldsUnder? "fields" members }
    | _ => none
  | _ => none

/-- Reads a hit, in which so many containers may stand in one another. -/
def readHit (room : Nat) (d : Draft) : Except Fault Hit := do
  let v ← d.value room
  match Hit.ofJson? v with
  | some h => return h
  | none => throw .unexpected

/-- Reads the list of hits. It is the third container of a response. -/
def readHits : Draft → Except Fault (List Hit) :=
  Draft.arrayOf (readHit (Json.maxDepth - 3))

/-- What has been read of the member `hits`. -/
structure ResultParts where
  found : Option UInt64 := none
  start : Option UInt64 := none
  hits : Option (List Hit) := none

/-- Reads one more member of `hits`. -/
def ResultParts.step (p : ResultParts) (name : String) (d : Draft) : Except Fault ResultParts :=
  if name = "found" then
    if p.found.isSome then .error .unexpected
    else do
      let n ← d.uint64?
      return { p with found := some n }
  else if name = "start" then
    if p.start.isSome then .error .unexpected
    else do
      let n ← d.uint64?
      return { p with start := some n }
  else if name = "hit" then
    if p.hits.isSome then .error .unexpected
    else do
      let hits ← readHits d
      return { p with hits := some hits }
  else do
    d.skip
    return p

/-- The response of what has been read; what is missing is zero or empty. -/
def ResultParts.response (p : ResultParts) : Response :=
  ⟨p.found.getD 0, p.start.getD 0, p.hits.getD []⟩

/-- Reads the items of an array that gives the members of `hits` in order. -/
def readResultItems : List Draft → Except Fault ResultParts
  | [] => .ok {}
  | [found] => do
    return { found := ← found.uint64? }
  | [found, start] => do
    return { found := ← found.uint64?, start := ← start.uint64? }
  | found :: start :: hits :: rest => do
    let p : ResultParts :=
      { found := ← found.uint64?, start := ← start.uint64?, hits := ← readHits hits }
    if rest.isEmpty then return p else throw .malformed

/-- Reads the member `hits`. -/
def readResult : Draft → Except Fault Response
  | .object members closed => do
    let p ← Draft.foldMembers ResultParts.step {} members
    if closed then return p.response else throw .malformed
  | .array items closed => do
    let p ← readResultItems items
    if closed then return p.response else throw .malformed
  | d => .error d.misfit

/-- Reads one more member of a response. -/
def Response.step (r : Option Response) (name : String) (d : Draft) :
    Except Fault (Option Response) :=
  if name = "hits" then
    if r.isSome then .error .unexpected
    else some <$> readResult d
  else do
    d.skip
    return r

/-- Reads a response. -/
def readResponse : Draft → Except Fault Response
  | .object members closed => do
    let r ← Draft.foldMembers Response.step none members
    if !closed then throw .malformed
    match r with
    | some r => return r
    | none => throw .unexpected
  | .array [] closed => .error (if closed then .unexpected else .malformed)
  | .array (hits :: rest) closed => do
    let r ← readResult hits
    if rest.isEmpty && closed then return r else throw .malformed
  | d => .error d.misfit

/-- Reads the text of a response. -/
def Response.ofText (body : String) : Except Fault Response :=
  (Json.Document.ofText body).read readResponse

/-- The page that the text of a response holds when so many hits were asked for, or what is wrong with
the text. There is neither where the start of the response stops the program. -/
def Page.ofText (body : String) (size : UInt64) : Option (Except Fault (Page Hits)) :=
  match Response.ofText body with
  | .error f => some (.error f)
  | .ok r => (r.page size).map .ok

end CloudSearch
