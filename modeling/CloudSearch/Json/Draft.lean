import CloudSearch.Json.Token

/-!
# Drafts of JSON values

A document that is read in order may be refused for what stands early in it before anything is
known of the rest. A `Draft` is therefore built from any list of tokens: as a value as far as the
tokens follow the grammar, with `absent` where a value is due and none stands, and with every
container left open that the tokens do not close before the first fault.
-/

namespace CloudSearch.Json

/-- A JSON value as far as it can be read. -/
inductive Draft
  | absent
  | null
  | bool (b : Bool)
  | number (n : Option Number)
  | text (s : Option String)
  | array (items : List Draft) (closed : Bool)
  | object (members : List (Option String × Draft)) (closed : Bool)
deriving Inhabited

/-- A container that is open, with what has been read of it, last first. -/
inductive Frame
  | array (items : List Draft)
  | object (members : List (Option String × Draft))
  /-- An object of which the last name has no value yet. -/
  | member (members : List (Option String × Draft)) (name : Option String)

/-- What may come next. -/
inductive Due
  | value
  | valueOrEnd
  | separator
  | nameOrEnd
  | name
  | colon
  /-- Nothing: the document is complete. -/
  | nothing
deriving DecidableEq, Repr

/-- A document read in part: the open containers, innermost first, and, once none is open any more,
its value. -/
structure Assembly where
  frames : List Frame := []
  due : Due := .value
  root : Draft := .absent

namespace Assembly

/-- The value that has just ended goes into the innermost open container. -/
def put (frames : List Frame) (v : Draft) : Option Assembly :=
  match frames with
  | [] => some { frames := [], due := .nothing, root := v }
  | .array items :: outer => some { frames := .array (v :: items) :: outer, due := .separator }
  | .member members name :: outer =>
    some { frames := .object ((name, v) :: members) :: outer, due := .separator }
  | .object _ :: _ => none

/-- The token begins a value. -/
def value (frames : List Frame) : Token → Option Assembly
  | .null => put frames .null
  | .bool b => put frames (.bool b)
  | .number n => put frames (.number n)
  | .text s => put frames (.text s)
  | .openArray => some { frames := .array [] :: frames, due := .valueOrEnd }
  | .openObject => some { frames := .object [] :: frames, due := .nameOrEnd }
  | _ => none

/-- The token is the name of a member. -/
def name (frames : List Frame) (t : Token) : Option Assembly :=
  match frames, t with
  | .object members :: outer, .text s => some { frames := .member members s :: outer, due := .colon }
  | _, _ => none

/-- The token closes the innermost open container. -/
def close (frames : List Frame) (t : Token) : Option Assembly :=
  match frames, t with
  | .array items :: outer, .closeArray => put outer (.array items.reverse true)
  | .object members :: outer, .closeObject => put outer (.object members.reverse true)
  | _, _ => none

/-- The document with one more token, if the grammar allows the token here. -/
def step (a : Assembly) (t : Token) : Option Assembly :=
  match a.due with
  | .value => value a.frames t
  | .valueOrEnd => if t = .closeArray then close a.frames t else value a.frames t
  | .separator =>
    if t = .comma then match a.frames with
      | .array _ :: _ => some { a with due := .value }
      | .object _ :: _ => some { a with due := .name }
      | _ => none
    else close a.frames t
  | .nameOrEnd => if t = .closeObject then close a.frames t else name a.frames t
  | .name => name a.frames t
  | .colon => if t = .colon then some { a with due := .value } else none
  | .nothing => none

/-- The draft of the outermost container, where `inner` is what stands in the innermost one when
reading ends. -/
def abandon : List Frame → Option Draft → Draft
  | [], inner => inner.getD .absent
  | .array items :: outer, inner =>
    abandon outer (some (.array (inner.toList ++ items).reverse false))
  | .object members :: outer, _ => abandon outer (some (.object members.reverse false))
  | .member members name :: outer, inner =>
    abandon outer (some (.object ((name, inner.getD .absent) :: members).reverse false))

/-- The draft of a document of which no more can be read. -/
def draft (a : Assembly) : Draft :=
  if a.due = .nothing then a.root else abandon a.frames none

end Assembly

/-- What a document holds: its value and whether it ends there. -/
structure Document where
  root : Draft
  ended : Bool

/-- Reads the rest of a document. -/
def Assembly.run (a : Assembly) : List Token → Document
  | [] => ⟨a.draft, true⟩
  | t :: rest => match a.step t with
    | some a' => a'.run rest
    | none => ⟨a.draft, false⟩

/-- What the text of a document holds. -/
def Document.ofText (s : String) : Document :=
  Assembly.run {} (tokens s.toList)

end CloudSearch.Json
