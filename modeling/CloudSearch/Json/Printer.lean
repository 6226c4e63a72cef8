import CloudSearch.Json.Basic

/-!
# JSON text

The compact written form of a value: no blanks between tokens, members in their order, and in
strings only the quote, the backslash and the control characters below the space escaped.
-/

namespace CloudSearch.Json

/-- One character of a string as it is written. -/
def escape (c : Char) : List Char :=
  if c = '"' then ['\\', '"']
  else if c = '\\' then ['\\', '\\']
  else if c = '\x08' then ['\\', 'b']
  else if c = '\x0c' then ['\\', 'f']
  else if c = '\n' then ['\\', 'n']
  else if c = '\r' then ['\\', 'r']
  else if c = '\t' then ['\\', 't']
  else if c.toNat < 0x20 then
    ['\\', 'u', '0', '0', Nat.digitChar (c.toNat / 16), Nat.digitChar (c.toNat % 16)]
  else [c]

/-- A string with its quotes. -/
def quoteText (s : String) : String :=
  String.ofList ('"' :: (s.toList.flatMap escape ++ ['"']))

mutual

/-- The written form of a value. -/
def print : Json → String
  | .null => "null"
  | .bool true => "true"
  | .bool false => "false"
  | .number n => n.text
  | .text s => quoteText s
  | .array items => "[" ++ ",".intercalate (printItems items) ++ "]"
  | .object members => "\x7b" ++ ",".intercalate (printMembers members) ++ "\x7d"
  termination_by structural v => v

/-- The written forms of the values. -/
def printItems : List Json → List String
  | [] => []
  | v :: rest => v.print :: printItems rest
  termination_by structural vs => vs

/-- The written forms of the members, each a name, a colon and a value. -/
def printMembers : List (String × Json) → List String
  | [] => []
  | (name, v) :: rest => (quoteText name ++ ":" ++ v.print) :: printMembers rest
  termination_by structural ms => ms

end

end CloudSearch.Json
