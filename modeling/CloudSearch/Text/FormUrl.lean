import CloudSearch.Text.Character

/-!
# Form encoding of query strings

Letters, digits and the marks `-`, `.`, `_` and `~` stand for themselves, a space is written as a
plus sign, and every other character as the bytes of its UTF-8 form, each a percent sign and two
upper-case hexadecimal digits. `encodePairs` joins encoded keys and values into a query string
and `decodePairs` takes one apart again.
-/

namespace CloudSearch.Text.FormUrl

/-- The character stands for itself. -/
def isUnreserved (c : Char) : Bool :=
  c.isAlphanum || c == '-' || c == '.' || c == '_' || c == '~'

/-- A percent sign and the two digits of the byte. -/
def percent (b : UInt8) : List Char :=
  ['%', upperHexDigit (b.toNat / 16), upperHexDigit (b.toNat % 16)]

/-- The encoded form of one character. -/
def encodeChar (c : Char) : List Char :=
  if isUnreserved c then [c]
  else if c = ' ' then ['+']
  else (String.utf8EncodeChar c).flatMap percent

/-- The encoded form of a text. -/
def encode (s : String) : String :=
  String.ofList (s.toList.flatMap encodeChar)

/-- The bytes that an encoded text stands for, or nothing where a percent sign has no two digits
after it. -/
def decodeBytes : List Char → Option (List UInt8)
  | [] => some []
  | '%' :: a :: b :: rest => do
    let high ← hexValue? a
    let low ← hexValue? b
    let bytes ← decodeBytes rest
    return UInt8.ofNat (16 * high + low) :: bytes
  | c :: rest =>
    if c = '%' then none
    else if c = '+' then (decodeBytes rest).map (0x20 :: ·)
    else (decodeBytes rest).map (String.utf8EncodeChar c ++ ·)

/-- The text that an encoded text stands for. -/
def decode (cs : List Char) : Option String := do
  let bytes ← decodeBytes cs
  String.fromUTF8? bytes.toByteArray

/-- The query string that carries the pairs in their order. -/
def encodePairs (pairs : List (String × String)) : String :=
  "&".intercalate (pairs.map fun p => encode p.1 ++ "=" ++ encode p.2)

/-- The pieces of a text between the characters `mark`. -/
def splitAt (mark : Char) : List Char → List (List Char)
  | [] => [[]]
  | c :: rest =>
    if c = mark then [] :: splitAt mark rest
    else match splitAt mark rest with
      | piece :: pieces => (c :: piece) :: pieces
      | [] => [[c]]

/-- The key and the value of one piece of a query string, parted at its first equals sign. -/
def decodePair (piece : List Char) : Option (String × String) := do
  let key ← decode (piece.takeWhile (· != '='))
  let value ← decode ((piece.dropWhile (· != '=')).drop 1)
  return (key, value)

/-- The pairs that a query string carries. -/
def decodePairs (query : List Char) : Option (List (String × String)) :=
  (splitAt '&' query).mapM decodePair

end CloudSearch.Text.FormUrl
