import CloudSearch.Text.Character
import CloudSearch.Text.LowerCase

/-!
# Names of search domains

A domain is named after a model: the words of the model's name are parted by underscores and
written in lower case, and the scope it belongs to goes in front. The domain's id stands in the host name of its
search endpoint.
-/

namespace CloudSearch.Domain

/-- An upper-case letter of ASCII. -/
def isCapital (c : Char) : Bool :=
  c.isUpper

/-- A lower-case letter of ASCII. -/
def isSmall (c : Char) : Bool :=
  c.isLower

/-- A character that a run of capitals is made of. -/
def isCapitalOrDigit (c : Char) : Bool :=
  isCapital c || Text.isDecimalDigit c

/-- Parts the last capital of a run from the characters before it, if there are any. -/
def partLast : List Char → List Char
  | [] => []
  | [x] => [x]
  | [x, y] => if isCapital y then [x, '_', y] else [x, y]
  | x :: rest => x :: partLast rest

/-- Parts acronyms from the words behind them: in a run of capitals and digits before a small
letter, the last capital begins a word. -/
def partAcronyms (run : List Char) : List Char → List Char
  | [] => run.reverse
  | c :: rest =>
    if isCapitalOrDigit c then partAcronyms (c :: run) rest
    else (if isSmall c then partLast run.reverse else run.reverse) ++ c :: partAcronyms [] rest

/-- Parts a small letter or a digit from the capital behind it. -/
def partWords : List Char → List Char
  | x :: y :: rest =>
    if (isSmall x || Text.isDecimalDigit x) && isCapital y then x :: '_' :: y :: partWords rest
    else x :: partWords (y :: rest)
  | cs => cs

/-- Writes a slash for two colons and an underscore for a dash. -/
def replaceMarks : List Char → List Char
  | ':' :: ':' :: rest => '/' :: replaceMarks rest
  | c :: rest => (if c = '-' then '_' else c) :: replaceMarks rest
  | [] => []

/-- The name with its words parted by underscores, in lower case. -/
def underscore (name : String) : String :=
  String.ofList (Text.lowerCase (replaceMarks (partWords (partAcronyms [] name.toList))))

/-- Writes a dash for the first underscore. -/
def dashFirst : List Char → List Char
  | [] => []
  | c :: rest => if c = '_' then '-' :: rest else c :: dashFirst rest

/-- The name of the domain for a model in a scope. -/
def safeName (scope model : String) : String :=
  scope ++ "-" ++ String.ofList (dashFirst (underscore model).toList)

/-- What follows the first `://`, or all of it where there is none. -/
def afterScheme (cs : List Char) : List Char :=
  let rec find : List Char → Option (List Char)
    | ':' :: '/' :: '/' :: rest => some rest
    | _ :: rest => find rest
    | [] => none
  (find cs).getD cs

/-- How the host names of search endpoints begin. -/
def hostPrefix : List Char := ['s', 'e', 'a', 'r', 'c', 'h', '-']

/-- The id of the domain that a search endpoint belongs to. -/
def idOfEndpoint? (endpoint : String) : Option String :=
  let label := (afterScheme endpoint.toList).takeWhile (· != '.')
  if hostPrefix.isPrefixOf label && hostPrefix.length < label.length then
    some (String.ofList (label.drop hostPrefix.length))
  else none

end CloudSearch.Domain
