import CloudSearch.Text.Character
import CloudSearch.Text.LowerCase.Table

/-!
# Lower case

Every letter goes to its lower-case letter, whatever its script. Two letters need more than a
table of single letters: the capital I with a dot becomes an i and a combining dot, and the
capital sigma becomes a final sigma at the end of a word, which is where a cased letter stands
before it and none after it once the case-ignorable characters in between are passed over.
-/

namespace CloudSearch.Text

/-- The lower-case letters of one character that stands by itself. -/
def lowerCaseChar (c : Char) : List Char :=
  if c = '\u0130' then ['i', '\u0307']
  else match lowerCaseRuns.find? (·.has c.toNat) with
    | some r => [Char.ofNat (c.toNat + r.distance).toNat]
    | none => [c]

/-- The next character that is not case-ignorable is a cased letter. -/
def meetsCased (cs : List Char) : Bool :=
  match cs.dropWhile (inRanges caseIgnorableRanges) with
  | c :: _ => inRanges casedRanges c
  | [] => false

/-- Lower-cases `cs`, where `before` holds the characters in front of them, nearest first. -/
def lowerCaseFrom (before : List Char) : List Char → List Char
  | [] => []
  | c :: rest =>
    let lowered :=
      if c = 'Σ' then
        if meetsCased before && !meetsCased rest then ['ς'] else ['σ']
      else lowerCaseChar c
    lowered ++ lowerCaseFrom (c :: before) rest

/-- The characters in lower case. -/
def lowerCase (cs : List Char) : List Char :=
  lowerCaseFrom [] cs

end CloudSearch.Text
