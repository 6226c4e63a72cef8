import CloudSearch.Json.Token.Number
import CloudSearch.Json.Token.Text

/-!
# JSON tokens

`tokens` cuts a document into tokens, one character at a time and without looking ahead. Numbers
beyond the range of the doubles and strings with lone surrogates are tokens that stand for no
value. What cannot be a token ends the list with `malformed`.
-/

namespace CloudSearch.Json

/-- A token of a JSON document. -/
inductive Token
  | openArray
  | closeArray
  | openObject
  | closeObject
  | comma
  | colon
  | null
  | bool (b : Bool)
  | number (n : Option Number)
  | text (s : Option String)
  | malformed
deriving DecidableEq, Repr

/-- What of a token has been read. -/
inductive TokenScan
  | between
  /-- A word, of which these letters are still due. -/
  | word (due : List Char) (token : Token)
  | text (s : TextScan)
  | number (s : NumeralScan)

namespace TokenScan

/-- Reads a character where a token may begin: the token it is, if it is one by itself, and what is
open behind it, unless no token begins with it. -/
def start (c : Char) : List Token × Option TokenScan :=
  match c with
  | ' ' | '\t' | '\n' | '\r' => ([], some .between)
  | '[' => ([.openArray], some .between)
  | ']' => ([.closeArray], some .between)
  | '\x7b' => ([.openObject], some .between)
  | '\x7d' => ([.closeObject], some .between)
  | ',' => ([.comma], some .between)
  | ':' => ([.colon], some .between)
  | '"' => ([], some (.text {}))
  | '-' => ([], some (.number .minus))
  | 'n' => ([], some (.word ['u', 'l', 'l'] .null))
  | 't' => ([], some (.word ['r', 'u', 'e'] (.bool true)))
  | 'f' => ([], some (.word ['a', 'l', 's', 'e'] (.bool false)))
  | _ => match NumeralScan.digit? c with
    | some d => ([], some (.number (.digit d)))
    | none => ([], none)

/-- Reads one more character: the tokens that are complete by it, and what is open behind it. -/
def step (s : TokenScan) (c : Char) : List Token × Option TokenScan :=
  match s with
  | .between => start c
  | .word [] token => ([token], none)
  | .word [d] token => if c = d then ([token], some .between) else ([], none)
  | .word (d :: due) token => if c = d then ([], some (.word due token)) else ([], none)
  | .text s => match s.step c with
    | .more s' => ([], some (.text s'))
    | .done t => ([.text t], some .between)
    | .malformed => ([], none)
  | .number s => match s.step c with
    | .more s' => ([], some (.number s'))
    | .done x => (.number x.value? :: (start c).1, (start c).2)
    | .malformed => ([], none)

/-- The tokens that are left when the document ends. -/
def finish : TokenScan → List Token
  | .between => []
  | .number s => if s.complete then [.number s.read.value?] else [.malformed]
  | _ => [.malformed]

/-- The tokens of the rest of a document. -/
def tokens (s : TokenScan) : List Char → List Token
  | [] => s.finish
  | c :: rest => match s.step c with
    | (done, some s') => done ++ tokens s' rest
    | (done, none) => done ++ [.malformed]

end TokenScan

/-- The tokens of a document. -/
def tokens (document : List Char) : List Token :=
  TokenScan.between.tokens document

end CloudSearch.Json
