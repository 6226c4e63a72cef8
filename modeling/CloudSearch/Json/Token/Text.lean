import CloudSearch.Text.Character

/-!
# Reading strings one character at a time

A `TextScan` is what is known of a string behind its opening quote. A character outside the basic
plane may be escaped as two surrogates; a surrogate without its partner leaves the string well
formed, but then the string stands for no text.
-/

namespace CloudSearch.Json

/-- What the next character of a string belongs to. -/
inductive TextMode
  /-- The string itself. -/
  | plain
  /-- An escape, right behind its backslash. -/
  | escape
  /-- An escape by code: so many digits are due, and those before them have this value. -/
  | code (due value : Nat)
deriving DecidableEq, Repr

/-- A string read in part. -/
structure TextScan where
  /-- The characters so far, last first. -/
  before : List Char := []
  /-- The leading surrogate that has just been read and waits for its partner. -/
  pending : Option Nat := none
  /-- Every surrogate so far has its partner or may still get it. -/
  sound : Bool := true
  mode : TextMode := .plain
deriving DecidableEq, Repr

/-- What becomes of a string by one more character. -/
inductive TextScan.Step
  | more (s : TextScan)
  /-- The string has ended; it stands for the text, if for any. -/
  | done (text : Option String)
  | malformed

namespace TextScan

/-- One more character of the text. A surrogate that waits can no longer get its partner. -/
def push (s : TextScan) (c : Char) : TextScan :=
  { before := c :: s.before, pending := none, sound := s.sound && s.pending.isNone, mode := .plain }

/-- One more escaped code unit. -/
def pushUnit (s : TextScan) (unit : Nat) : TextScan :=
  let leading := decide (0xD800 ≤ unit) && decide (unit < 0xDC00)
  let trailing := decide (0xDC00 ≤ unit) && decide (unit < 0xE000)
  match s.pending with
  | some high =>
    if trailing then
      { s with
        before := Char.ofNat (0x10000 + (high - 0xD800) * 0x400 + (unit - 0xDC00)) :: s.before
        pending := none, mode := .plain }
    else { s with pending := none, sound := false, mode := .plain }
  | none =>
    if leading then { s with pending := some unit, mode := .plain }
    else if trailing then { s with sound := false, mode := .plain }
    else s.push (Char.ofNat unit)

/-- The character that a backslash and `c` stand for. -/
def unescape? (c : Char) : Option Char :=
  match c with
  | '"' => some '"'
  | '\\' => some '\\'
  | '/' => some '/'
  | 'b' => some '\x08'
  | 'f' => some '\x0c'
  | 'n' => some '\n'
  | 'r' => some '\r'
  | 't' => some '\t'
  | _ => none

/-- The text of a string that has ended. -/
def text? (s : TextScan) : Option String :=
  if s.sound && s.pending.isNone then some (String.ofList s.before.reverse) else none

/-- Reads one more character. -/
def step (s : TextScan) (c : Char) : Step :=
  match s.mode with
  | .plain =>
    if c = '"' then .done s.text?
    else if c = '\\' then .more { s with mode := .escape }
    else if c.toNat < 0x20 then .malformed
    else .more (s.push c)
  | .escape =>
    if c = 'u' then .more { s with mode := .code 4 0 }
    else match unescape? c with
      | some d => .more (s.push d)
      | none => .malformed
  | .code due value =>
    match Text.hexValue? c with
    | some d =>
      if due ≤ 1 then .more (s.pushUnit (value * 16 + d))
      else .more { s with mode := .code (due - 1) (value * 16 + d) }
    | none => .malformed

end TextScan

end CloudSearch.Json
