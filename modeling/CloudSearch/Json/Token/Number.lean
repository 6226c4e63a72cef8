import CloudSearch.Json.Numeral

/-!
# Reading numbers one character at a time

A `NumeralScan` is a number read in part: what has been read of it and where in the number the
next character stands. A number has no leading zeros, and a digit on each side of its point and in
its exponent.
-/

namespace CloudSearch.Json

/-- Where in a number the next character stands. -/
inductive NumeralPlace
  /-- Behind the minus sign. -/
  | sign
  /-- Behind a digit before the point. -/
  | whole
  /-- Behind the point. -/
  | point
  /-- Behind a digit after the point. -/
  | fraction
  /-- Behind the letter of the exponent. -/
  | mark
  /-- Behind the sign of the exponent. -/
  | markSign
  /-- Behind a digit of the exponent. -/
  | exponent
deriving DecidableEq, Repr

/-- A number read in part. -/
structure NumeralScan where
  place : NumeralPlace
  read : Numeral
deriving DecidableEq, Repr

/-- What becomes of a number by one more character. -/
inductive NumeralScan.Step
  | more (s : NumeralScan)
  /-- The number has ended before the character. -/
  | done (read : Numeral)
  | malformed

namespace NumeralScan

/-- A number of which only the minus sign has been read. -/
def minus : NumeralScan :=
  ⟨.sign, ⟨true, [], none, none⟩⟩

/-- A number of which only one digit has been read. -/
def digit (d : Nat) : NumeralScan :=
  ⟨.whole, ⟨false, [d], none, none⟩⟩

/-- The digit that the character is. -/
def digit? (c : Char) : Option Nat :=
  if c.isDigit then some (c.toNat - 0x30) else none

/-- One more digit, where a digit may stand. -/
def pushDigit (s : NumeralScan) (d : Nat) : Step :=
  let x := s.read
  match s.place with
  | .sign => .more ⟨.whole, { x with whole := [d] }⟩
  | .whole => if x.whole = [0] then .malformed else .more ⟨.whole, { x with whole := x.whole ++ [d] }⟩
  | .point => .more ⟨.fraction, { x with fraction := some [d] }⟩
  | .fraction => .more ⟨.fraction, { x with fraction := x.fraction.map (· ++ [d]) }⟩
  | .mark => .more ⟨.exponent, { x with exponent := some (false, d) }⟩
  | .markSign => .more ⟨.exponent, { x with exponent := x.exponent.map fun e => (e.1, d) }⟩
  | .exponent => .more ⟨.exponent, { x with exponent := x.exponent.map fun e => (e.1, e.2 * 10 + d) }⟩

/-- The number may end here. -/
def complete (s : NumeralScan) : Bool :=
  match s.place with
  | .whole | .fraction | .exponent => true
  | _ => false

/-- A character that belongs to no number, or that opens the next part of this one. -/
def pushMark (s : NumeralScan) (c : Char) : Step :=
  let x := s.read
  let isE := c == 'e' || c == 'E'
  match s.place with
  | .whole =>
    if c = '.' then .more ⟨.point, x⟩ else if isE then .more ⟨.mark, x⟩ else .done x
  | .fraction => if isE then .more ⟨.mark, x⟩ else .done x
  | .exponent => .done x
  | .mark =>
    if c = '+' then .more ⟨.markSign, { x with exponent := some (false, 0) }⟩
    else if c = '-' then .more ⟨.markSign, { x with exponent := some (true, 0) }⟩
    else .malformed
  | _ => .malformed

/-- Reads one more character. -/
def step (s : NumeralScan) (c : Char) : Step :=
  match digit? c with
  | some d => s.pushDigit d
  | none => s.pushMark c

end NumeralScan

end CloudSearch.Json
