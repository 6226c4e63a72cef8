import CloudSearch.Json.Number

/-!
# Values of written numbers

The digits of a number are gathered into a significand for as long as it fits 64 bits. A number
written without fraction and exponent whose digits all fit is an integer, as far as a signed or an
unsigned word holds it; every other number is the significand, as a double, times or divided by a
power of ten. Dividing by more than `10 ^ 308` takes two steps.
-/

namespace CloudSearch.Json

/-- A number as it is written: the digits before and after its point, and its exponent as a sign
and a magnitude. -/
structure Numeral where
  negative : Bool
  whole : List Nat
  fraction : Option (List Nat)
  exponent : Option (Bool × Nat)
deriving DecidableEq, Repr

/-- Appends digits to a significand until one does not fit 64 bits any more; gives the significand
and the digits left over. -/
def gather : Nat → List Nat → Nat × List Nat
  | n, [] => (n, [])
  | n, d :: ds => if n * 10 + d < 0x10000000000000000 then gather (n * 10 + d) ds else (n, d :: ds)

/-- The double nearest to `10 ^ n`. -/
def powerOfTen (n : Nat) : Float :=
  OfScientific.ofScientific 1 false n

/-- The double `x`, below `2 ^ 64`, divided by `10 ^ n`. -/
def divideByPower (x : Float) (n : Nat) : Float :=
  if n ≤ 308 then x / powerOfTen n
  else if n ≤ 616 then x / powerOfTen 308 / powerOfTen (n - 308)
  else x / powerOfTen 308 / powerOfTen 308

/-- The double that is finite, as a number, with the given sign. -/
def finite? (negative : Bool) (x : Float) : Option Number :=
  let y := if negative then -x else x
  if h : y.isFinite = true then some (.float ⟨y, h⟩) else none

/-- The double for `significand * 10 ^ exponent`, unless it would be infinite. -/
def scaled? (negative : Bool) (significand : Nat) (exponent : Int) : Option Number :=
  let x := (UInt64.ofNat significand).toFloat
  if significand = 0 then finite? negative x
  else if exponent < 0 then finite? negative (divideByPower x exponent.natAbs)
  else if exponent ≤ 308 then finite? negative (x * powerOfTen exponent.natAbs)
  else none

/-- A number without fraction and exponent. Minus zero, and what is too low for a signed word, are
doubles. -/
def integral? (negative : Bool) (n : Nat) : Option Number :=
  if negative then
    if h : 0 < n ∧ n ≤ 0x8000000000000000 then some (.integer ⟨-n, by omega, by omega⟩)
    else scaled? true n 0
  else
    if h : n < 0x10000000000000000 then some (.integer ⟨n, by omega, by omega⟩) else scaled? false n 0

/-- The value of a written number, unless it is beyond the range of the doubles. -/
def Numeral.value? (x : Numeral) : Option Number :=
  let (whole, excess) := gather 0 x.whole
  let (significand, unread) := gather whole (x.fraction.getD [])
  let read := (x.fraction.getD []).length - unread.length
  let power : Int := match x.exponent with
    | none => 0
    | some (true, e) => -e
    | some (false, e) => e
  if x.fraction.isNone && x.exponent.isNone && excess.isEmpty then integral? x.negative whole
  else scaled? x.negative significand (excess.length - read + power)

end CloudSearch.Json
