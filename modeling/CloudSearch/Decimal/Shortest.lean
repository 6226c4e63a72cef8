import CloudSearch.Decimal.Binary

/-!
# The shortest decimal that reads back

The decimals that round to a given double fill an interval around it, which contains its ends
exactly when the mantissa is even. The shortest decimal of the double is the point of this
interval on the coarsest grid of multiples of a power of ten that has one, and of several such
points the nearest to the double.
-/

namespace CloudSearch.Decimal

/-- The decimal `coefficient * 10 ^ exponent`. -/
structure Scaled where
  coefficient : Nat
  exponent : Int
deriving DecidableEq, Repr

/-- Which of two decimals at the same distance from a double is its shortest decimal. -/
inductive Tie
  | upward
  | toEven
deriving DecidableEq, Repr

/-- The part of a double's interval that concerns multiples of one power of ten, as whole numbers:
the double is `value / unit` of these multiples, and everything between `low / unit` and
`high / unit` reads back as the double. -/
structure Grid where
  low : Nat
  value : Nat
  high : Nat
  unit : Nat
  closed : Bool

/-- The double `b` as seen from the multiples of `10 ^ k`. -/
def Grid.around (b : Binary) (k : Int) : Grid :=
  let scale := Nat.pow 2 (b.exponent - 2).toNat * Nat.pow 10 (-k).toNat
  { low := (4 * b.mantissa - if b.narrowBelow then 1 else 2) * scale
    value := 4 * b.mantissa * scale
    high := (4 * b.mantissa + 2) * scale
    unit := Nat.pow 2 (2 - b.exponent).toNat * Nat.pow 10 k.toNat
    closed := b.mantissa % 2 == 0 }

/-- The multiple numbered `n` reads back as the double. -/
def Grid.has (g : Grid) (n : Nat) : Bool :=
  if g.closed then decide (g.low ≤ n * g.unit) && decide (n * g.unit ≤ g.high)
  else decide (g.low < n * g.unit) && decide (n * g.unit < g.high)

/-- The multiple nearest to the double among those that read back as it. -/
def Grid.nearest? (g : Grid) (tie : Tie) : Option Nat :=
  let n := g.value / g.unit
  match g.has n, g.has (n + 1) with
  | false, false => none
  | true, false => some n
  | false, true => some (n + 1)
  | true, true =>
    let below := g.value - n * g.unit
    let above := (n + 1) * g.unit - g.value
    if below < above then some n
    else if above < below then some (n + 1)
    else match tie with
      | .upward => some (n + 1)
      | .toEven => some (if n % 2 = 0 then n else n + 1)

/-- A power of ten above every decimal that reads back as the double. -/
def Binary.topExponent (b : Binary) : Int :=
  ((Nat.log2 b.mantissa : Int) + b.exponent + 2) * 30103 / 100000 + 1

/-- The shortest decimal of a double other than zero. Some grid among the first 24 below the top
has a point, since seventeen digits always tell a double from its neighbours. -/
def Binary.shortest (tie : Tie) (b : Binary) : Scaled :=
  let exponents := (List.range 24).map fun (i : Nat) => b.topExponent - i
  let point := exponents.findSome? fun k =>
    ((Grid.around b k).nearest? tie).map fun n => Scaled.mk n k
  if b.mantissa = 0 then ⟨0, 0⟩ else point.getD ⟨0, 0⟩

end CloudSearch.Decimal
