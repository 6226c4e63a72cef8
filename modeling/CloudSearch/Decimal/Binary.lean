/-!
# Doubles as whole multiples of powers of two

A finite double is a whole number of up to 53 bits times a power of two. `Binary.ofFloat` reads
both off the bits of the double; all exact arithmetic on doubles starts from here. So does rounding:
`nearestWhole` goes to the nearest whole number, a half away from zero, and `thousandths` to three
decimal places in the same manner.
-/

namespace CloudSearch.Decimal

/-- The number `mantissa * 2 ^ exponent`, negated if `negative`. -/
structure Binary where
  negative : Bool
  mantissa : Nat
  exponent : Int
deriving DecidableEq, Repr

/-- The value of a finite double; of the others only the sign means anything. -/
def Binary.ofFloat (x : Float) : Binary :=
  let bits := x.toBits.toNat
  let fraction : Nat := bits % 0x10000000000000
  let biased : Nat := bits / 0x10000000000000 % 0x800
  { negative := 0x8000000000000000 ≤ bits
    mantissa := if biased = 0 then fraction else 0x10000000000000 + fraction
    exponent := if biased = 0 then -1074 else (biased : Int) - 1075 }

/-- The next double towards zero is only half as far away as the next one in the other
direction. -/
def Binary.narrowBelow (b : Binary) : Bool :=
  b.mantissa == 0x10000000000000 && decide (-1074 < b.exponent)

/-- The whole number nearest to the double, with the double's sign; a half goes away from zero. -/
def nearestWhole (x : Float) : Float :=
  let b := Binary.ofFloat x
  if !x.isFinite || decide (0 ≤ b.exponent) then x
  else
    let unit := Nat.pow 2 (-b.exponent).toNat
    let whole := (UInt64.ofNat ((2 * b.mantissa + unit) / (2 * unit))).toFloat
    if b.negative then -whole else whole

/-- The double rounded to three decimal places. -/
def thousandths (x : Float) : Float :=
  nearestWhole (x * 1000) / 1000

end CloudSearch.Decimal
