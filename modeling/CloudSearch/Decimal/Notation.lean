import CloudSearch.Decimal.Shortest

/-!
# Written forms of doubles

A double is written with the digits of its shortest decimal. What else there is to decide (where
scientific notation begins, whether a whole number has a point, which way ties go) is collected
in a `Layout`: `plain` for query text and messages, `json` for JSON documents.
-/

namespace CloudSearch.Decimal

/-- How the digits of a decimal are laid out. -/
structure Layout where
  /-- Decides between two shortest decimals at the same distance. -/
  tie : Tie
  /-- Stands behind a whole number. -/
  wholeMark : String
  /-- Numbers whose leading digit has this power of ten are written without an exponent. -/
  positional : Int → Bool

/-- Never an exponent, no point in whole numbers, and ties go up. -/
def plain : Layout where
  tie := .upward
  wholeMark := ""
  positional _ := true

/-- Whole numbers end in `.0`, numbers below `10 ^ -5` and from `10 ^ 16` on have an exponent, and
ties go to the even digit. -/
def json : Layout where
  tie := .toEven
  wholeMark := ".0"
  positional e := decide (-5 ≤ e) && decide (e < 16)

/-- The digits written out in place. -/
def Layout.inPlace (l : Layout) (digits : List Char) (exponent : Int) : String :=
  let point : Int := digits.length + exponent
  if 0 ≤ exponent then
    String.ofList (digits ++ List.replicate exponent.toNat '0') ++ l.wholeMark
  else if 0 < point then
    String.ofList (digits.take point.toNat) ++ "." ++ String.ofList (digits.drop point.toNat)
  else
    "0." ++ String.ofList (List.replicate (-point).toNat '0' ++ digits)

/-- The digits with a point behind the first of them, and the power of ten of that digit. -/
def scientific (digits : List Char) (leading : Int) : String :=
  let fraction := if digits.length ≤ 1 then "" else "." ++ String.ofList (digits.drop 1)
  let power := if leading < 0 then "e-" ++ toString leading.natAbs else "e+" ++ toString leading.natAbs
  String.ofList (digits.take 1) ++ fraction ++ power

/-- A decimal without its sign. -/
def Layout.decimal (l : Layout) (d : Scaled) : String :=
  let digits := Nat.toDigits 10 d.coefficient
  let leading : Int := d.exponent + digits.length - 1
  if l.positional leading then l.inPlace digits d.exponent else scientific digits leading

/-- The written form of a double. -/
def Layout.float (l : Layout) (x : Float) : String :=
  let b := Binary.ofFloat x
  let sign := if b.negative then "-" else ""
  if x.isNaN then "NaN"
  else if x.isInf then sign ++ "inf"
  else sign ++ l.decimal (b.shortest l.tie)

end CloudSearch.Decimal
