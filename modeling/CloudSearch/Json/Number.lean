import CloudSearch.Decimal.Notation

/-!
# JSON numbers

A number is an integer that a signed or an unsigned 64-bit word holds, or a finite double. The
two kinds are kept apart: `1` is an integer and `1.0` a double.
-/

namespace CloudSearch

/-- An integer that a signed or an unsigned 64-bit word holds. -/
structure WordInt where
  val : Int
  low : -0x8000000000000000 ≤ val
  high : val < 0x10000000000000000
deriving DecidableEq, Repr

/-- A double that is neither infinite nor the result of an undefined operation. -/
structure FiniteFloat where
  val : Float
  finite : val.isFinite = true
deriving DecidableEq, Repr

namespace WordInt

/-- A signed word. -/
def ofInt64 (i : Int64) : WordInt :=
  ⟨i.toInt, by have := i.le_toInt; omega, by have := i.toInt_lt; omega⟩

/-- An unsigned word. -/
def ofUInt64 (n : UInt64) : WordInt :=
  ⟨n.toNat, by omega, by have := n.toNat_lt; omega⟩

/-- The integer as a signed word, if it is small enough for one. -/
def toInt64? (n : WordInt) : Option Int64 :=
  if n.val < 0x8000000000000000 then some (Int64.ofInt n.val) else none

/-- The integer as an unsigned word, if it is not negative. -/
def toUInt64? (n : WordInt) : Option UInt64 :=
  if 0 ≤ n.val then some (UInt64.ofNat n.val.toNat) else none

/-- The decimal digits of the integer, behind a minus sign if it is negative. -/
def text (n : WordInt) : String :=
  toString n.val

theorem toInt64?_ofInt64 (i : Int64) : (ofInt64 i).toInt64? = some i := by
  have small : i.toInt < 0x8000000000000000 := i.toInt_lt
  simp only [ofInt64, toInt64?, Int64.ofInt_toInt, if_pos small]

theorem toUInt64?_ofUInt64 (n : UInt64) : (ofUInt64 n).toUInt64? = some n := by
  simp [ofUInt64, toUInt64?]

theorem ofInt64_of_toInt64? {n : WordInt} {i : Int64} (h : n.toInt64? = some i) : ofInt64 i = n := by
  obtain ⟨v, low, high⟩ := n
  simp only [toInt64?] at h
  split at h
  · next hv =>
    cases h
    simp only [ofInt64, mk.injEq]
    exact Int64.toInt_ofInt_of_le (by simpa using low) (by simpa using hv)
  · cases h

theorem ofUInt64_of_toUInt64? {n : WordInt} {w : UInt64} (h : n.toUInt64? = some w) :
    ofUInt64 w = n := by
  obtain ⟨v, low, high⟩ := n
  simp only [toUInt64?] at h
  split at h
  · next hv =>
    cases h
    simp only [ofUInt64, mk.injEq]
    have small : v.toNat < 2 ^ 64 := by omega
    rw [UInt64.toNat_ofNat_of_lt' small, Int.toNat_of_nonneg hv]
  · cases h

end WordInt

namespace Json

/-- A number of a JSON document. -/
inductive Number
  | integer (n : WordInt)
  | float (x : FiniteFloat)
deriving DecidableEq, Repr

/-- The number as it is written. -/
def Number.text : Number → String
  | .integer n => n.text
  | .float x => Decimal.json.float x.val

end Json

end CloudSearch
