/-!
# Page numbers

Pages are numbered from one and hold a fixed number of entries. The numbers are unsigned words, as
the service sends and expects them.
-/

namespace CloudSearch

/-- The greatest unsigned word. -/
def maxWord : UInt64 := 0xFFFFFFFFFFFFFFFF

/-- The product of two words, or the greatest word where that is too small for it. -/
def clampedMul (a b : UInt64) : UInt64 :=
  if a.toNat * b.toNat < 0x10000000000000000 then a * b else maxWord

/-- The word after a word, where there is one. -/
def successor? (n : UInt64) : Option UInt64 :=
  if n = maxWord then none else some (n + 1)

/-- The number of entries before a page. Page zero counts as the first. -/
def pageOffset (page size : UInt64) : UInt64 :=
  clampedMul (if page = 0 then 0 else page - 1) size

/-- The number of pages that so many entries fill; there is always a first page. -/
def pageCount (entries size : UInt64) : UInt64 :=
  let full := entries / size
  let pages := if entries % size = 0 then full else full + 1
  if pages = 0 then 1 else pages

theorem toNat_maxWord : maxWord.toNat = 0xFFFFFFFFFFFFFFFF := by
  decide

/-- A successor is one more, and there is none only where one more is no word. -/
theorem successor?_eq_some_iff {m n : UInt64} :
    successor? m = some n ↔ n.toNat = m.toNat + 1 := by
  have word := m.toNat_lt
  have word' := n.toNat_lt
  unfold successor?
  split
  · next greatest =>
    have number : m.toNat = 0xFFFFFFFFFFFFFFFF := by rw [greatest, toNat_maxWord]
    simp
    omega
  · next other =>
    have ne : m.toNat ≠ 0xFFFFFFFFFFFFFFFF :=
      fun same => other (UInt64.toNat_inj.1 (same.trans toNat_maxWord.symm))
    rw [Option.some.injEq, ← UInt64.toNat_inj, UInt64.toNat_add, UInt64.toNat_one,
      Nat.mod_eq_of_lt (by omega)]
    exact eq_comm

theorem toNat_clampedMul (a b : UInt64) :
    (clampedMul a b).toNat = min (a.toNat * b.toNat) 0xFFFFFFFFFFFFFFFF := by
  unfold clampedMul
  split
  · next h =>
    rw [UInt64.toNat_mul, Nat.mod_eq_of_lt h]
    omega
  · next h =>
    rw [toNat_maxWord]
    omega

end CloudSearch
