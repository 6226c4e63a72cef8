import CloudSearch.Page.Basic

/-!
# Page numbers as natural numbers

The numbers of pages are words, and what is computed of them is right only as long as it fits. Here
each operation is read as one on natural numbers, with the bound that it needs where it needs one.
-/

namespace CloudSearch

theorem toNat_max_one (n : UInt64) : (max 1 n).toNat = max 1 n.toNat := by
  show (if (1 : UInt64) ≤ n then n else 1).toNat = max 1 n.toNat
  split
  · next le =>
    rw [UInt64.le_iff_toNat_le, UInt64.toNat_one] at le
    omega
  · next lt =>
    rw [UInt64.le_iff_toNat_le, UInt64.toNat_one] at lt
    rw [UInt64.toNat_one]
    omega

theorem max_one_eq_self {n : UInt64} (pos : 0 < n) : max 1 n = n := by
  have : 0 < n.toNat := UInt64.lt_iff_toNat_lt.1 pos
  apply UInt64.toNat_inj.1
  rw [toNat_max_one]
  omega

/-- Before a page stand the pages with lower numbers, as many entries as can be counted. -/
theorem toNat_pageOffset (page size : UInt64) :
    (pageOffset page size).toNat = min ((page.toNat - 1) * size.toNat) 0xFFFFFFFFFFFFFFFF := by
  have before : (if page = 0 then 0 else page - 1).toNat = page.toNat - 1 := by
    split
    · next zero =>
      subst zero
      rfl
    · next nonzero =>
      have ne : page.toNat ≠ 0 := fun zero => nonzero (UInt64.toNat_inj.1 zero)
      have le : 1 ≤ page := by
        rw [UInt64.le_iff_toNat_le, UInt64.toNat_one]
        omega
      rw [UInt64.toNat_sub_of_le _ _ le, UInt64.toNat_one]
  rw [pageOffset, toNat_clampedMul, before]

/-- Rounding up to whole pages adds one page at most, and that one can be counted. -/
theorem quotient_add_one_lt {entries size : UInt64} (uneven : entries % size ≠ 0) :
    entries.toNat / size.toNat + 1 < 0x10000000000000000 := by
  have word := entries.toNat_lt
  have parts : size.toNat * (entries.toNat / size.toNat) + entries.toNat % size.toNat =
      entries.toNat := Nat.div_add_mod _ _
  have rest : entries.toNat % size.toNat ≠ 0 := by
    intro none
    apply uneven
    apply UInt64.toNat_inj.1
    rw [UInt64.toNat_mod, none]
    rfl
  rcases Nat.eq_zero_or_pos size.toNat with zero | pos
  · rw [zero, Nat.div_zero]
    decide
  · have quotient_le : entries.toNat / size.toNat ≤ size.toNat * (entries.toNat / size.toNat) :=
      Nat.le_mul_of_pos_left _ pos
    omega

/-- The quotient as it is rounded up when pages are counted. -/
theorem toNat_roundedUp (entries : UInt64) {size : UInt64} (size_pos : 0 < size) :
    (if entries % size = 0 then entries / size else entries / size + 1).toNat =
      (entries.toNat + (size.toNat - 1)) / size.toNat := by
  have pos : 0 < size.toNat := UInt64.lt_iff_toNat_lt.1 size_pos
  have parts : entries.toNat / size.toNat * size.toNat + entries.toNat % size.toNat =
      entries.toNat := Nat.div_add_mod' _ _
  have rest_lt : entries.toNat % size.toNat < size.toNat := Nat.mod_lt _ pos
  have quotient : (entries / size).toNat = entries.toNat / size.toNat := UInt64.toNat_div _ _
  have rest : (entries % size).toNat = entries.toNat % size.toNat := UInt64.toNat_mod _ _
  symm
  split
  · next even =>
    have none : entries.toNat % size.toNat = 0 := by
      rw [← rest, even]
      rfl
    rw [quotient, Nat.div_eq_iff pos]
    omega
  · next uneven =>
    have some : entries.toNat % size.toNat ≠ 0 :=
      fun none => uneven (UInt64.toNat_inj.1 (rest.trans none))
    rw [UInt64.toNat_add, quotient, UInt64.toNat_one, Nat.mod_eq_of_lt (quotient_add_one_lt uneven),
      Nat.div_eq_iff pos, Nat.add_mul]
    omega

/-- As many pages as the entries fill, the last of them perhaps in part, and one at least. -/
theorem toNat_pageCount {entries size : UInt64} (size_pos : 0 < size) :
    (pageCount entries size).toNat =
      max 1 ((entries.toNat + (size.toNat - 1)) / size.toNat) := by
  have rounded := toNat_roundedUp entries size_pos
  unfold pageCount
  dsimp only
  generalize (if entries % size = 0 then entries / size else entries / size + 1) = pages at rounded ⊢
  rw [← rounded]
  split
  · next none =>
    rw [none]
    rfl
  · next some =>
    have ne : pages.toNat ≠ 0 := fun zero => some (UInt64.toNat_inj.1 zero)
    omega

namespace Page

variable {α : Type} {items : α} {total size start : UInt64}

/-- A page that is made of the parts of a page is that page. -/
theorem of_self (p : Page α) : of p.items p.total p.size p.current = p := by
  obtain ⟨items, total, size, current, size_pos, current_pos⟩ := p
  simp only [of, max_one_eq_self size_pos, max_one_eq_self current_pos]

/-- The page of an entry has the number that the quotient of natural numbers gives, and there is one
only where this number is a word. -/
theorem ofStart_eq_some_iff {p : Page α} :
    ofStart items total size start = some p ↔
      p.items = items ∧ p.total = total ∧ p.size.toNat = max 1 size.toNat ∧
        p.current.toNat = start.toNat / max 1 size.toNat + 1 := by
  have quotient : (start / max 1 size).toNat = start.toNat / max 1 size.toNat := by
    rw [UInt64.toNat_div, toNat_max_one]
  simp only [ofStart, Option.bind_eq_bind, Option.bind_eq_some_iff, successor?_eq_some_iff, quotient,
    Option.pure_def, Option.some.injEq]
  constructor
  · rintro ⟨number, number_eq, rfl⟩
    refine ⟨rfl, rfl, ?_, ?_⟩
    · show (max 1 (max 1 size)).toNat = _
      rw [toNat_max_one, toNat_max_one]
      omega
    · show (max 1 number).toNat = _
      rw [toNat_max_one, number_eq]
      omega
  · rintro ⟨rfl, rfl, size_eq, number_eq⟩
    have same : max 1 size = p.size := by
      apply UInt64.toNat_inj.1
      rw [toNat_max_one, size_eq]
    refine ⟨p.current, number_eq, ?_⟩
    rw [same, of_self]

/-- There is a page for an entry where the number of the page is a word. -/
theorem exists_ofStart (fits : start.toNat / max 1 size.toNat + 1 < 0x10000000000000000) :
    ∃ p, ofStart items total size start = some p := by
  have number_eq : (UInt64.ofNat (start.toNat / max 1 size.toNat + 1)).toNat =
      start.toNat / max 1 size.toNat + 1 := by
    rw [UInt64.toNat_ofNat']
    exact Nat.mod_eq_of_lt fits
  refine ⟨of items total size (.ofNat (start.toNat / max 1 size.toNat + 1)),
    ofStart_eq_some_iff.2 ⟨rfl, rfl, toNat_max_one size, ?_⟩⟩
  show (max 1 (UInt64.ofNat _)).toNat = _
  rw [toNat_max_one, number_eq]
  exact Nat.max_eq_right (Nat.le_add_left 1 _)

theorem toNat_offset (p : Page α) :
    p.offset.toNat = min ((p.current.toNat - 1) * p.size.toNat) 0xFFFFFFFFFFFFFFFF :=
  toNat_pageOffset p.current p.size

theorem toNat_count (p : Page α) :
    p.count.toNat = max 1 ((p.total.toNat + (p.size.toNat - 1)) / p.size.toNat) :=
  toNat_pageCount p.size_pos

theorem toNat_count_pos (p : Page α) : 0 < p.count.toNat := by
  rw [p.toNat_count]
  exact Nat.le_max_left 1 _

theorem next?_eq_some_iff {p : Page α} {n : UInt64} :
    p.next? = some n ↔ p.current.toNat < p.count.toNat ∧ n.toNat = p.current.toNat + 1 := by
  have word := p.count.toNat_lt
  have successor : p.current.toNat < p.count.toNat →
      (p.current + 1).toNat = p.current.toNat + 1 := by
    intro lt
    rw [UInt64.toNat_add, UInt64.toNat_one, Nat.mod_eq_of_lt (by omega)]
  unfold next?
  split
  · next lt =>
    rw [UInt64.lt_iff_toNat_lt] at lt
    rw [Option.some.injEq, ← UInt64.toNat_inj, successor lt]
    constructor
    · intro same
      exact ⟨lt, same.symm⟩
    · intro next
      exact next.2.symm
  · next ge =>
    rw [UInt64.lt_iff_toNat_lt] at ge
    simp [ge]

theorem previous?_eq_some_iff {p : Page α} {n : UInt64} :
    p.previous? = some n ↔ 1 < p.current.toNat ∧ n.toNat = p.current.toNat - 1 := by
  have predecessor : 1 < p.current.toNat → (p.current - 1).toNat = p.current.toNat - 1 := by
    intro lt
    rw [UInt64.toNat_sub_of_le, UInt64.toNat_one]
    rw [UInt64.le_iff_toNat_le, UInt64.toNat_one]
    omega
  unfold previous?
  split
  · next lt =>
    rw [UInt64.lt_iff_toNat_lt, UInt64.toNat_one] at lt
    rw [Option.some.injEq, ← UInt64.toNat_inj, predecessor lt]
    constructor
    · intro same
      exact ⟨lt, same.symm⟩
    · intro previous
      exact previous.2.symm
  · next ge =>
    rw [UInt64.lt_iff_toNat_lt, UInt64.toNat_one] at ge
    simp [ge]

/-- The first entry of a page leads back to the page: to its number, and from that to the entry. -/
theorem exists_ofStart_of_first {number : Nat} (size_pos : 0 < size) (number_pos : 0 < number)
    (word : number < 0x10000000000000000) (first : start.toNat = (number - 1) * size.toNat) :
    ∃ p, ofStart items total size start = some p ∧
      p.size = size ∧ p.current.toNat = number ∧ p.offset = start := by
  have pos : 0 < size.toNat := UInt64.lt_iff_toNat_lt.1 size_pos
  have quotient : start.toNat / max 1 size.toNat + 1 = number := by
    rw [first, Nat.max_eq_right pos, Nat.mul_div_cancel _ pos]
    omega
  obtain ⟨p, is_page⟩ : ∃ p, ofStart items total size start = some p :=
    exists_ofStart (by omega)
  obtain ⟨-, -, size_eq, current⟩ := ofStart_eq_some_iff.1 is_page
  rw [quotient] at current
  rw [Nat.max_eq_right pos] at size_eq
  refine ⟨p, is_page, UInt64.toNat_inj.1 size_eq, current, UInt64.toNat_inj.1 ?_⟩
  have start_word := start.toNat_lt
  rw [toNat_offset, current, size_eq, ← first]
  omega

end Page

end CloudSearch
