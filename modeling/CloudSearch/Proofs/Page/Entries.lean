import CloudSearch.Proofs.Page.Numbers

/-!
# Which entries stand on which page

A page is found by the index of an entry, or by going from one page to the next. The first way is
right for every index but one: where a page holds a single entry, the page of the last word has a
number that is no word, and the program stops at it. The second way is always right: the pages met on
the way from the first one share out the entries among them (`Tiles`), each entry to one page.
-/

namespace CloudSearch.Page

variable {α : Type} {items : α} {total size start : UInt64} {p q : Page α}

/-! ## The page of an entry -/

/-- The entry with the index `start` stands on the page, where `size` entries were asked for and
size zero means one; and the number of the page is a word, so that adding one to the quotient does
not overflow. -/
structure IsPageOf (start size : UInt64) (p : Page α) : Prop where
  no_overflow : start.toNat / max 1 size.toNat + 1 < 0x10000000000000000
  current : p.current.toNat = start.toNat / max 1 size.toNat + 1
  offset_le : p.offset.toNat ≤ start.toNat
  sub_offset_lt : start.toNat - p.offset.toNat < max 1 size.toNat

/-- An entry is on the page that is computed for it. -/
theorem isPageOf_of_ofStart (computed : ofStart items total size start = some p) :
    IsPageOf start size p := by
  obtain ⟨-, -, size_eq, current⟩ := ofStart_eq_some_iff.1 computed
  have pos : 0 < max 1 size.toNat := by omega
  have word := start.toNat_lt
  have number_word := p.current.toNat_lt
  have below : start.toNat / max 1 size.toNat * max 1 size.toNat ≤ start.toNat :=
    Nat.div_mul_le_self _ _
  have above : start.toNat < start.toNat / max 1 size.toNat * max 1 size.toNat + max 1 size.toNat :=
    Nat.lt_div_mul_add pos
  have offset : p.offset.toNat = start.toNat / max 1 size.toNat * max 1 size.toNat := by
    rw [toNat_offset, current, size_eq, Nat.add_sub_cancel]
    omega
  constructor
  case no_overflow => omega
  case current => exact current
  case offset_le => omega
  case sub_offset_lt => omega

/-- The number of the page of an entry is a word, unless pages hold a single entry each and the entry
is the last that has an index. -/
theorem number_lt_iff : start.toNat / max 1 size.toNat + 1 < 0x10000000000000000 ↔
    ¬(size.toNat ≤ 1 ∧ start = maxWord) := by
  have word := start.toNat_lt
  rw [← UInt64.toNat_inj, toNat_maxWord]
  by_cases single : size.toNat ≤ 1
  · rw [Nat.max_eq_left single, Nat.div_one]
    omega
  · have half : start.toNat / max 1 size.toNat ≤ start.toNat / 2 :=
      Nat.div_le_div_left (by omega) (by omega)
    omega

theorem ofStart_eq_none_iff :
    ofStart items total size start = none ↔ size.toNat ≤ 1 ∧ start = maxWord := by
  constructor
  · intro stops
    refine Classical.byContradiction fun other => ?_
    obtain ⟨p, computed⟩ : ∃ p, ofStart items total size start = some p :=
      exists_ofStart (number_lt_iff.2 other)
    rw [stops] at computed
    cases computed
  · intro last
    refine Option.eq_none_iff_forall_ne_some.2 fun p computed => ?_
    exact number_lt_iff.1 (isPageOf_of_ofStart computed).no_overflow last

/-- **The page of an entry.** An index leads to the page with its entry and nothing overflows, unless
pages hold a single entry each and the index is the greatest word. -/
theorem isPageOf_ofStart_iff :
    (∃ p, ofStart items total size start = some p ∧ IsPageOf start size p) ↔
      ¬(size.toNat ≤ 1 ∧ start = maxWord) := by
  have computes_iff : ofStart items total size start ≠ none ↔ ¬(size.toNat ≤ 1 ∧ start = maxWord) :=
    not_congr ofStart_eq_none_iff
  rw [← computes_iff, Option.ne_none_iff_exists']
  constructor
  · rintro ⟨p, computed, -⟩
    exact ⟨p, computed⟩
  · rintro ⟨p, computed⟩
    exact ⟨p, computed, isPageOf_of_ofStart computed⟩

/-- There is no page for the greatest index with a single entry to a page: one more is no word, and the
program stops. -/
theorem not_isPageOf_greatest :
    ofStart () 3 1 maxWord = none ∧
      ¬∃ p, ofStart () 3 1 maxWord = some p ∧ IsPageOf maxWord 1 p := by
  have stops : ofStart () 3 1 maxWord = none := by decide
  refine ⟨stops, ?_⟩
  rintro ⟨p, computed, -⟩
  rw [stops] at computed
  cases computed

/-! ## Numbers of pages -/

/-- What is computed for a page is what it is for natural numbers: no quotient, product, successor
or predecessor overflows, and only the offset is clamped, as it is meant to be. -/
structure NumbersExact (p : Page α) : Prop where
  round_up : p.total % p.size ≠ 0 → (p.total / p.size).toNat + 1 < 0x10000000000000000
  count : p.count.toNat = max 1 ((p.total.toNat + (p.size.toNat - 1)) / p.size.toNat)
  before : (p.current - 1).toNat + 1 = p.current.toNat
  offset : p.offset.toNat = min ((p.current.toNat - 1) * p.size.toNat) 0xFFFFFFFFFFFFFFFF
  next : ∀ n, p.next? = some n → n.toNat = p.current.toNat + 1
  previous : ∀ n, p.previous? = some n → n.toNat + 1 = p.current.toNat

theorem toNat_current_pos (p : Page α) : 0 < p.current.toNat :=
  UInt64.lt_iff_toNat_lt.1 p.current_pos

theorem toNat_size_pos (p : Page α) : 0 < p.size.toNat :=
  UInt64.lt_iff_toNat_lt.1 p.size_pos

theorem numbersExact (p : Page α) : p.NumbersExact := by
  have current_pos := p.toNat_current_pos
  constructor
  case round_up =>
    intro uneven
    rw [UInt64.toNat_div]
    exact quotient_add_one_lt uneven
  case count => exact p.toNat_count
  case before =>
    have le : 1 ≤ p.current := by
      rw [UInt64.le_iff_toNat_le, UInt64.toNat_one]
      omega
    rw [UInt64.toNat_sub_of_le _ _ le, UInt64.toNat_one]
    omega
  case offset => exact p.toNat_offset
  case next =>
    intro n next
    exact (next?_eq_some_iff.1 next).2
  case previous =>
    intro n previous
    obtain ⟨lt, number⟩ := previous?_eq_some_iff.1 previous
    omega

/-! ## Pages one after the other -/

/-- The page with the given number of the same entries. -/
def turnTo (p : Page α) (number : UInt64) : Page α :=
  of p.items p.total p.size number

theorem toNat_current_turnTo (p : Page α) (n : UInt64) :
    (p.turnTo n).current.toNat = max 1 n.toNat :=
  toNat_max_one n

theorem size_turnTo (p : Page α) (n : UInt64) : (p.turnTo n).size = p.size :=
  max_one_eq_self p.size_pos

theorem count_turnTo (p : Page α) (n : UInt64) : (p.turnTo n).count = p.count := by
  rw [count, size_turnTo]
  rfl

theorem turnTo_turnTo (p : Page α) (m n : UInt64) : (p.turnTo m).turnTo n = p.turnTo n := by
  rw [turnTo, size_turnTo]
  rfl

theorem turnTo_current (p : Page α) : p.turnTo p.current = p :=
  p.of_self

/-- The pages from this one on, each followed by the one that it names as the next. -/
def walk (p : Page α) : List (Page α) :=
  match _named : p.next? with
  | none => [p]
  | some n => p :: (p.turnTo n).walk
  termination_by p.count.toNat - p.current.toNat
  decreasing_by
    obtain ⟨lt, number⟩ := next?_eq_some_iff.1 _named
    rw [count_turnTo, toNat_current_turnTo]
    omega

theorem next?_eq_none_iff : p.next? = none ↔ p.count.toNat ≤ p.current.toNat := by
  rw [next?, ite_eq_right_iff]
  simp [UInt64.lt_iff_toNat_lt]

theorem previous?_eq_none_iff : p.previous? = none ↔ p.current.toNat = 1 := by
  have pos := p.toNat_current_pos
  rw [previous?, ite_eq_right_iff]
  simp [UInt64.lt_iff_toNat_lt]
  omega

/-- A walk meets the pages from its first one to the last that there is, in order. -/
theorem numbers_walk (p : Page α) (le : p.current.toNat ≤ p.count.toNat) :
    p.walk.map (·.current.toNat) =
      List.range' p.current.toNat (p.count.toNat + 1 - p.current.toNat) := by
  fun_induction walk p with
  | case1 p last =>
    have end_reached := next?_eq_none_iff.1 last
    have one_left : p.count.toNat + 1 - p.current.toNat = 1 := by omega
    rw [one_left]
    rfl
  | case2 p n next ih =>
    obtain ⟨lt, number⟩ := next?_eq_some_iff.1 next
    have current : (p.turnTo n).current.toNat = p.current.toNat + 1 := by
      rw [toNat_current_turnTo]
      omega
    have left : p.count.toNat + 1 - p.current.toNat =
        (p.count.toNat + 1 - (p.current.toNat + 1)) + 1 := by omega
    rw [count_turnTo, current] at ih
    rw [List.map_cons, ih lt, left, List.range'_succ]

/-- All pages of a walk are of the same entries. -/
theorem eq_turnTo_of_mem_walk (p : Page α) (mem : q ∈ p.walk) : q = p.turnTo q.current := by
  fun_induction walk p with
  | case1 p last =>
    rw [List.mem_singleton.1 mem, turnTo_current]
  | case2 p n next ih =>
    rcases List.mem_cons.1 mem with rfl | mem
    · rw [turnTo_current]
    · rw [← turnTo_turnTo p n]
      exact ih mem

theorem size_of_mem_walk (mem : q ∈ p.walk) : q.size = p.size := by
  rw [eq_turnTo_of_mem_walk p mem, size_turnTo]

theorem total_of_mem_walk (mem : q ∈ p.walk) : q.total = p.total := by
  rw [eq_turnTo_of_mem_walk p mem]
  rfl

theorem count_of_mem_walk (mem : q ∈ p.walk) : q.count = p.count := by
  rw [eq_turnTo_of_mem_walk p mem, count_turnTo]

/-- A walk that starts on an existing page meets the existing pages from there on. -/
theorem current_of_mem_walk (p : Page α) (le : p.current.toNat ≤ p.count.toNat)
    (mem : q ∈ p.walk) :
    p.current.toNat ≤ q.current.toNat ∧ q.current.toNat ≤ p.count.toNat := by
  have number : q.current.toNat ∈ p.walk.map (·.current.toNat) := List.mem_map_of_mem mem
  rw [numbers_walk p le, List.mem_range'_1] at number
  omega

theorem le_count_of_mem_walk (le : p.current.toNat ≤ p.count.toNat) (mem : q ∈ p.walk) :
    q.current.toNat ≤ q.count.toNat := by
  rw [count_of_mem_walk mem]
  exact (current_of_mem_walk p le mem).2

theorem turnTo_mem_walk (p : Page α) {n : UInt64} (from_here : p.current.toNat ≤ n.toNat)
    (le : n.toNat ≤ p.count.toNat) : p.turnTo n ∈ p.walk := by
  have number : n.toNat ∈ p.walk.map (·.current.toNat) := by
    rw [numbers_walk p (by omega), List.mem_range'_1]
    omega
  obtain ⟨q, mem, same⟩ := List.mem_map.1 number
  have same : q.current = n := UInt64.toNat_inj.1 same
  have page := eq_turnTo_of_mem_walk p mem
  rw [same] at page
  rwa [← page]

/-! ## Entries of existing pages -/

/-- The entry with the index `i` stands on the page. -/
def Holds (p : Page α) (i : Nat) : Prop :=
  p.offset.toNat ≤ i ∧ i < p.offset.toNat + p.size.toNat

/-- The pages have room for all entries, and only the last one may have room left. -/
theorem total_le_count_mul (p : Page α) :
    p.total.toNat ≤ p.count.toNat * p.size.toNat ∧
      (0 < p.total.toNat → (p.count.toNat - 1) * p.size.toNat < p.total.toNat) := by
  have pos := p.toNat_size_pos
  have below : (p.total.toNat + (p.size.toNat - 1)) / p.size.toNat * p.size.toNat ≤
      p.total.toNat + (p.size.toNat - 1) := Nat.div_mul_le_self _ _
  have above : p.total.toNat + (p.size.toNat - 1) <
      (p.total.toNat + (p.size.toNat - 1)) / p.size.toNat * p.size.toNat + p.size.toNat :=
    Nat.lt_div_mul_add pos
  rw [p.toNat_count]
  generalize (p.total.toNat + (p.size.toNat - 1)) / p.size.toNat = pages at below above ⊢
  rcases pages with _ | before
  · rw [Nat.zero_mul] at below above
    simp
    omega
  · rw [Nat.max_eq_right (by omega), Nat.add_sub_cancel]
    rw [Nat.add_mul] at below above ⊢
    omega

theorem toNat_count_of_empty (p : Page α) (empty : p.total.toNat = 0) : p.count.toNat = 1 := by
  have pos := p.toNat_size_pos
  have none : (p.total.toNat + (p.size.toNat - 1)) / p.size.toNat = 0 :=
    Nat.div_eq_of_lt (by omega)
  rw [p.toNat_count, none]
  rfl

/-- Before an existing page there are no more entries than there are at all, so that their number
is exact. -/
theorem toNat_offset_of_le_count (p : Page α) (le : p.current.toNat ≤ p.count.toNat) :
    p.offset.toNat = (p.current.toNat - 1) * p.size.toNat ∧
      (0 < p.total.toNat → p.offset.toNat < p.total.toNat) := by
  have before_last : (p.current.toNat - 1) * p.size.toNat ≤ (p.count.toNat - 1) * p.size.toNat :=
    Nat.mul_le_mul_right _ (by omega)
  have filled := p.total_le_count_mul.2
  have word := p.total.toNat_lt
  have fits : (p.current.toNat - 1) * p.size.toNat ≤ p.total.toNat := by
    rcases Nat.eq_zero_or_pos p.total.toNat with empty | some
    · have one_page := p.toNat_count_of_empty empty
      have first : p.current.toNat - 1 = 0 := by omega
      rw [first, Nat.zero_mul]
      omega
    · have := filled some
      omega
  have exact : p.offset.toNat = (p.current.toNat - 1) * p.size.toNat := by
    rw [p.toNat_offset]
    omega
  refine ⟨exact, fun some => ?_⟩
  have := filled some
  omega

/-- An entry stands on the existing page with the right number and on no other. -/
theorem holds_iff (p : Page α) (le : p.current.toNat ≤ p.count.toNat) {i : Nat} :
    p.Holds i ↔ p.current.toNat = i / p.size.toNat + 1 := by
  have pos := p.toNat_size_pos
  have current_pos := p.toNat_current_pos
  rw [Holds, (p.toNat_offset_of_le_count le).1]
  constructor
  · rintro ⟨low, high⟩
    have quotient : i / p.size.toNat = p.current.toNat - 1 :=
      Nat.div_eq_of_lt_le low (by rwa [Nat.add_mul, Nat.one_mul])
    omega
  · intro number
    rw [number, Nat.add_sub_cancel]
    exact ⟨Nat.div_mul_le_self _ _, Nat.lt_div_mul_add pos⟩

/-! ## The walk through all pages -/

/-- The pages are all that there are of the entries of `first`, in order; each entry stands on one of
them, and they are linked in both directions. -/
structure Tiles (pages : List (Page α)) (first : Page α) : Prop where
  numbers : pages.map (·.current.toNat) = List.range' 1 first.count.toNat
  same : ∀ p ∈ pages, p = first.turnTo p.current
  offset : ∀ p ∈ pages, p.offset.toNat = (p.current.toNat - 1) * first.size.toNat
  covered : ∀ i < first.total.toNat, ∃ p ∈ pages, p.Holds i ∧ ∀ q ∈ pages, q.Holds i → q = p
  filled : ∀ p ∈ pages, (first.total = 0 ∧ p.current = 1) ∨ ∃ i < first.total.toNat, p.Holds i
  inverse : ∀ p ∈ pages, ∀ q ∈ pages, p.next? = some q.current ↔ q.previous? = some p.current
  last : ∀ p ∈ pages, p.next? = none ↔ p.current = first.count
  first : ∀ p ∈ pages, p.previous? = none ↔ p.current = 1

/-- From the first page a walk comes to the page of each entry, and that is the only one that it comes
to with the entry. -/
theorem exists_holds_walk (at_first : p.current.toNat = 1) {i : Nat} (lt : i < p.total.toNat) :
    ∃ q ∈ p.walk, q.Holds i ∧ ∀ r ∈ p.walk, r.Holds i → r = q := by
  have quotient_lt : i / p.size.toNat < p.count.toNat := by
    rw [Nat.div_lt_iff_lt_mul p.toNat_size_pos]
    exact Nat.lt_of_lt_of_le lt p.total_le_count_mul.1
  have count_pos := p.toNat_count_pos
  have from_first : p.current.toNat ≤ p.count.toNat := by omega
  obtain ⟨n, number⟩ : ∃ n : UInt64, n.toNat = i / p.size.toNat + 1 := by
    refine ⟨UInt64.ofNat (i / p.size.toNat + 1), ?_⟩
    rw [UInt64.toNat_ofNat']
    exact Nat.mod_eq_of_lt (Nat.lt_of_le_of_lt quotient_lt p.count.toNat_lt)
  have low : p.current.toNat ≤ n.toNat := by
    rw [at_first, number]
    exact Nat.le_add_left 1 _
  have high : n.toNat ≤ p.count.toNat := by
    rw [number]
    exact quotient_lt
  have mem : p.turnTo n ∈ p.walk := turnTo_mem_walk p low high
  refine ⟨p.turnTo n, mem, ?_, ?_⟩
  · rw [holds_iff _ (le_count_of_mem_walk from_first mem), size_turnTo, toNat_current_turnTo, number]
    exact Nat.max_eq_right (Nat.le_add_left 1 _)
  · intro r mem_r holds
    rw [holds_iff r (le_count_of_mem_walk from_first mem_r), size_of_mem_walk mem_r, ← number]
      at holds
    rw [eq_turnTo_of_mem_walk p mem_r, UInt64.toNat_inj.1 holds]

theorem tiles_walk (p : Page α) (at_first : p.current.toNat = 1) : Tiles p.walk p := by
  have count_pos := p.toNat_count_pos
  have from_first : p.current.toNat ≤ p.count.toNat := by omega
  constructor
  case numbers => rw [numbers_walk p from_first, at_first, Nat.add_sub_cancel]
  case same =>
    intro q mem
    exact eq_turnTo_of_mem_walk p mem
  case offset =>
    intro q mem
    rw [← size_of_mem_walk mem]
    exact (q.toNat_offset_of_le_count (le_count_of_mem_walk from_first mem)).1
  case covered =>
    intro i lt
    exact exists_holds_walk at_first lt
  case filled =>
    intro q mem
    rcases Nat.eq_zero_or_pos p.total.toNat with empty | some
    · have one_page := p.toNat_count_of_empty empty
      have in_walk := current_of_mem_walk p from_first mem
      have first : q.current.toNat = 1 := by omega
      exact .inl ⟨UInt64.toNat_inj.1 empty, UInt64.toNat_inj.1 first⟩
    · have size_pos := q.toNat_size_pos
      have start_lt := (q.toNat_offset_of_le_count (le_count_of_mem_walk from_first mem)).2
      rw [total_of_mem_walk mem] at start_lt
      exact .inr ⟨q.offset.toNat, start_lt some, Nat.le_refl _, by omega⟩
  case inverse =>
    intro q mem_q r mem_r
    have q_pos := q.toNat_current_pos
    have r_existing := le_count_of_mem_walk from_first mem_r
    rw [next?_eq_some_iff, previous?_eq_some_iff, count_of_mem_walk mem_q]
    rw [count_of_mem_walk mem_r] at r_existing
    omega
  case last =>
    intro q mem
    have in_walk := current_of_mem_walk p from_first mem
    rw [next?_eq_none_iff, count_of_mem_walk mem, ← UInt64.toNat_inj]
    omega
  case first =>
    intro q mem
    rw [previous?_eq_none_iff, ← UInt64.toNat_inj]
    rfl

/-- **Pages tile the result.** Going from the first page to the next one and on leads through all
pages in order and ends behind the last; every entry is on exactly one of them, and no page is
without entries but the only page of an empty result. Whatever page is made, of existing ones or
not, its numbers are exact. A size of zero is a size of one. -/
theorem walk_tiles (items : α) (total size : UInt64) :
    Tiles (of items total size 1).walk (of items total size 1) ∧
      (of items total size 1).size.toNat = max 1 size.toNat ∧
      ∀ current, NumbersExact (of items total size current) :=
  ⟨tiles_walk _ rfl, toNat_max_one size, fun current => (of items total size current).numbersExact⟩

end CloudSearch.Page
