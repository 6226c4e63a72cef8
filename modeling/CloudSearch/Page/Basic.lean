import CloudSearch.Page.Numbers

/-!
# Pages

A page is a part of a longer sequence of entries, together with its place in the whole.
-/

namespace CloudSearch

/-- A page of `total` entries that are dealt out `size` to a page. -/
structure Page (α : Type) where
  items : α
  total : UInt64
  size : UInt64
  current : UInt64
  size_pos : 0 < size
  current_pos : 0 < current

namespace Page

variable {α β : Type}

theorem pos_max_one (n : UInt64) : 0 < max 1 n := by
  have : (0 : UInt64) < 1 := by decide
  rw [show max 1 n = if (1 : UInt64) ≤ n then n else 1 from rfl]
  split <;> grind

/-- The page with the given items and numbers; a size or a number of zero counts as one. -/
def of (items : α) (total size current : UInt64) : Page α :=
  { items, total, size := max 1 size, current := max 1 current
    size_pos := pos_max_one size, current_pos := pos_max_one current }

/-- The page on which the entry with the index `start` stands. Nothing guards the addition of one, and
where its result is no word the program stops: then there is no page. -/
def ofStart (items : α) (total size start : UInt64) : Option (Page α) := do
  let number ← successor? (start / max 1 size)
  return of items total (max 1 size) number

/-- The number of pages. -/
def count (p : Page α) : UInt64 :=
  pageCount p.total p.size

/-- The number of entries before the page. -/
def offset (p : Page α) : UInt64 :=
  pageOffset p.current p.size

/-- The number of the page after this one, if there is one. -/
def next? (p : Page α) : Option UInt64 :=
  if p.current < p.count then some (p.current + 1) else none

/-- The number of the page before this one, if there is one. -/
def previous? (p : Page α) : Option UInt64 :=
  if 1 < p.current then some (p.current - 1) else none

/-- The page with its items changed. -/
def map (f : α → β) (p : Page α) : Page β :=
  { p with items := f p.items }

/-- The page with other items. -/
def replace (p : Page α) (items : β) : Page β :=
  p.map fun _ => items

end Page

end CloudSearch
