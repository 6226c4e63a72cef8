import CloudSearch.Proofs.Filter.Normal

/-!
# What stands inside a value

The values inside a value are the value itself, and those inside its items and entries. An
expression compares with nothing but what stands inside it (`exists_inside_of_mem_comparisons`), and
whatever is wrong with it is wrong with its shape or with a leaf inside it (`Entry.Fault.origin`), so
that what is known of all values inside is known of its leaves and of its faults.
-/

namespace CloudSearch.Filter
open Outcome

/-- The first value is the second one or stands in it, at any depth. -/
inductive Value.Inside : Value → Value → Prop
  | here {v : Value} : Inside v v
  | item {w v : Value} {items : List Value} (mem : v ∈ items) (inside : Inside w v) :
    Inside w (.list items)
  | entry {w : Value} {p : Entry} {entries : Expression} (mem : p ∈ entries)
    (inside : Inside w p.2) : Inside w (.expr entries)

/-! ## Comparisons -/

theorem exists_inside_of_mem_atoms {field : String} {v : Value} {a : Atom}
    (mem : a ∈ v.atoms field) : ∃ w : Value, w.Inside v ∧ w.atom? field = some a := by
  cases v with
  | list items =>
    obtain ⟨w, item, atom⟩ := List.mem_filterMap.1 mem
    exact ⟨w, .item item .here, atom⟩
  | null | bool | int | float | text | instant | range | expr =>
    simp only [Value.atoms, Option.mem_toList] at mem
    exact ⟨_, .here, mem⟩

mutual

theorem Value.exists_inside_of_mem_comparisons (key : String) {a : Atom} :
    ∀ v : Value, a ∈ v.comparisons key →
      ∃ (field : String) (w : Value), w.Inside v ∧ w.atom? field = some a
  | .expr entries => by
    have nested := exists_inside_of_mem_comparisons (a := a) entries
    intro mem
    obtain ⟨p, entry, field, w, inside, atom⟩ := nested mem
    exact ⟨field, w, .entry entry inside, atom⟩
  | .list _ | .null | .bool _ | .int _ | .float _ | .text _ | .instant _ | .range _ => by
    intro mem
    simp only [Value.comparisons] at mem
    exact ⟨key, exists_inside_of_mem_atoms mem⟩
  termination_by structural v => v

/-- A comparison of an expression is one with a value inside it. -/
theorem exists_inside_of_mem_comparisons {a : Atom} : ∀ e : Expression, a ∈ e.comparisons →
    ∃ p ∈ e, ∃ (field : String) (w : Value), w.Inside p.2 ∧ w.atom? field = some a
  | [] => nofun
  | (key, v) :: rest => by
    have first := Value.exists_inside_of_mem_comparisons key (a := a) v
    have others := exists_inside_of_mem_comparisons (a := a) rest
    intro mem
    rcases List.mem_append.1 mem with mem | mem
    · exact ⟨(key, v), by simp, first mem⟩
    · obtain ⟨p, entry, found⟩ := others mem
      exact ⟨p, List.mem_cons_of_mem _ entry, found⟩
  termination_by structural e => e

end

/-! ## Faults -/

/-- The error is one of keys and of what may stand under them; it is none of numbers or ranges, of a
dialect or of the document that the expression comes from. -/
def CompileError.IsShape : CompileError → Prop
  | .emptyFieldName => True
  | .operatorNeedsExpression _ => True
  | .nestedExpression _ => True
  | .nestedList _ => True
  | .orShorthandShape _ => True
  | .nonFinite _ => False
  | .unboundedRange _ => False
  | .exclusiveBound _ _ => False
  | .integerOutOfRange _ => False
  | .notAnExpression _ => False
  | .geo _ => False

/-- The error is one of shape, or what is wrong with a leaf inside the value. -/
inductive CompileError.IsFrom (err : CompileError) (v : Value) : Prop
  | shape (shape : err.IsShape) : IsFrom err v
  | leaf {field : String} {w : Value} (inside : w.Inside v) (fault : w.LeafFault field err) :
    IsFrom err v

theorem Value.FieldFault.origin {field : String} {v : Value} {err : CompileError}
    (fault : v.FieldFault field err) : err.IsFrom v := by
  cases fault with
  | leaf _ fault => exact .leaf .here fault
  | items first =>
    obtain ⟨before, w, after, rfl, -, fault⟩ := first
    exact .leaf (.item (by simp) .here) fault

theorem CompileError.IsFrom.entry {err : CompileError} {p : Entry} {entries : Expression}
    (origin : err.IsFrom p.2) (mem : p ∈ entries) : err.IsFrom (.expr entries) := by
  cases origin with
  | shape shape => exact .shape shape
  | leaf inside fault => exact .leaf (.entry mem inside) fault

theorem Entry.ShorthandFault.origin {name : String} {p : Entry} {err : CompileError}
    (fault : p.ShorthandFault name err) : err.IsFrom p.2 := by
  cases fault with
  | emptyKey | expression => exact .shape trivial
  | value _ _ fault => exact fault.origin

/-- **Whatever is wrong with an entry** is wrong with its shape or with a leaf inside it. -/
theorem Entry.Fault.origin {p : Entry} {err : CompileError} (fault : p.Fault err) :
    err.IsFrom p.2 := by
  induction fault with
  | emptyKey | operator | expression => exact .shape trivial
  | nested _ split _ _ ih => exact ih.entry (by simp [split])
  | shorthand _ _ first =>
    obtain ⟨before, p, after, rfl, -, fault⟩ := first
    exact fault.origin.entry (by simp)
  | value _ _ _ fault => exact fault.origin

/-- An expression that has no clauses has an entry with the fault that it is refused for. -/
theorem exists_fault_of_clauses {e : Expression} {err : CompileError}
    (refused : e.clauses = .error err) : ∃ p ∈ e, Entry.Fault p err := by
  rw [clauses_eq_checked, checked_eq_error_iff, Expression.faults_eq, List.head?_flatMap,
    List.findSome?_eq_some_iff] at refused
  obtain ⟨before, p, after, split, faulty, -⟩ := refused
  have mem : p ∈ e := by simp [split]
  exact ⟨p, mem, (Expression.head?_faults_iff e p mem err).1 faulty⟩

end CloudSearch.Filter
