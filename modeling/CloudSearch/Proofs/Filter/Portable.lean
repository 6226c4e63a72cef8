import CloudSearch.Proofs.Filter.OfJson

/-!
# Filters that both dialects take

Dialects differ in the ranges that they can write and in nothing else: clauses without ranges are
written in each of them (`exists_render_of_terms`). JSON has no ranges and no numbers that are not
finite. An expression from JSON is therefore refused for the shape of its entries or not at all, and
by both dialects alike (`compile_ofJson`).
-/

namespace CloudSearch.Filter
open Outcome

/-- The leaf is a comparison with a single value. -/
def Atom.IsTerm (a : Atom) : Prop :=
  ∃ field v, a = .term field v

theorem Atom.IsTerm.writable {a : Atom} (term : a.IsTerm) (d : Dialect) : a.Writable d := by
  obtain ⟨field, v, rfl⟩ := term
  exact ⟨_, rfl⟩

/-- **Clauses without ranges are always written**, in either dialect. -/
theorem exists_render_of_terms {cs : List Clause} (terms : ∀ a ∈ leavesOf cs, a.IsTerm)
    (d : Dialect) : ∃ s, render d cs = .ok s :=
  exists_render_iff.2 fun a mem => (terms a mem).writable d

/-! ## Leaves of JSON -/

theorem Value.IsJson.isTerm {w : Value} (json : w.IsJson) {field : String} {a : Atom}
    (atom : w.atom? field = some a) : a.IsTerm := by
  obtain ⟨v, back⟩ := json
  cases w with
  | null | list | expr => cases atom
  | range | instant => cases back
  | bool | int | float =>
    cases atom
    exact ⟨field, _, rfl⟩
  | text s =>
    rw [Value.atom?] at atom
    split at atom
    · cases atom
    · cases atom
      exact ⟨field, _, rfl⟩

/-- A leaf that JSON has a value for has no fault but that it is no leaf. -/
theorem Value.IsJson.isShape {w : Value} (json : w.IsJson) {field : String} {err : CompileError}
    (fault : w.LeafFault field err) : err.IsShape := by
  obtain ⟨v, back⟩ := json
  cases fault with
  | nestedExpression | nestedList => trivial
  | unboundedRange | nonFiniteEnd => cases back
  | nonFinite infinite =>
    rw [Value.toJson?, dif_neg infinite] at back
    cases back

section

variable {e : Expression} (json : (Value.expr e).IsJson)

include json

theorem isTerm_of_clauses {cs : List Clause} (made : e.clauses = .ok cs) :
    ∀ a ∈ leavesOf cs, a.IsTerm := by
  rw [clauses_eq_checked, checked_eq_ok_iff] at made
  obtain ⟨clean, rfl⟩ := made
  rw [leavesOf_contents, Expression.leaves_eq_comparisons e clean]
  intro a mem
  obtain ⟨p, entry, field, w, inside, atom⟩ := exists_inside_of_mem_comparisons e mem
  exact (json.inside (.entry entry inside)).isTerm atom

theorem isShape_of_clauses {err : CompileError} (refused : e.clauses = .error err) :
    err.IsShape := by
  obtain ⟨p, entry, fault⟩ := exists_fault_of_clauses refused
  cases fault.origin with
  | shape shape => exact shape
  | leaf inside leaf_fault => exact (json.inside (.entry entry inside)).isShape leaf_fault

/-- An expression without ranges is compiled as far as it has clauses. -/
theorem compile_eq_error_iff (d : Dialect) (err : CompileError) :
    e.compile d = .error err ↔ e.clauses = .error err := by
  rw [Expression.compile, bind_eq_error_iff, or_iff_left]
  rintro ⟨cs, made, refused⟩
  obtain ⟨s, written⟩ := exists_render_of_terms (isTerm_of_clauses json made) d
  rw [written] at refused
  cases refused

end

/-- **A filter from JSON is portable.** An expression that an object converts to is compiled in
either dialect exactly if it has clauses. If it has none, it is refused in either dialect for the
reason for which it has none, and that is one of the shape of its entries. -/
theorem compile_ofJson {v : Json} {e : Expression} (converts : Expression.ofJson v = .ok e) :
    (∀ d, (∃ s, e.compile d = .ok s) ↔ ∃ cs, e.clauses = .ok cs) ∧
      (∀ d err, e.compile d = .error err ↔ e.clauses = .error err) ∧
      ∀ err, e.clauses = .error err → err.IsShape := by
  have json : (Value.expr e).IsJson := ⟨v, Expression.ofJson_eq_ok_iff.1 converts⟩
  refine ⟨fun d => ?_, compile_eq_error_iff json, fun err => isShape_of_clauses json⟩
  rw [exists_ok_iff, exists_ok_iff]
  exact forall_congr' fun err => not_congr (compile_eq_error_iff json d err)

/-- An object with a list in a list, behind a group in which nothing is wrong. -/
def nestedYears : Json :=
  .object [("not", .object [("title", .array [.text "it's", .null]), ("score", .float 1.5)]),
    ("year", .array [.int 1994, .array [.int 1995]])]

/-- The expression that it is. -/
def nestedYearsExpression : Expression :=
  [("not", .expr [("title", .list [.text "it's", .null]), ("score", .float 1.5)]),
    ("year", .list [.int 1994, .list [.int 1995]])]

theorem compile_ofJson_nestedYears :
    Expression.ofJson nestedYears = .ok nestedYearsExpression ∧
      (CompileError.nestedList "year").IsShape ∧
      ∀ d, nestedYearsExpression.compile d = .error (.nestedList "year") := by
  have converts : Expression.ofJson nestedYears = .ok nestedYearsExpression := by rfl
  have refused : nestedYearsExpression.clauses = .error (.nestedList "year") := by rfl
  obtain ⟨-, errors, shape⟩ := compile_ofJson converts
  exact ⟨converts, shape _ refused, fun d => (errors d _).2 refused⟩

end CloudSearch.Filter
