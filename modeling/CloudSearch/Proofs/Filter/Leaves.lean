import CloudSearch.Proofs.Filter.WellFormed

/-!
# The leaves of a filter

The clauses of an expression are made of its leaves. `leavesOf_contents` says that no leaf gets lost
on the way and that none changes its place, however lists and shorthands are flattened and empty
groups dropped; `sound_of_mem_leaves` says that in an expression without faults every leaf compares
with something.
-/

namespace CloudSearch.Filter

/-- The leaf compares with something: with a text that is not blank, with a finite number, or with a
range that has an end. -/
def Atom.Sound : Atom → Prop
  | .term _ (.text s) => Text.isBlankText s = false
  | .term _ (.float x) => x.isFinite = true
  | .term _ _ => True
  | .range _ r => r ≠ .unbounded ∧ r.EndsFinite

mutual

/-- The leaves of an entry from left to right. -/
def Value.leaves (key : String) : Value → List Atom
  | .expr entries =>
    match Connective.ofKey? key with
    | some _ => Expression.leaves entries
    | none => if orSuffix.isSuffixOf key.toList then shorthandAtoms entries else []
  | v => v.atoms key
  termination_by structural v => v

/-- The leaves of an expression from left to right, each with the field that it stands under. -/
def Expression.leaves : Expression → List Atom
  | [] => []
  | (key, v) :: rest => v.leaves key ++ Expression.leaves rest
  termination_by structural e => e

end

section

variable {key : String} {entries : Expression}

theorem Value.leaves_operator {op : Connective} (operator : key = op.name) :
    (Value.expr entries).leaves key = entries.leaves := by
  simp only [Value.leaves, Connective.ofKey?_eq_some_iff.2 operator]

theorem Value.leaves_shorthand (other : ¬ IsOperator key) (suffix : EndsInOr key) :
    (Value.expr entries).leaves key = shorthandAtoms entries := by
  simp only [Value.leaves, ofKey?_eq_none_iff.2 other, if_pos (isSuffixOf_key_iff.2 suffix)]

theorem Value.leaves_expression (other : ¬ IsOperator key) (suffix : ¬ EndsInOr key) :
    (Value.expr entries).leaves key = [] := by
  simp only [Value.leaves, ofKey?_eq_none_iff.2 other, if_neg (mt isSuffixOf_key_iff.1 suffix)]

end

/-! ## Leaves of formulas and clauses -/

theorem Formula.leavesOf_append {α : Type} (xs ys : List (Formula α)) :
    Formula.leavesOf (xs ++ ys) = Formula.leavesOf xs ++ Formula.leavesOf ys := by
  induction xs with
  | nil => rfl
  | cons x xs ih =>
    rw [List.cons_append, Formula.leavesOf, Formula.leavesOf, ih, List.append_assoc]

/-- Connecting formulas neither adds nor moves leaves. -/
theorem Formula.leaves_connect {α : Type} (op : Connective) (xs : List (Formula α)) :
    (Formula.connect op xs).leaves = Formula.leavesOf xs := by
  unfold Formula.connect
  split
  · simp [Formula.leaves, Formula.leavesOf]
  · rfl

theorem Formula.leavesOf_leaf {α : Type} (as : List α) : Formula.leavesOf (as.map .leaf) = as := by
  induction as with
  | nil => rfl
  | cons a as ih => rw [List.map_cons, Formula.leavesOf, ih, Formula.leaves, List.singleton_append]

theorem leavesOf_append (cs ds : List Clause) :
    leavesOf (cs ++ ds) = leavesOf cs ++ leavesOf ds := by
  simp only [leavesOf, Clause.formulas_eq, List.map_append, Formula.leavesOf_append]

theorem leavesOf_singleton (c : Clause) : leavesOf [c] = c.formula.leaves := by
  simp [leavesOf, Clause.formulas, Formula.leavesOf]

theorem leavesOf_atoms (as : List Atom) : leavesOf (as.map Atom.clause) = as := by
  have formula : ∀ a ∈ as, (Clause.formula ∘ Atom.clause) a = .leaf a := by
    intro a _
    cases a <;> rfl
  rw [leavesOf, Clause.formulas_eq, List.map_map, List.map_congr_left formula,
    Formula.leavesOf_leaf]

/-- A wrapped list of clauses keeps the leaves of the clauses; where it is left out, there were
none. -/
theorem leavesOf_unlessEmpty {wrap : List Clause → Clause} {cs : List Clause}
    (keeps : (wrap cs).formula.leaves = leavesOf cs) :
    leavesOf (unlessEmpty wrap cs).toList = leavesOf cs := by
  cases cs with
  | nil => rfl
  | cons c cs => exact (leavesOf_singleton _).trans keeps

/-! ## Leaves of expressions -/

theorem leavesOf_fieldContent (field : String) (v : Value) :
    leavesOf (v.fieldContent field).toList = v.atoms field := by
  cases v with
  | list items =>
    simp only [Value.fieldContent, Value.atoms]
    generalize items.filterMap (Value.atom? field) = as
    rcases as with _ | ⟨a, _ | ⟨b, as⟩⟩
    · rfl
    · exact leavesOf_atoms [a]
    · exact (leavesOf_singleton _).trans (leavesOf_atoms (a :: b :: as))
  | null | bool | int | float | text | instant | range | expr =>
    simp only [Value.fieldContent, Value.atoms, Option.toList_map]
    exact leavesOf_atoms _

mutual

theorem leavesOf_content (key : String) :
    ∀ v : Value, leavesOf (v.content key).toList = v.leaves key
  | .expr entries => by
    have nested := leavesOf_contents entries
    obtain ⟨op, operator⟩ | ⟨other, suffix⟩ | ⟨other, suffix⟩ := key_cases key
    · have keeps : (Clause.group op (Expression.contents entries)).formula.leaves =
          leavesOf (Expression.contents entries) := Formula.leaves_connect _ _
      rw [Value.content_operator operator, Value.leaves_operator operator,
        leavesOf_unlessEmpty keeps, nested]
    · rw [Value.content_shorthand other suffix, Value.leaves_shorthand other suffix,
        leavesOf_unlessEmpty rfl, leavesOf_atoms]
    · rw [Value.content_expression other suffix, Value.leaves_expression other suffix]
      rfl
  | .list _ | .null | .bool _ | .int _ | .float _ | .text _ | .instant _ | .range _ => by
    simp only [Value.content, Value.leaves]
    exact leavesOf_fieldContent key _
  termination_by structural v => v

/-- The leaves of the clauses of an expression are its own, in their order. -/
theorem leavesOf_contents : ∀ e : Expression, leavesOf e.contents = e.leaves
  | [] => rfl
  | (key, v) :: rest => by
    have first := leavesOf_content key v
    have others := leavesOf_contents rest
    rw [Expression.contents, Expression.leaves, leavesOf_append, first, others]
  termination_by structural e => e

end

/-! ## Leaves without faults -/

theorem sound_of_mem_atom? {field : String} {v : Value} {a : Atom}
    (clean : v.leafFaults field = []) (atom : v.atom? field = some a) : a.Sound := by
  have leaf := leafFaults_eq_nil_iff.1 clean
  cases v with
  | null | list | expr => cases atom
  | bool | int | instant => cases atom; trivial
  | float x => cases atom; exact leaf
  | range r => cases atom; exact leaf
  | text s =>
    simp only [Value.atom?] at atom
    split at atom
    · cases atom
    · next filled =>
      cases atom
      exact Bool.eq_false_iff.2 filled

theorem sound_of_mem_atoms {field : String} {v : Value} {a : Atom}
    (clean : v.fieldFaults field = []) (mem : a ∈ v.atoms field) : a.Sound := by
  cases v with
  | list items =>
    obtain ⟨v, item, atom⟩ := List.mem_filterMap.1 mem
    exact sound_of_mem_atom? (List.flatMap_eq_nil_iff.1 clean v item) atom
  | null | bool | int | float | text | instant | range | expr =>
    simp only [Value.fieldFaults] at clean
    simp only [Value.atoms, Option.mem_toList] at mem
    exact sound_of_mem_atom? clean mem

theorem sound_of_mem_shorthandAtoms {name : String} {terms : Expression} {a : Atom}
    (clean : shorthandFaults name terms = []) (mem : a ∈ shorthandAtoms terms) : a.Sound := by
  obtain ⟨p, entry, atom⟩ := List.mem_flatMap.1 mem
  have fits := shorthandFaults_eq_nil_iff.1 (List.flatMap_eq_nil_iff.1 clean p entry)
  exact sound_of_mem_atoms (fieldFaults_eq_nil_iff.2 fits.2) atom

mutual

theorem Value.sound_of_mem_leaves (key : String) {a : Atom} :
    ∀ v : Value, v.faults key = [] → a ∈ v.leaves key → a.Sound
  | .expr entries => by
    have nested := Expression.sound_of_mem_leaves (a := a) entries
    intro clean mem
    obtain ⟨op, operator, clean⟩ | ⟨other, suffix, clean⟩ := Value.cases_of_expr_clean clean
    · rw [Value.leaves_operator operator] at mem
      exact nested clean mem
    · rw [Value.leaves_shorthand other suffix] at mem
      exact sound_of_mem_shorthandAtoms clean mem
  | .list _ | .null | .bool _ | .int _ | .float _ | .text _ | .instant _ | .range _ => by
    intro clean mem
    simp only [Value.leaves] at mem
    exact sound_of_mem_atoms (Value.fieldFaults_of_clean (fun _ => by simp) clean).2 mem
  termination_by structural v => v

theorem Expression.sound_of_mem_leaves {a : Atom} :
    ∀ e : Expression, e.faults = [] → a ∈ e.leaves → a.Sound
  | [] => by simp [Expression.leaves]
  | (key, v) :: rest => by
    have first := Value.sound_of_mem_leaves key (a := a) v
    have others := Expression.sound_of_mem_leaves (a := a) rest
    intro clean mem
    rw [Expression.faults, List.append_eq_nil_iff] at clean
    rw [Expression.leaves, List.mem_append] at mem
    rcases mem with mem | mem
    · refine first ?_ mem
      by_cases unnamed : key = ""
      · simp [unnamed] at clean
      · simpa [unnamed] using clean.1
    · exact others clean.2 mem
  termination_by structural e => e

end

/-- Every leaf of the clauses of an expression compares with something. -/
theorem sound_of_clauses {e : Expression} {cs : List Clause} (made : e.clauses = .ok cs) :
    ∀ a ∈ leavesOf cs, a.Sound := by
  rw [clauses_eq_checked, Outcome.checked_eq_ok_iff] at made
  obtain ⟨clean, rfl⟩ := made
  intro a mem
  rw [leavesOf_contents] at mem
  exact Expression.sound_of_mem_leaves e clean mem

end CloudSearch.Filter
