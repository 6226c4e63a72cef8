import CloudSearch.Proofs.Filter.Formula

/-!
# Contents and faults of expressions

Turning an expression into clauses does two things at once: it drops what has no content, and it
stops at the first fault. Here the two are taken apart. `Expression.contents` drops and never
fails, `Expression.faults` lists everything that is wrong, entry by entry and each entry before the
next, and `clauses_eq_checked` puts them together again.
-/

namespace CloudSearch.Filter
open Outcome

/-! ## Contents -/

/-- The atom that a value is under a field, unless it is without content. -/
def Value.atom? (field : String) : Value → Option Atom
  | .null => none
  | .text s => if Text.isBlankText s then none else some (.term field (.text s))
  | .bool b => some (.term field (.bool b))
  | .int i => some (.term field (.int i))
  | .float x => some (.term field (.float x))
  | .instant t => some (.term field (.instant t))
  | .range r => some (.range field r)
  | .list _ => none
  | .expr _ => none

/-- The atoms that a value is under a field, with those of a list one by one. -/
def Value.atoms (field : String) : Value → List Atom
  | .list items => items.filterMap (Value.atom? field)
  | v => (v.atom? field).toList

/-- The atom as a clause. -/
def Atom.clause : Atom → Clause
  | .term field v => .term field v
  | .range field r => .range field r

/-- The clause of a value under a field, whatever is wrong with it. -/
def Value.fieldContent (field : String) : Value → Option Clause
  | .list items =>
    match (items.filterMap (Value.atom? field)).map Atom.clause with
    | [] => none
    | [c] => some c
    | cs => some (.anyOf field cs)
  | v => (v.atom? field).map Atom.clause

/-- What is left of a value under a field is nothing, its one comparison, or a list of several. -/
theorem fieldContent_eq (field : String) (v : Value) :
    v.fieldContent field = match (v.atoms field).map Atom.clause with
      | [] => none
      | [c] => some c
      | cs => some (.anyOf field cs) := by
  cases v with
  | list items => rfl
  | null | bool | int | float | text | instant | range | expr =>
    rw [Value.fieldContent, Value.atoms]
    · cases Value.atom? field _ <;> rfl
    · nofun
    · nofun

/-- The atoms of all fields in a shorthand. -/
def shorthandAtoms (terms : Expression) : List Atom :=
  terms.flatMap fun p => p.2.atoms p.1

mutual

/-- The clause of an entry, whatever is wrong with it. -/
def Value.content (key : String) : Value → Option Clause
  | .expr entries =>
    match Connective.ofKey? key with
    | some op => unlessEmpty (.group op) (Expression.contents entries)
    | none =>
      if orSuffix.isSuffixOf key.toList then
        unlessEmpty (.orShorthand key) ((shorthandAtoms entries).map Atom.clause)
      else none
  | v => v.fieldContent key
  termination_by structural v => v

/-- The clauses of the entries, whatever is wrong with them. -/
def Expression.contents : Expression → List Clause
  | [] => []
  | (key, v) :: rest => (v.content key).toList ++ Expression.contents rest
  termination_by structural e => e

end

/-! ## Faults -/

/-- What is wrong with a value that should be a leaf. -/
def Value.leafFaults (field : String) : Value → List CompileError
  | .float x => if x.isFinite then [] else [.nonFinite field]
  | .range r =>
    if r.isUnbounded then [.unboundedRange field]
    else if r.hasNonFinite then [.nonFinite field]
    else []
  | .list _ => [.nestedList field]
  | .expr _ => [.nestedExpression field]
  | _ => []

/-- What is wrong with a value that should be a leaf or a list of leaves. -/
def Value.fieldFaults (field : String) : Value → List CompileError
  | .list items => items.flatMap (Value.leafFaults field)
  | v => v.leafFaults field

/-- What is wrong with an entry in the shorthand `name`. -/
def Value.shorthandFaults (name field : String) (v : Value) : List CompileError :=
  if field = "" then [.emptyFieldName]
  else match v with
    | .expr _ => [.orShorthandShape name]
    | v => v.fieldFaults field

/-- What is wrong with the entries in the shorthand `name`. -/
def shorthandFaults (name : String) (terms : Expression) : List CompileError :=
  terms.flatMap fun p => p.2.shorthandFaults name p.1

mutual

/-- What is wrong with the value of an entry. -/
def Value.faults (key : String) : Value → List CompileError
  | .expr entries =>
    match Connective.ofKey? key with
    | some _ => Expression.faults entries
    | none =>
      if orSuffix.isSuffixOf key.toList then shorthandFaults key entries
      else [.nestedExpression key]
  | v =>
    match Connective.ofKey? key with
    | some op => [.operatorNeedsExpression op]
    | none => v.fieldFaults key
  termination_by structural v => v

/-- What is wrong with an expression, from left to right. An entry without a key has no other
fault. -/
def Expression.faults : Expression → List CompileError
  | [] => []
  | (key, v) :: rest =>
    (if key = "" then [.emptyFieldName] else v.faults key) ++ Expression.faults rest
  termination_by structural e => e

end

/-! ## Clauses from contents and faults -/

theorem leaf_eq_checked (field : String) (v : Value) :
    v.leaf field = checked (v.leafFaults field) ((v.atom? field).map Atom.clause) := by
  cases v with
  | null | bool | int | instant | list | expr => rfl
  | text s =>
    simp only [Value.leaf, Value.leafFaults, Value.atom?, checked_nil]
    split <;> rfl
  | float x =>
    simp only [Value.leaf, Value.leafFaults]
    split <;> rfl
  | range r =>
    simp only [Value.leaf, Value.leafFaults]
    split
    · rfl
    split <;> rfl

theorem listClauses_eq_checked (field : String) (items : List Value) :
    listClauses field items = checked (items.flatMap (Value.leafFaults field))
      ((items.filterMap (Value.atom? field)).map Atom.clause) := by
  induction items with
  | nil => rfl
  | cons v items ih =>
    rw [listClauses, leaf_eq_checked, ih, List.flatMap_cons]
    refine checked_bind _ _ _ (checked_bind_ok _ _ ?_)
    cases h : v.atom? field <;> simp [h]

theorem fieldClause_eq_checked (field : String) (v : Value) :
    v.fieldClause field = checked (v.fieldFaults field) (v.fieldContent field) := by
  cases v with
  | list items =>
    simp only [Value.fieldClause, listClauses_eq_checked, Value.fieldFaults, Value.fieldContent]
    refine checked_bind_ok _ _ ?_
    generalize (items.filterMap (Value.atom? field)).map Atom.clause = cs
    rcases cs with _ | ⟨c, _ | ⟨d, cs⟩⟩ <;> rfl
  | null | bool | int | float | text | instant | range | expr =>
    simp only [Value.fieldClause, leaf_eq_checked, Value.fieldFaults, Value.fieldContent]

theorem shorthandClauses_eq_checked (name : String) {field : String} (ne : field ≠ "") (v : Value) :
    v.shorthandClauses name field =
      checked (v.shorthandFaults name field) ((v.atoms field).map Atom.clause) := by
  cases v with
  | expr e => simp [Value.shorthandClauses, Value.shorthandFaults, ne]
  | list items =>
    simp only [Value.shorthandClauses, listClauses_eq_checked, Value.shorthandFaults, if_neg ne,
      Value.fieldFaults, Value.atoms]
  | null | bool | int | float | text | instant | range =>
    simp only [Value.shorthandClauses, leaf_eq_checked, Value.shorthandFaults, if_neg ne,
      Value.fieldFaults, Value.atoms, ← Option.toList_map]
    exact checked_bind_ok _ _ rfl

theorem shorthand_eq_checked (name : String) (terms : Expression) :
    shorthandClauses name terms =
      checked (shorthandFaults name terms) ((shorthandAtoms terms).map Atom.clause) := by
  induction terms with
  | nil => rfl
  | cons p terms ih =>
    obtain ⟨field, v⟩ := p
    rw [shorthandClauses, shorthandFaults, shorthandAtoms, List.flatMap_cons, List.flatMap_cons,
      List.map_append]
    by_cases ne : field = ""
    · simp [ne, Value.shorthandFaults]
    · simp only [if_neg ne, shorthandClauses_eq_checked name ne, ih]
      exact checked_bind _ _ _ (checked_bind_ok _ _ rfl)

mutual

theorem clause_eq_checked (key : String) :
    ∀ v : Value, v.clause key = checked (v.faults key) (v.content key)
  | .expr entries => by
    have nested := clauses_eq_checked entries
    simp only [Value.clause, KeyKind.classify, Value.faults, Value.content]
    cases Connective.ofKey? key with
    | some op =>
      simp only [nested]
      exact checked_bind_ok _ _ rfl
    | none =>
      dsimp only
      by_cases suffix : orSuffix.isSuffixOf key.toList = true
      · simp only [if_pos suffix, shorthand_eq_checked]
        exact checked_bind_ok _ _ rfl
      · simp only [if_neg suffix]
        rfl
  | .list _ | .null | .bool _ | .int _ | .float _ | .text _ | .instant _ | .range _ => by
    simp only [Value.clause, KeyKind.classify, Value.faults, Value.content]
    cases Connective.ofKey? key with
    | some op => rfl
    | none => exact fieldClause_eq_checked key _
  termination_by structural v => v

/-- **Clauses are contents without faults.** The clauses of an expression are its contents, unless
something is wrong with it; then the error is the first of its faults. -/
theorem clauses_eq_checked : ∀ e : Expression, e.clauses = checked e.faults e.contents
  | [] => rfl
  | (key, v) :: rest => by
    have first := clause_eq_checked key v
    have others := clauses_eq_checked rest
    rw [Expression.clauses, Expression.faults, Expression.contents]
    by_cases ne : key = ""
    · simp [ne]
    · simp only [if_neg ne, first, others]
      exact checked_bind _ _ _ (checked_bind_ok _ _ rfl)
  termination_by structural e => e

end

end CloudSearch.Filter
