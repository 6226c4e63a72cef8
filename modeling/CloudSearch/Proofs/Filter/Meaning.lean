import CloudSearch.Proofs.Filter.Contents

/-!
# The meaning of a filter

A filter is true or false of a document, once it is known which of its atoms are. There are two
ways to find out. `Expression.truths` reads the expression as it stands, nested lists, shorthands
and empty groups included. `Formula.truths?` evaluates the formulas that are written for its
clauses, and takes a negation for one only if it has exactly one operand.
`truths_of_clauses` says that both find the same.
-/

namespace CloudSearch.Filter
open Outcome

/-! ## Connectives -/

/-- The connective over truth values, where a negation is that of the conjunction. -/
def Connective.holds : Connective → List Bool → Bool
  | .and, bs => bs.all id
  | .or, bs => bs.any id
  | .not, bs => !bs.all id

/-- What a connective over these contributions contributes: nothing over none of them. -/
def Connective.contribution (op : Connective) : List Bool → Option Bool
  | [] => none
  | bs => some (op.holds bs)

/-- The connective as an operation of the query language. It wants operands, and a negation exactly
one. -/
def Connective.apply? : Connective → List Bool → Option Bool
  | _, [] => none
  | .and, bs => some (bs.all id)
  | .or, bs => some (bs.any id)
  | .not, [b] => some !b
  | .not, _ => none

/-! ## Expressions -/

section

variable (truth : Atom → Bool)

/-- What a value contributes under a field, a list the disjunction of its items. -/
def Value.fieldTruth (field : String) : Value → Option Bool
  | .list items => Connective.or.contribution (items.filterMap fun v => (v.atom? field).map truth)
  | v => (v.atom? field).map truth

mutual

/-- What an entry contributes. -/
def Value.truth (key : String) : Value → Option Bool
  | .expr entries =>
    match Connective.ofKey? key with
    | some op => op.contribution (Expression.truths entries)
    | none =>
      if orSuffix.isSuffixOf key.toList then
        Connective.or.contribution ((shorthandAtoms entries).map truth)
      else none
  | v => v.fieldTruth truth key
  termination_by structural v => v

/-- What the entries contribute, in order. -/
def Expression.truths : Expression → List Bool
  | [] => []
  | (key, v) :: rest => (v.truth key).toList ++ Expression.truths rest
  termination_by structural e => e

end

end

/-! ## Formulas -/

namespace Formula

variable {α : Type} {truth : α → Bool}

section

variable (truth : α → Bool)

mutual

/-- The truth value of a formula. -/
def truth? : Formula α → Option Bool
  | .leaf a => some (truth a)
  | .group op operands => (truths? operands).bind op.apply?
  termination_by structural x => x

/-- The truth value of each of the formulas. -/
def truths? : List (Formula α) → Option (List Bool)
  | [] => some []
  | x :: rest => do
    let b ← truth? x
    let bs ← truths? rest
    return b :: bs
  termination_by structural xs => xs

end

end

theorem truths?_cons {x : Formula α} {xs : List (Formula α)} {b : Bool} {bs : List Bool}
    (head : x.truth? truth = some b) (tail : truths? truth xs = some bs) :
    truths? truth (x :: xs) = some (b :: bs) := by
  rw [truths?, head, tail]
  rfl

theorem truths?_append {xs ys : List (Formula α)} {bs cs : List Bool}
    (left : truths? truth xs = some bs) (right : truths? truth ys = some cs) :
    truths? truth (xs ++ ys) = some (bs ++ cs) := by
  induction xs generalizing bs with
  | nil =>
    cases left
    exact right
  | cons x xs ih =>
    obtain ⟨b, head, left⟩ := Option.bind_eq_some_iff.1 left
    obtain ⟨bs', tail, left⟩ := Option.bind_eq_some_iff.1 left
    cases left
    exact truths?_cons head (ih tail)

theorem length_of_truths? {xs : List (Formula α)} {bs : List Bool}
    (h : truths? truth xs = some bs) : bs.length = xs.length := by
  induction xs generalizing bs with
  | nil => cases h; rfl
  | cons x xs ih =>
    obtain ⟨b, -, h⟩ := Option.bind_eq_some_iff.1 h
    obtain ⟨bs', tail, h⟩ := Option.bind_eq_some_iff.1 h
    cases h
    rw [List.length_cons, List.length_cons, ih tail]

theorem truths?_leaves (as : List α) :
    truths? truth (as.map .leaf) = some (as.map truth) := by
  induction as with
  | nil => rfl
  | cons a as ih => exact truths?_cons rfl ih

/-- A connected group is evaluated as an operation of the query language, and yields what the
connective says of the truth values. -/
theorem truth?_connect {op : Connective} {xs : List (Formula α)} {b : Bool} {bs : List Bool}
    (h : truths? truth xs = some (b :: bs)) :
    (connect op xs).truth? truth = some (op.holds (b :: bs)) := by
  have count := length_of_truths? h
  unfold connect
  split
  · next several =>
    -- The negation of several operands is applied to their conjunction alone.
    obtain ⟨rfl, -⟩ := several
    have inner : (Formula.group .and xs).truth? truth = some ((b :: bs).all id) := by
      rw [truth?, h]
      rfl
    rw [truth?, truths?_cons inner rfl]
    rfl
  · next single =>
    rw [truth?, h, Option.bind_some]
    cases op with
    | and | or => rfl
    | not =>
      have one : bs = [] := by
        have bound : ¬ 1 < xs.length := fun more => single ⟨rfl, more⟩
        rw [List.length_cons] at count
        exact List.eq_nil_of_length_eq_zero (by omega)
      subst one
      cases b <;> rfl

theorem connect_or (xs : List (Formula α)) : connect .or xs = .group .or xs := by
  simp [connect]

end Formula

/-! ## Clauses -/

variable {truth : Atom → Bool}

theorem Atom.formula_clause (a : Atom) : a.clause.formula = .leaf a := by
  cases a <;> rfl

theorem formulas_atoms (as : List Atom) :
    Clause.formulas (as.map Atom.clause) = as.map .leaf := by
  rw [Clause.formulas_eq, List.map_map]
  exact List.map_congr_left fun a _ => a.formula_clause

theorem truths?_atoms (as : List Atom) :
    Formula.truths? truth (Clause.formulas (as.map Atom.clause)) = some (as.map truth) := by
  rw [formulas_atoms, Formula.truths?_leaves]

/-- A wrapped list of clauses contributes what the connective makes of it, and both are absent
together. -/
theorem truths?_unlessEmpty {op : Connective} {wrap : List Clause → Clause} {cs : List Clause}
    {bs : List Bool} (means : (wrap cs).formula = .connect op (Clause.formulas cs))
    (h : Formula.truths? truth (Clause.formulas cs) = some bs) :
    Formula.truths? truth (Clause.formulas (unlessEmpty wrap cs).toList) =
      some (op.contribution bs).toList := by
  have count := Formula.length_of_truths? h
  rw [Clause.formulas_eq, List.length_map] at count
  cases cs with
  | nil =>
    cases List.eq_nil_of_length_eq_zero count
    rfl
  | cons c cs =>
    cases bs with
    | nil => cases count
    | cons b bs =>
      have whole := @Formula.truth?_connect _ truth op _ _ _ h
      rw [← means] at whole
      exact Formula.truths?_cons whole rfl

theorem truths?_fieldContent (field : String) (v : Value) :
    Formula.truths? truth (Clause.formulas (v.fieldContent field).toList) =
      some (v.fieldTruth truth field).toList := by
  cases v with
  | list items =>
    have atoms : (items.filterMap fun v => (v.atom? field).map truth) =
        (items.filterMap (Value.atom? field)).map truth := by
      rw [List.map_filterMap]
    simp only [Value.fieldContent, Value.fieldTruth, atoms]
    generalize items.filterMap (Value.atom? field) = as
    rcases as with _ | ⟨a, _ | ⟨b, as⟩⟩
    · rfl
    · -- One item stands for itself, as it does in a disjunction.
      have single : Connective.or.holds [truth a] = truth a := by simp [Connective.holds]
      simpa [Connective.contribution, single] using truths?_atoms [a]
    · have means : (Clause.anyOf field ((a :: b :: as).map Atom.clause)).formula =
          .connect .or (Clause.formulas ((a :: b :: as).map Atom.clause)) :=
        (Formula.connect_or _).symm
      exact truths?_unlessEmpty means (truths?_atoms (a :: b :: as))
  | null | bool | int | float | text | instant | range | expr =>
    simp only [Value.fieldContent, Value.fieldTruth, Option.toList_map]
    exact truths?_atoms _

mutual

theorem truths?_content (key : String) : ∀ v : Value,
    Formula.truths? truth (Clause.formulas (v.content key).toList) =
      some (v.truth truth key).toList
  | .expr entries => by
    have nested := truths?_contents entries
    simp only [Value.content, Value.truth]
    cases Connective.ofKey? key with
    | some op => exact truths?_unlessEmpty rfl nested
    | none =>
      dsimp only
      by_cases suffix : orSuffix.isSuffixOf key.toList = true
      · simp only [if_pos suffix]
        exact truths?_unlessEmpty (Formula.connect_or _).symm (truths?_atoms _)
      · simp only [if_neg suffix]
        rfl
  | .list _ | .null | .bool _ | .int _ | .float _ | .text _ | .instant _ | .range _ => by
    simp only [Value.content, Value.truth]
    exact truths?_fieldContent key _
  termination_by structural v => v

theorem truths?_contents : ∀ e : Expression,
    Formula.truths? truth (Clause.formulas e.contents) = some (e.truths truth)
  | [] => rfl
  | (key, v) :: rest => by
    have first := truths?_content key v
    have others := truths?_contents rest
    rw [Clause.formulas_eq] at first others
    rw [Expression.contents, Expression.truths, Clause.formulas_eq, List.map_append]
    exact Formula.truths?_append first others
  termination_by structural e => e

end

/-- **Compilation preserves meaning.** Under every truth assignment to the atoms, the formulas that
are written for the clauses of an expression, in either dialect, are true or false just as the
entries of the expression are that contribute anything, in their order. -/
theorem truths_of_clauses {e : Expression} {cs : List Clause} (compiled : e.clauses = .ok cs)
    (truth : Atom → Bool) :
    (∀ d, render d cs = (Formula.texts d (Clause.formulas cs)).map (" ".intercalate ·)) ∧
      Formula.truths? truth (Clause.formulas cs) = some (e.truths truth) := by
  refine ⟨fun d => render_eq d cs, ?_⟩
  rw [clauses_eq_checked, checked_eq_ok_iff] at compiled
  obtain ⟨-, rfl⟩ := compiled
  exact truths?_contents e

/-- An expression in which lists, shorthands and groups vanish in part or altogether. -/
def mostlyBlank : Expression :=
  [("not", .expr [("genre", .list [.null, .text "drama", .text " "]), ("year", .int 1994),
      ("and", .expr [("title", .text "")])]),
    ("or", .expr [("not", .expr [("title", .null)])]),
    ("crew_or", .expr [("cast", .list [.text "Uma", .null]), ("director", .text "Quentin")])]

/-- Under the assignment by which just the dramas qualify, the negation of dramas from one year is
true, the empty disjunction is left out, and the shorthand is false. -/
theorem truths_of_clauses_mostlyBlank :
    (∀ d, render d mostlyBlank.contents =
        (Formula.texts d (Clause.formulas mostlyBlank.contents)).map (" ".intercalate ·)) ∧
      Formula.truths? (fun a => a.field == "genre") (Clause.formulas mostlyBlank.contents) =
        some [true, false] :=
  have compiled : mostlyBlank.clauses = .ok mostlyBlank.contents := by rfl
  truths_of_clauses compiled _

end CloudSearch.Filter
