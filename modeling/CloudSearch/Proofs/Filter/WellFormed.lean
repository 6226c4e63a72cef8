import CloudSearch.Proofs.Filter.Contents

/-!
# Well-formed expressions

The shapes that have a meaning, stated without reference to how clauses are made. A field holds a
leaf or a list of leaves, a connective an expression, and a shorthand an expression whose fields
hold no further ones. `Entry.Fault` says what is wrong with an entry that is none of these, looking
first at its key, then at its shape, and into an expression only where there may be one.
`clauses_ok_iff_wellFormed` says that exactly the well-formed expressions have clauses, and that
every other is refused with the fault of its first faulty entry.
-/

namespace CloudSearch.Filter
open Outcome

/-! ## Shapes -/

/-- The key is one of the connectives. -/
def IsOperator (key : String) : Prop :=
  ∃ op : Connective, key = op.name

/-- The key ends as those of shorthands do. -/
def EndsInOr (key : String) : Prop :=
  ∃ stem : String, key = stem ++ "_or"

/-- Every float that is an endpoint is a finite number. -/
def Range.EndsFinite (r : Range) : Prop :=
  ∀ x : Float, r.lower.endpoint? = some (.float x) ∨ r.upper.endpoint? = some (.float x) →
    x.isFinite = true

/-- The value stands for a single comparison, or for none. -/
def Value.IsLeaf : Value → Prop
  | .null => True
  | .bool _ => True
  | .int _ => True
  | .float x => x.isFinite = true
  | .text _ => True
  | .instant _ => True
  | .range r => r ≠ .unbounded ∧ r.EndsFinite
  | .list _ => False
  | .expr _ => False

/-- The value is a leaf or a list of leaves. -/
def Value.IsFieldValue : Value → Prop
  | .list items => ∀ v ∈ items, v.IsLeaf
  | v => v.IsLeaf

/-- A key with its value. -/
abbrev Entry := String × Value

/-- The entry may stand in a shorthand, where every key names a field. -/
def Entry.FitsShorthand (p : Entry) : Prop :=
  p.1 ≠ "" ∧ p.2.IsFieldValue

mutual

/-- The value may stand under the key. -/
def Value.Fits (key : String) : Value → Prop
  | .expr entries =>
    (IsOperator key ∧ Expression.WellFormed entries) ∨
      (¬ IsOperator key ∧ EndsInOr key ∧ ∀ p ∈ entries, Entry.FitsShorthand p)
  | v => ¬ IsOperator key ∧ v.IsFieldValue
  termination_by structural v => v

/-- Every entry has a key and a value that may stand under it. -/
def Expression.WellFormed : Expression → Prop
  | [] => True
  | (key, v) :: rest => (key ≠ "" ∧ v.Fits key) ∧ Expression.WellFormed rest
  termination_by structural e => e

end

/-- The entry may stand in an expression. -/
def Entry.Fits (p : Entry) : Prop :=
  p.1 ≠ "" ∧ p.2.Fits p.1

/-! ## Faults -/

/-- The first member that does not fit, all before it fitting, has the fault. -/
def First {α : Type} (fits : α → Prop) (fault : α → CompileError → Prop) (xs : List α)
    (err : CompileError) : Prop :=
  ∃ before x after, xs = before ++ x :: after ∧ (∀ y ∈ before, fits y) ∧ fault x err

/-- What is wrong with a value that should be a leaf. -/
inductive Value.LeafFault (field : String) : Value → CompileError → Prop
  | nestedExpression {entries : Expression} :
    LeafFault field (.expr entries) (.nestedExpression field)
  | nestedList {items : List Value} : LeafFault field (.list items) (.nestedList field)
  | unboundedRange : LeafFault field (.range .unbounded) (.unboundedRange field)
  | nonFiniteEnd {r : Range} (bounded : r ≠ .unbounded) (ends : ¬ r.EndsFinite) :
    LeafFault field (.range r) (.nonFinite field)
  | nonFinite {x : Float} (infinite : ¬ x.isFinite = true) :
    LeafFault field (.float x) (.nonFinite field)

/-- What is wrong with a value that should be a leaf or a list of leaves. -/
inductive Value.FieldFault (field : String) : Value → CompileError → Prop
  | items {items : List Value} {err : CompileError}
    (first : First Value.IsLeaf (Value.LeafFault field) items err) :
    FieldFault field (.list items) err
  | leaf {v : Value} {err : CompileError} (single : ∀ items, v ≠ .list items)
    (fault : v.LeafFault field err) : FieldFault field v err

/-- What is wrong with an entry in the shorthand `name`. -/
inductive Entry.ShorthandFault (name : String) : Entry → CompileError → Prop
  | emptyKey {v : Value} : ShorthandFault name ("", v) .emptyFieldName
  | expression {field : String} {entries : Expression} (named : field ≠ "") :
    ShorthandFault name (field, .expr entries) (.orShorthandShape name)
  | value {field : String} {v : Value} {err : CompileError} (named : field ≠ "")
    (plain : ∀ entries, v ≠ .expr entries) (fault : v.FieldFault field err) :
    ShorthandFault name (field, v) err

/-- What is wrong with an entry in an expression. Under a connective it is what is wrong with the
first entry that does not fit. -/
inductive Entry.Fault : Entry → CompileError → Prop
  | emptyKey {v : Value} : Fault ("", v) .emptyFieldName
  | operator {key : String} {op : Connective} {v : Value} (named : key = op.name)
    (plain : ∀ entries, v ≠ .expr entries) : Fault (key, v) (.operatorNeedsExpression op)
  | nested {key : String} {op : Connective} {entries before after : Expression} {p : Entry}
    {err : CompileError} (named : key = op.name) (split : entries = before ++ p :: after)
    (fits : ∀ q ∈ before, Entry.Fits q) (fault : Fault p err) : Fault (key, .expr entries) err
  | shorthand {name : String} {terms : Expression} {err : CompileError}
    (other : ¬ IsOperator name) (suffix : EndsInOr name)
    (first : First Entry.FitsShorthand (Entry.ShorthandFault name) terms err) :
    Fault (name, .expr terms) err
  | expression {key : String} {entries : Expression} (named : key ≠ "") (other : ¬ IsOperator key)
    (suffix : ¬ EndsInOr key) : Fault (key, .expr entries) (.nestedExpression key)
  | value {key : String} {v : Value} {err : CompileError} (named : key ≠ "")
    (other : ¬ IsOperator key) (plain : ∀ entries, v ≠ .expr entries)
    (fault : v.FieldFault key err) : Fault (key, v) err

/-! ## What the key decides -/

theorem ofKey?_eq_none_iff {key : String} : Connective.ofKey? key = none ↔ ¬ IsOperator key := by
  rw [Option.eq_none_iff_forall_ne_some]
  constructor
  · rintro none ⟨op, named⟩
    exact none op (Connective.ofKey?_eq_some_iff.2 named)
  · intro other op some
    exact other ⟨op, Connective.ofKey?_eq_some_iff.1 some⟩

theorem isSuffixOf_key_iff {key : String} :
    orSuffix.isSuffixOf key.toList = true ↔ EndsInOr key := by
  rw [List.isSuffixOf_iff_suffix]
  constructor
  · rintro ⟨stem, split⟩
    refine ⟨String.ofList stem, ?_⟩
    rw [← String.toList_inj, String.toList_append, String.toList_ofList, ← split]
    rfl
  · rintro ⟨stem, rfl⟩
    refine ⟨stem.toList, ?_⟩
    rw [String.toList_append]
    rfl

/-- A key is a connective, or ends as those of shorthands do, or neither. -/
theorem key_cases (key : String) :
    (∃ op : Connective, key = op.name) ∨ (¬ IsOperator key ∧ EndsInOr key) ∨
      (¬ IsOperator key ∧ ¬ EndsInOr key) := by
  by_cases operator : IsOperator key
  · exact .inl operator
  by_cases suffix : EndsInOr key
  · exact .inr (.inl ⟨operator, suffix⟩)
  · exact .inr (.inr ⟨operator, suffix⟩)

section

variable {key : String} {entries : Expression} {v : Value}

theorem Value.faults_operator {op : Connective} (operator : key = op.name) :
    (Value.expr entries).faults key = entries.faults := by
  simp only [Value.faults, Connective.ofKey?_eq_some_iff.2 operator]

theorem Value.content_operator {op : Connective} (operator : key = op.name) :
    (Value.expr entries).content key = unlessEmpty (.group op) entries.contents := by
  simp only [Value.content, Connective.ofKey?_eq_some_iff.2 operator]

theorem Value.faults_shorthand (other : ¬ IsOperator key) (suffix : EndsInOr key) :
    (Value.expr entries).faults key = Filter.shorthandFaults key entries := by
  simp only [Value.faults, ofKey?_eq_none_iff.2 other, if_pos (isSuffixOf_key_iff.2 suffix)]

theorem Value.content_shorthand (other : ¬ IsOperator key) (suffix : EndsInOr key) :
    (Value.expr entries).content key =
      unlessEmpty (.orShorthand key) ((shorthandAtoms entries).map Atom.clause) := by
  simp only [Value.content, ofKey?_eq_none_iff.2 other, if_pos (isSuffixOf_key_iff.2 suffix)]

/-- A field holds no expression. -/
theorem Value.faults_expression (other : ¬ IsOperator key) (suffix : ¬ EndsInOr key) :
    (Value.expr entries).faults key = [.nestedExpression key] := by
  simp only [Value.faults, ofKey?_eq_none_iff.2 other, if_neg (mt isSuffixOf_key_iff.1 suffix)]

theorem Value.content_expression (other : ¬ IsOperator key) (suffix : ¬ EndsInOr key) :
    (Value.expr entries).content key = none := by
  simp only [Value.content, ofKey?_eq_none_iff.2 other, if_neg (mt isSuffixOf_key_iff.1 suffix)]

/-- A connective holds nothing but an expression. -/
theorem Value.faults_notExpression {op : Connective} (operator : key = op.name)
    (plain : ∀ entries, v ≠ .expr entries) : v.faults key = [.operatorNeedsExpression op] := by
  cases v with
  | expr entries => exact absurd rfl (plain entries)
  | null | bool | int | float | text | instant | range | list =>
    simp only [Value.faults, Connective.ofKey?_eq_some_iff.2 operator]

theorem Value.faults_field (other : ¬ IsOperator key) (plain : ∀ entries, v ≠ .expr entries) :
    v.faults key = v.fieldFaults key := by
  cases v with
  | expr entries => exact absurd rfl (plain entries)
  | null | bool | int | float | text | instant | range | list =>
    simp only [Value.faults, ofKey?_eq_none_iff.2 other]

theorem Value.content_field (plain : ∀ entries, v ≠ .expr entries) :
    v.content key = v.fieldContent key := by
  cases v with
  | expr entries => exact absurd rfl (plain entries)
  | null | bool | int | float | text | instant | range | list => simp only [Value.content]

/-- An expression that has no faults stands under a connective, or makes a shorthand. -/
theorem Value.cases_of_expr_clean (clean : (Value.expr entries).faults key = []) :
    (∃ op : Connective, key = op.name ∧ entries.faults = []) ∨
      (¬ IsOperator key ∧ EndsInOr key ∧ Filter.shorthandFaults key entries = []) := by
  obtain ⟨op, operator⟩ | ⟨other, suffix⟩ | ⟨other, suffix⟩ := key_cases key
  · rw [Value.faults_operator operator] at clean
    exact .inl ⟨op, operator, clean⟩
  · rw [Value.faults_shorthand other suffix] at clean
    exact .inr ⟨other, suffix, clean⟩
  · rw [Value.faults_expression other suffix] at clean
    cases clean

/-- Any other value that has no faults is one of a field. -/
theorem Value.fieldFaults_of_clean (plain : ∀ entries, v ≠ .expr entries)
    (clean : v.faults key = []) : ¬ IsOperator key ∧ v.fieldFaults key = [] := by
  by_cases operator : IsOperator key
  · obtain ⟨op, named⟩ := operator
    rw [Value.faults_notExpression named plain] at clean
    cases clean
  · rw [Value.faults_field operator plain] at clean
    exact ⟨operator, clean⟩

end

/-! ## Shapes without faults -/

theorem Bound.isNonFinite_eq_false_iff {b : Bound} :
    b.isNonFinite = false ↔ ∀ x : Float, b.endpoint? = some (.float x) → x.isFinite = true := by
  unfold Bound.isNonFinite
  cases b.endpoint? with
  | none => simp
  | some e => cases e <;> simp [Endpoint.isNonFinite]

theorem Range.hasNonFinite_eq_false_iff {r : Range} : r.hasNonFinite = false ↔ r.EndsFinite := by
  unfold Range.hasNonFinite Range.EndsFinite
  rw [Bool.or_eq_false_iff, Bound.isNonFinite_eq_false_iff, Bound.isNonFinite_eq_false_iff]
  constructor
  · rintro ⟨lower, upper⟩ x (end_ | end_)
    · exact lower x end_
    · exact upper x end_
  · intro ends
    exact ⟨fun x h => ends x (.inl h), fun x h => ends x (.inr h)⟩

theorem leafFaults_eq_nil_iff {field : String} {v : Value} :
    v.leafFaults field = [] ↔ v.IsLeaf := by
  cases v with
  | null | bool | int | text | instant => simp [Value.leafFaults, Value.IsLeaf]
  | list | expr => simp [Value.leafFaults, Value.IsLeaf]
  | float x => simp [Value.leafFaults, Value.IsLeaf]
  | range r =>
    rw [Value.leafFaults, Value.IsLeaf, ← Range.hasNonFinite_eq_false_iff, ne_eq,
      ← Range.isUnbounded_iff]
    split
    · next open_ => simp [open_]
    · next bounded =>
      cases r.hasNonFinite <;> simp [bounded]

theorem fieldFaults_eq_nil_iff {field : String} {v : Value} :
    v.fieldFaults field = [] ↔ v.IsFieldValue := by
  cases v with
  | list items =>
    rw [Value.fieldFaults, Value.IsFieldValue, List.flatMap_eq_nil_iff]
    exact forall₂_congr fun _ _ => leafFaults_eq_nil_iff
  | null | bool | int | float | text | instant | range | expr =>
    simp only [Value.fieldFaults, Value.IsFieldValue]
    exact leafFaults_eq_nil_iff

theorem shorthandFaults_eq_nil_iff {name : String} {p : Entry} :
    p.2.shorthandFaults name p.1 = [] ↔ p.FitsShorthand := by
  obtain ⟨field, v⟩ := p
  by_cases named : field = ""
  · simp [Value.shorthandFaults, Entry.FitsShorthand, named]
  · have fits : Entry.FitsShorthand (field, v) ↔ v.IsFieldValue := and_iff_right named
    rw [fits]
    cases v with
    | expr => simp [Value.shorthandFaults, Value.IsFieldValue, Value.IsLeaf, named]
    | null | bool | int | float | text | instant | range | list =>
      simp only [Value.shorthandFaults, if_neg named]
      exact fieldFaults_eq_nil_iff

/-- What is wrong with an entry. -/
def Entry.faults (p : Entry) : List CompileError :=
  if p.1 = "" then [.emptyFieldName] else p.2.faults p.1

theorem Expression.faults_eq (e : Expression) : e.faults = e.flatMap Entry.faults := by
  induction e with
  | nil => rfl
  | cons p e ih =>
    rw [Expression.faults, ih, List.flatMap_cons]
    rfl

theorem Expression.contents_eq (e : Expression) :
    e.contents = e.flatMap fun p => (p.2.content p.1).toList := by
  induction e with
  | nil => rfl
  | cons p e ih => rw [Expression.contents, ih, List.flatMap_cons]

mutual

theorem Value.faults_eq_nil_iff (key : String) : ∀ v : Value, v.faults key = [] ↔ v.Fits key
  | .expr entries => by
    have nested := Expression.faults_eq_nil_iff entries
    rw [Value.Fits, ← nested]
    obtain ⟨op, operator⟩ | ⟨other, suffix⟩ | ⟨other, suffix⟩ := key_cases key
    · have is_operator : IsOperator key := ⟨op, operator⟩
      simp [Value.faults_operator operator, is_operator]
    · rw [Value.faults_shorthand other suffix, shorthandFaults, List.flatMap_eq_nil_iff]
      simp only [shorthandFaults_eq_nil_iff, other, suffix, not_false_eq_true, true_and, false_and,
        false_or]
    · simp [Value.faults_expression other suffix, other, suffix]
  | .list _ | .null | .bool _ | .int _ | .float _ | .text _ | .instant _ | .range _ => by
    rw [Value.Fits, ← fieldFaults_eq_nil_iff]
    · constructor
      · exact Value.fieldFaults_of_clean (fun _ => by simp)
      · rintro ⟨other, clean⟩
        exact (Value.faults_field other (fun _ => by simp)).trans clean
    · nofun
  termination_by structural v => v

/-- The well-formed expressions are those without faults. -/
theorem Expression.faults_eq_nil_iff : ∀ e : Expression, e.faults = [] ↔ e.WellFormed
  | [] => by simp [Expression.faults, Expression.WellFormed]
  | (key, v) :: rest => by
    have first := Value.faults_eq_nil_iff key v
    have others := Expression.faults_eq_nil_iff rest
    rw [Expression.faults, Expression.WellFormed, List.append_eq_nil_iff, others]
    by_cases named : key = ""
    · simp [named]
    · simp [named, first]
  termination_by structural e => e

end

theorem Entry.faults_eq_nil_iff {p : Entry} : p.faults = [] ↔ p.Fits := by
  obtain ⟨key, v⟩ := p
  by_cases named : key = ""
  · simp [Entry.faults, Entry.Fits, named]
  · simp [Entry.faults, Entry.Fits, named, Value.faults_eq_nil_iff]

/-! ## The first fault -/

/-- The first fault of a row is that of the first member that does not fit. -/
theorem head?_flatMap_iff_first {α : Type} {fits : α → Prop} {fault : α → CompileError → Prop}
    {faults : α → List CompileError} {xs : List α} {err : CompileError}
    (fits_iff : ∀ x ∈ xs, (faults x = [] ↔ fits x))
    (fault_iff : ∀ x ∈ xs, ∀ err, ((faults x).head? = some err ↔ fault x err)) :
    (xs.flatMap faults).head? = some err ↔ First fits fault xs err := by
  rw [List.head?_flatMap, List.findSome?_eq_some_iff]
  constructor
  · rintro ⟨before, x, after, rfl, faulty, clean⟩
    refine ⟨before, x, after, rfl, ?_, (fault_iff x (by simp) err).1 faulty⟩
    intro y mem
    exact (fits_iff y (by simp [mem])).1 (List.head?_eq_none_iff.1 (clean y mem))
  · rintro ⟨before, x, after, rfl, clean, faulty⟩
    refine ⟨before, x, after, rfl, (fault_iff x (by simp) err).2 faulty, ?_⟩
    intro y mem
    exact List.head?_eq_none_iff.2 ((fits_iff y (by simp [mem])).2 (clean y mem))

theorem head?_leafFaults_iff {field : String} {v : Value} {err : CompileError} :
    (v.leafFaults field).head? = some err ↔ v.LeafFault field err := by
  constructor
  · intro h
    cases v with
    | null | bool | int | text | instant => cases h
    | list => cases h; exact .nestedList
    | expr => cases h; exact .nestedExpression
    | float x =>
      rw [Value.leafFaults] at h
      split at h
      · cases h
      · next infinite =>
        cases h
        exact .nonFinite infinite
    | range r =>
      rw [Value.leafFaults] at h
      split at h
      · next unbounded =>
        cases Range.isUnbounded_iff.1 unbounded
        cases h
        exact .unboundedRange
      · next bounded =>
        split at h
        · next infinite =>
          cases h
          refine .nonFiniteEnd (mt Range.isUnbounded_iff.2 bounded) ?_
          rw [← Range.hasNonFinite_eq_false_iff, infinite]
          decide
        · cases h
  · intro h
    cases h with
    | nestedExpression | nestedList | unboundedRange => rfl
    | nonFiniteEnd bounded ends =>
      rw [← Range.hasNonFinite_eq_false_iff, Bool.not_eq_false] at ends
      simp [Value.leafFaults, mt Range.isUnbounded_iff.1 bounded, ends]
    | nonFinite infinite => simp [Value.leafFaults, infinite]

theorem head?_fieldFaults_iff {field : String} {v : Value} {err : CompileError} :
    (v.fieldFaults field).head? = some err ↔ v.FieldFault field err := by
  cases v with
  | list items =>
    rw [Value.fieldFaults, head?_flatMap_iff_first (fun _ _ => leafFaults_eq_nil_iff)
      (fun _ _ _ => head?_leafFaults_iff)]
    constructor
    · exact .items
    · intro h
      cases h with
      | items first => exact first
      | leaf single => exact absurd rfl (single items)
  | null | bool | int | float | text | instant | range | expr =>
    simp only [Value.fieldFaults, head?_leafFaults_iff]
    constructor
    · exact .leaf (fun _ => by simp)
    · intro h
      cases h with
      | leaf _ fault => exact fault

theorem head?_shorthandFaults_iff {name : String} {p : Entry} {err : CompileError} :
    (p.2.shorthandFaults name p.1).head? = some err ↔ p.ShorthandFault name err := by
  obtain ⟨field, v⟩ := p
  by_cases named : field = ""
  · subst named
    simp only [Value.shorthandFaults, if_true, List.head?_cons, Option.some.injEq]
    constructor
    · rintro rfl
      exact .emptyKey
    · intro h
      cases h with
      | emptyKey => rfl
      | expression named | value named => exact absurd rfl named
  · cases v with
    | expr entries =>
      simp only [Value.shorthandFaults, if_neg named, List.head?_cons, Option.some.injEq]
      constructor
      · rintro rfl
        exact .expression named
      · intro h
        cases h with
        | emptyKey => exact absurd rfl named
        | expression => rfl
        | value _ plain => exact absurd rfl (plain entries)
    | null | bool | int | float | text | instant | range | list =>
      simp only [Value.shorthandFaults, if_neg named, head?_fieldFaults_iff]
      constructor
      · exact .value named (fun _ => by simp)
      · intro h
        cases h with
        | emptyKey => exact absurd rfl named
        | value _ _ fault => exact fault

/-! ## Faults by the kind of the entry -/

theorem not_isOperator_empty : ¬ IsOperator "" := by
  rintro ⟨op, named⟩
  cases op <;> exact absurd named (by decide)

theorem not_endsInOr_empty : ¬ EndsInOr "" := by
  rw [← isSuffixOf_key_iff]
  decide

/-- An entry without a key has that fault and no other. -/
theorem Entry.fault_unnamed_iff {v : Value} {err : CompileError} :
    Entry.Fault ("", v) err ↔ err = .emptyFieldName := by
  constructor
  · intro h
    cases h with
    | emptyKey => rfl
    | operator same => exact absurd ⟨_, same⟩ not_isOperator_empty
    | nested same => exact absurd ⟨_, same⟩ not_isOperator_empty
    | shorthand _ suffix => exact absurd suffix not_endsInOr_empty
    | expression named => exact absurd rfl named
    | value named => exact absurd rfl named
  · rintro rfl
    exact .emptyKey

theorem Entry.fault_operator_iff {key : String} {op : Connective} {v : Value} {err : CompileError}
    (operator : key = op.name) (plain : ∀ entries, v ≠ .expr entries) :
    Entry.Fault (key, v) err ↔ err = .operatorNeedsExpression op := by
  constructor
  · intro h
    cases h with
    | emptyKey => exact absurd ⟨op, operator⟩ not_isOperator_empty
    | operator same =>
      have kind := Connective.ofKey?_eq_some_iff.2 operator
      rw [Connective.ofKey?_eq_some_iff.2 same] at kind
      cases kind
      rfl
    | nested => exact absurd rfl (plain _)
    | shorthand => exact absurd rfl (plain _)
    | expression => exact absurd rfl (plain _)
    | value _ other => exact absurd ⟨op, operator⟩ other
  · rintro rfl
    exact .operator operator plain

/-- Under a connective the faults of an expression are those of its first entry that does not
fit. -/
theorem Entry.fault_nested_iff {key : String} {op : Connective} {entries : Expression}
    {err : CompileError} (operator : key = op.name) :
    Entry.Fault (key, .expr entries) err ↔ First Entry.Fits Entry.Fault entries err := by
  constructor
  · intro h
    cases h with
    | emptyKey => exact absurd ⟨op, operator⟩ not_isOperator_empty
    | operator _ plain => exact absurd rfl (plain entries)
    | nested _ split fits fault => exact ⟨_, _, _, split, fits, fault⟩
    | shorthand other => exact absurd ⟨op, operator⟩ other
    | expression _ other => exact absurd ⟨op, operator⟩ other
    | value _ other => exact absurd ⟨op, operator⟩ other
  · rintro ⟨before, p, after, split, fits, fault⟩
    exact .nested operator split fits fault

theorem Entry.fault_shorthand_iff {name : String} {terms : Expression} {err : CompileError}
    (other : ¬ IsOperator name) (suffix : EndsInOr name) :
    Entry.Fault (name, .expr terms) err ↔
      First Entry.FitsShorthand (Entry.ShorthandFault name) terms err := by
  constructor
  · intro h
    cases h with
    | emptyKey => exact absurd suffix not_endsInOr_empty
    | operator same => exact absurd ⟨_, same⟩ other
    | nested same => exact absurd ⟨_, same⟩ other
    | shorthand _ _ first => exact first
    | expression _ _ plain => exact absurd suffix plain
    | value _ _ plain => exact absurd rfl (plain terms)
  · exact .shorthand other suffix

theorem Entry.fault_expression_iff {key : String} {entries : Expression} {err : CompileError}
    (named : key ≠ "") (other : ¬ IsOperator key) (suffix : ¬ EndsInOr key) :
    Entry.Fault (key, .expr entries) err ↔ err = .nestedExpression key := by
  constructor
  · intro h
    cases h with
    | emptyKey => exact absurd rfl named
    | operator same => exact absurd ⟨_, same⟩ other
    | nested same => exact absurd ⟨_, same⟩ other
    | shorthand _ ends => exact absurd ends suffix
    | expression => rfl
    | value _ _ plain => exact absurd rfl (plain entries)
  · rintro rfl
    exact .expression named other suffix

theorem Entry.fault_value_iff {key : String} {v : Value} {err : CompileError} (named : key ≠ "")
    (other : ¬ IsOperator key) (plain : ∀ entries, v ≠ .expr entries) :
    Entry.Fault (key, v) err ↔ v.FieldFault key err := by
  constructor
  · intro h
    cases h with
    | emptyKey => exact absurd rfl named
    | operator same => exact absurd ⟨_, same⟩ other
    | nested same => exact absurd ⟨_, same⟩ other
    | shorthand => exact absurd rfl (plain _)
    | expression => exact absurd rfl (plain _)
    | value _ _ _ fault => exact fault
  · exact .value named other plain

/-! ## The first fault of an expression -/

theorem head?_plainFaults_iff {key : String} {v : Value} {err : CompileError} (named : key ≠ "")
    (plain : ∀ entries, v ≠ .expr entries) :
    (v.faults key).head? = some err ↔ Entry.Fault (key, v) err := by
  by_cases operator : IsOperator key
  · obtain ⟨op, operator⟩ := operator
    rw [Value.faults_notExpression operator plain, List.head?_cons, Option.some.injEq,
      Entry.fault_operator_iff operator plain, eq_comm]
  · rw [Value.faults_field operator plain, head?_fieldFaults_iff,
      Entry.fault_value_iff named operator plain]

/-- The first fault of an expression under a key, if those of its entries are known. -/
theorem head?_nestedFaults_iff {key : String} {entries : Expression} {err : CompileError}
    (named : key ≠ "")
    (inner : ∀ p ∈ entries, ∀ err, ((Entry.faults p).head? = some err ↔ Entry.Fault p err)) :
    ((Value.expr entries).faults key).head? = some err ↔ Entry.Fault (key, .expr entries) err := by
  obtain ⟨op, operator⟩ | ⟨other, suffix⟩ | ⟨other, suffix⟩ := key_cases key
  · rw [Entry.fault_nested_iff operator, Value.faults_operator operator, Expression.faults_eq]
    exact head?_flatMap_iff_first (fun _ _ => Entry.faults_eq_nil_iff) inner
  · rw [Entry.fault_shorthand_iff other suffix, Value.faults_shorthand other suffix,
      shorthandFaults]
    exact head?_flatMap_iff_first (fun _ _ => shorthandFaults_eq_nil_iff)
      (fun _ _ _ => head?_shorthandFaults_iff)
  · rw [Entry.fault_expression_iff named other suffix, Value.faults_expression other suffix,
      List.head?_cons, Option.some.injEq, eq_comm]

theorem head?_unnamedFaults_iff {v : Value} {err : CompileError} :
    (Entry.faults ("", v)).head? = some err ↔ Entry.Fault ("", v) err := by
  rw [Entry.faults, if_pos rfl, List.head?_cons, Option.some.injEq, Entry.fault_unnamed_iff,
    eq_comm]

mutual

theorem Value.head?_faults_iff (key : String) (err : CompileError) (named : key ≠ "") :
    ∀ v : Value, (v.faults key).head? = some err ↔ Entry.Fault (key, v) err
  | .expr entries => head?_nestedFaults_iff named (Expression.head?_faults_iff entries)
  | .list _ | .null | .bool _ | .int _ | .float _ | .text _ | .instant _ | .range _ =>
    head?_plainFaults_iff named (fun _ => by simp)
  termination_by structural v => v

theorem Expression.head?_faults_iff : ∀ e : Expression, ∀ p ∈ e, ∀ err,
    (Entry.faults p).head? = some err ↔ Entry.Fault p err
  | [] => by simp
  | (key, v) :: rest => by
    have first := fun err named => Value.head?_faults_iff key err named v
    have others := Expression.head?_faults_iff rest
    intro p mem err
    rcases List.mem_cons.1 mem with rfl | mem
    · by_cases named : key = ""
      · subst named
        exact head?_unnamedFaults_iff
      · rw [Entry.faults, if_neg named]
        exact first err named
    · exact others p mem err
  termination_by structural e => e

end

/-- **Exactly the well-formed expressions have clauses.** Every other is refused, and the reason is
the fault of its first entry that does not fit. -/
theorem clauses_ok_iff_wellFormed (e : Expression) :
    ((∃ cs, e.clauses = .ok cs) ↔ e.WellFormed) ∧
      ∀ err, e.clauses = .error err ↔ First Entry.Fits Entry.Fault e err := by
  rw [clauses_eq_checked]
  constructor
  · rw [← Expression.faults_eq_nil_iff]
    constructor
    · rintro ⟨cs, ok⟩
      exact (checked_eq_ok_iff.1 ok).1
    · intro clean
      exact ⟨_, checked_eq_ok_iff.2 ⟨clean, rfl⟩⟩
  · intro err
    rw [checked_eq_error_iff, Expression.faults_eq]
    exact head?_flatMap_iff_first (fun _ _ => Entry.faults_eq_nil_iff)
      (Expression.head?_faults_iff e)

/-- A fault deep in the first entry comes before one at the top of the second. -/
example : Expression.clauses [("or", .expr [("year", .int 1994), ("crew_or", .expr [("", .null)])]),
    ("and", .text "oops")] = .error .emptyFieldName := rfl

end CloudSearch.Filter
