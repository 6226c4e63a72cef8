import CloudSearch.Proofs.Filter.Leaves

/-!
# Normal clauses

Clauses can be put together in ways that nothing should be written for: groups of nothing,
disjunctions of one, comparisons with nothing. `Clause.Normal` excludes them, at every depth. The
clauses of an expression are normal, and they are made of the comparisons that stand in the
expression, of each of them once and in their order (`clauses_normal`).
-/

namespace CloudSearch.Filter
open Outcome

/-- The clause is a single comparison. -/
def Clause.IsLeaf (c : Clause) : Prop :=
  ∃ a : Atom, c = a.clause

/-- The clause is a single comparison with the field. -/
def Clause.IsLeafOn (field : String) (c : Clause) : Prop :=
  ∃ a : Atom, a.field = field ∧ c = a.clause

/-- Everything in the clause is there for a reason: groups have children, shorthands and lists are
disjunctions of comparisons, those of a list being two at least and all with its field, and every
comparison is one of a named field with something. -/
inductive Clause.Normal : Clause → Prop
  | group {op : Connective} {children : List Clause} (filled : children ≠ [])
    (each : ∀ c ∈ children, Normal c) : Normal (.group op children)
  | orShorthand {name : String} {clauses : List Clause} (suffix : EndsInOr name)
    (filled : clauses ≠ []) (leaves : ∀ c ∈ clauses, c.IsLeaf) (each : ∀ c ∈ clauses, Normal c) :
    Normal (.orShorthand name clauses)
  | anyOf {field : String} {clauses : List Clause} (several : 2 ≤ clauses.length)
    (leaves : ∀ c ∈ clauses, c.IsLeafOn field) (each : ∀ c ∈ clauses, Normal c) :
    Normal (.anyOf field clauses)
  | term {field : String} {v : Scalar} (named : field ≠ "") (sound : (Atom.term field v).Sound) :
    Normal (.term field v)
  | range {field : String} {r : Range} (named : field ≠ "") (sound : (Atom.range field r).Sound) :
    Normal (.range field r)

mutual

/-- The comparisons of a value under a key. -/
def Value.comparisons (key : String) : Value → List Atom
  | .expr entries => Expression.comparisons entries
  | v => v.atoms key
  termination_by structural v => v

/-- The comparisons that stand in an expression, from left to right and wherever they are nested,
each with the key right above it. Nulls and blank texts are none. -/
def Expression.comparisons : Expression → List Atom
  | [] => []
  | (key, v) :: rest => v.comparisons key ++ Expression.comparisons rest
  termination_by structural e => e

end

/-! ## Comparisons of one field -/

theorem field_of_atom? {field : String} {v : Value} {a : Atom} (atom : v.atom? field = some a) :
    a.field = field := by
  cases v with
  | null | list | expr => cases atom
  | bool | int | float | instant | range => cases atom; rfl
  | text s =>
    rw [Value.atom?] at atom
    split at atom
    · cases atom
    · cases atom; rfl

theorem field_of_mem_atoms {field : String} {v : Value} {a : Atom} (mem : a ∈ v.atoms field) :
    a.field = field := by
  cases v with
  | list items =>
    obtain ⟨v, -, atom⟩ := List.mem_filterMap.1 mem
    exact field_of_atom? atom
  | null | bool | int | float | text | instant | range | expr =>
    simp only [Value.atoms, Option.mem_toList] at mem
    exact field_of_atom? mem

theorem Atom.normal_clause {a : Atom} (named : a.field ≠ "") (sound : a.Sound) :
    a.clause.Normal := by
  cases a with
  | term field v => exact .term named sound
  | range field r => exact .range named sound

theorem normal_of_mem_atoms {field : String} {v : Value} (named : field ≠ "")
    (clean : v.fieldFaults field = []) : ∀ a ∈ v.atoms field, a.clause.Normal := by
  intro a mem
  apply Atom.normal_clause
  · rw [field_of_mem_atoms mem]
    exact named
  · exact sound_of_mem_atoms clean mem

theorem normal_of_mem_fieldContent {field : String} {v : Value} (named : field ≠ "")
    (clean : v.fieldFaults field = []) : ∀ c ∈ v.fieldContent field, c.Normal := by
  have each := normal_of_mem_atoms named clean
  have fields : ∀ a ∈ v.atoms field, a.field = field := fun a mem => field_of_mem_atoms mem
  rw [fieldContent_eq]
  generalize v.atoms field = as at each fields
  intro c mem
  rcases as with _ | ⟨a, _ | ⟨b, as⟩⟩
  · cases mem
  · cases mem
    exact each a List.mem_cons_self
  · cases mem
    apply Clause.Normal.anyOf
    · simp
    · intro d item
      rw [← List.map_cons] at item
      obtain ⟨a, atom, rfl⟩ := List.mem_map.1 item
      exact ⟨a, fields a atom, rfl⟩
    · intro d item
      rw [← List.map_cons] at item
      obtain ⟨a, atom, rfl⟩ := List.mem_map.1 item
      exact each a atom

/-! ## Clauses of entries -/

/-- Where there is nothing to wrap, there is no clause that could fail to be normal. -/
theorem normal_of_mem_unlessEmpty {wrap : List Clause → Clause} {cs : List Clause}
    (wrapped : cs ≠ [] → (wrap cs).Normal) : ∀ c ∈ unlessEmpty wrap cs, c.Normal := by
  intro c mem
  cases cs with
  | nil => cases mem
  | cons d cs =>
    cases mem
    exact wrapped (List.cons_ne_nil d cs)

theorem normal_of_mem_shorthandAtoms {name : String} {terms : Expression}
    (clean : shorthandFaults name terms = []) : ∀ a ∈ shorthandAtoms terms, a.clause.Normal := by
  intro a mem
  obtain ⟨p, entry, atom⟩ := List.mem_flatMap.1 mem
  obtain ⟨named, fits⟩ := shorthandFaults_eq_nil_iff.1 (List.flatMap_eq_nil_iff.1 clean p entry)
  exact normal_of_mem_atoms named (fieldFaults_eq_nil_iff.2 fits) a atom

theorem normal_shorthand {name : String} {terms : Expression} (suffix : EndsInOr name)
    (clean : shorthandFaults name terms = []) :
    ∀ c ∈ unlessEmpty (.orShorthand name) ((shorthandAtoms terms).map Atom.clause), c.Normal := by
  apply normal_of_mem_unlessEmpty
  intro filled
  apply Clause.Normal.orShorthand suffix filled
  · intro c mem
    obtain ⟨a, -, rfl⟩ := List.mem_map.1 mem
    exact ⟨a, rfl⟩
  · intro c mem
    obtain ⟨a, atom, rfl⟩ := List.mem_map.1 mem
    exact normal_of_mem_shorthandAtoms clean a atom

mutual

theorem Value.normal_of_mem_content {key : String} (named : key ≠ "") :
    ∀ v : Value, v.faults key = [] → ∀ c ∈ v.content key, c.Normal
  | .expr entries => by
    have nested := Expression.normal_of_mem_contents entries
    intro clean
    obtain ⟨op, operator, clean⟩ | ⟨other, suffix, clean⟩ := Value.cases_of_expr_clean clean
    · rw [Value.content_operator operator]
      exact normal_of_mem_unlessEmpty fun filled => .group filled (nested clean)
    · rw [Value.content_shorthand other suffix]
      exact normal_shorthand suffix clean
  | .list _ | .null | .bool _ | .int _ | .float _ | .text _ | .instant _ | .range _ => by
    intro clean
    simp only [Value.content]
    exact normal_of_mem_fieldContent named (Value.fieldFaults_of_clean (fun _ => by simp) clean).2
  termination_by structural v => v

/-- An expression without faults has normal clauses. -/
theorem Expression.normal_of_mem_contents :
    ∀ e : Expression, e.faults = [] → ∀ c ∈ e.contents, c.Normal
  | [] => by simp [Expression.contents]
  | (key, v) :: rest => by
    have first := fun named : key ≠ "" => Value.normal_of_mem_content named v
    have others := Expression.normal_of_mem_contents rest
    intro clean c mem
    rw [Expression.faults, List.append_eq_nil_iff] at clean
    rw [Expression.contents, List.mem_append, Option.mem_toList] at mem
    by_cases named : key = ""
    · simp [named] at clean
    · rw [if_neg named] at clean
      rcases mem with mem | mem
      · exact first named clean.1 c mem
      · exact others clean.2 c mem
  termination_by structural e => e

end

/-! ## Comparisons that are kept -/

/-- In a shorthand without faults there is nothing nested any further. -/
theorem shorthandAtoms_eq_comparisons {name : String} {terms : Expression}
    (clean : shorthandFaults name terms = []) : shorthandAtoms terms = Expression.comparisons terms := by
  induction terms with
  | nil => rfl
  | cons p terms ih =>
    obtain ⟨field, v⟩ := p
    rw [shorthandFaults, List.flatMap_cons, List.append_eq_nil_iff] at clean
    have fits := shorthandFaults_eq_nil_iff.1 clean.1
    have plain : v.atoms field = v.comparisons field := by
      cases v with
      | expr entries => exact absurd fits.2 id
      | null | bool | int | float | text | instant | range | list => simp only [Value.comparisons]
    rw [shorthandAtoms, List.flatMap_cons, Expression.comparisons, ← plain, ← ih clean.2]
    rfl

mutual

theorem Value.leaves_eq_comparisons (key : String) :
    ∀ v : Value, v.faults key = [] → v.leaves key = v.comparisons key
  | .expr entries => by
    have nested := Expression.leaves_eq_comparisons entries
    intro clean
    rw [Value.comparisons]
    obtain ⟨op, operator, clean⟩ | ⟨other, suffix, clean⟩ := Value.cases_of_expr_clean clean
    · rw [Value.leaves_operator operator, nested clean]
    · rw [Value.leaves_shorthand other suffix, shorthandAtoms_eq_comparisons clean]
  | .list _ | .null | .bool _ | .int _ | .float _ | .text _ | .instant _ | .range _ => by
    intro _
    simp only [Value.leaves, Value.comparisons]
  termination_by structural v => v

/-- In an expression without faults no comparison is out of place. -/
theorem Expression.leaves_eq_comparisons :
    ∀ e : Expression, e.faults = [] → e.leaves = e.comparisons
  | [] => fun _ => rfl
  | (key, v) :: rest => by
    have first := Value.leaves_eq_comparisons key v
    have others := Expression.leaves_eq_comparisons rest
    intro clean
    rw [Expression.faults, List.append_eq_nil_iff] at clean
    rw [Expression.leaves, Expression.comparisons, others clean.2]
    by_cases named : key = ""
    · simp [named] at clean
    · rw [if_neg named] at clean
      rw [first clean.1]
  termination_by structural e => e

end

/-- **Clauses are normal, and nothing is lost.** The clauses that an expression has are normal at
every depth, and their leaves from left to right are the comparisons of the expression. -/
theorem clauses_normal {e : Expression} {cs : List Clause} (made : e.clauses = .ok cs) :
    (∀ c ∈ cs, c.Normal) ∧ leavesOf cs = e.comparisons := by
  rw [clauses_eq_checked, checked_eq_ok_iff] at made
  obtain ⟨clean, rfl⟩ := made
  constructor
  · exact Expression.normal_of_mem_contents e clean
  · rw [leavesOf_contents]
    exact Expression.leaves_eq_comparisons e clean

/-- An expression with lists that shrink to one item or to none, and with a field named like a
connective. -/
def shrinkingLists : Expression :=
  [("not", .expr [("genre", .list [.null, .text "drama", .text " "]), ("cast", .list [.text "\t"]),
      ("and", .expr [("year", .list [.int 1994, .range (.atLeast (.float 1999.5))])])]),
    ("crew_or", .expr [("and", .list [.text "Uma", .null]), ("director", .null)])]

/-- Its clauses. -/
def shrunkLists : List Clause :=
  [.group .not [.term "genre" (.text "drama"),
      .group .and [.anyOf "year" [.term "year" (.int 1994),
        .range "year" (.atLeast (.float 1999.5))]]],
    .orShorthand "crew_or" [.term "and" (.text "Uma")]]

theorem clauses_normal_shrinkingLists :
    shrinkingLists.clauses = .ok shrunkLists ∧ (∀ c ∈ shrunkLists, c.Normal) ∧
      leavesOf shrunkLists = shrinkingLists.comparisons := by
  have made : shrinkingLists.clauses = .ok shrunkLists := by rfl
  exact ⟨made, clauses_normal made⟩

end CloudSearch.Filter
