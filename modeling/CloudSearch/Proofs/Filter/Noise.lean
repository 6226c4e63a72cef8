import CloudSearch.Proofs.Filter.WellFormed

/-!
# Entries that are not seen

Nulls, blank texts and lists of them say nothing, and neither do groups and shorthands in which
nothing else stands. `Entry.IsNoise` is what may be put into an expression without being seen, and
`Expression.Padded` relates an expression to itself with such entries put in wherever there are
entries, and with nulls and blank texts put into its lists. What is put in has no content and no
fault, so that the expression has the clauses that it had before, or the error (`clauses_padded`).
-/

namespace CloudSearch.Filter
open Outcome

/-- The value is null or a blank text. -/
inductive Value.IsBlank : Value → Prop
  | null : IsBlank .null
  | text {s : String} (blank : Text.isBlankText s = true) : IsBlank (.text s)

/-- The value says nothing about a field: it is blank, or a list of blanks. -/
inductive Value.SaysNothing : Value → Prop
  | leaf {v : Value} (blank : v.IsBlank) : SaysNothing v
  | list {items : List Value} (blank : ∀ v ∈ items, v.IsBlank) : SaysNothing (.list items)

/-- The entry of a shorthand says nothing about the field that it names. -/
def Entry.SaysNothing (p : Entry) : Prop :=
  p.1 ≠ "" ∧ p.2.SaysNothing

/-- The entry says nothing, however deep one looks into it. -/
inductive Entry.IsNoise : Entry → Prop
  | field {key : String} {v : Value} (named : key ≠ "") (other : ¬ IsOperator key)
    (nothing : v.SaysNothing) : IsNoise (key, v)
  | group {key : String} {entries : Expression} (operator : IsOperator key)
    (each : ∀ p ∈ entries, IsNoise p) : IsNoise (key, .expr entries)
  | shorthand {name : String} {terms : Expression} (other : ¬ IsOperator name)
    (suffix : EndsInOr name) (each : ∀ p ∈ terms, Entry.SaysNothing p) :
    IsNoise (name, .expr terms)

/-- The entry may be put into the expression under the key without being seen. In a shorthand every
key names a field, even those of connectives. -/
inductive NoiseUnder (key : String) : Entry → Prop
  | shorthand {p : Entry} (other : ¬ IsOperator key) (suffix : EndsInOr key)
    (nothing : p.SaysNothing) : NoiseUnder key p
  | entry {p : Entry} (plain : ¬ (¬ IsOperator key ∧ EndsInOr key)) (noise : p.IsNoise) :
    NoiseUnder key p

mutual

/-- The second value is the first one with noise put into it, if they stand under the key. -/
inductive Value.Padded : String → Value → Value → Prop
  | same {key : String} {v : Value} : Value.Padded key v v
  | list {key : String} {items items' : List Value} (padded : ItemsPadded key items items') :
    Value.Padded key (.list items) (.list items')
  | expr {key : String} {entries entries' : Expression}
    (padded : EntriesPadded (NoiseUnder key) entries entries') :
    Value.Padded key (.expr entries) (.expr entries')

/-- The second list is the first one with blanks between its items, and with noise in them. -/
inductive ItemsPadded : String → List Value → List Value → Prop
  | nil {key : String} : ItemsPadded key [] []
  | insert {key : String} {v : Value} {items items' : List Value} (blank : v.IsBlank)
    (rest : ItemsPadded key items items') : ItemsPadded key items (v :: items')
  | keep {key : String} {v v' : Value} {items items' : List Value} (item : Value.Padded key v v')
    (rest : ItemsPadded key items items') : ItemsPadded key (v :: items) (v' :: items')

/-- The second expression is the first one with noise between its entries, and with noise in
them. -/
inductive EntriesPadded : (Entry → Prop) → Expression → Expression → Prop
  | nil {noise : Entry → Prop} : EntriesPadded noise [] []
  | insert {noise : Entry → Prop} {p : Entry} {e e' : Expression} (quiet : noise p)
    (rest : EntriesPadded noise e e') : EntriesPadded noise e (p :: e')
  | keep {noise : Entry → Prop} {key : String} {v v' : Value} {e e' : Expression}
    (value : Value.Padded key v v') (rest : EntriesPadded noise e e') :
    EntriesPadded noise ((key, v) :: e) ((key, v') :: e')

end

/-- The second expression is the first one with noise put into it, at any depth. -/
def Expression.Padded (e e' : Expression) : Prop :=
  EntriesPadded Entry.IsNoise e e'

/-! ## What says nothing has neither fault nor content -/

theorem Value.IsBlank.unseen {v : Value} (blank : v.IsBlank) (field : String) :
    v.leafFaults field = [] ∧ v.atom? field = none := by
  cases blank with
  | null => exact ⟨rfl, rfl⟩
  | text blank => exact ⟨rfl, if_pos blank⟩

theorem Value.SaysNothing.unseen {v : Value} (nothing : v.SaysNothing) (field : String) :
    v.fieldFaults field = [] ∧ v.atoms field = [] := by
  cases nothing with
  | leaf blank =>
    obtain ⟨faults, atom⟩ := blank.unseen field
    cases blank with
    | null => exact ⟨rfl, rfl⟩
    | text =>
      refine ⟨faults, ?_⟩
      simp only [Value.atoms, atom, Option.toList_none]
  | list blank =>
    constructor
    · exact List.flatMap_eq_nil_iff.2 fun v item => ((blank v item).unseen field).1
    · exact List.filterMap_eq_nil_iff.2 fun v item => ((blank v item).unseen field).2

/-- What says nothing is no expression. -/
theorem Value.SaysNothing.ne_expr {v : Value} (nothing : v.SaysNothing) (entries : Expression) :
    v ≠ .expr entries := by
  rintro rfl
  cases nothing with
  | leaf blank => cases blank

theorem Entry.SaysNothing.unseen {p : Entry} (nothing : p.SaysNothing) (name : String) :
    p.2.shorthandFaults name p.1 = [] ∧ p.2.atoms p.1 = [] := by
  obtain ⟨field, v⟩ := p
  obtain ⟨named, nothing⟩ := nothing
  obtain ⟨faults, atoms⟩ := nothing.unseen field
  refine ⟨?_, atoms⟩
  rw [shorthandFaults_eq_nil_iff]
  exact ⟨named, fieldFaults_eq_nil_iff.1 faults⟩

theorem shorthand_unseen {terms : Expression} (each : ∀ p ∈ terms, Entry.SaysNothing p)
    (name : String) : shorthandFaults name terms = [] ∧ shorthandAtoms terms = [] := by
  constructor
  · exact List.flatMap_eq_nil_iff.2 fun p entry => ((each p entry).unseen name).1
  · exact List.flatMap_eq_nil_iff.2 fun p entry => ((each p entry).unseen name).2

/-- **Noise is not seen.** It has neither fault nor content. -/
theorem Entry.IsNoise.unseen {p : Entry} (noise : p.IsNoise) :
    p.faults = [] ∧ p.2.content p.1 = none := by
  induction noise with
  | @field key v named other nothing =>
    obtain ⟨faults, atoms⟩ := nothing.unseen key
    constructor
    · rw [Entry.faults, if_neg named, Value.faults_field other nothing.ne_expr, faults]
    · rw [Value.content_field nothing.ne_expr, fieldContent_eq, atoms]
      rfl
  | @group key entries operator each ih =>
    obtain ⟨op, named⟩ := operator
    have faults : entries.faults = [] := by
      rw [Expression.faults_eq, List.flatMap_eq_nil_iff]
      exact fun p mem => (ih p mem).1
    have contents : entries.contents = [] := by
      rw [Expression.contents_eq, List.flatMap_eq_nil_iff]
      intro p mem
      rw [(ih p mem).2, Option.toList_none]
    constructor
    · have nonempty : key ≠ "" := by
        rintro rfl
        exact not_isOperator_empty ⟨op, named⟩
      rw [Entry.faults, if_neg nonempty, Value.faults_operator named, faults]
    · rw [Value.content_operator named, contents]
      rfl
  | @shorthand name terms other suffix each =>
    obtain ⟨faults, atoms⟩ := shorthand_unseen each name
    constructor
    · have nonempty : name ≠ "" := by
        rintro rfl
        exact not_endsInOr_empty suffix
      rw [Entry.faults, if_neg nonempty, Value.faults_shorthand other suffix, faults]
    · rw [Value.content_shorthand other suffix, atoms]
      rfl

/-! ## Values that noise has been put into -/

/-- To a field it makes no difference what is put into a list or an expression that should not be
there. -/
theorem Value.Padded.leaf {key : String} {v v' : Value} (padded : Value.Padded key v v')
    (field : String) : v'.leafFaults field = v.leafFaults field ∧ v'.atom? field = v.atom? field := by
  cases padded with
  | same | list | expr => exact ⟨rfl, rfl⟩

theorem ItemsPadded.unseen {key : String} (field : String) : ∀ {items items' : List Value},
    ItemsPadded key items items' →
    items'.flatMap (Value.leafFaults field) = items.flatMap (Value.leafFaults field) ∧
      items'.filterMap (Value.atom? field) = items.filterMap (Value.atom? field)
  | _, _, .nil => ⟨rfl, rfl⟩
  | _, _, .insert blank rest => by
    obtain ⟨faults, atoms⟩ := rest.unseen field
    obtain ⟨no_faults, no_atom⟩ := blank.unseen field
    constructor
    · rw [List.flatMap_cons, no_faults, faults, List.nil_append]
    · rw [List.filterMap_cons_none no_atom, atoms]
  | _, _, .keep item rest => by
    obtain ⟨faults, atoms⟩ := rest.unseen field
    obtain ⟨same_faults, same_atom⟩ := item.leaf field
    constructor
    · rw [List.flatMap_cons, List.flatMap_cons, same_faults, faults]
    · rw [List.filterMap_cons, List.filterMap_cons, same_atom, atoms]
  termination_by structural _ _ padded => padded

theorem Value.Padded.field {key : String} {v v' : Value} (padded : Value.Padded key v v')
    (field : String) :
    v'.fieldFaults field = v.fieldFaults field ∧ v'.atoms field = v.atoms field := by
  cases padded with
  | same | expr => exact ⟨rfl, rfl⟩
  | list padded => exact padded.unseen field

theorem Value.Padded.shorthandFaults {key : String} {v v' : Value} (padded : Value.Padded key v v')
    (name field : String) : v'.shorthandFaults name field = v.shorthandFaults name field := by
  obtain ⟨same_faults, -⟩ := padded.field field
  cases padded with
  | same | expr => rfl
  | list => simp only [Value.shorthandFaults, same_faults]

/-- What is made of an expression entry by entry stays the same, if nothing is made of noise, and the
same of the values with noise in them. -/
theorem EntriesPadded.flatMap_eq {α : Type} {f : Entry → List α}
    (same : ∀ {key v v'}, Value.Padded key v v' → f (key, v') = f (key, v)) :
    ∀ {noise : Entry → Prop} {e e' : Expression}, EntriesPadded noise e e' →
    (∀ p, noise p → f p = []) → e'.flatMap f = e.flatMap f
  | _, _, _, .nil, _ => rfl
  | _, _, _, .insert noise rest, quiet => by
    rw [List.flatMap_cons, quiet _ noise, rest.flatMap_eq same quiet, List.nil_append]
  | _, _, _, .keep value rest, quiet => by
    rw [List.flatMap_cons, List.flatMap_cons, same value, rest.flatMap_eq same quiet]
  termination_by structural _ _ _ padded => padded

theorem EntriesPadded.shorthand {noise : Entry → Prop} {terms terms' : Expression}
    (padded : EntriesPadded noise terms terms') (quiet : ∀ p, noise p → p.SaysNothing)
    (name : String) :
    shorthandFaults name terms' = shorthandFaults name terms ∧
      shorthandAtoms terms' = shorthandAtoms terms := by
  constructor
  · apply padded.flatMap_eq fun value => value.shorthandFaults name _
    exact fun p mem => ((quiet p mem).unseen name).1
  · apply padded.flatMap_eq fun value => (value.field _).2
    exact fun p mem => ((quiet p mem).unseen name).2

mutual

theorem Value.Padded.unseen : ∀ {key : String} {v v' : Value}, Value.Padded key v v' →
    v'.faults key = v.faults key ∧ v'.content key = v.content key
  | _, _, _, .same => ⟨rfl, rfl⟩
  | _, _, _, @Value.Padded.list key items items' padded => by
    obtain ⟨faults, atoms⟩ := padded.unseen key
    have content : (Value.list items').fieldContent key = (Value.list items).fieldContent key := by
      rw [Value.fieldContent, Value.fieldContent, atoms]
    simp only [Value.faults, Value.fieldFaults, Value.content, faults, content, and_self]
  | _, _, _, @Value.Padded.expr key entries entries' padded => by
    obtain ⟨op, operator⟩ | ⟨other, suffix⟩ | ⟨other, suffix⟩ := key_cases key
    · have quiet : ∀ p, NoiseUnder key p → p.IsNoise := by
        intro p under
        cases under with
        | shorthand other => exact absurd ⟨op, operator⟩ other
        | entry _ noise => exact noise
      obtain ⟨faults, contents⟩ := padded.unseen quiet
      constructor
      · rw [Value.faults_operator operator, Value.faults_operator operator, faults]
      · rw [Value.content_operator operator, Value.content_operator operator, contents]
    · have quiet : ∀ p, NoiseUnder key p → p.SaysNothing := by
        intro p under
        cases under with
        | shorthand _ _ nothing => exact nothing
        | entry plain => exact absurd ⟨other, suffix⟩ plain
      obtain ⟨faults, atoms⟩ := padded.shorthand quiet key
      constructor
      · rw [Value.faults_shorthand other suffix, Value.faults_shorthand other suffix, faults]
      · rw [Value.content_shorthand other suffix, Value.content_shorthand other suffix, atoms]
    · constructor
      · rw [Value.faults_expression other suffix, Value.faults_expression other suffix]
      · rw [Value.content_expression other suffix, Value.content_expression other suffix]
  termination_by structural _ _ _ padded => padded

theorem EntriesPadded.unseen : ∀ {noise : Entry → Prop} {e e' : Expression},
    EntriesPadded noise e e' → (∀ p, noise p → p.IsNoise) →
    Expression.faults e' = Expression.faults e ∧ Expression.contents e' = Expression.contents e
  | _, _, _, .nil, _ => ⟨rfl, rfl⟩
  | _, _, _, @EntriesPadded.insert _ (key, v) _ _ noise rest, quiet => by
    obtain ⟨faults, contents⟩ := rest.unseen quiet
    obtain ⟨no_faults, no_content⟩ := (quiet _ noise).unseen
    have no_content : v.content key = none := no_content
    constructor
    · rw [Expression.faults_eq, List.flatMap_cons, no_faults, ← Expression.faults_eq, faults,
        List.nil_append]
    · rw [Expression.contents, no_content, contents]
      rfl
  | _, _, _, .keep value rest, quiet => by
    obtain ⟨faults, contents⟩ := rest.unseen quiet
    obtain ⟨same_faults, same_content⟩ := value.unseen
    constructor
    · rw [Expression.faults, Expression.faults, same_faults, faults]
    · rw [Expression.contents, Expression.contents, same_content, contents]
  termination_by structural _ _ _ padded => padded

end

/-- **Noise makes no difference.** An expression that noise has been put into, at any depth, has the
clauses that it had before, or the error, and so has its text. -/
theorem clauses_padded {e e' : Expression} (padded : e.Padded e') :
    e'.clauses = e.clauses ∧ ∀ d : Dialect, e'.compile d = e.compile d := by
  obtain ⟨faults, contents⟩ := padded.unseen fun p noise => noise
  have clauses : e'.clauses = e.clauses := by
    rw [clauses_eq_checked, clauses_eq_checked, faults, contents]
  refine ⟨clauses, fun d => ?_⟩
  rw [Expression.compile, Expression.compile, clauses]

/-- One field in a group, and two in a shorthand. -/
def sparse : Expression :=
  [("not", .expr [("genre", .list [.text "drama"])]), ("crew_or", .expr [("and", .text "Uma")])]

/-- The same with noise between all its entries: a list that stays one of a single item, groups in
groups, and blanks in a shorthand under a key that is a connective elsewhere. -/
def sparsePadded : Expression :=
  [("year", .null),
    ("not", .expr [("genre", .list [.text " ", .text "drama", .null]),
      ("or", .expr [("and", .expr []), ("cast_or", .expr [("not", .list [.null])])])]),
    ("crew_or", .expr [("or", .text "\t"), ("and", .text "Uma")]), ("title_or", .list [])]

theorem sparse_padded : sparse.Padded sparsePadded := by
  have plain : ∀ {key : String}, Connective.ofKey? key = none → ¬ IsOperator key :=
    ofKey?_eq_none_iff.1
  have suffix : ∀ {key : String}, orSuffix.isSuffixOf key.toList = true → EndsInOr key :=
    isSuffixOf_key_iff.1
  have of_plain : ∀ {key : String} {p : Entry}, Connective.ofKey? key = none →
      EndsInOr key → p.SaysNothing → NoiseUnder key p :=
    fun none ends nothing => .shorthand (plain none) ends nothing
  have of_operator : ∀ {p : Entry}, p.IsNoise → NoiseUnder "not" p :=
    fun noise => .entry (fun ⟨other, _⟩ => other ⟨.not, rfl⟩) noise
  have empty : Entry.IsNoise ("and", .expr []) :=
    .group ⟨.and, rfl⟩ nofun
  have cast : Entry.IsNoise ("cast_or", .expr [("not", .list [.null])]) := by
    apply Entry.IsNoise.shorthand (plain rfl) (suffix rfl)
    rintro p (_ | ⟨_, ⟨⟩⟩)
    exact ⟨by decide, .list (by simp [Value.IsBlank.null])⟩
  have groups : Entry.IsNoise ("or", .expr [("and", .expr []),
      ("cast_or", .expr [("not", .list [.null])])]) := by
    apply Entry.IsNoise.group ⟨.or, rfl⟩
    rintro p (_ | ⟨_, _ | ⟨_, ⟨⟩⟩⟩)
    · exact empty
    · exact cast
  have genre : ItemsPadded "genre" [.text "drama"] [.text " ", .text "drama", .null] :=
    .insert (.text rfl) (.keep .same (.insert .null .nil))
  have inside : EntriesPadded (NoiseUnder "not") [("genre", .list [.text "drama"])]
      [("genre", .list [.text " ", .text "drama", .null]), ("or", .expr [("and", .expr []),
        ("cast_or", .expr [("not", .list [.null])])])] :=
    .keep (.list genre) (.insert (of_operator groups) .nil)
  have crew : EntriesPadded (NoiseUnder "crew_or") [("and", .text "Uma")]
      [("or", .text "\t"), ("and", .text "Uma")] :=
    .insert (of_plain rfl (suffix rfl) ⟨by decide, .leaf (.text rfl)⟩) (.keep .same .nil)
  apply EntriesPadded.insert (.field (by decide) (plain rfl) (.leaf .null))
  apply EntriesPadded.keep (.expr inside)
  apply EntriesPadded.keep (.expr crew)
  apply EntriesPadded.insert (.field (by decide) (plain rfl) (.list nofun))
  exact .nil

/-- A list that keeps its one item stays a single comparison, and the groups and the shorthand keep
their forms. -/
theorem clauses_padded_sparse : sparse.Padded sparsePadded ∧
    sparsePadded.clauses = .ok [.group .not [.term "genre" (.text "drama")],
      .orShorthand "crew_or" [.term "and" (.text "Uma")]] ∧
    ∀ d : Dialect, sparsePadded.compile d = sparse.compile d := by
  obtain ⟨clauses, texts⟩ := clauses_padded sparse_padded
  exact ⟨sparse_padded, clauses.trans rfl, texts⟩

end CloudSearch.Filter
