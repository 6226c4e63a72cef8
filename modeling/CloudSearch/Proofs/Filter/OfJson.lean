import CloudSearch.Filter.OfJson
import CloudSearch.Proofs.Filter.Expressible
import CloudSearch.Proofs.Filter.Inside

/-!
# Expressions that are JSON objects

An object is an expression with nothing lost and nothing changed: going back gives the object
(`Expression.ofJson_eq_ok_iff`), and nothing stands in the expression that JSON has no value for. The
only thing that can go wrong is an integer that no signed word holds, and it is the first one of them
in the document that is reported (`stopsAt_ofJson`).
-/

namespace CloudSearch

namespace WordInt

/-- A signed word holds the integer. -/
def IsSigned (n : WordInt) : Prop :=
  -0x8000000000000000 ≤ n.val ∧ n.val < 0x8000000000000000

theorem toInt64?_eq_some_iff {n : WordInt} {i : Int64} : n.toInt64? = some i ↔ ofInt64 i = n := by
  constructor
  · exact ofInt64_of_toInt64?
  · rintro rfl
    exact toInt64?_ofInt64 i

theorem toInt64?_eq_none_iff {n : WordInt} : n.toInt64? = none ↔ ¬n.IsSigned := by
  have low := n.low
  unfold toInt64? IsSigned
  split
  · next small => simp [low, small]
  · next large => simp [large]

end WordInt

/-- The value is an object. -/
def Json.IsObject (v : Json) : Prop :=
  ∃ members, v = .object members

mutual

/-- The integers that stand in the value, in the order of the document. -/
def Json.integers : Json → List WordInt
  | .number (.integer n) => [n]
  | .number (.float _) => []
  | .array items => Json.itemIntegers items
  | .object members => Json.memberIntegers members
  | .null | .bool _ | .text _ => []
  termination_by structural v => v

/-- The integers that stand in the values, one value after the other. -/
def Json.itemIntegers : List Json → List WordInt
  | [] => []
  | v :: rest => v.integers ++ Json.itemIntegers rest
  termination_by structural vs => vs

/-- The integers that stand in the values of the members, one member after the other. -/
def Json.memberIntegers : List (String × Json) → List WordInt
  | [] => []
  | (_, v) :: rest => v.integers ++ Json.memberIntegers rest
  termination_by structural ms => ms

end

namespace Filter
open Outcome

/-! ## Integers that are refused -/

/-- The integer is refused because no signed word holds it. -/
def OutOfRange (n : WordInt) (err : CompileError) : Prop :=
  ¬n.IsSigned ∧ err = .integerOutOfRange n.text

/-- The computation is refused for the first of the integers that no signed word holds, and for
nothing else. -/
def StopsAt {α : Type} (x : Except CompileError α) (ns : List WordInt) : Prop :=
  ∀ err, x = .error err ↔ First WordInt.IsSigned OutOfRange ns err

theorem forall_isSigned_or_first (ns : List WordInt) :
    (∀ n ∈ ns, n.IsSigned) ∨ ∃ err, First WordInt.IsSigned OutOfRange ns err := by
  induction ns with
  | nil => simp
  | cons n ns ih =>
    by_cases fits : n.IsSigned
    · rcases ih with others | ⟨err, first⟩
      · exact .inl (List.forall_mem_cons.2 ⟨fits, others⟩)
      · exact .inr ⟨err, first_cons_iff.2 (.inr ⟨fits, first⟩)⟩
    · exact .inr ⟨_, first_cons_iff.2 (.inl ⟨fits, rfl⟩)⟩

namespace StopsAt

variable {α β : Type} {x : Except CompileError α} {f : α → Except CompileError β}
  {ns ms : List WordInt}

theorem ok (a : α) : StopsAt (.ok a) [] := by
  intro err
  simp [first_nil_iff]

theorem exists_ok_iff (stops : StopsAt x ns) : (∃ a, x = .ok a) ↔ ∀ n ∈ ns, n.IsSigned := by
  rw [Outcome.exists_ok_iff]
  constructor
  · intro no_error
    rcases forall_isSigned_or_first ns with all | ⟨err, first⟩
    · exact all
    · exact absurd ((stops err).2 first) (no_error err)
  · intro all err refused
    refine not_first_of_forall ?_ ((stops err).1 refused)
    exact fun n mem out => out.1 (all n mem)

/-- Of two steps the first one is refused first. -/
theorem bind (first : StopsAt x ns) (second : ∀ a, StopsAt (f a) ms) :
    StopsAt (x >>= f) (ns ++ ms) := by
  intro err
  rw [bind_eq_error_iff, first err, first_append_iff, ← first.exists_ok_iff]
  simp only [second _ err, exists_and_right]

theorem map (stops : StopsAt x ns) (g : α → β) : StopsAt (x >>= fun a => .ok (g a)) ns := by
  have steps := stops.bind fun a => ok (g a)
  rwa [List.append_nil] at steps

end StopsAt

mutual

/-- **The first integer out of range is reported**, at whatever depth it stands. -/
theorem stopsAt_ofJson : ∀ v : Json, StopsAt (Value.ofJson v) v.integers
  | .null => .ok _
  | .bool _ => .ok _
  | .text _ => .ok _
  | .number (.float _) => .ok _
  | .number (.integer n) => by
    intro err
    rw [Json.integers, first_cons_iff, first_nil_iff, and_false, or_false, OutOfRange, Value.ofJson]
    by_cases signed : n.IsSigned
    · obtain ⟨i, fits⟩ := Option.ne_none_iff_exists'.1 fun none =>
        WordInt.toInt64?_eq_none_iff.1 none signed
      simp [fits, signed]
    · simp [WordInt.toInt64?_eq_none_iff.2 signed, signed, eq_comm]
  | .array items => (stopsAt_listOfJson items).map Value.list
  | .object members => (stopsAt_entriesOfJson members).map Value.expr
  termination_by structural v => v

theorem stopsAt_listOfJson : ∀ items : List Json,
    StopsAt (listOfJson items) (Json.itemIntegers items)
  | [] => .ok _
  | v :: items =>
    (stopsAt_ofJson v).bind fun w => (stopsAt_listOfJson items).map (w :: ·)
  termination_by structural items => items

theorem stopsAt_entriesOfJson : ∀ members : List (String × Json),
    StopsAt (entriesOfJson members) (Json.memberIntegers members)
  | [] => .ok _
  | (name, v) :: members =>
    (stopsAt_ofJson v).bind fun w => (stopsAt_entriesOfJson members).map ((name, w) :: ·)
  termination_by structural members => members

end

/-! ## There and back -/

mutual

theorem toJson?_of_ofJson : ∀ (v : Json) {w : Value}, Value.ofJson v = .ok w → w.toJson? = some v
  | .null, _, made => by
    cases made
    rfl
  | .bool _, _, made => by
    cases made
    rfl
  | .text _, _, made => by
    cases made
    rfl
  | .number (.float x), _, made => by
    cases made
    exact dif_pos x.finite
  | .number (.integer n), w, made => by
    rw [Value.ofJson] at made
    split at made
    · next i fits =>
      cases made
      rw [Value.toJson?, Json.int, WordInt.toInt64?_eq_some_iff.1 fits]
    · cases made
  | .array items, _, made => by
    obtain ⟨vs, items_made, ⟨⟩⟩ := bind_eq_ok_iff.1 made
    rw [Value.toJson?, listToJson?_of_listOfJson items items_made]
    rfl
  | .object members, _, made => by
    obtain ⟨entries, members_made, ⟨⟩⟩ := bind_eq_ok_iff.1 made
    rw [Value.toJson?, entriesToJson?_of_entriesOfJson members members_made]
    rfl
  termination_by structural v => v

theorem listToJson?_of_listOfJson : ∀ (items : List Json) {vs : List Value},
    listOfJson items = .ok vs → listToJson? vs = some items
  | [], _, made => by
    cases made
    rfl
  | v :: items, _, made => by
    obtain ⟨w, first_made, made⟩ := bind_eq_ok_iff.1 made
    obtain ⟨ws, others_made, ⟨⟩⟩ := bind_eq_ok_iff.1 made
    rw [listToJson?, toJson?_of_ofJson v first_made, listToJson?_of_listOfJson items others_made]
    rfl
  termination_by structural items => items

theorem entriesToJson?_of_entriesOfJson : ∀ (members : List (String × Json)) {e : Expression},
    entriesOfJson members = .ok e → entriesToJson? e = some members
  | [], _, made => by
    cases made
    rfl
  | (name, v) :: members, _, made => by
    obtain ⟨w, first_made, made⟩ := bind_eq_ok_iff.1 made
    obtain ⟨ws, others_made, ⟨⟩⟩ := bind_eq_ok_iff.1 made
    rw [entriesToJson?, toJson?_of_ofJson v first_made,
      entriesToJson?_of_entriesOfJson members others_made]
    rfl
  termination_by structural members => members

end

mutual

theorem ofJson_of_toJson? : ∀ (w : Value) {v : Json}, w.toJson? = some v → Value.ofJson v = .ok w
  | .null, _, made => by
    cases made
    rfl
  | .bool _, _, made => by
    cases made
    rfl
  | .text _, _, made => by
    cases made
    rfl
  | .int i, _, made => by
    cases made
    rw [Json.int, Value.ofJson, WordInt.toInt64?_ofInt64]
  | .float x, _, made => by
    rw [Value.toJson?] at made
    split at made
    · cases made
      rfl
    · cases made
  | .instant _, _, made => by cases made
  | .range _, _, made => by cases made
  | .list items, _, made => by
    obtain ⟨vs, items_made, rfl⟩ := Option.map_eq_some_iff.1 made
    rw [Value.ofJson, listOfJson_of_listToJson? items items_made]
    rfl
  | .expr entries, _, made => by
    obtain ⟨members, entries_made, rfl⟩ := Option.map_eq_some_iff.1 made
    rw [Value.ofJson, entriesOfJson_of_entriesToJson? entries entries_made]
    rfl
  termination_by structural w => w

theorem listOfJson_of_listToJson? : ∀ (items : List Value) {vs : List Json},
    listToJson? items = some vs → listOfJson vs = .ok items
  | [], _, made => by
    cases made
    rfl
  | w :: items, _, made => by
    obtain ⟨v, first_made, made⟩ := Option.bind_eq_some_iff.1 made
    obtain ⟨vs, others_made, ⟨⟩⟩ := Option.bind_eq_some_iff.1 made
    rw [listOfJson, ofJson_of_toJson? w first_made, listOfJson_of_listToJson? items others_made]
    rfl
  termination_by structural items => items

theorem entriesOfJson_of_entriesToJson? : ∀ (e : List (String × Value))
    {members : List (String × Json)}, entriesToJson? e = some members → entriesOfJson members = .ok e
  | [], _, made => by
    cases made
    rfl
  | (name, w) :: e, _, made => by
    obtain ⟨v, first_made, made⟩ := Option.bind_eq_some_iff.1 made
    obtain ⟨members, others_made, ⟨⟩⟩ := Option.bind_eq_some_iff.1 made
    rw [entriesOfJson, ofJson_of_toJson? w first_made,
      entriesOfJson_of_entriesToJson? e others_made]
    rfl
  termination_by structural e => e

end

/-- An object is an expression exactly if the expression goes back to it. -/
theorem Expression.ofJson_eq_ok_iff {v : Json} {e : Expression} :
    Expression.ofJson v = .ok e ↔ (Value.expr e).toJson? = some v := by
  cases v with
  | object members =>
    constructor
    · intro made
      rw [Value.toJson?, entriesToJson?_of_entriesOfJson members made]
      rfl
    · intro back
      obtain ⟨_, made, ⟨⟩⟩ := Option.map_eq_some_iff.1 back
      exact entriesOfJson_of_entriesToJson? e made
  | null | bool | number | text | array =>
    constructor
    · nofun
    · intro back
      obtain ⟨_, -, ⟨⟩⟩ := Option.map_eq_some_iff.1 back

/-! ## What an expression from JSON holds -/

/-- JSON has a value for the filter value. -/
def Value.IsJson (w : Value) : Prop :=
  ∃ v, w.toJson? = some v

theorem isJson_of_listToJson? {items : List Value} {vs : List Json}
    (back : listToJson? items = some vs) : ∀ w ∈ items, w.IsJson := by
  induction items generalizing vs with
  | nil => simp
  | cons w items ih =>
    obtain ⟨v, first, back⟩ := Option.bind_eq_some_iff.1 back
    obtain ⟨vs, others, -⟩ := Option.bind_eq_some_iff.1 back
    exact List.forall_mem_cons.2 ⟨⟨v, first⟩, ih others⟩

theorem isJson_of_entriesToJson? {e : Expression} {ms : List (String × Json)}
    (back : entriesToJson? e = some ms) : ∀ p ∈ e, p.2.IsJson := by
  induction e generalizing ms with
  | nil => simp
  | cons p e ih =>
    obtain ⟨v, first, back⟩ := Option.bind_eq_some_iff.1 back
    obtain ⟨ms, others, -⟩ := Option.bind_eq_some_iff.1 back
    exact List.forall_mem_cons.2 ⟨⟨v, first⟩, ih others⟩

/-- Where JSON has a value for a filter value, it has one for everything that stands in it. -/
theorem Value.IsJson.inside {w v : Value} (json : v.IsJson) (inside : w.Inside v) : w.IsJson := by
  induction inside with
  | here => exact json
  | item mem _ ih =>
    obtain ⟨_, back⟩ := json
    obtain ⟨vs, back, -⟩ := Option.map_eq_some_iff.1 back
    exact ih (isJson_of_listToJson? back _ mem)
  | entry mem _ ih =>
    obtain ⟨_, back⟩ := json
    obtain ⟨ms, back, -⟩ := Option.map_eq_some_iff.1 back
    exact ih (isJson_of_entriesToJson? back _ mem)

/-- The expression is the object: its keys and values are those of the object, in their order, each
value of its own kind; and neither ranges nor instants stand in it. -/
structure IsCopy (v : Json) (e : Expression) : Prop where
  back : (Value.expr e).toJson? = some v
  no_range : ∀ r, ¬(Value.range r).Inside (.expr e)
  no_instant : ∀ t, ¬(Value.instant t).Inside (.expr e)

theorem isCopy_iff {v : Json} {e : Expression} :
    IsCopy v e ↔ (Value.expr e).toJson? = some v := by
  constructor
  · exact IsCopy.back
  · intro back
    have json : (Value.expr e).IsJson := ⟨v, back⟩
    refine ⟨back, fun r inside => ?_, fun t inside => ?_⟩
    · obtain ⟨_, ⟨⟩⟩ := json.inside inside
    · obtain ⟨_, ⟨⟩⟩ := json.inside inside

theorem stopsAt_expression {v : Json} (object : v.IsObject) :
    StopsAt (Expression.ofJson v) v.integers := by
  obtain ⟨members, rfl⟩ := object
  exact stopsAt_entriesOfJson members

theorem ofJson_of_not_isObject {v : Json} (other : ¬v.IsObject) :
    Expression.ofJson v = .error (.notAnExpression v.print) := by
  cases v with
  | object members => exact absurd ⟨members, rfl⟩ other
  | null | bool | number | text | array => rfl

/-- **An object is an expression as it stands.** Exactly those objects are expressions whose integers
all fit into signed words, and the expression is a copy of the object. Any other object is refused
for the first integer that does not fit, and what is no object for being none. -/
theorem ofJson_iff_isCopy (v : Json) :
    ((∃ e, Expression.ofJson v = .ok e) ↔ v.IsObject ∧ ∀ n ∈ v.integers, n.IsSigned) ∧
      (∀ e, Expression.ofJson v = .ok e ↔ IsCopy v e) ∧
      (v.IsObject → ∀ err, Expression.ofJson v = .error err ↔
        First WordInt.IsSigned OutOfRange v.integers err) ∧
      (¬v.IsObject → ∀ err, Expression.ofJson v = .error err ↔ err = .notAnExpression v.print) := by
  refine ⟨?converts, fun e => ?copy, stopsAt_expression, fun other err => ?refused⟩
  case converts =>
    by_cases object : v.IsObject
    · rw [(stopsAt_expression object).exists_ok_iff, and_iff_right object]
    · simp [ofJson_of_not_isObject object, object]
  case copy => rw [Expression.ofJson_eq_ok_iff, isCopy_iff]
  case refused => rw [ofJson_of_not_isObject other, Except.error.injEq, eq_comm]

/-- Of two integers out of range the one that comes first is reported, however deep it stands. -/
example : Expression.ofJson (.object [("and", .object [("year", .array [.int 1994,
    .number (.integer (.ofUInt64 0xffffffffffffffff))])]),
    ("id", .number (.integer (.ofUInt64 0x8000000000000000)))]) =
      .error (.integerOutOfRange "18446744073709551615") := by
  rfl

end Filter

end CloudSearch
