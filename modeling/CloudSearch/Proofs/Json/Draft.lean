import CloudSearch.Json.Reader
import CloudSearch.Proofs.Json.Numeral
import CloudSearch.Proofs.Json.Quoted

/-!
# What stands in a written value

Reading the text of a value token by token puts the draft of the value into the innermost open
container, whatever has been read before and whatever follows (`run_print`). Texts and integers are
always read back. A double may not be, since reading rounds more than once, so that it is asked of each
double of the value (`ReadsBack`).
-/

namespace CloudSearch.Json

/-! ## Properties of all parts -/

mutual

/-- The property holds of the value and of all values in it. -/
def All (p : Json → Prop) : Json → Prop
  | .array items => p (.array items) ∧ AllItems p items
  | .object members => p (.object members) ∧ AllMembers p members
  | v => p v
  termination_by structural v => v

/-- The property holds of the values and of all values in them. -/
def AllItems (p : Json → Prop) : List Json → Prop
  | [] => True
  | v :: rest => v.All p ∧ AllItems p rest
  termination_by structural vs => vs

/-- The property holds of the values of the members and of all values in them. -/
def AllMembers (p : Json → Prop) : List (String × Json) → Prop
  | [] => True
  | (_, v) :: rest => v.All p ∧ AllMembers p rest
  termination_by structural ms => ms

end

theorem allItems_iff {p : Json → Prop} {items : List Json} :
    AllItems p items ↔ ∀ v ∈ items, v.All p := by
  induction items with
  | nil => simp [AllItems]
  | cons v items ih => rw [AllItems, List.forall_mem_cons, ih]

theorem allMembers_iff {p : Json → Prop} {members : List (String × Json)} :
    AllMembers p members ↔ ∀ v ∈ members.map (·.2), v.All p := by
  induction members with
  | nil => simp [AllMembers]
  | cons m members ih => rw [AllMembers, List.map_cons, List.forall_mem_cons, ih]

mutual

/-- A property that can be decided of each value can be decided of all values in a value. -/
def decideAll (p : Json → Prop) [DecidablePred p] : (v : Json) → Decidable (v.All p)
  | .array items =>
    have := decideAllItems p items
    inferInstanceAs (Decidable (p (.array items) ∧ AllItems p items))
  | .object members =>
    have := decideAllMembers p members
    inferInstanceAs (Decidable (p (.object members) ∧ AllMembers p members))
  | .null => inferInstanceAs (Decidable (p .null))
  | .bool b => inferInstanceAs (Decidable (p (.bool b)))
  | .number n => inferInstanceAs (Decidable (p (.number n)))
  | .text s => inferInstanceAs (Decidable (p (.text s)))
  termination_by structural v => v

/-- Decides a property of all values in the values. -/
def decideAllItems (p : Json → Prop) [DecidablePred p] :
    (items : List Json) → Decidable (AllItems p items)
  | [] => .isTrue trivial
  | v :: rest =>
    have := decideAll p v
    have := decideAllItems p rest
    inferInstanceAs (Decidable (v.All p ∧ AllItems p rest))
  termination_by structural items => items

/-- Decides a property of all values in the values of the members. -/
def decideAllMembers (p : Json → Prop) [DecidablePred p] :
    (members : List (String × Json)) → Decidable (AllMembers p members)
  | [] => .isTrue trivial
  | (_, v) :: rest =>
    have := decideAll p v
    have := decideAllMembers p rest
    inferInstanceAs (Decidable (v.All p ∧ AllMembers p rest))
  termination_by structural members => members

end

instance (p : Json → Prop) [DecidablePred p] (v : Json) : Decidable (v.All p) :=
  decideAll p v

/-- The text that is written for the double reads back as the double. -/
def ReadsBack (x : FiniteFloat) : Prop :=
  parse (Number.float x).text = .ok (.number (.float x))

/-- If the value is a double, its text reads back. -/
def FloatReadsBack : Json → Prop
  | .number (.float x) => ReadsBack x
  | _ => True

/-! ## Drafts of values -/

mutual

/-- The draft of the value when all of it has been read. -/
def draft : Json → Draft
  | .null => .null
  | .bool b => .bool b
  | .number n => .number (some n)
  | .text s => .text (some s)
  | .array items => .array (itemDrafts items) true
  | .object members => .object (memberDrafts members) true
  termination_by structural v => v

/-- The drafts of the values. -/
def itemDrafts : List Json → List Draft
  | [] => []
  | v :: rest => v.draft :: itemDrafts rest
  termination_by structural vs => vs

/-- The members with the drafts of their values. -/
def memberDrafts : List (String × Json) → List (Option String × Draft)
  | [] => []
  | (name, v) :: rest => (some name, v.draft) :: memberDrafts rest
  termination_by structural ms => ms

end

/-! ## Texts of numbers -/

/-- A document of characters of numbers that is read as a number spells that number. -/
theorem spells_of_parse {s : String} (numeral : IsNumeral s) {n : Number}
    (read : parse s = .ok (.number n)) : Spells s.toList n := by
  unfold parse Document.ofText at read
  rcases tokens_numeral numeral with h | h | ⟨scan, scanned, complete, h⟩ | ⟨v, t, ts, h⟩
  · rw [h] at read
    cases read
  · rw [h] at read
    cases read
  · rw [h] at read
    cases value : scan.read.value? with
    | none =>
      rw [value] at read
      cases read
    | some m =>
      rw [value] at read
      have same : (Except.ok (Json.number m) : Except Fault Json) = .ok (.number n) := read
      cases same
      exact ⟨scan, scanned, complete, value⟩
  · -- something follows the number, so that the document does not end with it
    rw [h] at read
    cases v with
    | none => cases read
    | some m => cases read

/-- A text that spells a number is a document of that number. -/
theorem parse_of_spells {s : String} {n : Number} (spells : Spells s.toList n) :
    parse s = .ok (.number n) := by
  have token := spells.tokens endsNumeral_nil
  rw [List.append_nil] at token
  unfold parse Document.ofText
  rw [token]
  rfl

/-- A double reads back exactly if its text spells it. -/
theorem readsBack_iff {x : FiniteFloat} :
    ReadsBack x ↔ Spells (Number.float x).text.toList (.float x) := by
  constructor
  · intro back
    exact spells_of_parse (isNumeral_float x) back
  · exact parse_of_spells

instance (x : FiniteFloat) : Decidable (ReadsBack x) :=
  decidable_of_iff _ readsBack_iff.symm

/-- Reading rounds more than once, so that not every double reads back. -/
example : ¬ReadsBack ⟨0.10000001000000001, by decide⟩ := by
  decide +kernel

instance : DecidablePred FloatReadsBack := fun v =>
  match v with
  | .number (.float x) => inferInstanceAs (Decidable (ReadsBack x))
  | .number (.integer _) | .null | .bool _ | .text _ | .array _ | .object _ => .isTrue trivial

/-! ## Reading values -/

namespace Assembly

/-- A value is due, with or without the end of an array in its place. -/
def AwaitsValue (a : Assembly) : Prop :=
  a.due = .value ∨ a.due = .valueOrEnd

/-- The name of a member is due, with or without the end of the object in its place. -/
def AwaitsName (a : Assembly) : Prop :=
  a.due = .name ∨ a.due = .nameOrEnd

theorem run_cons {a a' : Assembly} {t : Token} (stepped : a.step t = some a') (ts : List Token) :
    a.run (t :: ts) = a'.run ts := by
  rw [run, stepped]

theorem run_value {a a' : Assembly} (awaits : a.AwaitsValue) (t : Token) (not_end : t ≠ .closeArray)
    (placed : value a.frames t = some a') (ts : List Token) : a.run (t :: ts) = a'.run ts := by
  apply run_cons
  rcases awaits with due | due
  · rw [step, due]
    exact placed
  · rw [step, due]
    exact (if_neg not_end).trans placed

/-- The name of a member and the colon behind it are read, and its value is due. -/
theorem run_name {a : Assembly} (awaits : a.AwaitsName) {read : List (Option String × Draft)}
    {outer : List Frame} (frames : a.frames = .object read :: outer) (name : String)
    (ts : List Token) :
    a.run (.text (some name) :: .colon :: ts) =
      run { frames := .member read (some name) :: outer, due := .value } ts := by
  have named : a.step (.text (some name)) =
      some { frames := .member read (some name) :: outer, due := .colon } := by
    rcases awaits with due | due
    · simp [step, due, frames, Assembly.name]
    · simp [step, due, frames, Assembly.name]
  rw [run_cons named]
  rfl

end Assembly

open Assembly

theorem print_array (items : List Json) (rest : List Char) :
    (Json.array items).print.toList ++ rest =
      '[' :: ((",".intercalate (printItems items)).toList ++ ']' :: rest) := by
  rw [print]
  simp

theorem print_object (members : List (String × Json)) (rest : List Char) :
    (Json.object members).print.toList ++ rest =
      '\x7b' :: ((",".intercalate (printMembers members)).toList ++ '\x7d' :: rest) := by
  rw [print]
  simp

theorem printItems_single (v : Json) (rest : List Char) :
    (",".intercalate (printItems [v])).toList ++ rest = v.print.toList ++ rest := by
  rw [printItems, printItems, String.intercalate_singleton]

theorem printItems_cons_cons (v w : Json) (items : List Json) (rest : List Char) :
    (",".intercalate (printItems (v :: w :: items))).toList ++ rest =
      v.print.toList ++ ',' :: ((",".intercalate (printItems (w :: items))).toList ++ rest) := by
  rw [printItems, printItems, String.intercalate_cons_cons]
  simp

theorem printMembers_single (name : String) (v : Json) (rest : List Char) :
    (",".intercalate (printMembers [(name, v)])).toList ++ rest =
      (quoteText name).toList ++ ':' :: (v.print.toList ++ rest) := by
  rw [printMembers, printMembers, String.intercalate_singleton]
  simp

theorem printMembers_cons_cons (name : String) (v : Json) (m : String × Json)
    (members : List (String × Json)) (rest : List Char) :
    (",".intercalate (printMembers ((name, v) :: m :: members))).toList ++ rest =
      (quoteText name).toList ++ ':' :: (v.print.toList ++
        ',' :: ((",".intercalate (printMembers (m :: members))).toList ++ rest)) := by
  obtain ⟨name', w⟩ := m
  rw [printMembers, printMembers, String.intercalate_cons_cons]
  simp

/-- Behind the name of a member its value is read. -/
theorem run_member {a : Assembly} (awaits : a.AwaitsName) {read : List (Option String × Draft)}
    {outer : List Frame} (frames : a.frames = .object read :: outer) (name : String)
    (rest : List Char) :
    a.run (tokens ((quoteText name).toList ++ ':' :: rest)) =
      run { frames := .member read (some name) :: outer, due := .value } (tokens rest) := by
  have colon : tokens (':' :: rest) = .colon :: tokens rest := rfl
  rw [tokens_quoteText, colon]
  exact run_name awaits frames name (tokens rest)

mutual

/-- Reading a written value puts its draft into the innermost open container. -/
theorem run_print : ∀ (v : Json), v.All FloatReadsBack → ∀ {a a' : Assembly}, a.AwaitsValue →
    put a.frames v.draft = some a' → ∀ {rest : List Char}, EndsNumeral rest →
    a.run (tokens (v.print.toList ++ rest)) = a'.run (tokens rest)
  | .null, _, a, a', awaits, placed, rest, _ => by
    have word : tokens ((Json.print .null).toList ++ rest) = .null :: tokens rest := rfl
    rw [word]
    exact run_value awaits .null (by decide) placed (tokens rest)
  | .bool true, _, a, a', awaits, placed, rest, _ => by
    have word : tokens ((Json.print (.bool true)).toList ++ rest) = .bool true :: tokens rest := rfl
    rw [word]
    exact run_value awaits (.bool true) (by decide) placed (tokens rest)
  | .bool false, _, a, a', awaits, placed, rest, _ => by
    have word : tokens ((Json.print (.bool false)).toList ++ rest) = .bool false :: tokens rest := rfl
    rw [word]
    exact run_value awaits (.bool false) (by decide) placed (tokens rest)
  | .number (.integer n), _, a, a', awaits, placed, rest, ends => by
    have token : tokens ((Json.print (.number (.integer n))).toList ++ rest) =
        .number (some (.integer n)) :: tokens rest := (spells_integer n).tokens ends
    rw [token]
    exact run_value awaits (.number (some (.integer n))) nofun placed (tokens rest)
  | .number (.float x), floats, a, a', awaits, placed, rest, ends => by
    have back : ReadsBack x := floats
    have token : tokens ((Json.print (.number (.float x))).toList ++ rest) =
        .number (some (.float x)) :: tokens rest := (readsBack_iff.1 back).tokens ends
    rw [token]
    exact run_value awaits (.number (some (.float x))) nofun placed (tokens rest)
  | .text s, _, a, a', awaits, placed, rest, _ => by
    rw [print, tokens_quoteText]
    exact run_value awaits (.text (some s)) nofun placed (tokens rest)
  | .array items, floats, a, a', awaits, placed, rest, _ => by
    have opened : ∀ cs, tokens ('[' :: cs) = .openArray :: tokens cs := fun _ => rfl
    have begun : value a.frames .openArray =
        some { frames := .array [] :: a.frames, due := .valueOrEnd } := rfl
    rw [print_array, opened, run_value awaits .openArray (by decide) begun]
    by_cases empty : items = []
    · subst empty
      have closed : tokens (']' :: rest) = .closeArray :: tokens rest := rfl
      rw [printItems, String.intercalate_nil, String.toList_empty, List.nil_append, closed]
      apply run_cons
      exact placed
    · exact run_printItems items floats.2 empty (.inr rfl) rfl placed rest
  | .object members, floats, a, a', awaits, placed, rest, _ => by
    have opened : ∀ cs, tokens ('\x7b' :: cs) = .openObject :: tokens cs := fun _ => rfl
    have begun : value a.frames .openObject =
        some { frames := .object [] :: a.frames, due := .nameOrEnd } := rfl
    rw [print_object, opened, run_value awaits .openObject (by decide) begun]
    by_cases empty : members = []
    · subst empty
      have closed : tokens ('\x7d' :: rest) = .closeObject :: tokens rest := rfl
      rw [printMembers, String.intercalate_nil, String.toList_empty, List.nil_append, closed]
      apply run_cons
      exact placed
    · exact run_printMembers members floats.2 empty (.inr rfl) rfl placed rest
  termination_by structural v => v

/-- Reading written values to the end of their array puts the draft of the array, with those that have
been read before, into the container around it. -/
theorem run_printItems : ∀ (items : List Json), AllItems FloatReadsBack items → items ≠ [] →
    ∀ {a a' : Assembly} {read : List Draft} {outer : List Frame}, a.AwaitsValue →
    a.frames = .array read :: outer →
    put outer (.array (read.reverse ++ itemDrafts items) true) = some a' → ∀ (rest : List Char),
    a.run (tokens ((",".intercalate (printItems items)).toList ++ ']' :: rest)) = a'.run (tokens rest)
  | [], _, filled, _, _, _, _, _, _, _, _ => absurd rfl filled
  | [v], floats, _, a, a', read, outer, awaits, frames, placed, rest => by
    have stands : put a.frames v.draft =
        some { frames := .array (v.draft :: read) :: outer, due := .separator } := by
      rw [frames]
      rfl
    have closed : tokens (']' :: rest) = .closeArray :: tokens rest := rfl
    have placed' : put outer (.array (v.draft :: read).reverse true) = some a' := by
      rw [List.reverse_cons]
      exact placed
    rw [printItems_single, run_print v floats.1 awaits stands (endsNumeral_cons (by decide) rest),
      closed]
    apply run_cons
    exact placed'
  | v :: w :: items, floats, _, a, a', read, outer, awaits, frames, placed, rest => by
    have stands : put a.frames v.draft =
        some { frames := .array (v.draft :: read) :: outer, due := .separator } := by
      rw [frames]
      rfl
    have comma : ∀ cs, tokens (',' :: cs) = .comma :: tokens cs := fun _ => rfl
    rw [printItems_cons_cons, run_print v floats.1 awaits stands (endsNumeral_cons (by decide) _),
      comma, run_cons rfl]
    refine run_printItems (w :: items) floats.2 (List.cons_ne_nil w items) (.inl rfl) rfl ?_ rest
    rw [List.reverse_cons, List.append_assoc]
    exact placed
  termination_by structural items => items

/-- Reading written members to the end of their object puts the draft of the object, with those that
have been read before, into the container around it. -/
theorem run_printMembers : ∀ (members : List (String × Json)), AllMembers FloatReadsBack members →
    members ≠ [] → ∀ {a a' : Assembly} {read : List (Option String × Draft)} {outer : List Frame},
    a.AwaitsName → a.frames = .object read :: outer →
    put outer (.object (read.reverse ++ memberDrafts members) true) = some a' →
    ∀ (rest : List Char),
    a.run (tokens ((",".intercalate (printMembers members)).toList ++ '\x7d' :: rest)) =
      a'.run (tokens rest)
  | [], _, filled, _, _, _, _, _, _, _, _ => absurd rfl filled
  | [(name, v)], floats, _, a, a', read, outer, awaits, frames, placed, rest => by
    have stands : put (.member read (some name) :: outer) v.draft =
        some { frames := .object ((some name, v.draft) :: read) :: outer, due := .separator } := rfl
    have closed : tokens ('\x7d' :: rest) = .closeObject :: tokens rest := rfl
    have placed' : put outer (.object ((some name, v.draft) :: read).reverse true) = some a' := by
      rw [List.reverse_cons]
      exact placed
    rw [printMembers_single, run_member awaits frames,
      run_print v floats.1 (.inl rfl) stands (endsNumeral_cons (by decide) rest), closed]
    apply run_cons
    exact placed'
  | (name, v) :: m :: members, floats, _, a, a', read, outer, awaits, frames, placed, rest => by
    have stands : put (.member read (some name) :: outer) v.draft =
        some { frames := .object ((some name, v.draft) :: read) :: outer, due := .separator } := rfl
    have comma : ∀ cs, tokens (',' :: cs) = .comma :: tokens cs := fun _ => rfl
    rw [printMembers_cons_cons, run_member awaits frames,
      run_print v floats.1 (.inl rfl) stands (endsNumeral_cons (by decide) _), comma, run_cons rfl]
    refine run_printMembers (m :: members) floats.2 (List.cons_ne_nil m members) (.inl rfl) rfl ?_ rest
    rw [List.reverse_cons, List.append_assoc]
    exact placed
  termination_by structural members => members

end

/-- The document of a written value is the draft of the value, and it ends there. -/
theorem ofText_print {v : Json} (floats : v.All FloatReadsBack) :
    Document.ofText v.print = ⟨v.draft, true⟩ := by
  have stands : put [] v.draft = some { frames := [], due := .nothing, root := v.draft } := rfl
  have read := run_print v floats (a := {}) (.inl rfl) stands endsNumeral_nil
  rw [List.append_nil] at read
  exact read

end CloudSearch.Json
