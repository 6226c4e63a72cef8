import CloudSearch.Proofs.Filter.Leaves

/-!
# What can be written

A filter is written leaf by leaf, so that writing it fails at the first leaf that has no written
form, and with the error of that leaf. In the structured dialect every sound leaf has a form. The
legacy dialect lacks exclusive bounds: `Bound.Inexpressible` says which of them it cannot replace by
an inclusive one, and `render_legacy_eq_error_iff` that it fails at the first of these and nowhere
else.
-/

namespace CloudSearch.Filter
open Outcome

/-! ## The first fault of a row -/

section

variable {α : Type} {fits fits' : α → Prop} {fault fault' : α → CompileError → Prop}
  {err : CompileError}

theorem first_nil_iff : First fits fault [] err ↔ False := by
  simp [First]

theorem first_cons_iff {x : α} {xs : List α} :
    First fits fault (x :: xs) err ↔ fault x err ∨ fits x ∧ First fits fault xs err := by
  constructor
  · rintro ⟨before, y, after, split, clean, faulty⟩
    cases before with
    | nil =>
      cases split
      exact .inl faulty
    | cons z before =>
      cases split
      obtain ⟨first, others⟩ := List.forall_mem_cons.1 clean
      exact .inr ⟨first, before, y, after, rfl, others, faulty⟩
  · rintro (faulty | ⟨first, before, y, after, rfl, others, faulty⟩)
    · exact ⟨[], x, xs, rfl, by simp, faulty⟩
    · exact ⟨x :: before, y, after, rfl, List.forall_mem_cons.2 ⟨first, others⟩, faulty⟩

/-- The first fault of two rows is that of the first one, or that of the second where the first one
has none. -/
theorem first_append_iff {xs ys : List α} :
    First fits fault (xs ++ ys) err ↔
      First fits fault xs err ∨ (∀ x ∈ xs, fits x) ∧ First fits fault ys err := by
  induction xs with
  | nil => simp [first_nil_iff]
  | cons x xs ih =>
    rw [List.cons_append, first_cons_iff, first_cons_iff, ih, List.forall_mem_cons, and_or_left,
      or_assoc, and_assoc]

theorem first_congr {xs : List α} (sameFits : ∀ x ∈ xs, (fits x ↔ fits' x))
    (sameFault : ∀ x ∈ xs, (fault x err ↔ fault' x err)) :
    First fits fault xs err ↔ First fits' fault' xs err := by
  induction xs with
  | nil => simp only [first_nil_iff]
  | cons x xs ih =>
    obtain ⟨fitsHead, fitsTail⟩ := List.forall_mem_cons.1 sameFits
    obtain ⟨faultHead, faultTail⟩ := List.forall_mem_cons.1 sameFault
    rw [first_cons_iff, first_cons_iff, fitsHead, faultHead, ih fitsTail faultTail]

theorem not_first_of_forall {xs : List α} (clean : ∀ x ∈ xs, ¬ fault x err) :
    ¬ First fits fault xs err := by
  rintro ⟨before, x, after, rfl, -, faulty⟩
  exact clean x (by simp) faulty

end

/-! ## The first leaf that cannot be written -/

/-- The leaf has a written form. -/
def Atom.Writable (d : Dialect) (a : Atom) : Prop :=
  ∃ s, a.text d = .ok s

/-- The leaf cannot be written for this reason. -/
def Atom.Refused (d : Dialect) (a : Atom) (err : CompileError) : Prop :=
  a.text d = .error err

mutual

theorem Formula.text_eq_error_iff (d : Dialect) (err : CompileError) : ∀ x : Formula Atom,
    x.text d = .error err ↔ First (Atom.Writable d) (Atom.Refused d) x.leaves err
  | .leaf a => by
    rw [Formula.text, Formula.leaves, first_cons_iff, first_nil_iff, and_false, or_false]
    rfl
  | .group op operands => by
    rw [Formula.text, Formula.leaves, bind_eq_error_iff,
      Formula.texts_eq_error_iff d err operands]
    simp
  termination_by structural x => x

/-- Writing formulas fails at the first of their leaves that has no written form. -/
theorem Formula.texts_eq_error_iff (d : Dialect) (err : CompileError) : ∀ xs : List (Formula Atom),
    Formula.texts d xs = .error err ↔
      First (Atom.Writable d) (Atom.Refused d) (Formula.leavesOf xs) err
  | [] => by simp [Formula.texts, Formula.leavesOf, first_nil_iff]
  | x :: xs => by
    have head := Formula.text_eq_error_iff d err x
    have tail := Formula.texts_eq_error_iff d err xs
    have written : (∃ t, x.text d = .ok t) ↔ ∀ a ∈ x.leaves, a.Writable d :=
      Formula.exists_text_iff d x
    rw [Formula.texts, Formula.leavesOf, first_append_iff, bind_eq_error_iff, head, ← written,
      ← tail]
    simp [bind_eq_error_iff]
  termination_by structural xs => xs

end

theorem render_eq_error_iff {d : Dialect} {cs : List Clause} {err : CompileError} :
    render d cs = .error err ↔ First (Atom.Writable d) (Atom.Refused d) (leavesOf cs) err := by
  rw [render_eq, map_eq_error_iff, Formula.texts_eq_error_iff]
  rfl

/-- Clauses are written exactly if each of their leaves has a written form. -/
theorem exists_render_iff {d : Dialect} {cs : List Clause} :
    (∃ s, render d cs = .ok s) ↔ ∀ a ∈ leavesOf cs, a.Writable d := by
  have texts : (∃ ts, Formula.texts d (Clause.formulas cs) = .ok ts) ↔
      ∀ a ∈ leavesOf cs, a.Writable d := Formula.exists_texts_iff d _
  rw [← texts, render_eq]
  constructor
  · rintro ⟨s, written⟩
    obtain ⟨ts, each, -⟩ := map_eq_ok_iff.1 written
    exact ⟨ts, each⟩
  · rintro ⟨ts, each⟩
    exact ⟨_, map_eq_ok_iff.2 ⟨ts, each, rfl⟩⟩

/-! ## Bounds of the legacy dialect -/

/-- The bound excludes its endpoint, and there is no next integer towards the inside that could be
included in its place. -/
inductive Bound.Inexpressible : Side → Bound → Prop
  | notInteger {side : Side} {e : Endpoint} (other : ∀ i, e ≠ .int i) :
    Inexpressible side (.excluded e)
  | greatest : Inexpressible .lower (.excluded (.int Int64.maxValue))
  | least : Inexpressible .upper (.excluded (.int Int64.minValue))

theorem tighten?_eq_none_iff {side : Side} {i : Int64} :
    tighten? side i = none ↔ Bound.Inexpressible side (.excluded (.int i)) := by
  constructor
  · intro stuck
    cases side with
    | lower =>
      have last : i = Int64.maxValue := by simpa [tighten?] using stuck
      rw [last]
      exact .greatest
    | upper =>
      have first : i = Int64.minValue := by simpa [tighten?] using stuck
      rw [first]
      exact .least
  · intro inexpressible
    cases inexpressible with
    | notInteger other => exact absurd rfl (other i)
    | greatest => rfl
    | least => rfl

/-- A bound is refused if it is inexpressible, and for no other reason. -/
theorem Bound.legacyText_eq_error_iff {field : String} {side : Side} {b : Bound}
    {err : CompileError} :
    b.legacyText field side = .error err ↔
      b.Inexpressible side ∧ err = .exclusiveBound field side := by
  have other : ∀ e : Endpoint, (∀ i, e ≠ .int i) →
      (Except.error (CompileError.exclusiveBound field side) = Except.error (α := String) err ↔
        Bound.Inexpressible side (.excluded e) ∧ err = .exclusiveBound field side) := by
    intro e other
    rw [Except.error.injEq, and_iff_right (.notInteger other), eq_comm]
  cases b with
  | unbounded | included =>
    constructor
    · intro refused
      cases refused
    · rintro ⟨⟨⟩, -⟩
  | excluded e =>
    cases e with
    | float | text | instant => exact other _ fun i => by simp
    | int i =>
      rw [← tighten?_eq_none_iff, Bound.legacyText]
      cases tighten? side i with
      | none => simp [eq_comm]
      | some j => simp

theorem Bound.exists_legacyText_iff {field : String} {side : Side} {b : Bound} :
    (∃ s, b.legacyText field side = .ok s) ↔ ¬ b.Inexpressible side := by
  rw [exists_ok_iff]
  constructor
  · intro written inexpressible
    exact written _ (Bound.legacyText_eq_error_iff.2 ⟨inexpressible, rfl⟩)
  · intro expressible err refused
    exact expressible (Bound.legacyText_eq_error_iff.1 refused).1

/-! ## Leaves of either dialect -/

/-- The legacy dialect has forms for both bounds of the leaf. -/
def Atom.Expressible : Atom → Prop
  | .term _ _ => True
  | .range _ r => ¬ r.lower.Inexpressible .lower ∧ ¬ r.upper.Inexpressible .upper

/-- The first bound of the leaf that the legacy dialect has no form for, the lower one before the
upper one, as a reason to refuse the leaf. -/
inductive Atom.BoundFault : Atom → CompileError → Prop
  | lower {field : String} {r : Range} (low : r.lower.Inexpressible .lower) :
    BoundFault (.range field r) (.exclusiveBound field .lower)
  | upper {field : String} {r : Range} (low : ¬ r.lower.Inexpressible .lower)
    (high : r.upper.Inexpressible .upper) :
    BoundFault (.range field r) (.exclusiveBound field .upper)

theorem Range.isUnbounded_eq_false_iff {r : Range} : r.isUnbounded = false ↔ r ≠ .unbounded := by
  rw [← Bool.not_eq_true, ne_eq, Range.isUnbounded_iff]

/-- The structured dialect has a form for every sound leaf. -/
theorem Atom.Sound.writable {a : Atom} (sound : a.Sound) : a.Writable .structured := by
  cases a with
  | term field v => exact ⟨_, rfl⟩
  | range field r =>
    have bounded := Range.isUnbounded_eq_false_iff.2 sound.1
    exact ⟨_, by rw [Atom.text, rangeText, bounded]; rfl⟩

theorem rangeText_unbounded (d : Dialect) (field : String) :
    rangeText d field .unbounded = .error (.unboundedRange field) := by
  cases d <;> rfl

/-- The structured dialect refuses nothing but a range that is open on both sides. -/
theorem rangeText_structured_eq_error_iff {field : String} {r : Range} {err : CompileError} :
    rangeText .structured field r = .error err ↔
      r = .unbounded ∧ err = .unboundedRange field := by
  by_cases open_ended : r = .unbounded
  · rw [open_ended, rangeText_unbounded, Except.error.injEq, eq_comm]
    simp
  · rw [rangeText, Range.isUnbounded_eq_false_iff.2 open_ended]
    simp [open_ended]

/-- The legacy dialect refuses a range that is open on both sides, and one with a bound that it has
no form for. -/
theorem rangeText_legacy_eq_error_iff {field : String} {r : Range} {err : CompileError} :
    rangeText .legacy field r = .error err ↔
      r = .unbounded ∧ err = .unboundedRange field ∨ (Atom.range field r).BoundFault err := by
  by_cases open_ended : r = .unbounded
  · subst open_ended
    have no_fault : ¬(Atom.range field .unbounded).BoundFault err := by
      intro fault
      cases fault with
      | lower low => cases low
      | upper _ high => cases high
    rw [rangeText_unbounded, Except.error.injEq, eq_comm]
    simp [no_fault]
  · have sides : rangeText .legacy field r = .error err ↔
        r.lower.legacyText field .lower = .error err ∨
          (∃ s, r.lower.legacyText field .lower = .ok s) ∧
            r.upper.legacyText field .upper = .error err := by
      rw [rangeText, Range.isUnbounded_eq_false_iff.2 open_ended]
      simp [bind_eq_error_iff]
    rw [sides, Bound.legacyText_eq_error_iff, Bound.legacyText_eq_error_iff,
      Bound.exists_legacyText_iff]
    constructor
    · rintro (⟨low, rfl⟩ | ⟨low, high, rfl⟩)
      · exact .inr (.lower low)
      · exact .inr (.upper low high)
    · rintro (⟨rfl, -⟩ | fault)
      · exact absurd rfl open_ended
      cases fault with
      | lower low => exact .inl ⟨low, rfl⟩
      | upper low high => exact .inr ⟨low, high, rfl⟩

/-- The legacy dialect refuses a sound leaf for the bound that it has no form for. -/
theorem Atom.Sound.refused_iff {a : Atom} (sound : a.Sound) {err : CompileError} :
    a.Refused .legacy err ↔ a.BoundFault err := by
  cases a with
  | term field v =>
    constructor
    · intro refused
      cases refused
    · intro fault
      cases fault
  | range field r => simp [Atom.Refused, Atom.text, rangeText_legacy_eq_error_iff, sound.1]

theorem Atom.Sound.writable_iff {a : Atom} (sound : a.Sound) :
    a.Writable .legacy ↔ a.Expressible := by
  have refusal : a.Writable .legacy ↔ ∀ err, ¬ a.BoundFault err := by
    rw [Atom.Writable, exists_ok_iff]
    exact forall_congr' fun err => not_congr sound.refused_iff
  rw [refusal]
  cases a with
  | term field v =>
    constructor
    · intro _
      trivial
    · rintro - err ⟨⟩
  | range field r =>
    constructor
    · intro clean
      have low : ¬ r.lower.Inexpressible .lower := fun low => clean _ (.lower low)
      exact ⟨low, fun high => clean _ (.upper low high)⟩
    · rintro ⟨low, high⟩ err fault
      cases fault with
      | lower bad => exact low bad
      | upper _ bad => exact high bad

/-! ## Filters of either dialect -/

/-- **Sound clauses are always written** in the structured dialect. -/
theorem exists_render_structured {cs : List Clause} (sound : ∀ a ∈ leavesOf cs, a.Sound) :
    ∃ s, render .structured cs = .ok s :=
  exists_render_iff.2 fun a mem => (sound a mem).writable

/-- **Sound clauses are refused** in the legacy dialect for the first bound that it has no form
for. -/
theorem render_legacy_eq_error_iff {cs : List Clause} (sound : ∀ a ∈ leavesOf cs, a.Sound)
    {err : CompileError} :
    render .legacy cs = .error err ↔
      First Atom.Expressible Atom.BoundFault (leavesOf cs) err := by
  rw [render_eq_error_iff]
  exact first_congr (fun a mem => (sound a mem).writable_iff) fun a mem =>
    (sound a mem).refused_iff

/-! ## Texts without a character -/

theorem Atom.text_ne_empty {d : Dialect} {a : Atom} {s : String} (written : a.text d = .ok s) :
    s ≠ "" := by
  cases a with
  | term field v =>
    cases written
    cases d with
    | legacy | structured => simp [termText]
  | range field r =>
    rw [Atom.text] at written
    unfold rangeText at written
    split at written
    · cases written
    cases d with
    | structured =>
      cases written
      simp
    | legacy =>
      obtain ⟨lower, -, written⟩ := bind_eq_ok_iff.1 written
      obtain ⟨upper, -, written⟩ := bind_eq_ok_iff.1 written
      cases written
      simp

theorem Formula.text_ne_empty {d : Dialect} {x : Formula Atom} {s : String}
    (written : x.text d = .ok s) : s ≠ "" := by
  cases x with
  | leaf a => exact Atom.text_ne_empty written
  | group op operands =>
    obtain ⟨texts, -, form⟩ := bind_eq_ok_iff.1 written
    cases form
    simp

theorem intercalate_ne_empty {s : String} (filled : s ≠ "") (rest : List String) :
    " ".intercalate (s :: rest) ≠ "" := by
  cases rest with
  | nil => rwa [String.intercalate_singleton]
  | cons t rest =>
    rw [String.intercalate_cons_cons]
    simp

/-- Only where there is nothing to write is nothing written. -/
theorem render_eq_empty_iff {d : Dialect} {cs : List Clause} {s : String}
    (written : render d cs = .ok s) : s = "" ↔ cs = [] := by
  rw [render_eq] at written
  obtain ⟨texts, each, joined⟩ := map_eq_ok_iff.1 written
  subst joined
  cases cs with
  | nil =>
    cases each
    simp
  | cons c cs =>
    obtain ⟨t, first, each⟩ := bind_eq_ok_iff.1 each
    obtain ⟨ts, -, each⟩ := bind_eq_ok_iff.1 each
    cases each
    simp [intercalate_ne_empty (Formula.text_ne_empty first) ts]

end CloudSearch.Filter
