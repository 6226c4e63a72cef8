import CloudSearch.Filter.Wire
import CloudSearch.Proofs.Outcome

/-!
# Clauses as formulas

A clause has five forms, but what is written for it has only two: a leaf, or a connective over
operands. `Formula` is that smaller language and `Clause.formula` the formula of a clause:
shorthands and lists are disjunctions, and a negation of several clauses is one of their
conjunction, so that a negation that stands for anything has exactly one operand.
`clauseTexts_eq` says that writing a clause is writing its formula.
-/

namespace CloudSearch.Filter
open Outcome

/-- A connective over operands that are formulas themselves, or a leaf. -/
inductive Formula (α : Type)
  | leaf (a : α)
  | group (op : Connective) (operands : List (Formula α))

/-- A leaf of a filter: a field compared with a value or with a range. -/
inductive Atom
  | term (field : String) (value : Scalar)
  | range (field : String) (r : Range)
deriving DecidableEq

/-- The field that the leaf is about. -/
def Atom.field : Atom → String
  | .term field _ => field
  | .range field _ => field

/-- A leaf as it is written. -/
def Atom.text (d : Dialect) : Atom → Except CompileError String
  | .term field v => .ok (termText d field v)
  | .range field r => rangeText d field r

namespace Formula

variable {α β γ : Type}

/-- The connective over the formulas; the negation of several is that of their conjunction. -/
def connect (op : Connective) (operands : List (Formula α)) : Formula α :=
  if op = .not ∧ 1 < operands.length then .group .not [.group .and operands]
  else .group op operands

mutual

/-- The formula with every leaf replaced. -/
def map (f : α → β) : Formula α → Formula β
  | .leaf a => .leaf (f a)
  | .group op operands => .group op (mapAll f operands)
  termination_by structural x => x

/-- Each of the formulas with every leaf replaced. -/
def mapAll (f : α → β) : List (Formula α) → List (Formula β)
  | [] => []
  | x :: rest => x.map f :: mapAll f rest
  termination_by structural xs => xs

end

mutual

/-- The leaves from left to right. -/
def leaves : Formula α → List α
  | .leaf a => [a]
  | .group _ operands => leavesOf operands
  termination_by structural x => x

/-- The leaves of all the formulas from left to right. -/
def leavesOf : List (Formula α) → List α
  | [] => []
  | x :: rest => x.leaves ++ leavesOf rest
  termination_by structural xs => xs

end

@[simp] theorem mapAll_eq (f : α → β) (xs : List (Formula α)) : mapAll f xs = xs.map (map f) := by
  induction xs with
  | nil => rfl
  | cons x xs ih => rw [mapAll, ih, List.map_cons]

theorem map_connect (f : α → β) (op : Connective) (xs : List (Formula α)) :
    (connect op xs).map f = connect op (xs.map (map f)) := by
  unfold connect
  rw [List.length_map]
  split <;> simp [map]

mutual

theorem map_map (g : β → γ) (f : α → β) : ∀ x : Formula α, (x.map f).map g = x.map (g ∘ f)
  | .leaf _ => rfl
  | .group op operands => by rw [map, map, map, mapAll_mapAll g f operands]
  termination_by structural x => x

theorem mapAll_mapAll (g : β → γ) (f : α → β) :
    ∀ xs : List (Formula α), mapAll g (mapAll f xs) = mapAll (g ∘ f) xs
  | [] => rfl
  | x :: xs => by rw [mapAll, mapAll, mapAll, map_map g f x, mapAll_mapAll g f xs]
  termination_by structural xs => xs

end

mutual

theorem leaves_map (f : α → β) : ∀ x : Formula α, (x.map f).leaves = x.leaves.map f
  | .leaf _ => rfl
  | .group op operands => by rw [map, leaves, leaves, leavesOf_mapAll f operands]
  termination_by structural x => x

theorem leavesOf_mapAll (f : α → β) :
    ∀ xs : List (Formula α), leavesOf (mapAll f xs) = (leavesOf xs).map f
  | [] => rfl
  | x :: xs => by
    rw [mapAll, leavesOf, leavesOf, List.map_append, leaves_map f x, leavesOf_mapAll f xs]
  termination_by structural xs => xs

end

end Formula

mutual

/-- The formula that a clause says. -/
def Clause.formula : Clause → Formula Atom
  | .group op children => .connect op (Clause.formulas children)
  | .orShorthand _ clauses => .group .or (Clause.formulas clauses)
  | .anyOf _ clauses => .group .or (Clause.formulas clauses)
  | .term field v => .leaf (.term field v)
  | .range field r => .leaf (.range field r)
  termination_by structural c => c

/-- The formulas that the clauses say. -/
def Clause.formulas : List Clause → List (Formula Atom)
  | [] => []
  | c :: rest => c.formula :: Clause.formulas rest
  termination_by structural cs => cs

end

mutual

/-- A formula as it is written: every connective in front of its operands, whatever their
number. -/
def Formula.text (d : Dialect) : Formula Atom → Except CompileError String
  | .leaf a => a.text d
  | .group op operands => do
    let texts ← Formula.texts d operands
    return "(" ++ op.name ++ " " ++ " ".intercalate texts ++ ")"
  termination_by structural x => x

/-- Each of the formulas as it is written. -/
def Formula.texts (d : Dialect) : List (Formula Atom) → Except CompileError (List String)
  | [] => .ok []
  | x :: rest => do
    let t ← x.text d
    let ts ← Formula.texts d rest
    return t :: ts
  termination_by structural xs => xs

end

/-- The leaves of clauses in the order in which they are written. -/
def leavesOf (cs : List Clause) : List Atom :=
  Formula.leavesOf (Clause.formulas cs)

theorem Clause.formulas_eq (cs : List Clause) : Clause.formulas cs = cs.map Clause.formula := by
  induction cs with
  | nil => rfl
  | cons c cs ih => rw [Clause.formulas, ih, List.map_cons]

/-- Every formula is written, so that there are as many texts as formulas. -/
theorem Formula.length_texts {d : Dialect} {xs : List (Formula Atom)} {ts : List String}
    (h : Formula.texts d xs = .ok ts) : ts.length = xs.length := by
  induction xs generalizing ts with
  | nil => cases h; rfl
  | cons x xs ih =>
    obtain ⟨t, -, h⟩ := bind_eq_ok_iff.1 h
    obtain ⟨us, hxs, h⟩ := bind_eq_ok_iff.1 h
    cases h
    rw [List.length_cons, List.length_cons, ih hxs]

/-- A group is written as the connective over what its children say. -/
theorem Formula.text_connect (d : Dialect) (op : Connective) (xs : List (Formula Atom)) :
    (Formula.connect op xs).text d = (Formula.texts d xs).map (groupText op) := by
  cases h : Formula.texts d xs with
  | error e =>
    unfold Formula.connect
    split <;> simp [Formula.text, Formula.texts, h]
  | ok ts =>
    simp only [Formula.connect, groupText, map_ok, Formula.length_texts h]
    split
    · next hop =>
      obtain ⟨rfl, -⟩ := hop
      simp [Formula.text, Formula.texts, h, Connective.name, ← String.toList_inj]
    · simp [Formula.text, h]

mutual

/-- A formula can be written exactly when all of its leaves can. -/
theorem Formula.exists_text_iff (d : Dialect) : ∀ x : Formula Atom,
    (∃ s, x.text d = .ok s) ↔ ∀ a ∈ x.leaves, ∃ s, a.text d = .ok s
  | .leaf a => by simp [Formula.text, Formula.leaves]
  | .group op operands => by
    rw [Formula.leaves, ← Formula.exists_texts_iff d operands]
    constructor
    · rintro ⟨s, h⟩
      obtain ⟨ts, hts, -⟩ := bind_eq_ok_iff.1 h
      exact ⟨ts, hts⟩
    · rintro ⟨ts, hts⟩
      exact ⟨_, bind_eq_ok_iff.2 ⟨ts, hts, rfl⟩⟩
  termination_by structural x => x

/-- Formulas can be written exactly when all of their leaves can. -/
theorem Formula.exists_texts_iff (d : Dialect) : ∀ xs : List (Formula Atom),
    (∃ ts, Formula.texts d xs = .ok ts) ↔ ∀ a ∈ Formula.leavesOf xs, ∃ s, a.text d = .ok s
  | [] => by simp [Formula.texts, Formula.leavesOf]
  | x :: xs => by
    rw [Formula.leavesOf, List.forall_mem_append, ← Formula.exists_text_iff d x,
      ← Formula.exists_texts_iff d xs]
    constructor
    · rintro ⟨ts, h⟩
      obtain ⟨t, ht, h⟩ := bind_eq_ok_iff.1 h
      obtain ⟨us, hus, -⟩ := bind_eq_ok_iff.1 h
      exact ⟨⟨t, ht⟩, ⟨us, hus⟩⟩
    · rintro ⟨⟨t, ht⟩, ⟨us, hus⟩⟩
      exact ⟨_, bind_eq_ok_iff.2 ⟨t, ht, bind_eq_ok_iff.2 ⟨us, hus, rfl⟩⟩⟩
  termination_by structural xs => xs

end

mutual

/-- A clause is written as its formula is. -/
theorem Clause.text_eq (d : Dialect) : ∀ c : Clause, c.text d = c.formula.text d
  | .group op children => by
    rw [Clause.text, Clause.formula, Formula.text_connect, clauseTexts_eq d children]
    rfl
  | .orShorthand _ clauses => by
    rw [Clause.text, Clause.formula, Formula.text, clauseTexts_eq d clauses]
    rfl
  | .anyOf _ clauses => by
    rw [Clause.text, Clause.formula, Formula.text, clauseTexts_eq d clauses]
    rfl
  | .term _ _ => rfl
  | .range _ _ => rfl
  termination_by structural c => c

/-- Clauses are written as their formulas are. -/
theorem clauseTexts_eq (d : Dialect) :
    ∀ cs : List Clause, clauseTexts d cs = Formula.texts d (Clause.formulas cs)
  | [] => rfl
  | c :: rest => by
    rw [clauseTexts, Clause.formulas, Formula.texts, Clause.text_eq d c, clauseTexts_eq d rest]
  termination_by structural cs => cs

end

theorem render_eq (d : Dialect) (cs : List Clause) :
    render d cs = (Formula.texts d (Clause.formulas cs)).map (" ".intercalate ·) := by
  rw [render, clauseTexts_eq]
  rfl

end CloudSearch.Filter
