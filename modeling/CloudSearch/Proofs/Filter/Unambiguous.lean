import CloudSearch.Proofs.Filter.Reader

/-!
# The written filter is unambiguous

What is written for clauses can be read back in both dialects, up to the normal form of the clauses.
So clauses with the same text say the same. Texts that stand for values are contents of quoted
tokens and nothing else: with other texts in their place the filter is read as the same formulas,
contents apart.
-/

namespace CloudSearch.Filter
open Outcome

/-- What the clauses say, with every leaf as it is written. -/
def normalForm (d : Dialect) (cs : List Clause) : List (Formula Leaf) :=
  (Clause.formulas cs).map (Formula.map (Atom.leaf d))

/-! ## Other texts in the place of texts -/

/-- The value with another text, if it is one. -/
def Scalar.mapText (f : String → String) : Scalar → Scalar
  | .text s => .text (f s)
  | v => v

/-- The endpoint with another text, if it is one. -/
def Endpoint.mapText (f : String → String) : Endpoint → Endpoint
  | .text s => .text (f s)
  | e => e

/-- The bound with another text in its endpoint. -/
def Bound.mapText (f : String → String) : Bound → Bound
  | .unbounded => .unbounded
  | .included e => .included (e.mapText f)
  | .excluded e => .excluded (e.mapText f)

/-- The range with other texts in its endpoints. -/
def Range.mapText (f : String → String) (r : Range) : Range :=
  ⟨r.lower.mapText f, r.upper.mapText f⟩

/-- The atom with other texts as values. -/
def Atom.mapText (f : String → String) : Atom → Atom
  | .term field v => .term field (v.mapText f)
  | .range field r => .range field (r.mapText f)

mutual

/-- The clause with other texts as values. -/
def Clause.mapText (f : String → String) : Clause → Clause
  | .group op children => .group op (Clause.mapTexts f children)
  | .orShorthand name clauses => .orShorthand name (Clause.mapTexts f clauses)
  | .anyOf field clauses => .anyOf field (Clause.mapTexts f clauses)
  | .term field v => .term field (v.mapText f)
  | .range field r => .range field (r.mapText f)
  termination_by structural c => c

/-- The clauses with other texts as values. -/
def Clause.mapTexts (f : String → String) : List Clause → List Clause
  | [] => []
  | c :: rest => c.mapText f :: Clause.mapTexts f rest
  termination_by structural cs => cs

end

/-- The token without its contents, if it is quoted. -/
def Token.withoutContents : Token → Token
  | .number s => .number s
  | .quoted _ => .quoted ""

/-- The bound without the contents of its token. -/
def TokenBound.withoutContents : TokenBound → TokenBound
  | .unbounded => .unbounded
  | .included t => .included t.withoutContents
  | .excluded t => .excluded t.withoutContents

/-- The leaf without the contents of its tokens. -/
def Leaf.withoutContents : Leaf → Leaf
  | .term field t => .term field t.withoutContents
  | .range field lower upper => .range field lower.withoutContents upper.withoutContents
  | .phrase _ => .phrase ""

/-- The shape of formulas: what is left without the contents of quoted tokens. -/
def shapes (xs : List (Formula Leaf)) : List (Formula Leaf) :=
  xs.map (Formula.map Leaf.withoutContents)

mutual

theorem Clause.formula_mapText (f : String → String) :
    ∀ c : Clause, (c.mapText f).formula = c.formula.map (Atom.mapText f)
  | .group op children => by
    rw [Clause.mapText, Clause.formula, Clause.formula, Formula.map_connect,
      Clause.formulas_mapTexts f children, Formula.mapAll_eq]
  | .orShorthand _ clauses => by
    rw [Clause.mapText, Clause.formula, Clause.formula, Formula.map,
      Clause.formulas_mapTexts f clauses]
  | .anyOf _ clauses => by
    rw [Clause.mapText, Clause.formula, Clause.formula, Formula.map,
      Clause.formulas_mapTexts f clauses]
  | .term _ _ => rfl
  | .range _ _ => rfl
  termination_by structural c => c

theorem Clause.formulas_mapTexts (f : String → String) : ∀ cs : List Clause,
    Clause.formulas (Clause.mapTexts f cs) = Formula.mapAll (Atom.mapText f) (Clause.formulas cs)
  | [] => rfl
  | c :: cs => by
    rw [Clause.mapTexts, Clause.formulas, Clause.formulas, Formula.mapAll,
      Clause.formula_mapText f c, Clause.formulas_mapTexts f cs]
  termination_by structural cs => cs

end

theorem Bound.tokens_mapText (f : String → String) (b : Bound) :
    (b.mapText f).tokens.withoutContents = b.tokens.withoutContents := by
  cases b with
  | unbounded => rfl
  | included e => cases e <;> rfl
  | excluded e => cases e <;> rfl

/-- Only integers are tightened. -/
theorem Bound.tightened_mapText (f : String → String) (side : Side) (b : Bound) :
    (b.mapText f).tightened side = (b.tightened side).mapText f := by
  cases b with
  | unbounded => rfl
  | included e => rfl
  | excluded e =>
    cases e with
    | float | text | instant => rfl
    | int i =>
      simp only [Bound.mapText, Endpoint.mapText, Bound.tightened]
      split <;> rfl

theorem Range.written_mapText (f : String → String) (d : Dialect) (r : Range) :
    (r.mapText f).written d = (r.written d).mapText f := by
  cases d with
  | structured => rfl
  | legacy => simp only [Range.written, Range.mapText, Bound.tightened_mapText]

theorem Atom.leaf_mapText (f : String → String) (d : Dialect) (a : Atom) :
    ((a.mapText f).leaf d).withoutContents = (a.leaf d).withoutContents := by
  cases a with
  | term field v => cases v <;> rfl
  | range field r =>
    have lower : ((r.mapText f).written d).lower = (r.written d).lower.mapText f := by
      rw [Range.written_mapText]
      rfl
    have upper : ((r.mapText f).written d).upper = (r.written d).upper.mapText f := by
      rw [Range.written_mapText]
      rfl
    simp only [Atom.mapText, Atom.leaf, Leaf.withoutContents, lower, upper, Bound.tokens_mapText]

theorem Bound.exists_legacyText_mapText (f : String → String) {field : String} {side : Side}
    {b : Bound} (h : ∃ s, b.legacyText field side = .ok s) :
    ∃ s, (b.mapText f).legacyText field side = .ok s := by
  cases b with
  | unbounded => exact h
  | included e => exact ⟨_, rfl⟩
  | excluded e =>
    cases e with
    | int i => exact h
    | float | text | instant =>
      obtain ⟨s, h⟩ := h
      cases h

/-- Whether a leaf can be written does not depend on its texts. -/
theorem Atom.exists_text_mapText (f : String → String) {d : Dialect} {a : Atom}
    (h : ∃ s, a.text d = .ok s) : ∃ s, (a.mapText f).text d = .ok s := by
  cases a with
  | term field v => exact ⟨_, rfl⟩
  | range field r =>
    obtain ⟨s, h⟩ := h
    have unbounded : (r.mapText f).isUnbounded = r.isUnbounded := by
      obtain ⟨l, u⟩ := r
      cases l <;> cases u <;> rfl
    change rangeText d field r = .ok s at h
    change ∃ s, rangeText d field (r.mapText f) = .ok s
    unfold rangeText at h ⊢
    rw [unbounded]
    split at h
    · cases h
    rw [if_neg ‹_›]
    cases d with
    | structured => exact ⟨_, rfl⟩
    | legacy =>
      obtain ⟨lower, hl, h⟩ := bind_eq_ok_iff.1 h
      obtain ⟨upper, hu, -⟩ := bind_eq_ok_iff.1 h
      obtain ⟨lower', hl'⟩ := Bound.exists_legacyText_mapText f ⟨lower, hl⟩
      obtain ⟨upper', hu'⟩ := Bound.exists_legacyText_mapText f ⟨upper, hu⟩
      exact ⟨_, bind_eq_ok_iff.2 ⟨lower', hl', bind_eq_ok_iff.2 ⟨upper', hu', rfl⟩⟩⟩

/-- With other texts the clauses can be written as well, and what they say has the same shape. -/
theorem exists_render_mapTexts (f : String → String) {d : Dialect} {cs : List Clause} {s : String}
    (h : render d cs = .ok s) :
    (∃ s', render d (Clause.mapTexts f cs) = .ok s') ∧
      shapes (normalForm d (Clause.mapTexts f cs)) = shapes (normalForm d cs) := by
  constructor
  · rw [render_eq] at h ⊢
    obtain ⟨ts, hts, -⟩ := map_eq_ok_iff.1 h
    have leaves := (Formula.exists_texts_iff d _).1 ⟨ts, hts⟩
    have leaves' : ∀ a ∈ Formula.leavesOf (Clause.formulas (Clause.mapTexts f cs)),
        ∃ s, a.text d = .ok s := by
      intro a ha
      rw [Clause.formulas_mapTexts, Formula.leavesOf_mapAll] at ha
      obtain ⟨b, hb, rfl⟩ := List.mem_map.1 ha
      exact Atom.exists_text_mapText f (leaves b hb)
    obtain ⟨us, hus⟩ := (Formula.exists_texts_iff d _).2 leaves'
    exact ⟨_, map_eq_ok_iff.2 ⟨us, hus, rfl⟩⟩
  · have leaf : Leaf.withoutContents ∘ (Atom.leaf d ∘ Atom.mapText f) =
        Leaf.withoutContents ∘ Atom.leaf d := by
      funext a
      exact Atom.leaf_mapText f d a
    simp only [shapes, normalForm, Clause.formulas_mapTexts, ← Formula.mapAll_eq,
      Formula.mapAll_mapAll, leaf]

theorem field_mapText (f : String → String) (a : Atom) : (a.mapText f).field = a.field := by
  cases a <;> rfl

/-- Clauses that were written with readable names are read back as their normal form. -/
theorem readFormulas_of_readable {d : Dialect} {cs : List Clause} {s : String}
    (names : ∀ a ∈ leavesOf cs, IsReadableName d a.field) (h : render d cs = .ok s) :
    readFormulas d s = some (normalForm d cs) := by
  rw [render_eq] at h
  obtain ⟨ts, hts, rfl⟩ := map_eq_ok_iff.1 h
  exact readFormulas_texts names hts

/-- Written clauses are read back as their normal form. -/
theorem readFormulas_of_render {d : Dialect} {cs : List Clause} {s : String}
    (names : ∀ a ∈ leavesOf cs, isFieldName a.field = true) (h : render d cs = .ok s) :
    readFormulas d s = some (normalForm d cs) :=
  readFormulas_of_readable (fun a ha => isReadableName_of_isFieldName (names a ha) d) h

/-- **The written filter is unambiguous.** In either dialect what was written is read back as the
normal form of the clauses, so that clauses with the same text have the same normal form; and texts
that stand for values have no part in it: with others in their place the clauses are written as
well and read as formulas of the same shape. -/
theorem render_unambiguous {d : Dialect} {cs : List Clause} {s : String}
    (names : ∀ a ∈ leavesOf cs, isFieldName a.field = true) (h : render d cs = .ok s) :
    readFormulas d s = some (normalForm d cs) ∧
    (∀ others : List Clause, (∀ a ∈ leavesOf others, isFieldName a.field = true) →
      render d others = .ok s → normalForm d others = normalForm d cs) ∧
    (∀ f : String → String, ∃ s' xs, render d (Clause.mapTexts f cs) = .ok s' ∧
      readFormulas d s' = some xs ∧ shapes xs = shapes (normalForm d cs)) := by
  have read := readFormulas_of_render names h
  refine ⟨read, ?_, ?_⟩
  · intro others names' h'
    have read' := readFormulas_of_render names' h'
    exact Option.some.inj (read'.symm.trans read)
  · intro f
    obtain ⟨⟨s', hs'⟩, shape⟩ := exists_render_mapTexts f h
    have names' : ∀ a ∈ leavesOf (Clause.mapTexts f cs), isFieldName a.field = true := by
      intro a ha
      rw [leavesOf, Clause.formulas_mapTexts, Formula.leavesOf_mapAll] at ha
      obtain ⟨b, hb, rfl⟩ := List.mem_map.1 ha
      rw [field_mapText]
      exact names b hb
    exact ⟨s', _, hs', readFormulas_of_render names' hs', shape⟩

/-- A negation of two clauses and a list, with quotes, parentheses and points as values. -/
def syntaxAsValues : List Clause :=
  [.group .not [.term "a" (.text "') (or \\"),
    .range "b" ⟨.excluded (.int 3), .included (.text "'..'")⟩],
   .anyOf "c" [.term "c" (.bool true), .term "c" (.int (-7))]]

theorem render_unambiguous_syntaxAsValues :
    (∀ a ∈ leavesOf syntaxAsValues, isFieldName a.field = true) ∧
    render .legacy syntaxAsValues =
      .ok "(not (and a:'\\') (or \\\\' b:4..'\\'..\\'')) (or c:'true' c:-7)" ∧
    readFormulas .legacy "(not (and a:'\\') (or \\\\' b:4..'\\'..\\'')) (or c:'true' c:-7)" =
      some (normalForm .legacy syntaxAsValues) := by
  have names : ∀ a ∈ leavesOf syntaxAsValues, isFieldName a.field = true := by decide
  have written : render .legacy syntaxAsValues =
      .ok "(not (and a:'\\') (or \\\\' b:4..'\\'..\\'')) (or c:'true' c:-7)" := by rfl
  exact ⟨names, written, (render_unambiguous names written).1⟩

end CloudSearch.Filter
