import CloudSearch.Proofs.Filter.Unambiguous
import CloudSearch.Proofs.Search.Dialects

/-!
# One query of a term and clauses

In the structured dialect the term and the filter of a search have to share one query. Whatever the
term contains, that query is read back as a single formula, in which the term is one operand with
its contents as they were typed, and the clauses stand behind it in their order
(`structuredQuery_reads`).
-/

namespace CloudSearch.Search
open Outcome CloudSearch.Filter

/-- What a term and a filter say together. A blank term says nothing, and without it a formula that
is alone needs no connective. -/
def queryFormula (term : String) (filter : List (Formula Leaf)) : Formula Leaf :=
  if Text.isBlankText term then
    match filter with
    | [x] => x
    | xs => .group .and xs
  else .group .and (.leaf (.phrase term) :: filter)

/-- Written clauses are taken apart into the lexemes of their normal form, whatever follows. -/
theorem lexemes_of_render {d : Dialect} {cs : List Clause} {s : String}
    (names : ∀ a ∈ leavesOf cs, IsReadableName d a.field) (written : render d cs = .ok s)
    {rest : List Char} (boundary : IsBoundary rest) :
    lexemes d (s.toList ++ rest) =
      (lexemes d rest).map (Formula.lexemesOf (normalForm d cs) ++ ·) := by
  rw [render_eq] at written
  obtain ⟨texts, made, rfl⟩ := map_eq_ok_iff.1 written
  rw [lexemes_texts _ names made boundary, Formula.mapAll_eq]
  rfl

/-- Clauses that are written inside a group are taken apart up to its end. -/
theorem lexemes_filter {cs : List Clause} {filter : String}
    (names : ∀ a ∈ leavesOf cs, IsReadableName .structured a.field)
    (written : render .structured cs = .ok filter) :
    lexemes .structured (filter.toList ++ [')']) =
      some (Formula.lexemesOf (normalForm .structured cs) ++ [.stop]) := by
  have nothing : lexemes .structured [] = some [] := by rw [lexemes]
  rw [lexemes_of_render names written (isBoundary_stop []), lexemes_stop, nothing]
  rfl

/-- A group of a quoted term and a filter is read as the conjunction of all that they say. -/
theorem readFormulas_termAndFilter {filter : String} {xs : List (Formula Leaf)}
    (taken : lexemes .structured (filter.toList ++ [')']) =
      some (Formula.lexemesOf xs ++ [.stop])) (term : String) :
    readFormulas .structured ("(and " ++ Text.quote term ++ " " ++ filter ++ ")") =
      some [.group .and (.leaf (.phrase term) :: xs)] := by
  have inside : lexemes .structured ((Text.quote term ++ " " ++ filter).toList ++ [')']) =
      some (Formula.lexemesOf (.leaf (.phrase term) :: xs) ++ [.stop]) := by
    have form : (Text.quote term ++ " " ++ filter).toList ++ [')'] =
        (Text.quote term).toList ++ ' ' :: (filter.toList ++ [')']) := by
      simp
    rw [form, lexemes_quote, lexemes_blank, taken]
    rfl
  have form : "(and " ++ Text.quote term ++ " " ++ filter ++ ")" =
      "(" ++ Connective.and.name ++ " " ++ (Text.quote term ++ " " ++ filter) ++ ")" := by
    simp [← String.toList_inj, Connective.name]
  rw [form, readFormulas_group inside]

/-- The query of a term and written clauses is read as what they say together. -/
theorem readFormulas_structuredQuery {c : Clause} {cs : List Clause} {filter : String}
    (names : ∀ a ∈ leavesOf (c :: cs), IsReadableName .structured a.field)
    (written : render .structured (c :: cs) = .ok filter) (term : String) :
    ∃ s, structuredQuery term (c :: cs) = .ok s ∧
      readFormulas .structured s =
        some [queryFormula term (normalForm .structured (c :: cs))] := by
  have taken := lexemes_filter names written
  rw [structuredQuery_cons, written, map_ok]
  refine ⟨_, rfl, ?_⟩
  cases blank : Text.isBlankText term with
  | false =>
    simp only [queryFormula, blank]
    exact readFormulas_termAndFilter taken term
  | true =>
    simp only [queryFormula, blank]
    cases cs with
    | nil => exact readFormulas_of_readable names written
    | cons c' cs =>
      exact readFormulas_group taken .and

/-- **One query, whatever the term.** The clauses of a filter and the clause of a place, if there is
one, make a single query together with the term, and this is read back as what they say together.
Without any clauses the query is the term as it stands. -/
theorem structuredQuery_reads {e : Expression} {cs : List Clause} {place : Option Clause}
    (made : e.clauses = .ok cs) (placed : ∀ c ∈ place, Geo.IsPlaceClause .structured c)
    (names : ∀ a ∈ leavesOf (cs ++ place.toList), ' ' ∉ a.field.toList) (term : String) :
    (cs ++ place.toList = [] → structuredQuery term (cs ++ place.toList) = .ok term) ∧
    (cs ++ place.toList ≠ [] → ∃ s, structuredQuery term (cs ++ place.toList) = .ok s ∧
      readFormulas .structured s =
        some [queryFormula term (normalForm .structured (cs ++ place.toList))]) := by
  have sound : ∀ a ∈ leavesOf (cs ++ place.toList), a.Sound := by
    rw [leavesOf_append, List.forall_mem_append]
    refine ⟨Filter.sound_of_clauses made, ?_⟩
    cases place with
    | none => simp [leavesOf, Clause.formulas, Formula.leavesOf]
    | some c =>
      rw [Option.toList_some, leavesOf_singleton]
      exact fun a mem => (Geo.isPlainRange_of_isPlaceClause (placed c rfl) a mem).1
  have readable : ∀ a ∈ leavesOf (cs ++ place.toList), IsReadableName .structured a.field :=
    fun a mem => List.forall_mem_ne'.2 (names a mem)
  obtain ⟨filter, written⟩ := exists_render_structured sound
  cases all : cs ++ place.toList with
  | nil => exact ⟨fun _ => rfl, fun filled => absurd rfl filled⟩
  | cons c rest =>
    rw [all] at readable written
    refine ⟨fun none => absurd none (List.cons_ne_nil c rest), fun _ => ?_⟩
    exact readFormulas_structuredQuery readable written term

/-- A filter by a title that looks like the end of its own quotes. -/
def quotedTitle : Expression :=
  [("title", .text "')"), ("cast", .null), ("year", .range (.atLeast (.int 1990)))]

/-- Its clauses. -/
def quotedTitleClauses : List Clause :=
  [.term "title" (.text "')"), .range "year" (.atLeast (.int 1990))]

/-- The clause of a box on the field `location`. -/
def boxClause : Clause :=
  Geo.Box.clause ⟨45, 46.5, 10, 11⟩ "location"

theorem isPlaceClause_boxClause : Geo.IsPlaceClause .structured boxClause :=
  ⟨{ field := "location", within := some ⟨45, 46.5, 10, 11⟩ }, _, rfl, rfl⟩

/-- What a term and the clauses say together, where the term would end the query if it could. -/
def quotedTitleFormula : Formula Leaf :=
  .group .and [.leaf (.phrase " ') (or \\"), .leaf (.term "title" (.quoted "')")),
    .leaf (.range "year" (.included (.number "1990")) .unbounded),
    .leaf (.range "location" (.included (.quoted "46.5,10")) (.included (.quoted "45,11")))]

theorem structuredQuery_reads_quotedTitle :
    quotedTitle.clauses = .ok quotedTitleClauses ∧ Geo.IsPlaceClause .structured boxClause ∧
    ∃ s, structuredQuery " ') (or \\" (quotedTitleClauses ++ [boxClause]) = .ok s ∧
      readFormulas .structured s = some [quotedTitleFormula] := by
  have made : quotedTitle.clauses = .ok quotedTitleClauses := by rfl
  have placed : ∀ c ∈ some boxClause, Geo.IsPlaceClause .structured c := by
    rintro c ⟨⟩
    exact isPlaceClause_boxClause
  have names : ∀ a ∈ leavesOf (quotedTitleClauses ++ [boxClause]), ' ' ∉ a.field.toList := by
    decide
  obtain ⟨s, written, read⟩ :=
    (structuredQuery_reads made placed names " ') (or \\").2 (List.cons_ne_nil _ _)
  have formula : queryFormula " ') (or \\"
      (normalForm .structured (quotedTitleClauses ++ [boxClause])) = quotedTitleFormula := by
    rfl
  exact ⟨made, isPlaceClause_boxClause, s, written, formula ▸ read⟩

end CloudSearch.Search
