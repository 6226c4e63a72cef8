import CloudSearch.Proofs.Filter.Lexeme

/-!
# Reading written filters

`lexemes` takes a text apart and `assemble` puts the lexemes together to formulas, with the groups
that have begun and not yet ended on a stack. `readFormulas_texts` says that the two undo writing:
the formulas come back with every leaf as it was written.
-/

namespace CloudSearch.Filter
open Outcome

/-- The lexemes of a text; blanks between them do not matter. -/
def lexemes (d : Dialect) (cs : List Char) : Option (List Lexeme) :=
  match cs with
  | [] => some []
  | c :: rest =>
    if c = ' ' then lexemes d rest
    else match readLexeme d (c :: rest) with
      | none => none
      | some (l, after) =>
        -- every lexeme has a first character, so that this only says why the reading ends
        if _shorter : after.length ≤ rest.length then (lexemes d after).map (l :: ·) else none
  termination_by cs.length
  decreasing_by all_goals simp only [List.length_cons]; omega

/-- The formulas that the lexemes make, where `before` has been read in the innermost group, last
formula first, and `outer` has the groups around it with what was read there. -/
def assemble : List (Connective × List (Formula Leaf)) → List (Formula Leaf) → List Lexeme →
    Option (List (Formula Leaf))
  | [], before, [] => some before.reverse
  | _ :: _, _, [] => none
  | outer, before, .leaf l :: rest => assemble outer (.leaf l :: before) rest
  | outer, before, .start op :: rest => assemble ((op, before) :: outer) [] rest
  | [], _, .stop :: _ => none
  | (op, around) :: outer, before, .stop :: rest =>
    assemble outer (.group op before.reverse :: around) rest
  termination_by structural _ _ ls => ls

/-- The formulas that a text says. -/
def readFormulas (d : Dialect) (s : String) : Option (List (Formula Leaf)) := do
  let ls ← lexemes d s.toList
  assemble [] [] ls

namespace Formula

mutual

/-- The lexemes that a formula is written with. -/
def lexemes : Formula Leaf → List Lexeme
  | .leaf l => [.leaf l]
  | .group op operands => .start op :: (lexemesOf operands ++ [.stop])
  termination_by structural x => x

/-- The lexemes that formulas side by side are written with. -/
def lexemesOf : List (Formula Leaf) → List Lexeme
  | [] => []
  | x :: rest => x.lexemes ++ lexemesOf rest
  termination_by structural xs => xs

end

end Formula

/-! ## Putting lexemes together -/

mutual

/-- The lexemes of a formula make this formula, whatever follows them. -/
theorem assemble_lexemes : ∀ (x : Formula Leaf) (outer : List (Connective × List (Formula Leaf)))
    (before : List (Formula Leaf)) (rest : List Lexeme),
    assemble outer before (x.lexemes ++ rest) = assemble outer (x :: before) rest
  | .leaf l, outer, before, rest => by
    rw [Formula.lexemes, List.singleton_append, assemble]
  | .group op operands, outer, before, rest => by
    rw [Formula.lexemes, List.cons_append, assemble, List.append_assoc,
      assemble_lexemesOf operands, List.singleton_append, assemble, List.append_nil,
      List.reverse_reverse]
  termination_by structural x => x

/-- The lexemes of formulas side by side make these formulas. -/
theorem assemble_lexemesOf : ∀ (xs : List (Formula Leaf))
    (outer : List (Connective × List (Formula Leaf))) (before : List (Formula Leaf))
    (rest : List Lexeme),
    assemble outer before (Formula.lexemesOf xs ++ rest) =
      assemble outer (xs.reverse ++ before) rest
  | [], outer, before, rest => by
    rw [Formula.lexemesOf, List.nil_append, List.reverse_nil, List.nil_append]
  | x :: xs, outer, before, rest => by
    rw [Formula.lexemesOf, List.append_assoc, assemble_lexemes x, assemble_lexemesOf xs,
      List.reverse_cons, List.append_assoc, List.singleton_append]
  termination_by structural xs => xs

end

/-! ## Taking texts apart -/

/-- Lexemes are read one after the other. -/
theorem lexemes_of_readLexeme {d : Dialect} {c : Char} {cs after : List Char} {l : Lexeme}
    (ne : c ≠ ' ') (h : readLexeme d (c :: cs) = some (l, after))
    (shorter : after.length ≤ cs.length) :
    lexemes d (c :: cs) = (lexemes d after).map (l :: ·) := by
  rw [lexemes]
  simp [ne, h, shorter]

theorem lexemes_blank (d : Dialect) (cs : List Char) : lexemes d (' ' :: cs) = lexemes d cs := by
  rw [lexemes]
  simp

theorem lexemes_stop (d : Dialect) (cs : List Char) :
    lexemes d (')' :: cs) = (lexemes d cs).map (.stop :: ·) :=
  lexemes_of_readLexeme (by decide) rfl (Nat.le_refl _)

/-- A group begins with its connective and a blank. -/
theorem lexemes_start (d : Dialect) (op : Connective) (cs : List Char) :
    lexemes d ('(' :: (op.name.toList ++ ' ' :: cs)) = (lexemes d cs).map (.start op :: ·) := by
  have name : ∀ c ∈ op.name.toList, c ≠ ' ' := List.forall_mem_ne'.2 (by cases op <;> decide)
  have start : readLexeme d ('(' :: (op.name.toList ++ ' ' :: cs)) = some (.start op, cs) := by
    rw [readLexeme, readOpened, readName_append name]
    simp [Connective.ofKey?_eq_some_iff.2 rfl]
  refine lexemes_of_readLexeme (by decide) start ?_
  simp only [List.length_append, List.length_cons]
  omega

theorem lexemes_leaf {d : Dialect} {a : Atom} (name : IsReadableName d a.field) {s : String}
    (h : a.text d = .ok s) {rest : List Char} (boundary : IsBoundary rest) :
    lexemes d (s.toList ++ rest) = (lexemes d rest).map (.leaf (a.leaf d) :: ·) := by
  obtain ⟨c, cs, hs, ne⟩ := exists_cons_of_text name h
  have leaf := readLexeme_text name h boundary
  rw [hs, List.cons_append] at leaf ⊢
  refine lexemes_of_readLexeme ne leaf ?_
  rw [List.length_append]
  omega

/-- A quoted term is one lexeme, whatever it contains. -/
theorem lexemes_quote (d : Dialect) (term : String) (rest : List Char) :
    lexemes d ((Text.quote term).toList ++ rest) =
      (lexemes d rest).map (.leaf (.phrase term) :: ·) := by
  have contents := Text.readQuoted_flatMap term.toList rest
  have phrase : readLexeme d ('\'' :: (term.toList.flatMap Text.escapeQuoted ++ '\'' :: rest)) =
      some (.leaf (.phrase term), rest) := by
    simp [readLexeme, contents]
  have form : (Text.quote term).toList ++ rest =
      '\'' :: (term.toList.flatMap Text.escapeQuoted ++ '\'' :: rest) := by
    simp [Text.quoted]
  rw [form]
  refine lexemes_of_readLexeme (by decide) phrase ?_
  rw [List.length_append, List.length_cons]
  omega

theorem isBoundary_stop (rest : List Char) : IsBoundary (')' :: rest) := by
  rintro c ⟨⟩
  exact .inr rfl

theorem isBoundary_blank (rest : List Char) : IsBoundary (' ' :: rest) := by
  rintro c ⟨⟩
  exact .inl rfl

mutual

/-- The text of a formula is taken apart into its lexemes, whatever follows it. -/
theorem lexemes_text {d : Dialect} : ∀ (x : Formula Atom),
    (∀ a ∈ x.leaves, IsReadableName d a.field) → ∀ {s : String}, x.text d = .ok s →
    ∀ {rest : List Char}, IsBoundary rest →
    lexemes d (s.toList ++ rest) = (lexemes d rest).map ((x.map (Atom.leaf d)).lexemes ++ ·)
  | .leaf a, names, s, h, rest, boundary => by
    rw [lexemes_leaf (names a (by simp [Formula.leaves])) h boundary]
    rfl
  | .group op operands, names, s, h, rest, boundary => by
    obtain ⟨ts, hts, h⟩ := bind_eq_ok_iff.1 h
    cases h
    have form : ("(" ++ op.name ++ " " ++ " ".intercalate ts ++ ")").toList ++ rest =
        '(' :: (op.name.toList ++ ' ' :: ((" ".intercalate ts).toList ++ ')' :: rest)) := by
      simp
    rw [form, lexemes_start, lexemes_texts operands names hts (isBoundary_stop rest), lexemes_stop,
      Option.map_map, Option.map_map, Formula.map, Formula.lexemes]
    congr 1
    funext ls
    simp
  termination_by structural x => x

/-- The text of formulas side by side is taken apart into their lexemes. -/
theorem lexemes_texts {d : Dialect} : ∀ (xs : List (Formula Atom)),
    (∀ a ∈ Formula.leavesOf xs, IsReadableName d a.field) → ∀ {ts : List String},
    Formula.texts d xs = .ok ts → ∀ {rest : List Char}, IsBoundary rest →
    lexemes d ((" ".intercalate ts).toList ++ rest) =
      (lexemes d rest).map (Formula.lexemesOf (Formula.mapAll (Atom.leaf d) xs) ++ ·)
  | [], names, ts, h, rest, boundary => by
    cases h
    simp [Formula.lexemesOf]
  | x :: xs, names, ts, h, rest, boundary => by
    obtain ⟨t, ht, h⟩ := bind_eq_ok_iff.1 h
    obtain ⟨us, hus, h⟩ := bind_eq_ok_iff.1 h
    cases h
    have namesHead : ∀ a ∈ x.leaves, IsReadableName d a.field := fun a ha =>
      names a (List.mem_append_left _ ha)
    have namesTail : ∀ a ∈ Formula.leavesOf xs, IsReadableName d a.field := fun a ha =>
      names a (List.mem_append_right _ ha)
    have tail := lexemes_texts xs namesTail hus boundary
    cases us with
    | nil =>
      have last : xs = [] := List.length_eq_zero_iff.1 (Formula.length_texts hus).symm
      rw [String.intercalate_singleton, lexemes_text x namesHead ht boundary, last]
      simp only [Formula.mapAll, Formula.lexemesOf, List.append_nil]
    | cons u us =>
      have form : (" ".intercalate (t :: u :: us)).toList ++ rest =
          t.toList ++ ' ' :: ((" ".intercalate (u :: us)).toList ++ rest) := by
        rw [String.intercalate_cons_cons]
        simp
      rw [form, lexemes_text x namesHead ht (isBoundary_blank _), lexemes_blank, tail,
        Option.map_map, Formula.mapAll, Formula.lexemesOf]
      congr 1
      funext ls
      simp
  termination_by structural xs => xs

end

/-- **Reading undoes writing.** Formulas that have been written are read back with every leaf as it
was written. -/
theorem readFormulas_texts {d : Dialect} {xs : List (Formula Atom)}
    (names : ∀ a ∈ Formula.leavesOf xs, IsReadableName d a.field) {ts : List String}
    (h : Formula.texts d xs = .ok ts) :
    readFormulas d (" ".intercalate ts) = some (xs.map (Formula.map (Atom.leaf d))) := by
  have finish : IsBoundary [] := by
    rintro c ⟨⟩
  have taken := lexemes_texts xs names h finish
  rw [List.append_nil] at taken
  have nothing : lexemes d [] = some [] := by rw [lexemes]
  have made := assemble_lexemesOf (xs.map (Formula.map (Atom.leaf d))) [] [] []
  rw [List.append_nil, List.append_nil] at made
  rw [readFormulas, taken, nothing, Formula.mapAll_eq]
  simp [made, assemble]

/-- Formulas between the parentheses of a connective are read as its operands. -/
theorem readFormulas_group {d : Dialect} {inner : String} {xs : List (Formula Leaf)}
    (taken : lexemes d (inner.toList ++ [')']) = some (Formula.lexemesOf xs ++ [.stop]))
    (op : Connective) :
    readFormulas d ("(" ++ op.name ++ " " ++ inner ++ ")") = some [.group op xs] := by
  have form : ("(" ++ op.name ++ " " ++ inner ++ ")").toList =
      '(' :: (op.name.toList ++ ' ' :: (inner.toList ++ [')'])) := by
    simp
  have made := assemble_lexemes (.group op xs) [] [] []
  rw [List.append_nil, Formula.lexemes] at made
  rw [readFormulas, form, lexemes_start, taken]
  exact made

end CloudSearch.Filter
