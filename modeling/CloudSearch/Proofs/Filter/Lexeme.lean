import CloudSearch.Proofs.Filter.Formula
import CloudSearch.Proofs.Filter.Token

/-!
# Lexemes of written filters

A written filter is a sequence of lexemes: the beginning of a group, its end, and leaves with all
that belongs to them. This is the part of the grammar in which the dialects differ, and the part in
which texts chosen by users stand. `readLexeme_text` says that the reader takes a written leaf as
one lexeme and stops right behind it, whatever its quoted tokens contain.
-/

namespace CloudSearch.Filter
open Outcome

/-- A side of a range as it is written. -/
inductive TokenBound
  | unbounded
  | included (t : Token)
  | excluded (t : Token)
deriving DecidableEq, Repr

/-- A leaf as it is written. -/
inductive Leaf
  | term (field : String) (token : Token)
  | range (field : String) (lower upper : TokenBound)
  /-- A search term beside the filter. -/
  | phrase (content : String)
deriving DecidableEq, Repr

/-- The smallest part of a written filter that means something. -/
inductive Lexeme
  | start (op : Connective)
  | stop
  | leaf (l : Leaf)
deriving DecidableEq, Repr

/-! ## What is written for a leaf -/

/-- The bound with the next integer inwards included in place of an excluded one. -/
def Bound.tightened (side : Side) : Bound → Bound
  | .excluded (.int i) =>
    match tighten? side i with
    | some j => .included (.int j)
    | none => .excluded (.int i)
  | b => b

/-- The range that is written for a range. -/
def Range.written (d : Dialect) (r : Range) : Range :=
  match d with
  | .structured => r
  | .legacy => ⟨r.lower.tightened .lower, r.upper.tightened .upper⟩

/-- The side of a range with its endpoint as a token. -/
def Bound.tokens : Bound → TokenBound
  | .unbounded => .unbounded
  | .included e => .included e.scalar.wireToken
  | .excluded e => .excluded e.scalar.wireToken

/-- The leaf that is written for an atom. -/
def Atom.leaf (d : Dialect) : Atom → Leaf
  | .term field v => .term field v.wireToken
  | .range field r => .range field (r.written d).lower.tokens (r.written d).upper.tokens

/-- The characters that have a meaning outside of quotes. -/
def delimiters : List Char :=
  ['\'', '\\', '(', ')', '[', ']', '\x7b', '\x7d', ',', ':', '=']

/-- The text can name a field: it is not empty and has neither blanks nor delimiters. -/
def isFieldName (s : String) : Bool :=
  !s.toList.isEmpty && s.toList.all fun c => !Text.isBlank c && !delimiters.contains c

/-! ## Reading lexemes -/

/-- What follows the given characters, where they come first. -/
def expect : List Char → List Char → Option (List Char)
  | [], cs => some cs
  | _ :: _, [] => none
  | c :: s, d :: cs => if c = d then expect s cs else none

/-- Reads up to the next `mark`, and gives what follows the mark. -/
def readName (mark : Char) (cs : List Char) : Option (String × List Char) :=
  match cs.dropWhile (· != mark) with
  | [] => none
  | _ :: after => some (String.ofList (cs.takeWhile (· != mark)), after)

/-- Reads a lower bound of the structured dialect. -/
def readLower (cs : List Char) : Option (TokenBound × List Char) :=
  match cs with
  | '[' :: rest => (readToken rest).map fun (t, after) => (.included t, after)
  | '\x7b' :: rest =>
    match readToken? rest with
    | (some t, after) => some (.excluded t, after)
    | (none, after) => some (.unbounded, after)
  | _ => none

/-- Reads an upper bound of the structured dialect. -/
def readUpper (cs : List Char) : Option (TokenBound × List Char) :=
  match readToken? cs with
  | (some t, ']' :: after) => some (.included t, after)
  | (some t, '\x7d' :: after) => some (.excluded t, after)
  | (none, '\x7d' :: after) => some (.unbounded, after)
  | _ => none

/-- Reads a leaf of the structured dialect behind its first word. -/
def readStructured (word : String) (cs : List Char) : Option (Leaf × List Char) := do
  let cs ← expect "field=".toList cs
  let (field, cs) ← readName ' ' cs
  if word = "term" then
    let (t, cs) ← readToken cs
    let cs ← expect [')'] cs
    return (.term field t, cs)
  else if word = "range" then
    let (lower, cs) ← readLower cs
    let cs ← expect [','] cs
    let (upper, cs) ← readUpper cs
    let cs ← expect [')'] cs
    return (.range field lower upper, cs)
  else none

/-- The side of a range in the legacy dialect, where all endpoints are included. -/
def TokenBound.ofToken? : Option Token → TokenBound
  | none => .unbounded
  | some t => .included t

/-- Reads a leaf of the legacy dialect. -/
def readLegacy (cs : List Char) : Option (Leaf × List Char) := do
  let (field, cs) ← readName ':' cs
  match readToken? cs with
  | (lower, '.' :: '.' :: cs) =>
    let (upper, cs) := readToken? cs
    return (.range field (.ofToken? lower) (.ofToken? upper), cs)
  | (some t, cs) => return (.term field t, cs)
  | (none, _) => none

/-- Reads a lexeme behind an opening parenthesis. -/
def readOpened (d : Dialect) (cs : List Char) : Option (Lexeme × List Char) := do
  let (word, cs) ← readName ' ' cs
  match Connective.ofKey? word, d with
  | some op, _ => return (.start op, cs)
  | none, .structured => (readStructured word cs).map fun (l, after) => (.leaf l, after)
  | none, .legacy => none

/-- Reads a lexeme, and gives what follows it. -/
def readLexeme (d : Dialect) (cs : List Char) : Option (Lexeme × List Char) :=
  match cs with
  | ')' :: rest => some (.stop, rest)
  | '(' :: rest => readOpened d rest
  | '\'' :: rest =>
    (Text.readQuoted rest).map fun (content, after) =>
      (.leaf (.phrase (String.ofList content)), after)
  | cs =>
    match d with
    | .legacy => (readLegacy cs).map fun (l, after) => (.leaf l, after)
    | .structured => none

/-! ## Names and boundaries -/

theorem expect_append (s rest : List Char) : expect s (s ++ rest) = some rest := by
  induction s with
  | nil => rfl
  | cons c s ih => simp [expect, ih]

theorem readName_append {mark : Char} {name : String} (h : ∀ c ∈ name.toList, c ≠ mark)
    (rest : List Char) : readName mark (name.toList ++ mark :: rest) = some (name, rest) := by
  have front : ∀ c ∈ name.toList, (c != mark) = true := by
    intro c hc
    simpa using h c hc
  unfold readName
  rw [List.dropWhile_append_of_pos front, List.takeWhile_append_of_pos front]
  simp

/-- No character of a field's name is a blank or a delimiter. -/
theorem ne_of_isFieldName {s : String} (h : isFieldName s = true) {d : Char}
    (hd : Text.isBlank d = true ∨ d ∈ delimiters) : ∀ c ∈ s.toList, c ≠ d := by
  simp only [isFieldName, Bool.and_eq_true, List.all_eq_true, Bool.not_eq_true'] at h
  rintro c hc rfl
  obtain ⟨blank, delimiter⟩ := h.2 c hc
  rcases hd with hd | hd
  · rw [hd] at blank
    cases blank
  · rw [List.contains_iff_mem.2 hd] at delimiter
    cases delimiter

/-- A field's name begins with a character that is neither a blank nor a delimiter. -/
theorem head_of_isFieldName {s : String} (h : isFieldName s = true) :
    ∃ c cs, s.toList = c :: cs ∧ Text.isBlank c = false ∧ c ∉ delimiters := by
  simp only [isFieldName, Bool.and_eq_true, List.all_eq_true, Bool.not_eq_true'] at h
  obtain ⟨ne, chars⟩ := h
  obtain ⟨c, cs, hs⟩ := List.exists_cons_of_ne_nil (List.isEmpty_eq_false_iff.1 ne)
  obtain ⟨blank, delimiter⟩ := chars c (by simp [hs])
  exact ⟨c, cs, hs, blank, by simpa using delimiter⟩

/-- The name can be told from what is written behind it. In the structured dialect that is a blank;
in the legacy one it is a colon, and nothing says that a name comes. -/
def IsReadableName (d : Dialect) (field : String) : Prop :=
  match d with
  | .structured => ∀ c ∈ field.toList, c ≠ ' '
  | .legacy => isFieldName field = true

theorem isReadableName_of_isFieldName {field : String} (name : isFieldName field = true)
    (d : Dialect) : IsReadableName d field := by
  cases d with
  | structured => exact ne_of_isFieldName name (.inl (by decide : Text.isBlank ' ' = true))
  | legacy => exact name

/-- A lexeme may end where these characters begin. -/
def IsBoundary (rest : List Char) : Prop :=
  ∀ c ∈ rest.head?, c = ' ' ∨ c = ')'

theorem IsBoundary.endsNumber {rest : List Char} (h : IsBoundary rest) : EndsNumber rest := by
  cases rest with
  | nil => exact endsNumber_nil
  | cons c rest =>
    rcases h c rfl with rfl | rfl
    · exact endsNumber_cons (by decide) (by decide) rest
    · exact endsNumber_cons (by decide) (by decide) rest

theorem IsBoundary.head_ne {rest : List Char} (h : IsBoundary rest) {d : Char} (hs : d ≠ ' ')
    (hp : d ≠ ')') : rest.head? ≠ some d := by
  intro hd
  rcases h d hd with rfl | rfl
  · exact hs rfl
  · exact hp rfl

/-! ## Leaves of the structured dialect -/

theorem Endpoint.readToken_token (e : Endpoint) {rest : List Char} (ends : EndsNumber rest) :
    readToken (e.token.toList ++ rest) = some (e.scalar.wireToken, rest) := by
  rw [Endpoint.token, Scalar.token_eq]
  exact readToken_text e.scalar.wireToken_wellFormed ends

theorem Endpoint.readToken?_token (e : Endpoint) {rest : List Char} (ends : EndsNumber rest) :
    readToken? (e.token.toList ++ rest) = (some e.scalar.wireToken, rest) := by
  rw [readToken?, e.readToken_token ends]

/-- A lower bound is read up to the comma behind it. -/
theorem readLower_lowerText (b : Bound) (rest : List Char) :
    readLower (b.lowerText.toList ++ ',' :: rest) = some (b.tokens, ',' :: rest) := by
  have comma : EndsNumber (',' :: rest) := endsNumber_cons (by decide) (by decide) rest
  cases b with
  | unbounded =>
    have nothing := @readToken?_optionalText none (by simp) _ comma (by simp)
    simp only [optionalText, List.nil_append] at nothing
    simp [Bound.lowerText, readLower, Bound.tokens, nothing]
  | included e =>
    simp [Bound.lowerText, readLower, Bound.tokens, e.readToken_token comma]
  | excluded e =>
    simp [Bound.lowerText, readLower, Bound.tokens, e.readToken?_token comma]

/-- An upper bound is read with the bracket behind it. -/
theorem readUpper_upperText (b : Bound) (rest : List Char) :
    readUpper (b.upperText.toList ++ rest) = some (b.tokens, rest) := by
  cases b with
  | unbounded =>
    have brace : EndsNumber ('\x7d' :: rest) := endsNumber_cons (by decide) (by decide) rest
    have nothing := @readToken?_optionalText none (by simp) _ brace (by simp)
    simp only [optionalText, List.nil_append] at nothing
    simp [Bound.upperText, readUpper, Bound.tokens, nothing]
  | included e =>
    have bracket : EndsNumber (']' :: rest) := endsNumber_cons (by decide) (by decide) rest
    simp [Bound.upperText, readUpper, Bound.tokens, e.readToken?_token bracket]
  | excluded e =>
    have brace : EndsNumber ('\x7d' :: rest) := endsNumber_cons (by decide) (by decide) rest
    simp [Bound.upperText, readUpper, Bound.tokens, e.readToken?_token brace]

/-- Behind an opening parenthesis and the word of a leaf comes the leaf. -/
theorem readOpened_word {word : String} (hw : ' ' ∉ word.toList)
    (leaf : Connective.ofKey? word = none) (cs : List Char) :
    readOpened .structured (word.toList ++ ' ' :: cs) =
      (readStructured word cs).map fun (l, after) => (.leaf l, after) := by
  simp [readOpened, readName_append (List.forall_mem_ne'.2 hw), leaf]

theorem readStructured_term {field : String} (name : ∀ c ∈ field.toList, c ≠ ' ') (v : Scalar)
    (rest : List Char) :
    readStructured "term" ("field=".toList ++ (field.toList ++ ' ' ::
      (v.token.toList ++ ')' :: rest))) =
      some (.term field v.wireToken, rest) := by
  have stop : EndsNumber (')' :: rest) := endsNumber_cons (by decide) (by decide) rest
  have token := readToken_text v.wireToken_wellFormed stop
  rw [← Scalar.token_eq] at token
  simp only [readStructured, expect_append, readName_append name, token, Option.bind_eq_bind,
    Option.bind_some, if_true]
  rfl

theorem readStructured_range {field : String} (name : ∀ c ∈ field.toList, c ≠ ' ') (r : Range)
    (rest : List Char) :
    readStructured "range" ("field=".toList ++ (field.toList ++ ' ' ::
      (r.lower.lowerText.toList ++ ',' :: (r.upper.upperText.toList ++ ')' :: rest)))) =
      some (.range field r.lower.tokens r.upper.tokens, rest) := by
  have comma : ∀ cs, expect [','] (',' :: cs) = some cs := expect_append [',']
  simp only [readStructured, expect_append, readName_append name, readLower_lowerText, comma,
    readUpper_upperText, Option.bind_eq_bind, Option.bind_some]
  rfl

/-! ## Leaves of the legacy dialect -/

/-- What the legacy dialect writes for a bound is a token of the tightened bound, or nothing where
that one is open. -/
theorem Bound.exists_token_of_legacyText {field : String} {side : Side} {b : Bound} {s : String}
    (h : b.legacyText field side = .ok s) :
    ∃ o : Option Token, (∀ t ∈ o, t.WellFormed) ∧ s.toList = optionalText o ∧
      (b.tightened side).tokens = .ofToken? o := by
  have token : ∀ e : Endpoint, ∃ o : Option Token, (∀ t ∈ o, t.WellFormed) ∧
      e.token.toList = optionalText o ∧ (Bound.included e).tokens = .ofToken? o := by
    intro e
    refine ⟨some e.scalar.wireToken, ?_, ?_, rfl⟩
    · rintro t ⟨⟩
      exact e.scalar.wireToken_wellFormed
    · rw [Endpoint.token, Scalar.token_eq]
      rfl
  cases b with
  | unbounded =>
    cases h
    exact ⟨none, by simp, rfl, rfl⟩
  | included e =>
    cases h
    exact token e
  | excluded e =>
    cases e with
    | float | text | instant => cases h
    | int i =>
      cases hi : tighten? side i with
      | none =>
        simp only [Bound.legacyText, hi] at h
        cases h
      | some j =>
        simp only [Bound.legacyText, hi] at h
        cases h
        simp only [Bound.tightened, hi]
        exact token (.int j)

theorem readLegacy_term {field : String} (name : isFieldName field = true) (v : Scalar)
    {rest : List Char} (boundary : IsBoundary rest) :
    readLegacy (field.toList ++ ':' :: (v.token.toList ++ rest)) =
      some (.term field v.wireToken, rest) := by
  have colon := ne_of_isFieldName name (.inr (by decide : ':' ∈ delimiters))
  have token := readToken_text v.wireToken_wellFormed boundary.endsNumber
  rw [← Scalar.token_eq] at token
  have point : rest.head? ≠ some '.' := boundary.head_ne (by decide) (by decide)
  simp only [readLegacy, readName_append colon, Option.bind_eq_bind, Option.bind_some, readToken?,
    token]
  split
  · next heq =>
    cases heq
    exact absurd rfl point
  · next heq =>
    cases heq
    rfl
  · next heq => cases heq

theorem readLegacy_range {field : String} (name : isFieldName field = true)
    {lower upper : Option Token} (hl : ∀ t ∈ lower, t.WellFormed) (hu : ∀ t ∈ upper, t.WellFormed)
    {rest : List Char} (boundary : IsBoundary rest) :
    readLegacy (field.toList ++ ':' ::
      (optionalText lower ++ '.' :: '.' :: (optionalText upper ++ rest))) =
      some (.range field (.ofToken? lower) (.ofToken? upper), rest) := by
  have colon := ne_of_isFieldName name (.inr (by decide : ':' ∈ delimiters))
  have low := readToken?_optionalText hl (endsNumber_points (optionalText upper ++ rest)) (by simp)
  have high := readToken?_optionalText hu boundary.endsNumber
    (boundary.head_ne (by decide) (by decide))
  simp only [readLegacy, readName_append colon, Option.bind_eq_bind, Option.bind_some, low, high]
  rfl

/-- A leaf of the legacy dialect begins with the name of its field. -/
theorem readLexeme_legacy {field : String} (name : isFieldName field = true) (cs : List Char) :
    readLexeme .legacy (field.toList ++ cs) =
      (readLegacy (field.toList ++ cs)).map fun (l, after) => (.leaf l, after) := by
  obtain ⟨c, front, hs, -, delimiter⟩ := head_of_isFieldName name
  have ne : ∀ d ∈ delimiters, c ≠ d := by
    rintro d hd rfl
    exact delimiter hd
  rw [hs, List.cons_append]
  rw [readLexeme]
  · rintro rest ⟨⟩
    exact ne ')' (by decide) rfl
  · rintro rest ⟨⟩
    exact ne '(' (by decide) rfl
  · rintro rest ⟨⟩
    exact ne '\'' (by decide) rfl

/-! ## Leaves of either dialect -/

/-- The form of a range where it can be written. -/
theorem text_of_rangeText {d : Dialect} {field : String} {r : Range} {s : String}
    (h : rangeText d field r = .ok s) :
    (d = .structured ∧ s.toList = '(' :: ("range".toList ++ ' ' :: ("field=".toList ++
      (field.toList ++ ' ' :: (r.lower.lowerText.toList ++ ',' ::
        (r.upper.upperText.toList ++ [')'])))))) ∨
    (d = .legacy ∧ ∃ lower upper : String, r.lower.legacyText field .lower = .ok lower ∧
      r.upper.legacyText field .upper = .ok upper ∧
      s.toList = field.toList ++ ':' :: (lower.toList ++ '.' :: '.' :: upper.toList)) := by
  unfold rangeText at h
  split at h
  · cases h
  cases d with
  | structured =>
    cases h
    exact .inl ⟨rfl, by simp⟩
  | legacy =>
    obtain ⟨lower, hl, h⟩ := bind_eq_ok_iff.1 h
    obtain ⟨upper, hu, h⟩ := bind_eq_ok_iff.1 h
    cases h
    exact .inr ⟨rfl, lower, upper, hl, hu, by simp⟩

/-- **A leaf is one lexeme.** A reader takes in exactly what was written for it and stops there. -/
theorem readLexeme_text {d : Dialect} {a : Atom} (name : IsReadableName d a.field) {s : String}
    (h : a.text d = .ok s) {rest : List Char} (boundary : IsBoundary rest) :
    readLexeme d (s.toList ++ rest) = some (.leaf (a.leaf d), rest) := by
  cases a with
  | term field v =>
    change IsReadableName d field at name
    cases h
    cases d with
    | legacy =>
      have form : (termText .legacy field v).toList ++ rest =
          field.toList ++ ':' :: (v.token.toList ++ rest) := by simp [termText]
      rw [form, readLexeme_legacy name, readLegacy_term name v boundary]
      rfl
    | structured =>
      have form : (termText .structured field v).toList ++ rest = '(' :: ("term".toList ++ ' ' ::
          ("field=".toList ++ (field.toList ++ ' ' :: (v.token.toList ++ ')' :: rest)))) := by
        simp [termText]
      rw [form, readLexeme, readOpened_word (by decide) (by decide), readStructured_term name]
      rfl
  | range field r =>
    change IsReadableName d field at name
    obtain ⟨rfl, form⟩ | ⟨rfl, lower, upper, hl, hu, form⟩ := text_of_rangeText h
    · rw [form]
      simp only [List.cons_append, List.append_assoc, List.nil_append]
      rw [readLexeme, readOpened_word (by decide) (by decide), readStructured_range name]
      rfl
    · obtain ⟨lowerToken, lowerFormed, lowerText, lowerBound⟩ := Bound.exists_token_of_legacyText hl
      obtain ⟨upperToken, upperFormed, upperText, upperBound⟩ := Bound.exists_token_of_legacyText hu
      rw [form, lowerText, upperText]
      simp only [List.cons_append, List.append_assoc]
      rw [readLexeme_legacy name, readLegacy_range name lowerFormed upperFormed boundary]
      simp only [Atom.leaf, Range.written, lowerBound, upperBound, Option.map_some]

/-- What is written for a leaf does not begin with a blank. -/
theorem exists_cons_of_text {d : Dialect} {a : Atom} (name : IsReadableName d a.field)
    {s : String} (h : a.text d = .ok s) : ∃ c cs, s.toList = c :: cs ∧ c ≠ ' ' := by
  have legacy : isFieldName a.field = true → ∃ c cs, a.field.toList = c :: cs ∧ c ≠ ' ' := by
    intro name
    obtain ⟨c, front, hs, blank, -⟩ := head_of_isFieldName name
    refine ⟨c, front, hs, ?_⟩
    rintro rfl
    exact absurd blank (by decide)
  cases a with
  | term field v =>
    cases h
    cases d with
    | legacy =>
      obtain ⟨c, front, hs, ne⟩ := legacy name
      change field.toList = c :: front at hs
      exact ⟨c, _, by simp only [termText, String.toList_append, hs]; rfl, ne⟩
    | structured => exact ⟨'(', _, by simp only [termText, String.toList_append]; rfl, by decide⟩
  | range field r =>
    obtain ⟨rfl, form⟩ | ⟨rfl, lower, upper, hl, hu, form⟩ := text_of_rangeText h
    · exact ⟨'(', _, form, by decide⟩
    · obtain ⟨c, front, hs, ne⟩ := legacy name
      change field.toList = c :: front at hs
      exact ⟨c, _, by rw [form, hs]; rfl, ne⟩

end CloudSearch.Filter
