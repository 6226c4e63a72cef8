import CloudSearch.Text.Quoted
import Mathlib.Algebra.Group.Nat.Even

/-!
# Where a quoted text ends

A quote is escaped when the backslashes right in front of it do not come in pairs. A reader stops at
the first quote that is not escaped, in any text at all (`readQuoted_eq_some_iff`). In a written text
this is the last quote, whatever runs of quotes and backslashes the contents have, so that a quoted text
shows where it ends without what follows it (`quote_delimits_itself`).
-/

namespace CloudSearch.Text

/-- How many backslashes there are at the end of the characters. -/
def backslashRun (front : List Char) : Nat :=
  (front.reverse.takeWhile (· == '\\')).length

/-- A quote behind these characters is not escaped, and it is the first such quote. -/
structure EndsBehind (body : List Char) : Prop where
  even : Even (backslashRun body)
  first : ∀ front, front ++ ['\''] <+: body → ¬ Even (backslashRun front)

/-- The characters that are written, each without the backslash that escapes it. -/
def unescape : List Char → List Char
  | '\\' :: c :: rest => c :: unescape rest
  | c :: rest => c :: unescape rest
  | [] => []

variable {c : Char} {body text cs rest : List Char}

theorem unescape_cons (plain : c ≠ '\\') (body : List Char) :
    unescape (c :: body) = c :: unescape body := by
  simp [unescape, plain]

/-! ## Backslashes in pairs -/

/-- A run of backslashes does not reach over another character. -/
theorem backslashRun_append_cons (plain : c ≠ '\\') (before front : List Char) :
    backslashRun (before ++ c :: front) = backslashRun front := by
  unfold backslashRun
  rw [List.reverse_append, List.reverse_cons, List.append_assoc, List.singleton_append,
    List.takeWhile_append, List.takeWhile_cons_of_neg (by simpa using plain), List.append_nil]
  split
  next all => rw [all]
  next => rfl

theorem backslashRun_cons (plain : c ≠ '\\') (front : List Char) :
    backslashRun (c :: front) = backslashRun front :=
  backslashRun_append_cons plain [] front

/-- Two backslashes more at the front lengthen the run if it reaches that far. -/
theorem backslashRun_two (front : List Char) :
    backslashRun ('\\' :: '\\' :: front) = backslashRun front ∨
      backslashRun ('\\' :: '\\' :: front) = backslashRun front + 2 := by
  unfold backslashRun
  rw [List.reverse_cons, List.reverse_cons, List.append_assoc, List.takeWhile_append]
  split
  next all =>
    right
    rw [List.length_append, all]
    rfl
  next => exact .inl rfl

/-- A backslash and the character behind it do not change what is escaped later on. -/
theorem even_backslashRun_pair (c : Char) (front : List Char) :
    Even (backslashRun ('\\' :: c :: front)) ↔ Even (backslashRun front) := by
  by_cases plain : c = '\\'
  · subst plain
    rcases backslashRun_two front with same | longer
    · rw [same]
    · rw [longer, Nat.even_add]
      exact iff_true_right (by decide)
  · rw [show '\\' :: c :: front = ['\\'] ++ c :: front from rfl, backslashRun_append_cons plain]

/-! ## The first quote that is not escaped -/

/-- What stands in front can be left out if it changes nothing about the quotes behind it and all quotes
in it are escaped. -/
theorem endsBehind_append {before : List Char}
    (keeps : ∀ front, Even (backslashRun (before ++ front)) ↔ Even (backslashRun front))
    (escaped : ∀ front, front ++ ['\''] <+: before → ¬ Even (backslashRun front)) :
    EndsBehind (before ++ body) ↔ EndsBehind body := by
  constructor
  · rintro ⟨even, first⟩
    refine ⟨(keeps body).1 even, fun front reaches => ?_⟩
    have reaches_all : before ++ front ++ ['\''] <+: before ++ body := by
      rw [List.append_assoc]
      exact (List.prefix_append_right_inj before).2 reaches
    rw [← keeps front]
    exact first (before ++ front) reaches_all
  · rintro ⟨even, first⟩
    refine ⟨(keeps body).2 even, fun front reaches => ?_⟩
    rcases List.prefix_or_prefix_of_prefix reaches (List.prefix_append before body) with inside | beyond
    · exact escaped front inside
    rcases List.prefix_concat_iff.1 beyond with same | ⟨front, rfl⟩
    · exact escaped front (same ▸ List.prefix_rfl)
    · rw [List.append_assoc] at reaches
      rw [keeps]
      exact first front ((List.prefix_append_right_inj before).1 reaches)

theorem endsBehind_nil : EndsBehind [] :=
  ⟨Even.zero, by simp⟩

theorem not_endsBehind_quote (body : List Char) : ¬ EndsBehind ('\'' :: body) :=
  fun ends => ends.first [] (List.prefix_append ['\''] body) Even.zero

theorem not_endsBehind_backslash : ¬ EndsBehind ['\\'] :=
  fun ends => absurd ends.even (by decide)

theorem endsBehind_cons (not_quote : c ≠ '\'') (plain : c ≠ '\\') (body : List Char) :
    EndsBehind (c :: body) ↔ EndsBehind body := by
  have keeps : ∀ front, Even (backslashRun ([c] ++ front)) ↔ Even (backslashRun front) := by
    intro front
    rw [List.singleton_append, backslashRun_cons plain]
  refine endsBehind_append keeps fun front reaches => ?_
  cases front with
  | nil => exact absurd (List.cons_prefix_cons.1 reaches).1.symm not_quote
  | cons d front => simp [List.cons_prefix_cons] at reaches

theorem endsBehind_pair (c : Char) (body : List Char) :
    EndsBehind ('\\' :: c :: body) ↔ EndsBehind body := by
  refine @endsBehind_append body ['\\', c] (even_backslashRun_pair c) fun front reaches => ?_
  match front with
  | [] => exact absurd (List.cons_prefix_cons.1 reaches).1 (by decide)
  | [d] =>
    obtain ⟨rfl, -⟩ := List.cons_prefix_cons.1 reaches
    decide
  | d :: e :: front => simp [List.cons_prefix_cons] at reaches

/-! ## Where a reader stops -/

theorem readQuoted_cons (not_quote : c ≠ '\'') (plain : c ≠ '\\') (behind : List Char) :
    readQuoted (c :: behind) = (readQuoted behind).map fun (cs, after) => (c :: cs, after) := by
  rw [readQuoted]
  · exact not_quote
  · simp [plain]
  · simp [plain]

theorem readQuoted_of_endsBehind (ends : EndsBehind body) (rest : List Char) :
    readQuoted (body ++ '\'' :: rest) = some (unescape body, rest) := by
  fun_induction unescape body with
  | case1 c body ih =>
    rw [List.cons_append, List.cons_append, readQuoted, ih ((endsBehind_pair c body).1 ends)]
    rfl
  | case2 c body not_pair ih =>
    have not_quote : c ≠ '\'' := by
      rintro rfl
      exact not_endsBehind_quote body ends
    have plain : c ≠ '\\' := by
      rintro rfl
      cases body with
      | nil => exact not_endsBehind_backslash ends
      | cons d body => exact not_pair d body rfl rfl
    have behind := ih ((endsBehind_cons not_quote plain body).1 ends)
    rw [List.cons_append, readQuoted_cons not_quote plain, behind]
    rfl
  | case3 => rfl

theorem exists_body_of_readQuoted (read : readQuoted text = some (cs, rest)) :
    ∃ body, text = body ++ '\'' :: rest ∧ EndsBehind body ∧ cs = unescape body := by
  fun_induction readQuoted text generalizing cs with
  | case1 => cases read
  | case2 after =>
    cases read
    exact ⟨[], rfl, endsBehind_nil, rfl⟩
  | case3 => cases read
  | case4 c after ih =>
    obtain ⟨⟨cs, rest⟩, behind, same⟩ := Option.map_eq_some_iff.1 read
    cases same
    obtain ⟨body, rfl, ends, rfl⟩ := ih behind
    exact ⟨'\\' :: c :: body, rfl, (endsBehind_pair c body).2 ends, rfl⟩
  | case5 c after not_quote not_single not_pair ih =>
    have plain : c ≠ '\\' := by
      rintro rfl
      cases after with
      | nil => exact not_single rfl rfl
      | cons d after => exact not_pair d after rfl rfl
    obtain ⟨⟨cs, rest⟩, behind, same⟩ := Option.map_eq_some_iff.1 read
    cases same
    obtain ⟨body, rfl, ends, rfl⟩ := ih behind
    exact ⟨c :: body, rfl, (endsBehind_cons not_quote plain body).2 ends, (unescape_cons plain body).symm⟩

/-- **Where a reader stops.** It stops at the first quote that is not escaped, if there is one, and has
then read the characters up to there without the backslashes that escape them. -/
theorem readQuoted_eq_some_iff :
    readQuoted text = some (cs, rest) ↔
      ∃ body, text = body ++ '\'' :: rest ∧ EndsBehind body ∧ cs = unescape body := by
  constructor
  · exact exists_body_of_readQuoted
  · rintro ⟨body, rfl, ends, rfl⟩
    exact readQuoted_of_endsBehind ends rest

/-! ## Written texts -/

/-- In a written text the closing quote is the first that is not escaped. -/
theorem endsBehind_escaped (cs : List Char) : EndsBehind (cs.flatMap escapeQuoted) := by
  obtain ⟨body, same, ends, -⟩ := readQuoted_eq_some_iff.1 (readQuoted_flatMap cs [])
  exact List.append_cancel_right same ▸ ends

/-- Reads a quoted text from its opening quote on: the text and what follows it. -/
def unquote? (s : String) : Option (String × String) :=
  match s.toList with
  | '\'' :: behind =>
    (readQuoted behind).map fun (cs, after) => (String.ofList cs, String.ofList after)
  | _ => none

theorem unquote?_quote_append (s rest : String) : unquote? (quote s ++ rest) = some (s, rest) := by
  have form : (quote s ++ rest).toList = '\'' :: ((quoted s.toList).tail ++ rest.toList) := by
    rw [String.toList_append, toList_quote]
    rfl
  simp only [unquote?, form, readQuoted_quoted, Option.map_some, String.ofList_toList]

/-- A backslash at the end of the text leaves its closing quote unescaped. -/
example : unquote? ("'a\\\\'" ++ "' or 'b'") = some ("a\\", "' or 'b'") := by decide

/-- What is written begins with one quoted text only. -/
theorem quote_append_inj {s t after after' : String} (same : quote s ++ after = quote t ++ after') :
    s = t ∧ after = after' := by
  have read : some (s, after) = some (t, after') := by
    rw [← unquote?_quote_append, same, unquote?_quote_append]
  exact Prod.mk.inj (Option.some.inj read)

/-- The characters of one quoted text do not begin another. -/
theorem quote_isPrefix_iff {s t : String} : (quote s).toList <+: (quote t).toList ↔ s = t := by
  constructor
  · rintro ⟨after, begins⟩
    have same : quote s ++ String.ofList after = quote t ++ "" := by
      rw [← String.toList_inj, String.toList_append, String.toList_ofList, begins, String.append_empty]
    exact (quote_append_inj same).1
  · rintro rfl
    exact List.prefix_rfl

/-- **Quoted texts show where they end.** A reader finds the text and what follows it, whatever that is,
since the closing quote is the first that is not escaped. So no two texts have the same quoted form, and
none has a quoted form with which that of another begins. -/
theorem quote_delimits_itself :
    (∀ s rest : String, unquote? (quote s ++ rest) = some (s, rest)) ∧
    (∀ s : String, ∃ body, (quote s).toList = '\'' :: (body ++ ['\'']) ∧ EndsBehind body) ∧
    Function.Injective quote ∧
    ∀ s t : String, (quote s).toList <+: (quote t).toList ↔ s = t := by
  refine ⟨unquote?_quote_append, fun s => ?_, fun s t same => ?_, fun s t => quote_isPrefix_iff⟩
  · exact ⟨_, toList_quote s, endsBehind_escaped s.toList⟩
  · exact quote_isPrefix_iff.1 (same ▸ List.prefix_rfl)

end CloudSearch.Text
