import CloudSearch.Proofs.Filter.Expressible
import CloudSearch.Proofs.Filter.Lexeme

/-!
# Ranges without exclusive bounds

The legacy dialect includes both ends of a range. An integer that a range excludes is replaced by the
next one inwards, and what is then written admits the same integers of 64 bits as the range does,
whatever stands on its other side. How an integer compares with a token that is not the text of an
integer is for the service to say, so that all of this holds for any such comparison.
-/

namespace CloudSearch.Filter
open Outcome

/-! ## The texts of integers -/

/-- The natural number that the digits are written for. -/
def natural? (digits : List Char) : Option Nat :=
  if digits ≠ [] ∧ digits.all Char.isDigit then some (Nat.ofDigitChars 10 digits 0) else none

/-- The integer that the characters are written for: digits, perhaps behind a sign. -/
def integer? : List Char → Option Int
  | '-' :: digits => (natural? digits).map fun n => -(n : Int)
  | digits => (natural? digits).map Int.ofNat

theorem natural?_toDigits (n : Nat) : natural? (Nat.toDigits 10 n) = some n := by
  have digits : (Nat.toDigits 10 n).all Char.isDigit = true := by
    rw [List.all_eq_true]
    intro c mem
    exact Nat.isDigit_of_mem_toDigits (by decide) (by decide) mem
  rw [natural?, if_pos ⟨Nat.toDigits_ne_nil, digits⟩, Nat.ofDigitChars_ten_toDigits]

theorem integer?_toString (j : Int) : integer? (toString j).toList = some j := by
  cases j with
  | ofNat n =>
    have text : (toString (Int.ofNat n)).toList = Nat.toDigits 10 n := Nat.toList_repr
    have unsigned : ∀ digits, Nat.toDigits 10 n ≠ '-' :: digits := by
      intro digits same
      have digit : '-'.isDigit = true :=
        Nat.isDigit_of_mem_toDigits (by decide) (by decide) (same ▸ List.mem_cons_self)
      exact absurd digit (by decide)
    rw [text, integer?, natural?_toDigits]
    · rfl
    · exact unsigned
  | negSucc n =>
    have text : (toString (Int.negSucc n)).toList = '-' :: Nat.toDigits 10 (n + 1) := by
      have sign : (toString (Int.negSucc n)).toList = '-' :: (toString (n + 1)).toList :=
        String.toList_append
      rw [sign]
      exact congrArg _ Nat.toList_repr
    rw [text, integer?, natural?_toDigits]
    rfl

/-! ## Integers inside of a range -/

/-- How integers compare with tokens, where they do. -/
abbrev Comparison := Int64 → Token → Option Ordering

/-- How an integer compares with a token: by value with the text of an integer, and with another
token as the service has it, which may be not at all. -/
def Token.compare (other : Comparison) (i : Int64) (t : Token) : Option Ordering :=
  match t with
  | .number s => match integer? s.toList with
    | some j => some (Ord.compare i.toInt j)
    | none => other i t
  | .quoted _ => other i t

/-- How an integer compares with an endpoint: by value with an integer, and with anything else as
with the token that is written for it. -/
def Endpoint.compare (other : Comparison) (i : Int64) : Endpoint → Option Ordering
  | .int j => some (Ord.compare i.toInt j.toInt)
  | e => e.scalar.wireToken.compare other i

/-- How the values inside of a range compare with its end on this side. -/
def Side.inward : Side → Ordering
  | .lower => .gt
  | .upper => .lt

/-- The integer is inside of the bound. -/
def Bound.Admits (other : Comparison) (side : Side) (i : Int64) : Bound → Prop
  | .unbounded => True
  | .included e => e.compare other i = some side.inward ∨ e.compare other i = some .eq
  | .excluded e => e.compare other i = some side.inward

/-- The integer is inside of the written bound. -/
def TokenBound.Admits (other : Comparison) (side : Side) (i : Int64) : TokenBound → Prop
  | .unbounded => True
  | .included t => t.compare other i = some side.inward ∨ t.compare other i = some .eq
  | .excluded t => t.compare other i = some side.inward

/-- The integer is in the range. -/
def Range.Admits (other : Comparison) (i : Int64) (r : Range) : Prop :=
  r.lower.Admits other .lower i ∧ r.upper.Admits other .upper i

variable {other : Comparison} {side : Side} {i : Int64}

theorem Endpoint.compare_eq (e : Endpoint) :
    e.compare other i = e.scalar.wireToken.compare other i := by
  cases e with
  | int j => simp only [compare, scalar, Scalar.wireToken, Token.compare, integer?_toString]
  | float | text | instant => rfl

/-- A bound admits what its written form does. -/
theorem Bound.admits_tokens (b : Bound) : b.tokens.Admits other side i ↔ b.Admits other side i := by
  cases b with
  | unbounded => exact Iff.rfl
  | included e | excluded e =>
    simp only [Bound.tokens, Bound.Admits, TokenBound.Admits, Endpoint.compare_eq]

/-! ## The next integer inwards -/

theorem toInt_of_tighten?_lower {i j : Int64} (next : tighten? .lower i = some j) :
    j.toInt = i.toInt + 1 := by
  have least := i.le_toInt
  have greatest := i.toInt_lt
  simp only [tighten?] at next
  split at next
  · cases next
  · next inner =>
    cases next
    have ne : i.toInt ≠ 2 ^ 63 - 1 := by
      rw [← Int64.toInt_maxValue]
      exact fun same => inner (Int64.toInt_inj.1 same)
    rw [Int64.toInt_add]
    have one : (1 : Int64).toInt = 1 := rfl
    rw [one]
    exact Int.bmod_eq_of_le (by omega) (by omega)

theorem toInt_of_tighten?_upper {i j : Int64} (next : tighten? .upper i = some j) :
    j.toInt = i.toInt - 1 := by
  have least := i.le_toInt
  have greatest := i.toInt_lt
  simp only [tighten?] at next
  split at next
  · cases next
  · next inner =>
    cases next
    have ne : i.toInt ≠ -2 ^ 63 := by
      rw [← Int64.toInt_minValue]
      exact fun same => inner (Int64.toInt_inj.1 same)
    rw [Int64.toInt_sub]
    have one : (1 : Int64).toInt = 1 := rfl
    rw [one]
    exact Int.bmod_eq_of_le (by omega) (by omega)

/-- To include the next integer inwards is to exclude an integer. -/
theorem Bound.admits_included_of_tighten? {j k : Int64} (next : tighten? side j = some k) :
    (Bound.included (.int k)).Admits other side i ↔ (Bound.excluded (.int j)).Admits other side i := by
  simp only [Bound.Admits, Endpoint.compare, Option.some.injEq]
  cases side with
  | lower =>
    have successor := toInt_of_tighten?_lower next
    rw [Side.inward, Int.compare_eq_gt, Int.compare_eq_eq, Int.compare_eq_gt]
    omega
  | upper =>
    have predecessor := toInt_of_tighten?_upper next
    rw [Side.inward, Int.compare_eq_lt, Int.compare_eq_eq, Int.compare_eq_lt]
    omega

/-- A bound admits the same integers before and after it is tightened. -/
theorem Bound.admits_tightened (b : Bound) :
    (b.tightened side).Admits other side i ↔ b.Admits other side i := by
  cases b with
  | unbounded | included => exact Iff.rfl
  | excluded e =>
    cases e with
    | float | text | instant => exact Iff.rfl
    | int j =>
      simp only [Bound.tightened]
      split
      · next next => exact Bound.admits_included_of_tighten? next
      · exact Iff.rfl

/-- Beyond the last integer in a direction there is none. -/
theorem Bound.not_admits_of_tighten?_eq_none {j : Int64} (stuck : tighten? side j = none) :
    ¬(Bound.excluded (.int j)).Admits other side i := by
  have least := i.le_toInt
  have greatest := i.toInt_lt
  simp only [Bound.Admits, Endpoint.compare, Option.some.injEq]
  cases tighten?_eq_none_iff.1 stuck with
  | notInteger other => exact absurd rfl (other j)
  | greatest =>
    rw [Side.inward, Int.compare_eq_gt, Int64.toInt_maxValue]
    omega
  | least =>
    rw [Side.inward, Int.compare_eq_lt, Int64.toInt_minValue]
    omega

/-! ## What is written for a range -/

/-- Reads the sides of a range on the field as the legacy dialect writes them, each of them open or a
token. -/
def readSides (field : String) (s : String) : Option (Option Token × Option Token) := do
  let cs ← expect (field.toList ++ [':']) s.toList
  let (lower, cs) := readToken? cs
  let cs ← expect ['.', '.'] cs
  let (upper, cs) := readToken? cs
  if cs.isEmpty then return (lower, upper) else none

theorem readSides_of_text {field s : String} {lower upper : Option Token}
    (low : ∀ t ∈ lower, t.WellFormed) (high : ∀ t ∈ upper, t.WellFormed)
    (form : s.toList =
      field.toList ++ ':' :: (optionalText lower ++ '.' :: '.' :: optionalText upper)) :
    readSides field s = some (lower, upper) := by
  have parts : s.toList =
      (field.toList ++ [':']) ++ (optionalText lower ++ '.' :: '.' :: optionalText upper) := by
    rw [form, List.append_assoc]
    rfl
  have front : expect (field.toList ++ [':']) s.toList =
      some (optionalText lower ++ '.' :: '.' :: optionalText upper) := by
    rw [parts]
    exact expect_append _ _
  have first := readToken?_optionalText low (endsNumber_points (optionalText upper)) (by simp)
  have points : expect ['.', '.'] ('.' :: '.' :: optionalText upper) = some (optionalText upper) :=
    expect_append ['.', '.'] _
  have second := readToken?_optionalText high endsNumber_nil (by simp)
  rw [List.append_nil] at second
  simp only [readSides, front, first, points, second, Option.bind_eq_bind, Option.bind_some]
  rfl

/-- The text is that of a range on the field which includes the one token and the other, or is open
where there is none, and which says what the range `r` says: it admits the same integers, it is open
on the same sides, and a bound that `r` includes itself has the token that the structured dialect
writes for it. -/
structure IsTightening (field : String) (r : Range) (s : String) (lower upper : Option Token) :
    Prop where
  text : s.toList =
    field.toList ++ ':' :: (optionalText lower ++ '.' :: '.' :: optionalText upper)
  read : readSides field s = some (lower, upper)
  admits : ∀ other i, r.Admits other i ↔ (TokenBound.ofToken? lower).Admits other .lower i ∧
    (TokenBound.ofToken? upper).Admits other .upper i
  open_lower : lower = none ↔ r.lower = .unbounded
  open_upper : upper = none ↔ r.upper = .unbounded
  structured : ∃ before after : String, rangeText .structured field r =
      .ok ("(range field=" ++ field ++ " " ++ before ++ "," ++ after ++ ")") ∧
    (∀ e, r.lower = .included e → before.toList = '[' :: optionalText lower) ∧
    (∀ e, r.upper = .included e → after.toList = optionalText upper ++ [']'])

/-- The token, or none, says on its side of a range what the bound says. -/
structure StandsFor (side : Side) (o : Option Token) (b : Bound) : Prop where
  wellFormed : ∀ t ∈ o, t.WellFormed
  admits : ∀ other i, b.Admits other side i ↔ (TokenBound.ofToken? o).Admits other side i
  unbounded : o = none ↔ b = .unbounded
  included : ∀ e, b = .included e → o = some e.scalar.wireToken

/-- What the legacy dialect writes for a bound stands for it. -/
theorem exists_standsFor_of_legacyText {field : String} {b : Bound} {s : String}
    (written : b.legacyText field side = .ok s) :
    ∃ o, s.toList = optionalText o ∧ StandsFor side o b := by
  obtain ⟨o, formed, text, tokens⟩ := Bound.exists_token_of_legacyText written
  refine ⟨o, text, formed, ?_, ?_, ?_⟩
  · intro other i
    rw [← tokens, Bound.admits_tokens, Bound.admits_tightened]
  · constructor
    · rintro rfl
      cases b with
      | unbounded => rfl
      | included => cases tokens
      | excluded e =>
        cases e with
        | float | text | instant => cases written
        | int j =>
          simp only [Bound.tightened] at tokens
          split at tokens <;> cases tokens
    · rintro rfl
      cases o with
      | none => rfl
      | some t => cases tokens
  · rintro e rfl
    cases o with
    | none => cases tokens
    | some t =>
      cases tokens
      rfl

/-- A range that the legacy dialect can write it writes with inclusive bounds that say the same. -/
theorem exists_isTightening {field : String} {r : Range} {s : String}
    (written : rangeText .legacy field r = .ok s) :
    ∃ lower upper, IsTightening field r s lower upper := by
  obtain ⟨⟨⟩, -⟩ | ⟨-, lowerText, upperText, low, high, form⟩ := text_of_rangeText written
  obtain ⟨lower, lower_text, lower_stands⟩ := exists_standsFor_of_legacyText low
  obtain ⟨upper, upper_text, upper_stands⟩ := exists_standsFor_of_legacyText high
  rw [lower_text, upper_text] at form
  have token : ∀ e : Endpoint, e.token.toList = optionalText (some e.scalar.wireToken) := by
    intro e
    rw [Endpoint.token, Scalar.token_eq]
    rfl
  have bounded : r ≠ .unbounded := by
    rintro rfl
    rw [rangeText_unbounded] at written
    cases written
  refine ⟨lower, upper, ?_⟩
  constructor
  case text => exact form
  case read => exact readSides_of_text lower_stands.wellFormed upper_stands.wellFormed form
  case admits =>
    intro other i
    rw [Range.Admits, lower_stands.admits, upper_stands.admits]
  case open_lower => exact lower_stands.unbounded
  case open_upper => exact upper_stands.unbounded
  case structured =>
    refine ⟨r.lower.lowerText, r.upper.upperText, ?_, ?_, ?_⟩
    · rw [rangeText, Range.isUnbounded_eq_false_iff.2 bounded]
      rfl
    · intro e included
      rw [lower_stands.included e included, included, Bound.lowerText, ← token]
      exact String.toList_append
    · intro e included
      rw [upper_stands.included e included, included, Bound.upperText, ← token]
      exact String.toList_append

/-- **The legacy range is exact.** A range without bounds is refused in either dialect, and the
structured dialect refuses no other. The legacy dialect refuses an exclusive bound besides, the lower
one first, if it is no integer or the last one in its direction, in which case no integer is in the
range. Every other range it writes, with inclusive bounds that admit the same integers. -/
theorem rangeText_legacy_exact (field : String) (r : Range) :
    (∀ err, rangeText .structured field r = .error err ↔
      r = .unbounded ∧ err = .unboundedRange field) ∧
    (∀ err, rangeText .legacy field r = .error err ↔
      r = .unbounded ∧ err = .unboundedRange field ∨ (Atom.range field r).BoundFault err) ∧
    (∀ s, rangeText .legacy field r = .ok s →
      ∃ lower upper, IsTightening field r s lower upper) ∧
    (r.lower = .excluded (.int Int64.maxValue) ∨ r.upper = .excluded (.int Int64.minValue) →
      ∀ other i, ¬r.Admits other i) := by
  refine ⟨fun err => rangeText_structured_eq_error_iff, fun err => rangeText_legacy_eq_error_iff,
    fun s written => exists_isTightening written, ?_⟩
  rintro (greatest | least) other i ⟨low, high⟩
  · rw [greatest] at low
    exact Bound.not_admits_of_tighten?_eq_none rfl low
  · rw [least] at high
    exact Bound.not_admits_of_tighten?_eq_none rfl high

end CloudSearch.Filter
