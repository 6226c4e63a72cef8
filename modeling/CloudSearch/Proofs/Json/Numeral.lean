import CloudSearch.Json.Token

/-!
# Written numbers are read back

A number ends where a character follows that belongs to no number; the commas and brackets of a
document do. A text spells a number when a scan of its characters ends in a place where a number may
end and has that value (`Spells`), and then it is one token wherever it stands (`Spells.tokens`).

The decimal digits of an integer spell the integer (`spells_integer`). Of a double nothing is known
but which characters its text is made of (`isNumeral_float`); such characters are tokens of nothing
but numbers (`tokens_numeral`).
-/

namespace CloudSearch.Json

/-- The character may stand in a number. -/
def isNumeralChar (c : Char) : Bool :=
  c.isDigit || ['-', '+', '.', 'e', 'E'].contains c

/-- No number goes on with these characters. -/
def EndsNumeral (rest : List Char) : Prop :=
  ∀ c ∈ rest.head?, isNumeralChar c = false

theorem endsNumeral_nil : EndsNumeral [] := by
  intro c head
  cases head

theorem endsNumeral_cons {c : Char} (mark : isNumeralChar c = false) (rest : List Char) :
    EndsNumeral (c :: rest) := by
  intro d head
  cases head
  exact mark

namespace NumeralScan

/-! ## Scanning several characters -/

/-- The number with more characters, if they all belong to it. -/
def feed (s : NumeralScan) : List Char → Option NumeralScan
  | [] => some s
  | c :: cs => match s.step c with
    | .more s' => s'.feed cs
    | _ => none

/-- The number that the characters are, if they all belong to one. -/
def scan? : List Char → Option NumeralScan
  | [] => none
  | c :: cs =>
    if c = '-' then minus.feed cs
    else match digit? c with
      | some d => (digit d).feed cs
      | none => none

theorem feed_append {s s' : NumeralScan} {cs : List Char} (fed : s.feed cs = some s')
    (ds : List Char) : s.feed (cs ++ ds) = s'.feed ds := by
  induction cs generalizing s with
  | nil =>
    cases fed
    rfl
  | cons c cs ih =>
    rw [feed] at fed
    rw [List.cons_append, feed]
    split at fed
    next next step_eq => exact ih fed
    next => cases fed

theorem scan?_append {s : NumeralScan} {cs : List Char} (scanned : scan? cs = some s)
    (ds : List Char) : scan? (cs ++ ds) = s.feed ds := by
  cases cs with
  | nil => cases scanned
  | cons c cs =>
    rw [List.cons_append]
    simp only [scan?] at scanned ⊢
    by_cases sign : c = '-'
    · rw [if_pos sign] at scanned ⊢
      exact feed_append scanned ds
    · rw [if_neg sign] at scanned ⊢
      cases is_digit : digit? c with
      | some d =>
        rw [is_digit] at scanned
        exact feed_append scanned ds
      | none =>
        rw [is_digit] at scanned
        cases scanned

/-- Where a number may end, it does before a character that belongs to no number. -/
theorem step_of_complete {s : NumeralScan} (complete : s.complete = true) {c : Char}
    (mark : isNumeralChar c = false) : s.step c = .done s.read := by
  simp only [isNumeralChar, Bool.or_eq_false_iff, List.contains_eq_mem, decide_eq_false_iff_not,
    List.mem_cons, not_or] at mark
  obtain ⟨not_digit, -, -, not_point, not_small, not_capital, -⟩ := mark
  have no_digit : digit? c = none := by simp [digit?, not_digit]
  obtain ⟨place, read⟩ := s
  simp only [step, no_digit, pushMark]
  cases place with
  | whole => simp [not_point, not_small, not_capital]
  | fraction => simp [not_small, not_capital]
  | exponent => rfl
  | sign | point | mark | markSign => cases complete

end NumeralScan

/-! ## Numbers as tokens -/

open NumeralScan

/-- The characters are the text of the number. -/
def Spells (cs : List Char) (n : Number) : Prop :=
  ∃ s, scan? cs = some s ∧ s.complete = true ∧ s.read.value? = some n

instance (cs : List Char) (n : Number) : Decidable (Spells cs n) :=
  match scanned : scan? cs with
  | none => .isFalse fun ⟨_, found, _⟩ => nomatch scanned.symm.trans found
  | some s =>
    decidable_of_iff (s.complete = true ∧ s.read.value? = some n)
      ⟨fun ends => ⟨s, scanned, ends⟩, fun ⟨_, found, ends⟩ =>
        Option.some.inj (scanned.symm.trans found) ▸ ends⟩

theorem TokenScan.start_digit {c : Char} {d : Nat} (is_digit : digit? c = some d) :
    start c = ([], some (.number (digit d))) := by
  unfold start
  split
  all_goals first
    | cases is_digit
    | rw [is_digit]

theorem TokenScan.tokens_feed {s s' : NumeralScan} {cs : List Char} (fed : s.feed cs = some s')
    (rest : List Char) :
    (TokenScan.number s).tokens (cs ++ rest) = (TokenScan.number s').tokens rest := by
  induction cs generalizing s with
  | nil =>
    cases fed
    rfl
  | cons c cs ih =>
    rw [feed] at fed
    split at fed
    next next step_eq =>
      rw [List.cons_append, TokenScan.tokens]
      simp only [TokenScan.step, step_eq, List.nil_append]
      exact ih fed
    next => cases fed

theorem TokenScan.tokens_scan {s : NumeralScan} {cs : List Char} (scanned : scan? cs = some s)
    (rest : List Char) :
    TokenScan.between.tokens (cs ++ rest) = (TokenScan.number s).tokens rest := by
  cases cs with
  | nil => cases scanned
  | cons c cs =>
    rw [scan?] at scanned
    rw [List.cons_append, TokenScan.tokens, TokenScan.step]
    split at scanned
    next sign =>
      subst sign
      exact tokens_feed scanned rest
    next =>
      split at scanned
      next d is_digit =>
        rw [start_digit is_digit]
        exact tokens_feed scanned rest
      next => cases scanned

/-- A number that has ended is a token, and the character behind it begins the next one. -/
theorem TokenScan.tokens_done {s : NumeralScan} {c : Char} {x : Numeral} (ended : s.step c = .done x)
    (rest : List Char) :
    (TokenScan.number s).tokens (c :: rest) =
      .number x.value? :: TokenScan.between.tokens (c :: rest) := by
  have stepped : (TokenScan.number s).step c = (.number x.value? :: (start c).1, (start c).2) := by
    rw [TokenScan.step, ended]
  rw [TokenScan.tokens, TokenScan.tokens, stepped, TokenScan.step]
  obtain ⟨done, behind⟩ := start c
  cases behind with
  | some s' => rfl
  | none => rfl

/-- A number that may end is one token before anything that belongs to no number. -/
theorem TokenScan.tokens_complete {s : NumeralScan} (complete : s.complete = true)
    {rest : List Char} (ends : EndsNumeral rest) :
    (TokenScan.number s).tokens rest =
      .number s.read.value? :: TokenScan.between.tokens rest := by
  cases rest with
  | nil => simp [TokenScan.tokens, TokenScan.finish, complete]
  | cons c rest => exact tokens_done (step_of_complete complete (ends c rfl)) rest

/-- The text of a number is one token wherever it stands. -/
theorem Spells.tokens {cs : List Char} {n : Number} (spells : Spells cs n) {rest : List Char}
    (ends : EndsNumeral rest) : tokens (cs ++ rest) = .number (some n) :: tokens rest := by
  obtain ⟨s, scanned, complete, value⟩ := spells
  rw [Json.tokens, TokenScan.tokens_scan scanned, TokenScan.tokens_complete complete ends, value]
  rfl

/-! ## Integers -/

theorem gather_append {n m : Nat} {ds : List Nat} (fits : gather n ds = (m, [])) (es : List Nat) :
    gather n (ds ++ es) = gather m es := by
  induction ds generalizing n with
  | nil =>
    cases fits
    rfl
  | cons d ds ih =>
    rw [gather] at fits
    rw [List.cons_append, gather]
    split at fits
    next small =>
      rw [if_pos small]
      exact ih fits
    next => cases fits

/-- The characters, behind a minus sign if `negative`. -/
def signed (negative : Bool) (cs : List Char) : List Char :=
  if negative then '-' :: cs else cs

theorem digit?_digitChar {d : Nat} (small : d < 10) : digit? (Nat.digitChar d) = some d := by
  have all : ∀ e : Fin 10, digit? (Nat.digitChar e) = some e.val := by decide
  exact all ⟨d, small⟩

theorem scan?_digitChar (negative : Bool) {d : Nat} (small : d < 10) :
    scan? (signed negative [Nat.digitChar d]) = some ⟨.whole, negative, [d], none, none⟩ := by
  have is_digit := digit?_digitChar small
  cases negative with
  | true => simp [signed, scan?, feed, NumeralScan.step, is_digit, pushDigit, minus]
  | false =>
    have not_sign : Nat.digitChar d ≠ '-' := by
      intro sign
      rw [sign] at is_digit
      cases is_digit
    simp [signed, scan?, feed, not_sign, is_digit, digit]

/-- The digits of a number that fits 64 bits are scanned to its end, and gathered to its value. -/
theorem scan?_toDigits (negative : Bool) (n : Nat) (small : n < 0x10000000000000000) :
    ∃ ds, scan? (signed negative (Nat.toDigits 10 n)) = some ⟨.whole, negative, ds, none, none⟩ ∧
      gather 0 ds = (n, []) := by
  induction n using Nat.strongRecOn with
  | ind n ih =>
    by_cases single : n < 10
    · refine ⟨[n], ?_, ?_⟩
      · rw [Nat.toDigits_of_lt_base single, scan?_digitChar negative single]
      · simp [gather, small]
    · obtain ⟨ds, scanned, gathered⟩ := ih (n / 10) (by omega) (by omega)
      have last : n % 10 < 10 := Nat.mod_lt n (by decide)
      -- the digits before the last are more than a zero, so that another one may follow
      have not_zero : ds ≠ [0] := by
        intro zero
        rw [zero] at gathered
        have value : 0 = n / 10 := congrArg Prod.fst gathered
        omega
      refine ⟨ds ++ [n % 10], ?_, ?_⟩
      · have split : signed negative (Nat.toDigits 10 n) =
            signed negative (Nat.toDigits 10 (n / 10)) ++ [Nat.digitChar (n % 10)] := by
          rw [Nat.toDigits_of_base_le (by decide) (Nat.le_of_not_lt single)]
          cases negative <;> rfl
        rw [split, scan?_append scanned]
        simp [feed, NumeralScan.step, digit?_digitChar last, pushDigit, not_zero]
      · rw [gather_append gathered]
        have back : n / 10 * 10 + n % 10 = n := Nat.div_add_mod' n 10
        simp [gather, back, small]

/-- Digits that are gathered to a number are a number without fraction and exponent. -/
theorem value?_of_gather {negative : Bool} {ds : List Nat} {n : Nat}
    (gathered : gather 0 ds = (n, [])) :
    Numeral.value? ⟨negative, ds, none, none⟩ = integral? negative n := by
  simp [Numeral.value?, gathered]

theorem toList_toString_int (i : Int) :
    (toString i).toList = signed (decide (i < 0)) (Nat.toDigits 10 i.natAbs) := by
  cases i with
  | ofNat n =>
    have nonneg : ¬(Int.ofNat n < 0) := Int.not_lt.2 (Int.natCast_nonneg n)
    rw [decide_eq_false nonneg]
    show (toString n).toList = Nat.toDigits 10 n
    rw [Nat.toString_eq_ofList_toDigits, String.toList_ofList]
  | negSucc n =>
    rw [decide_eq_true (Int.negSucc_lt_zero n)]
    show ("-" ++ toString (n + 1)).toList = '-' :: Nat.toDigits 10 (n + 1)
    simp only [String.toList_append, Nat.toString_eq_ofList_toDigits, String.toList_ofList]
    rfl

/-- The text of an integer spells it. -/
theorem spells_integer (n : WordInt) : Spells n.text.toList (.integer n) := by
  obtain ⟨i, low, high⟩ := n
  have small : i.natAbs < 0x10000000000000000 := by omega
  obtain ⟨ds, scanned, gathered⟩ := scan?_toDigits (decide (i < 0)) i.natAbs small
  refine ⟨⟨.whole, decide (i < 0), ds, none, none⟩, ?_, rfl, ?_⟩
  · rw [WordInt.text, toList_toString_int, scanned]
  · rw [value?_of_gather gathered]
    generalize size : i.natAbs = n at small
    by_cases negative : i < 0
    · have range : 0 < n ∧ n ≤ 0x8000000000000000 := by omega
      have value : -(n : Int) = i := by omega
      simp [integral?, negative, range, value]
    · have value : (n : Int) = i := by omega
      simp [integral?, negative, small, value]

/-! ## Characters of numbers -/

/-- No character of a number is a token by itself; it begins a number or nothing. -/
theorem TokenScan.start_numeral {c : Char} (numeral : isNumeralChar c = true) :
    start c = ([], none) ∨
      ∃ s, start c = ([], some (.number s)) ∧ ∀ cs, scan? (c :: cs) = s.feed cs := by
  cases is_digit : digit? c with
  | some d =>
    have not_sign : c ≠ '-' := by
      rintro rfl
      cases is_digit
    refine .inr ⟨digit d, start_digit is_digit, ?_⟩
    intro cs
    simp only [scan?, if_neg not_sign, is_digit]
  | none =>
    by_cases sign : c = '-'
    · subst sign
      exact .inr ⟨minus, rfl, fun _ => rfl⟩
    · refine .inl ?_
      unfold start
      split
      all_goals first
        | cases numeral
        | rw [is_digit]
      exact absurd rfl sign

/-- What the characters of numbers are tokens of, behind the beginning of a number: they do not
complete one, or they belong to it to the end, or something else follows. -/
theorem TokenScan.tokens_number (s : NumeralScan) (cs : List Char)
    (numeral : ∀ c ∈ cs, isNumeralChar c = true) :
    (TokenScan.number s).tokens cs = [.malformed] ∨
      (∃ s', s.feed cs = some s' ∧ s'.complete = true ∧
        (TokenScan.number s).tokens cs = [.number s'.read.value?]) ∨
      ∃ v t ts, (TokenScan.number s).tokens cs = .number v :: t :: ts := by
  induction cs generalizing s with
  | nil =>
    by_cases complete : s.complete = true
    · exact .inr (.inl ⟨s, rfl, complete, by simp [TokenScan.tokens, TokenScan.finish, complete]⟩)
    · exact .inl (by simp [TokenScan.tokens, TokenScan.finish, complete])
  | cons c cs ih =>
    obtain ⟨first, others⟩ := List.forall_mem_cons.1 numeral
    cases stepped : s.step c with
    | more s' =>
      have next : (TokenScan.number s).tokens (c :: cs) = (TokenScan.number s').tokens cs := by
        simp [TokenScan.tokens, TokenScan.step, stepped]
      have fed : s.feed (c :: cs) = s'.feed cs := by simp [feed, stepped]
      rw [next, fed]
      exact ih s' others
    | done x =>
      rw [TokenScan.tokens_done stepped]
      refine .inr (.inr ⟨x.value?, ?_⟩)
      rcases start_numeral first with refused | ⟨s', started, -⟩
      · exact ⟨.malformed, [], by simp [TokenScan.tokens, TokenScan.step, refused]⟩
      · have again : TokenScan.between.tokens (c :: cs) = (TokenScan.number s').tokens cs := by
          simp [TokenScan.tokens, TokenScan.step, started]
        rw [again]
        rcases ih s' others with h | ⟨_, -, -, h⟩ | ⟨v, t, ts, h⟩
        · exact ⟨_, _, by rw [h]⟩
        · exact ⟨_, _, by rw [h]⟩
        · exact ⟨_, _, by rw [h]⟩
    | malformed => exact .inl (by simp [TokenScan.tokens, TokenScan.step, stepped])

/-- What the characters of numbers are tokens of: nothing that is complete, or they are one number to
the end, or something follows a number. -/
theorem tokens_numeral {cs : List Char} (numeral : ∀ c ∈ cs, isNumeralChar c = true) :
    tokens cs = [] ∨ tokens cs = [.malformed] ∨
      (∃ s, scan? cs = some s ∧ s.complete = true ∧ tokens cs = [.number s.read.value?]) ∨
      ∃ v t ts, tokens cs = .number v :: t :: ts := by
  cases cs with
  | nil => exact .inl rfl
  | cons c cs =>
    obtain ⟨first, others⟩ := List.forall_mem_cons.1 numeral
    rcases TokenScan.start_numeral first with refused | ⟨s, started, scanned⟩
    · exact .inr (.inl (by simp [tokens, TokenScan.tokens, TokenScan.step, refused]))
    · have behind : tokens (c :: cs) = (TokenScan.number s).tokens cs := by
        simp [tokens, TokenScan.tokens, TokenScan.step, started]
      rw [behind, scanned]
      exact .inr (TokenScan.tokens_number s cs others)

/-! ## Doubles -/

/-- The text is made of characters of numbers. -/
def IsNumeral (s : String) : Prop :=
  ∀ c ∈ s.toList, isNumeralChar c = true

theorem IsNumeral.append {s t : String} (hs : IsNumeral s) (ht : IsNumeral t) : IsNumeral (s ++ t) := by
  intro c mem
  rw [String.toList_append] at mem
  rcases List.mem_append.1 mem with left | right
  · exact hs c left
  · exact ht c right

theorem isNumeral_ofList {cs : List Char} (numeral : ∀ c ∈ cs, isNumeralChar c = true) :
    IsNumeral (String.ofList cs) := by
  intro c mem
  rw [String.toList_ofList] at mem
  exact numeral c mem

theorem isNumeralChar_of_isDigit {c : Char} (h : c.isDigit = true) : isNumeralChar c = true := by
  simp [isNumeralChar, h]

theorem isNumeralChar_toDigits {n : Nat} : ∀ c ∈ Nat.toDigits 10 n, isNumeralChar c = true :=
  fun _ mem => isNumeralChar_of_isDigit (Nat.isDigit_of_mem_toDigits (by decide) (by decide) mem)

theorem isNumeralChar_replicate (n : Nat) : ∀ c ∈ List.replicate n '0', isNumeralChar c = true := by
  intro c mem
  rw [List.eq_of_mem_replicate mem]
  decide

theorem isNumeral_inPlace {digits : List Char} (numeral : ∀ c ∈ digits, isNumeralChar c = true)
    (exponent : Int) : IsNumeral (Decimal.json.inPlace digits exponent) := by
  have point : IsNumeral "." := List.all_eq_true.1 (by decide)
  have zero_point : IsNumeral "0." := List.all_eq_true.1 (by decide)
  have whole_mark : IsNumeral Decimal.json.wholeMark := List.all_eq_true.1 (by decide)
  have before (n : Nat) : IsNumeral (String.ofList (digits.take n)) :=
    isNumeral_ofList fun c mem => numeral c (List.mem_of_mem_take mem)
  have behind (n : Nat) : IsNumeral (String.ofList (digits.drop n)) :=
    isNumeral_ofList fun c mem => numeral c (List.mem_of_mem_drop mem)
  unfold Decimal.Layout.inPlace
  dsimp only
  split
  · exact (isNumeral_ofList (List.forall_mem_append.2 ⟨numeral, isNumeralChar_replicate _⟩)).append
      whole_mark
  split
  · exact ((before _).append point).append (behind _)
  · exact zero_point.append
      (isNumeral_ofList (List.forall_mem_append.2 ⟨isNumeralChar_replicate _, numeral⟩))

theorem isNumeral_scientific {digits : List Char} (numeral : ∀ c ∈ digits, isNumeralChar c = true)
    (leading : Int) : IsNumeral (Decimal.scientific digits leading) := by
  have nothing : IsNumeral "" := List.all_eq_true.1 (by decide)
  have point : IsNumeral "." := List.all_eq_true.1 (by decide)
  have minus : IsNumeral "e-" := List.all_eq_true.1 (by decide)
  have plus : IsNumeral "e+" := List.all_eq_true.1 (by decide)
  have power : IsNumeral (toString leading.natAbs) := by
    rw [Nat.toString_eq_ofList_toDigits]
    exact isNumeral_ofList isNumeralChar_toDigits
  have first : IsNumeral (String.ofList (digits.take 1)) :=
    isNumeral_ofList fun c mem => numeral c (List.mem_of_mem_take mem)
  have others : IsNumeral (String.ofList (digits.drop 1)) :=
    isNumeral_ofList fun c mem => numeral c (List.mem_of_mem_drop mem)
  unfold Decimal.scientific
  dsimp only
  refine (first.append ?_).append ?_
  · split
    · exact nothing
    · exact point.append others
  · split
    · exact minus.append power
    · exact plus.append power

theorem not_nan_of_isFinite {x : Float} (finite : x.isFinite = true) :
    x.isNaN = false ∧ x.isInf = false := by
  unfold Float.isFinite Float.Model.isFinite at finite
  unfold Float.isNaN Float.isInf Float.Model.isNaN Float.Model.isInf
  cases unpacked : x.toModel.unpack with
  | notANumber | infinity =>
    rw [unpacked] at finite
    cases finite
  | zero | finite => exact ⟨rfl, rfl⟩

/-- The text of a finite double is made of characters of numbers. -/
theorem isNumeral_float (x : FiniteFloat) : IsNumeral (Decimal.json.float x.val) := by
  have nothing : IsNumeral "" := List.all_eq_true.1 (by decide)
  have minus : IsNumeral "-" := List.all_eq_true.1 (by decide)
  obtain ⟨not_nan, not_inf⟩ := not_nan_of_isFinite x.finite
  unfold Decimal.Layout.float
  dsimp only
  rw [not_nan, not_inf, if_neg Bool.false_ne_true, if_neg Bool.false_ne_true]
  refine IsNumeral.append ?_ ?_
  · split
    · exact minus
    · exact nothing
  · unfold Decimal.Layout.decimal
    dsimp only
    split
    · exact isNumeral_inPlace isNumeralChar_toDigits _
    · exact isNumeral_scientific isNumeralChar_toDigits _

end CloudSearch.Json
