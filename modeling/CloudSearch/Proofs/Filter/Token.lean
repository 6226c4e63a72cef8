import CloudSearch.Filter.Wire

/-!
# Tokens

What a field is compared with is written as one token: a number as it stands, everything else
between quotes. The end of a number has to be told from what follows it, which in the legacy dialect
may be the two points of a range, so that what matters about a number's text is where it has points:
one at most, and digits on both sides of it (`IsNumberText`). `readToken_text` says that a reader
finds each token and stops right behind it.
-/

namespace CloudSearch.Filter

/-- What stands for a value in a written filter. -/
inductive Token
  /-- The text of a number. -/
  | number (text : String)
  /-- The contents of a quoted text. -/
  | quoted (content : String)
deriving DecidableEq, Repr

/-- A token as it is written. -/
def Token.text : Token → String
  | .number s => s
  | .quoted s => Text.quote s

/-- The token that a value is written as. -/
def Scalar.wireToken : Scalar → Token
  | .bool b => .quoted (if b then "true" else "false")
  | .int i => .number (toString i.toInt)
  | .float x => .number (Decimal.plain.float x)
  | .text s => .quoted s
  | .instant t => .quoted t.text

theorem Scalar.token_eq (v : Scalar) : v.token = v.wireToken.text := by
  cases v <;> rfl

/-- The character may stand in a number; points are another matter. -/
def isNumberChar (c : Char) : Bool :=
  c.isAlphanum || c == '-'

/-- The characters are the text of a number: they have one point at most, and something stands on
either side of it. -/
inductive IsNumberText : List Char → Prop
  | whole {cs : List Char} (ne : cs ≠ []) (chars : ∀ c ∈ cs, isNumberChar c = true) :
    IsNumberText cs
  | point {cs ds : List Char} (ne : cs ≠ []) (chars : ∀ c ∈ cs, isNumberChar c = true)
    (ne' : ds ≠ []) (chars' : ∀ d ∈ ds, isNumberChar d = true) : IsNumberText (cs ++ '.' :: ds)

/-- The token can be read back. -/
def Token.WellFormed : Token → Prop
  | .number s => IsNumberText s.toList
  | .quoted _ => True

/-! ## The texts of numbers -/

theorem isNumberChar_of_isDigit {c : Char} (h : c.isDigit = true) : isNumberChar c = true := by
  simp [isNumberChar, Char.isAlphanum, h]

theorem isNumberChar_toDigits {n : Nat} : ∀ c ∈ Nat.toDigits 10 n, isNumberChar c = true :=
  fun _ hc => isNumberChar_of_isDigit (Nat.isDigit_of_mem_toDigits (by decide) (by decide) hc)

/-- A sign in front of a number makes a number. -/
theorem IsNumberText.negative {cs : List Char} (h : IsNumberText cs) :
    IsNumberText ('-' :: cs) := by
  have sign : ∀ ds : List Char, (∀ d ∈ ds, isNumberChar d = true) →
      ∀ c ∈ '-' :: ds, isNumberChar c = true := by
    intro ds hds
    exact List.forall_mem_cons.2 ⟨by decide, hds⟩
  cases h with
  | whole ne chars => exact .whole (by simp) (sign _ chars)
  | point ne chars ne' chars' => exact .point (by simp) (sign _ chars) ne' chars'

theorem isNumberText_int (i : Int) : IsNumberText (toString i).toList := by
  have digits : ∀ n : Nat, IsNumberText (toString n).toList := by
    intro n
    rw [Nat.toString_eq_ofList_toDigits, String.toList_ofList]
    exact .whole Nat.toDigits_ne_nil isNumberChar_toDigits
  cases i with
  | ofNat n => exact digits n
  | negSucc n =>
    have sign : (toString (Int.negSucc n)).toList = '-' :: (toString (n + 1)).toList :=
      String.toList_append
    rw [sign]
    exact (digits (n + 1)).negative

/-- Digits written out in place have a point only where digits stand on both sides. -/
theorem isNumberText_inPlace {digits : List Char} (ne : digits ≠ [])
    (chars : ∀ c ∈ digits, isNumberChar c = true) (exponent : Int) :
    IsNumberText (Decimal.plain.inPlace digits exponent).toList := by
  have zeros : ∀ n, ∀ c ∈ List.replicate n '0', isNumberChar c = true := by
    intro n c hc
    rw [List.eq_of_mem_replicate hc]
    decide
  have length_pos := List.length_pos_iff.2 ne
  unfold Decimal.Layout.inPlace
  dsimp only
  split
  · simp only [Decimal.plain, String.append_empty, String.toList_ofList]
    exact .whole (by simp [ne]) (List.forall_mem_append.2 ⟨chars, zeros _⟩)
  · split
    · next low high =>
      rw [String.toList_append, String.toList_append, String.toList_ofList, String.toList_ofList,
        String.toList_ofList, List.append_assoc, List.singleton_append]
      refine .point ?_ (fun c hc => chars c (List.mem_of_mem_take hc)) ?_
        (fun c hc => chars c (List.mem_of_mem_drop hc))
      · rw [← List.length_pos_iff, List.length_take]
        omega
      · rw [← List.length_pos_iff, List.length_drop]
        omega
    · rw [String.toList_append, String.toList_ofList, String.toList_ofList]
      have fraction : ∀ c ∈ List.replicate (-(digits.length + exponent : Int)).toNat '0' ++ digits,
          isNumberChar c = true :=
        List.forall_mem_append.2 ⟨zeros _, chars⟩
      have zero : ∀ c ∈ ['0'], isNumberChar c = true := List.all_eq_true.1 (by decide)
      exact @IsNumberText.point ['0'] _ (by simp) zero (by simp [ne]) fraction

theorem isNumberText_decimal (d : Decimal.Scaled) :
    IsNumberText (Decimal.plain.decimal d).toList :=
  isNumberText_inPlace Nat.toDigits_ne_nil isNumberChar_toDigits d.exponent

/-- The text of a double that is not finite is a number's as well. -/
theorem isNumberText_float (x : Float) : IsNumberText (Decimal.plain.float x).toList := by
  have signed : ∀ (negative : Bool) (s : String), IsNumberText s.toList →
      IsNumberText ((if negative then "-" else "") ++ s).toList := by
    intro negative s h
    cases negative with
    | false => simpa using h
    | true => simpa using h.negative
  unfold Decimal.Layout.float
  dsimp only
  split
  · exact .whole (by decide) (List.all_eq_true.1 (by decide))
  split
  · exact signed _ _ (.whole (by decide) (List.all_eq_true.1 (by decide)))
  · exact signed _ _ (isNumberText_decimal _)

theorem Scalar.wireToken_wellFormed (v : Scalar) : v.wireToken.WellFormed := by
  cases v with
  | bool | text | instant => trivial
  | int i => exact isNumberText_int i.toInt
  | float x => exact isNumberText_float x

/-! ## Reading tokens -/

/-- Reads a number as far as it goes, and gives what follows it. A point belongs to the number
unless another point follows. -/
def readNumber : List Char → List Char × List Char
  | [] => ([], [])
  | c :: rest =>
    if isNumberChar c || (c == '.' && rest.head? != some '.') then
      let (cs, after) := readNumber rest
      (c :: cs, after)
    else ([], c :: rest)

/-- Reads a token, and gives what follows it. -/
def readToken (cs : List Char) : Option (Token × List Char) :=
  match cs with
  | '\'' :: rest =>
    (Text.readQuoted rest).map fun (content, after) => (.quoted (String.ofList content), after)
  | cs =>
    match readNumber cs with
    | ([], _) => none
    | (number, after) => some (.number (String.ofList number), after)

/-- Reads a token if there is one. -/
def readToken? (cs : List Char) : Option Token × List Char :=
  match readToken cs with
  | some (t, after) => (some t, after)
  | none => (none, cs)

/-- No number goes on with these characters. -/
def EndsNumber (rest : List Char) : Prop :=
  readNumber rest = ([], rest)

theorem readNumber_append {cs : List Char} (chars : ∀ c ∈ cs, isNumberChar c = true)
    (rest : List Char) :
    readNumber (cs ++ rest) = (cs ++ (readNumber rest).1, (readNumber rest).2) := by
  induction cs with
  | nil => rfl
  | cons c cs ih =>
    obtain ⟨hc, hcs⟩ := List.forall_mem_cons.1 chars
    simp [readNumber, hc, ih hcs]

/-- A reader finds the number and stops right behind it. -/
theorem readNumber_isNumberText {cs rest : List Char} (h : IsNumberText cs)
    (ends : EndsNumber rest) : readNumber (cs ++ rest) = (cs, rest) := by
  cases h with
  | whole ne chars =>
    rw [readNumber_append chars, ends, List.append_nil]
  | @point cs ds ne chars ne' chars' =>
    obtain ⟨d, ds, rfl⟩ := List.exists_cons_of_ne_nil ne'
    -- the point is followed by a digit, so that it is not the first of two
    have hd : d ≠ '.' := by
      rintro rfl
      exact absurd (List.forall_mem_cons.1 chars').1 (by decide)
    have tail := readNumber_append chars' rest
    rw [ends, List.append_nil, List.cons_append] at tail
    have point : readNumber ('.' :: d :: (ds ++ rest)) = ('.' :: d :: ds, rest) := by
      rw [readNumber, tail]
      simp [hd]
    rw [List.append_assoc, readNumber_append chars, List.cons_append, List.cons_append, point]

theorem IsNumberText.ne_nil {cs : List Char} (h : IsNumberText cs) : cs ≠ [] := by
  cases h with
  | whole ne _ => exact ne
  | point ne _ _ _ => simp [ne]

/-- The text of a number does not look like quoted text. -/
theorem IsNumberText.head_ne_quote {c : Char} {cs : List Char} (h : IsNumberText (c :: cs)) :
    c ≠ '\'' := by
  rintro rfl
  have quote : isNumberChar '\'' = false := by decide
  generalize hd : '\'' :: cs = ds at h
  cases h with
  | whole ne chars =>
    subst hd
    exact absurd (List.forall_mem_cons.1 chars).1 (by simp [quote])
  | @point front back ne chars ne' chars' =>
    obtain ⟨d, front, rfl⟩ := List.exists_cons_of_ne_nil ne
    cases hd
    exact absurd (List.forall_mem_cons.1 chars).1 (by simp [quote])

theorem endsNumber_nil : EndsNumber [] := rfl

theorem endsNumber_cons {c : Char} (hc : isNumberChar c = false) (hp : c ≠ '.') (rest : List Char) :
    EndsNumber (c :: rest) := by
  simp [EndsNumber, readNumber, hc, hp]

/-- The points of a range do not belong to the number before them. -/
theorem endsNumber_points (rest : List Char) : EndsNumber ('.' :: '.' :: rest) := by
  have point : isNumberChar '.' = false := by decide
  simp [EndsNumber, readNumber, point]

/-- A reader finds the token and stops right behind it. -/
theorem readToken_text {t : Token} (h : t.WellFormed) {rest : List Char} (ends : EndsNumber rest) :
    readToken (t.text.toList ++ rest) = some (t, rest) := by
  cases t with
  | number s =>
    have number := readNumber_isNumberText h ends
    obtain ⟨c, cs, hs⟩ := List.exists_cons_of_ne_nil h.ne_nil
    have hc : c ≠ '\'' := by
      rw [Token.WellFormed, hs] at h
      exact h.head_ne_quote
    have back : String.ofList (c :: cs) = s := by rw [← hs, String.ofList_toList]
    rw [Token.text, hs, List.cons_append]
    rw [hs, List.cons_append] at number
    rw [readToken]
    · simp [number, back]
    · simpa using hc
  | quoted s =>
    have contents := Text.readQuoted_flatMap s.toList rest
    simp [Token.text, Text.quoted, readToken, contents]

/-- A token as it is written, or nothing where there is none. -/
def optionalText : Option Token → List Char
  | none => []
  | some t => t.text.toList

/-- A reader finds the token if there is one, and otherwise stays where it is. -/
theorem readToken?_optionalText {o : Option Token} (h : ∀ t ∈ o, t.WellFormed) {rest : List Char}
    (ends : EndsNumber rest) (quote : rest.head? ≠ some '\'') :
    readToken? (optionalText o ++ rest) = (o, rest) := by
  cases o with
  | none =>
    have nothing : readToken rest = none := by
      rw [readToken, ends]
      rintro cs rfl
      exact quote rfl
    simp [readToken?, optionalText, nothing]
  | some t =>
    simp only [readToken?, optionalText, readToken_text (h t rfl) ends]

end CloudSearch.Filter
