import CloudSearch.Domain.Name
import CloudSearch.Proofs.Text.LowerCase
import CloudSearch.Proofs.Text.Pattern

/-!
# Where the words of a name begin

A name is parted by two passes, the second over what the first one writes: acronyms are parted from the
words behind them and then small letters and digits from the capitals behind them. Each pass parts a
name where its pattern matches, and that is decided by the two characters where it is parted and the one
behind them (`acronymEnd_parts_iff`, `wordEnd_parts_iff`). Neither an underscore of the first pass nor a
character that a match uses up keeps the second pass from a word, so that both passes together part a
name by one rule (`partAt_endsWord_partAt_endsAcronym`). No word begins in a name that is written with
underscores and in lower case, and there is nothing left in it to replace.
-/

namespace CloudSearch.Domain

open Text (Apart IsLowered Pattern isDecimalDigit lowerCase)

/-! ## Classes of characters -/

section Classes

variable {c : Char}

theorem bounds_of_isCapital (capital : isCapital c = true) : 0x41 ≤ c.toNat ∧ c.toNat ≤ 0x5A :=
  Text.bounds_of_isUpper capital

theorem bounds_of_isSmall (small : isSmall c = true) : 0x61 ≤ c.toNat ∧ c.toNat ≤ 0x7A := by
  obtain ⟨first, last⟩ := Bool.and_eq_true_iff.1 small
  have bounds : 'a'.val ≤ c.val ∧ c.val ≤ 'z'.val :=
    ⟨of_decide_eq_true first, of_decide_eq_true last⟩
  exact bounds

/-- There are no decimal digits between the letters of ASCII. -/
theorem isDecimalDigit_eq_false (lower : 0x41 ≤ c.toNat) (upper : c.toNat ≤ 0x7A) :
    isDecimalDigit c = false := by
  have outside : ∀ r ∈ Text.decimalDigitRanges, r.2 < 0x41 ∨ 0x7A < r.1 := by decide
  apply Bool.eq_false_iff.2
  intro digit
  obtain ⟨r, listed, first, last⟩ := Text.inRanges_iff.1 digit
  have := outside r listed
  omega

theorem isSmall_eq_false_of_isCapital (capital : isCapital c = true) : isSmall c = false := by
  apply Bool.eq_false_iff.2
  intro small
  have := bounds_of_isCapital capital
  have := bounds_of_isSmall small
  omega

theorem isDecimalDigit_eq_false_of_isCapital (capital : isCapital c = true) :
    isDecimalDigit c = false := by
  have := bounds_of_isCapital capital
  exact isDecimalDigit_eq_false (by omega) (by omega)

theorem isCapitalOrDigit_eq_false_of_isSmall (small : isSmall c = true) :
    isCapitalOrDigit c = false := by
  have := bounds_of_isSmall small
  rw [isCapitalOrDigit, Bool.or_eq_false_iff]
  refine ⟨?_, isDecimalDigit_eq_false (by omega) (by omega)⟩
  apply Bool.eq_false_iff.2
  intro capital
  have := bounds_of_isCapital capital
  omega

theorem isSmall_eq_false_of_isCapitalOrDigit (mem : isCapitalOrDigit c = true) :
    isSmall c = false := by
  apply Bool.eq_false_iff.2
  intro small
  rw [isCapitalOrDigit_eq_false_of_isSmall small] at mem
  cases mem

theorem isCapital_eq_false_of_not_mem (other : isCapitalOrDigit c = false) : isCapital c = false :=
  (Bool.or_eq_false_iff.1 other).1

theorem isCapitalOrDigit_of_isCapital (capital : isCapital c = true) : isCapitalOrDigit c = true := by
  rw [isCapitalOrDigit, capital, Bool.true_or]

end Classes

/-! ## Rules -/

/-- An underscore goes between two neighbours where a word `starts`, which they and the character behind
them decide. -/
def partAt (starts : Char → Char → Option Char → Bool) : List Char → List Char
  | x :: y :: rest =>
    if starts x y rest.head? then x :: '_' :: partAt starts (y :: rest)
    else x :: partAt starts (y :: rest)
  | cs => cs

/-- The last capital of a run of capitals and digits begins a word if a small letter follows. -/
def endsAcronym (x y : Char) (next : Option Char) : Bool :=
  isCapitalOrDigit x && isCapital y && next.any isSmall

/-- A capital begins a word behind a small letter or a digit. -/
def endsWord (x y : Char) (_ : Option Char) : Bool :=
  (isSmall x || isDecimalDigit x) && isCapital y

/-- A capital begins a word behind a small letter or a digit, and behind a capital or a digit if a small
letter follows. -/
def startsWord (x y : Char) (next : Option Char) : Bool :=
  isCapital y && (isSmall x || isDecimalDigit x || (isCapital x || isDecimalDigit x) && next.any isSmall)

theorem startsWord_eq (x y : Char) (next : Option Char) :
    startsWord x y next = (endsAcronym x y next || endsWord x y next) := by
  simp only [startsWord, endsAcronym, endsWord, isCapitalOrDigit]
  grind

section PartAt

variable {starts : Char → Char → Option Char → Bool} {x y : Char} {cs rest : List Char}

theorem partAt_cons_cons_of_starts (here : starts x y rest.head? = true) :
    partAt starts (x :: y :: rest) = x :: '_' :: partAt starts (y :: rest) := by
  rw [partAt, if_pos here]

/-- Nothing goes behind a character if no word starts there. -/
theorem partAt_cons (inside : ∀ y rest, cs = y :: rest → starts x y rest.head? = false) :
    partAt starts (x :: cs) = x :: partAt starts cs := by
  cases cs with
  | nil => rfl
  | cons y rest => rw [partAt, inside y rest rfl, if_neg Bool.false_ne_true]

/-- A text keeps its first character. -/
theorem partAt_cons_eq (starts : Char → Char → Option Char → Bool) (x : Char) (cs : List Char) :
    ∃ out, partAt starts (x :: cs) = x :: out := by
  cases cs with
  | nil => exact ⟨[], rfl⟩
  | cons y rest =>
    rw [partAt]
    split
    · exact ⟨_, rfl⟩
    · exact ⟨_, rfl⟩

theorem partAt_eq_self (never : ∀ x, ∀ y ∈ cs, ∀ next, starts x y next = false) :
    partAt starts cs = cs := by
  induction cs with
  | nil => rfl
  | cons x cs ih =>
    rw [partAt_cons, ih]
    · intro x y mem
      exact never x y (List.mem_cons_of_mem _ mem)
    · rintro y rest rfl
      exact never x y (List.mem_cons_of_mem _ List.mem_cons_self) _

end PartAt

/-! ## Acronyms -/

section Acronyms

variable {run rest out : List Char} {c y : Char}

theorem endsAcronym_eq_false_of_right (other : isCapitalOrDigit y = false) (x : Char)
    (next : Option Char) : endsAcronym x y next = false := by
  rw [endsAcronym, isCapital_eq_false_of_not_mem other, Bool.and_false, Bool.false_and]

theorem endsAcronym_eq_false_of_left (other : isCapitalOrDigit c = false) (y : Char)
    (next : Option Char) : endsAcronym c y next = false := by
  rw [endsAcronym, other, Bool.false_and, Bool.false_and]

/-- No small letter follows where the run goes on. -/
theorem partAt_endsAcronym_skip {z : Char} (mem : isCapitalOrDigit z = true) (x y : Char)
    (rest : List Char) :
    partAt endsAcronym (x :: y :: z :: rest) = x :: partAt endsAcronym (y :: z :: rest) := by
  apply partAt_cons
  rintro _ _ ⟨⟩
  rw [endsAcronym, List.head?_cons, Option.any_some, isSmall_eq_false_of_isCapitalOrDigit mem,
    Bool.and_false]

/-- Behind a character that is in no run, an acronym does not end. -/
theorem partAt_endsAcronym_cons (other : isCapitalOrDigit c = false) (rest : List Char) :
    partAt endsAcronym (c :: rest) = c :: partAt endsAcronym rest :=
  partAt_cons fun y _ _ => endsAcronym_eq_false_of_left other y _

/-- No word begins with the first character behind a run. -/
theorem partAt_endsAcronym_last (other : isCapitalOrDigit c = false) (x : Char) (rest : List Char) :
    partAt endsAcronym (x :: c :: rest) = x :: c :: partAt endsAcronym rest := by
  rw [partAt_cons, partAt_endsAcronym_cons other]
  rintro y rest' ⟨⟩
  exact endsAcronym_eq_false_of_right other x _

/-- A pair in front of a character that is in no run is parted if it ends an acronym. -/
theorem partAt_endsAcronym_pair (other : isCapitalOrDigit c = false) (x y : Char)
    (rest : List Char) :
    partAt endsAcronym (x :: y :: c :: rest) =
      x :: ((if endsAcronym x y (some c) then ['_', y] else [y]) ++
        c :: partAt endsAcronym rest) := by
  cases starts : endsAcronym x y (some c) with
  | true =>
    rw [partAt_cons_cons_of_starts starts, partAt_endsAcronym_last other]
    rfl
  | false =>
    rw [partAt_cons, partAt_endsAcronym_last other]
    · rfl
    · rintro _ _ ⟨⟩
      exact starts

/-- A run is parted in one place at most, which is before its last character. -/
theorem partAt_endsAcronym_run (run_mem : ∀ x ∈ run, isCapitalOrDigit x = true)
    (other : isCapitalOrDigit c = false) (rest : List Char) :
    partAt endsAcronym (run ++ c :: rest) =
      (if isSmall c then partLast run else run) ++ c :: partAt endsAcronym rest := by
  fun_induction partLast run with
  | case1 =>
    rw [ite_self]
    exact partAt_endsAcronym_cons other rest
  | case2 x =>
    rw [ite_self]
    exact partAt_endsAcronym_last other x rest
  | case3 x y capital =>
    have ends : endsAcronym x y (some c) = isSmall c := by
      rw [endsAcronym, run_mem x List.mem_cons_self, capital, Option.any_some]
      rfl
    rw [List.cons_append, List.cons_append, List.nil_append, partAt_endsAcronym_pair other, ends]
    split
    · rfl
    · rfl
  | case4 x y digit =>
    have ends : endsAcronym x y (some c) = false := by
      rw [endsAcronym, Bool.eq_false_iff.2 digit, Bool.and_false, Bool.false_and]
    rw [ite_self, List.cons_append, List.cons_append, List.nil_append,
      partAt_endsAcronym_pair other, ends]
    rfl
  | case5 x behind several several' ih =>
    obtain ⟨-, behind_mem⟩ := List.forall_mem_cons.1 run_mem
    obtain _ | ⟨y, _ | ⟨z, more⟩⟩ := behind
    · exact absurd rfl several
    · exact absurd rfl (several' y)
    · have mem := behind_mem z (List.mem_cons_of_mem _ List.mem_cons_self)
      refine (partAt_endsAcronym_skip mem x y _).trans
        ((congrArg (x :: ·) (ih behind_mem)).trans ?_)
      split
      · rfl
      · rfl

/-- A run at the end of a text is not parted. -/
theorem partAt_endsAcronym_of_run (run_mem : ∀ x ∈ run, isCapitalOrDigit x = true) :
    partAt endsAcronym run = run := by
  induction run with
  | nil => rfl
  | cons x run ih =>
    obtain ⟨-, behind_mem⟩ := List.forall_mem_cons.1 run_mem
    obtain _ | ⟨y, _ | ⟨z, more⟩⟩ := run
    · rfl
    · exact if_neg (Bool.eq_false_iff.1 (Bool.and_false _))
    · have mem := behind_mem z (List.mem_cons_of_mem _ List.mem_cons_self)
      rw [partAt_endsAcronym_skip mem, ih behind_mem]

/-- The pass over the acronyms has read a run, last character first, and goes on behind it. -/
theorem partAcronyms_eq (run_mem : ∀ x ∈ run, isCapitalOrDigit x = true) (cs : List Char) :
    partAcronyms run cs = partAt endsAcronym (run.reverse ++ cs) := by
  have reversed {run : List Char} (mem : ∀ x ∈ run, isCapitalOrDigit x = true) :
      ∀ x ∈ run.reverse, isCapitalOrDigit x = true := by
    intro x here
    exact mem x (List.mem_reverse.1 here)
  induction cs generalizing run with
  | nil => rw [List.append_nil, partAt_endsAcronym_of_run (reversed run_mem), partAcronyms]
  | cons c rest ih =>
    rw [partAcronyms]
    split
    next mem =>
      rw [ih (List.forall_mem_cons.2 ⟨mem, run_mem⟩), List.reverse_cons, List.append_assoc]
      rfl
    next other =>
      rw [partAt_endsAcronym_run (reversed run_mem) (Bool.eq_false_iff.2 other),
        ih (fun _ mem => absurd mem List.not_mem_nil)]
      rfl

/-- The last capital of a run is parted from it. -/
theorem partLast_concat (filled : run ≠ []) (capital : isCapital y = true) :
    partLast (run ++ [y]) = run ++ ['_', y] := by
  induction run with
  | nil => exact absurd rfl filled
  | cons x run ih =>
    cases run with
    | nil => exact if_pos capital
    | cons x' run =>
      have behind := ih (List.cons_ne_nil _ _)
      cases run with
      | nil => exact congrArg (x :: ·) behind
      | cons => exact congrArg (x :: ·) behind

/-- A run of capitals and digits, and behind it a capital and a small letter. -/
def acronymEnd : Pattern :=
  { first := isCapitalOrDigit, repeats := true, second := [isCapital, isSmall] }

/-- **The pattern of acronyms** matches where the last capital of a run begins a word. -/
theorem acronymEnd_parts_iff {cs : List Char} :
    acronymEnd.Parts cs out ↔ out = partAt endsAcronym cs := by
  apply Pattern.parts_iff
  case nil => rfl
  case part =>
    rintro cs left right rest ⟨rfl, filled, -, run_mem, behind⟩
    obtain ⟨y, z, rfl, capital, small⟩ : ∃ y z, right = [y, z] ∧ isCapital y = true ∧
        isSmall z = true := by
      obtain _ | ⟨capital, _ | ⟨small, _ | _⟩⟩ := behind
      exact ⟨_, _, rfl, capital, small⟩
    have longer_mem : ∀ x ∈ left ++ [y], isCapitalOrDigit x = true := by
      intro x mem
      rcases List.mem_append.1 mem with before | last
      · exact run_mem x before
      · rw [List.mem_singleton.1 last]
        exact isCapitalOrDigit_of_isCapital capital
    have parted := partAt_endsAcronym_run longer_mem (isCapitalOrDigit_eq_false_of_isSmall small) rest
    rw [if_pos small, partLast_concat filled capital] at parted
    simpa using parted
  case skip =>
    intro x cs none
    apply partAt_cons
    rintro y rest rfl
    -- If a word began here, the pattern would match with the one character in front of it.
    apply Bool.eq_false_iff.2
    intro starts
    simp only [endsAcronym, Bool.and_eq_true] at starts
    obtain ⟨⟨mem, capital⟩, next⟩ := starts
    cases rest with
    | nil => cases next
    | cons z rest =>
      refine none [x] [y, z] rest ⟨rfl, List.cons_ne_nil _ _, fun _ => rfl, ?_, ?_⟩
      · exact List.forall_mem_singleton.2 mem
      · exact .cons capital (.cons next .nil)

end Acronyms

/-! ## Words -/

section Words

variable {cs rest out : List Char} {x y : Char}

theorem endsWord_eq_false_of_isCapital (capital : isCapital x = true) (y : Char)
    (next : Option Char) : endsWord x y next = false := by
  rw [endsWord, isSmall_eq_false_of_isCapital capital, isDecimalDigit_eq_false_of_isCapital capital]
  rfl

/-- No word begins behind the capital that begins one. -/
theorem partAt_endsWord_of_starts (starts : ((isSmall x || isDecimalDigit x) && isCapital y) = true)
    (rest : List Char) :
    partAt endsWord (x :: y :: rest) = x :: '_' :: y :: partAt endsWord rest := by
  have capital : isCapital y = true := (Bool.and_eq_true_iff.1 starts).2
  rw [partAt_cons_cons_of_starts starts, partAt_cons]
  intro z _ _
  exact endsWord_eq_false_of_isCapital capital z _

theorem partWords_eq (cs : List Char) : partWords cs = partAt endsWord cs := by
  fun_induction partWords cs with
  | case1 x y rest starts ih => rw [ih, partAt_endsWord_of_starts starts]
  | case2 x y rest inside ih =>
    have skipped : partAt endsWord (x :: y :: rest) = x :: partAt endsWord (y :: rest) :=
      if_neg inside
    rw [ih, skipped]
  | case3 cs short =>
    obtain _ | ⟨x, _ | ⟨y, rest⟩⟩ := cs
    · rfl
    · rfl
    · exact absurd rfl (short x y rest)

/-- A small letter or a digit, and behind it a capital. -/
def wordEnd : Pattern :=
  { first := fun c => isSmall c || isDecimalDigit c, repeats := false, second := [isCapital] }

/-- **The pattern of words** matches where a capital begins one behind a small letter or a digit. -/
theorem wordEnd_parts_iff : wordEnd.Parts cs out ↔ out = partAt endsWord cs := by
  apply Pattern.parts_iff
  case nil => rfl
  case part =>
    rintro cs left right rest ⟨rfl, -, single, mem, behind⟩
    obtain ⟨x, rfl⟩ := List.length_eq_one_iff.1 (single rfl)
    obtain _ | ⟨capital, _ | _⟩ := behind
    have before : (isSmall x || isDecimalDigit x) = true := mem x List.mem_cons_self
    exact partAt_endsWord_of_starts (Bool.and_eq_true_iff.2 ⟨before, capital⟩) rest
  case skip =>
    intro x cs none
    apply partAt_cons
    rintro y rest rfl
    apply Bool.eq_false_iff.2
    intro starts
    obtain ⟨before, capital⟩ := Bool.and_eq_true_iff.1 starts
    refine none [x] [y] rest ⟨rfl, List.cons_ne_nil _ _, fun _ => rfl, ?_, .cons capital .nil⟩
    exact List.forall_mem_singleton.2 before

/-- An underscore of the first pass has no word behind it or before it. -/
theorem partAt_endsWord_underscore (x y : Char) (out : List Char) :
    partAt endsWord (x :: '_' :: y :: out) = x :: '_' :: partAt endsWord (y :: out) := by
  have no_digit : isDecimalDigit '_' = false := isDecimalDigit_eq_false (by decide) (by decide)
  rw [partAt_cons, partAt_cons]
  · rintro _ _ ⟨⟩
    rw [endsWord, no_digit]
    rfl
  · rintro _ _ ⟨⟩
    exact Bool.and_false _

/-- **Both passes together** part a text by one rule. -/
theorem partAt_endsWord_partAt_endsAcronym (cs : List Char) :
    partAt endsWord (partAt endsAcronym cs) = partAt startsWord cs := by
  induction cs with
  | nil => rfl
  | cons x cs ih =>
    cases cs with
    | nil => rfl
    | cons y rest =>
      -- The second pass meets the same character `y`, whatever the first one does behind it.
      obtain ⟨out, parted⟩ := partAt_cons_eq endsAcronym y rest
      rw [parted] at ih
      simp only [partAt, startsWord_eq]
      cases first : endsAcronym x y rest.head? with
      | true =>
        rw [if_pos rfl, Bool.true_or, if_pos rfl, parted, partAt_endsWord_underscore, ih]
      | false =>
        rw [if_neg Bool.false_ne_true, Bool.false_or, parted, partAt, ih]
        rfl

end Words

/-! ## Marks -/

/-- Writes a slash for two colons, from the left. -/
def slashColons : List Char → List Char
  | ':' :: ':' :: rest => '/' :: slashColons rest
  | c :: rest => c :: slashColons rest
  | [] => []

/-- Writes an underscore for a dash. -/
def underscoreDash (c : Char) : Char :=
  if c = '-' then '_' else c

theorem replaceMarks_eq (cs : List Char) :
    replaceMarks cs = (slashColons cs).map underscoreDash := by
  fun_induction slashColons cs with
  | case1 rest ih => exact congrArg ('/' :: ·) ih
  | case2 c rest alone ih =>
    rw [replaceMarks, ih]
    · rfl
    · exact alone
  | case3 => rfl

theorem head?_of_head?_slashColons {cs : List Char} (front : (slashColons cs).head? = some ':') :
    cs.head? = some ':' := by
  fun_cases slashColons cs with
  | case1 rest => rfl
  | case2 c rest alone => rwa [slashColons] at front; exact alone
  | case3 => exact front

/-- No two colons are left next to each other. -/
theorem isChain_slashColons (cs : List Char) : (slashColons cs).IsChain (Apart ':') := by
  fun_induction slashColons cs with
  | case1 rest ih =>
    refine List.isChain_cons.2 ⟨?_, ih⟩
    rintro y - ⟨⟩
  | case2 c rest alone ih =>
    refine List.isChain_cons.2 ⟨?_, ih⟩
    rintro y front rfl rfl
    obtain ⟨rest', rfl⟩ := List.head?_eq_some_iff.1 (head?_of_head?_slashColons front)
    exact alone rest' rfl rfl
  | case3 => exact .nil

theorem slashColons_eq_self {cs : List Char} (apart : cs.IsChain (Apart ':')) :
    slashColons cs = cs := by
  fun_induction slashColons cs with
  | case1 rest ih => exact absurd rfl ((List.isChain_cons_cons.1 apart).1 rfl)
  | case2 c rest alone ih => rw [ih apart.tail]
  | case3 => rfl

theorem not_infix_of_isChain {cs : List Char} (apart : cs.IsChain (Apart ':')) :
    ¬ [':', ':'] <:+: cs := by
  intro inside
  have pair := apart.infix inside
  exact absurd rfl ((List.isChain_cons_cons.1 pair).1 rfl)

theorem underscoreDash_ne_dash (c : Char) : underscoreDash c ≠ '-' := by
  unfold underscoreDash
  split
  · decide
  · assumption

theorem eq_colon_of_underscoreDash {c : Char} (colon : underscoreDash c = ':') : c = ':' := by
  unfold underscoreDash at colon
  split at colon
  · cases colon
  · exact colon

theorem isChain_replaceMarks (cs : List Char) : (replaceMarks cs).IsChain (Apart ':') := by
  rw [replaceMarks_eq, List.isChain_map]
  apply (isChain_slashColons cs).imp
  intro x y apart left right
  exact apart (eq_colon_of_underscoreDash left) (eq_colon_of_underscoreDash right)

/-! ## Underscored names -/

theorem toList_underscore (name : String) :
    (underscore name).toList = lowerCase (replaceMarks (partAt startsWord name.toList)) := by
  rw [underscore, String.toList_ofList, partWords_eq, partAcronyms_eq, List.reverse_nil,
    List.nil_append, partAt_endsWord_partAt_endsAcronym]
  exact fun _ mem => absurd mem List.not_mem_nil

/-- There is nothing in the name that is still to be written in another way. -/
structure IsUnderscored (name : List Char) : Prop where
  lowered : ∀ c ∈ name, IsLowered c
  dashless : '-' ∉ name
  apart : name.IsChain (Apart ':')

namespace IsUnderscored

variable {cs : List Char} (done : IsUnderscored cs)
include done

theorem isCapital_eq_false {c : Char} (mem : c ∈ cs) : isCapital c = false := by
  apply Bool.eq_false_iff.2
  intro capital
  exact Text.not_isLowered_of_isUpper capital (done.lowered c mem)

/-- A word begins with a capital. -/
theorem partAt_startsWord_eq_self : partAt startsWord cs = cs := by
  apply partAt_eq_self
  intro x y mem next
  rw [startsWord, done.isCapital_eq_false mem, Bool.false_and]

theorem replaceMarks_eq_self : replaceMarks cs = cs := by
  have same : ∀ c ∈ cs, underscoreDash c = id c := by
    intro c mem
    apply if_neg
    rintro rfl
    exact done.dashless mem
  rw [replaceMarks_eq, slashColons_eq_self done.apart, List.map_congr_left same, List.map_id]

end IsUnderscored

theorem isUnderscored_underscore (name : String) : IsUnderscored (underscore name).toList := by
  rw [toList_underscore]
  refine ⟨fun c mem => Text.isLowered_of_mem_lowerCase mem, ?_, ?_⟩
  · intro dash
    have kept := Text.mem_of_mem_lowerCaseFrom (by decide) dash
    rw [replaceMarks_eq] at kept
    obtain ⟨c, -, written⟩ := List.mem_map.1 kept
    exact underscoreDash_ne_dash c written
  · exact Text.isChain_lowerCase (by decide) (isChain_replaceMarks _)

/-- These are the names that stay what they are. -/
theorem underscore_eq_self_iff {name : String} :
    underscore name = name ↔ IsUnderscored name.toList := by
  constructor
  · intro same
    rw [← same]
    exact isUnderscored_underscore name
  · intro done
    apply String.toList_inj.1
    rw [toList_underscore, done.partAt_startsWord_eq_self, done.replaceMarks_eq_self,
      Text.lowerCase_eq_self done.lowered]

/-- **A name is parted by one rule**: the passes with their patterns have one outcome, and this is the name
with an underscore wherever two neighbours and the character behind them start a word. With its marks
replaced and in lower case, it has no capitals, no dashes and no two colons in a row, and it stays what it
is from then on. -/
theorem underscore_by_boundaries (name : String) :
    (∀ words, (∃ acronyms, acronymEnd.Parts name.toList acronyms ∧ wordEnd.Parts acronyms words) ↔
      words = partAt startsWord name.toList) ∧
    (underscore name).toList =
      lowerCase ((slashColons (partAt startsWord name.toList)).map underscoreDash) ∧
    (∀ c ∈ (underscore name).toList, isCapital c = false ∧ c ≠ '-') ∧
    ¬ [':', ':'] <:+: (underscore name).toList ∧
    underscore (underscore name) = underscore name := by
  have done := isUnderscored_underscore name
  refine ⟨?_, ?_, ?_, not_infix_of_isChain done.apart, underscore_eq_self_iff.2 done⟩
  · intro words
    simp only [acronymEnd_parts_iff, wordEnd_parts_iff, exists_eq_left,
      partAt_endsWord_partAt_endsAcronym]
  · rw [toList_underscore, replaceMarks_eq]
  · intro c mem
    refine ⟨done.isCapital_eq_false mem, ?_⟩
    rintro rfl
    exact done.dashless mem

example : underscore "HTTPRequest::Id-1A" = "http_request/id_1_a" := by
  decide +kernel

end CloudSearch.Domain
