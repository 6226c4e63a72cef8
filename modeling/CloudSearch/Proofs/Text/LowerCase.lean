import CloudSearch.Text.LowerCase
import Mathlib.Data.List.Chain

/-!
# What lower-casing leaves alone

Lower-casing writes some characters for others, and it replaces none of those that it writes. The
tables are compared once for this, as sets of bits (`not_isReplaced_of_isWritten`), and everything else
follows from what becomes of a single character (`loweredAt_cases`): text in lower case stays what it is,
and capitals are gone. The digits and the marks up to the colon are never written for another character,
so that lower-casing brings no two of them together that were apart (`isChain_lowerCase`).
-/

namespace CloudSearch.Text

/-! ## The tables -/

/-- The union of sets of numbers, one for each item. The number `n` is in a set if bit `n` is set. -/
def union {α : Type} (f : α → Nat) (items : List α) : Nat :=
  items.foldr (fun item set => f item ||| set) 0

theorem testBit_union {α : Type} (f : α → Nat) (items : List α) (n : Nat) :
    (union f items).testBit n = true ↔ ∃ item ∈ items, (f item).testBit n = true := by
  induction items with
  | nil => simp [union]
  | cons item items ih =>
    rw [union, List.foldr_cons, ← union, Nat.testBit_or, Bool.or_eq_true, ih,
      List.exists_mem_cons_iff]

namespace CaseRun

variable {r : CaseRun} {n : Nat}

/-- The code points of a run. -/
def members (r : CaseRun) : List Nat :=
  (List.range ((r.last - r.first) / r.stride + 1)).map fun i => r.first + i * r.stride

/-- Where the lower-case letter of a code point stands. -/
def target (r : CaseRun) (n : Nat) : Nat :=
  (n + r.distance).toNat

theorem mem_members_of_has (has : r.has n = true) : n ∈ r.members := by
  simp only [CaseRun.has, Bool.and_eq_true, decide_eq_true_eq, beq_iff_eq] at has
  obtain ⟨⟨first, last⟩, stride⟩ := has
  have steps : (n - r.first) / r.stride ≤ (r.last - r.first) / r.stride :=
    Nat.div_le_div_right (by omega)
  have whole := Nat.div_add_mod' (n - r.first) r.stride
  apply List.mem_map.2
  refine ⟨(n - r.first) / r.stride, List.mem_range.2 (by omega), ?_⟩
  omega

end CaseRun

/-- What `f` makes of the code points in the runs. -/
def ofRuns (f : CaseRun → Nat → Nat) : Nat :=
  union (fun r => union (fun n => 1 <<< f r n) r.members) lowerCaseRuns

theorem testBit_ofRuns (f : CaseRun → Nat → Nat) {r : CaseRun} (listed : r ∈ lowerCaseRuns) {n : Nat}
    (has : r.has n = true) : (ofRuns f).testBit (f r n) = true := by
  apply (testBit_union _ _ _).2
  refine ⟨r, listed, (testBit_union _ _ _).2 ⟨n, CaseRun.mem_members_of_has has, ?_⟩⟩
  rw [Nat.one_shiftLeft, Nat.testBit_two_pow_self]

/-- The code points of the characters that lower-casing replaces: the capital I with a dot and those in
the runs. -/
def replaced : Nat :=
  1 <<< 0x130 ||| ofRuns fun _ n => n

/-- The code points that lower-casing writes for others: the combining dot, the final sigma and what the
runs lead to. -/
def written : Nat :=
  1 <<< 0x307 ||| (1 <<< 0x3C2 ||| ofRuns CaseRun.target)

def IsReplaced (c : Char) : Prop :=
  replaced.testBit c.toNat = true

def IsWritten (c : Char) : Prop :=
  written.testBit c.toNat = true

theorem isReplaced_of_has {r : CaseRun} (listed : r ∈ lowerCaseRuns) {c : Char}
    (has : r.has c.toNat = true) : IsReplaced c := by
  rw [IsReplaced, replaced, Nat.testBit_or, testBit_ofRuns (fun _ n => n) listed has, Bool.or_true]

theorem testBit_written {r : CaseRun} (listed : r ∈ lowerCaseRuns) {n : Nat}
    (has : r.has n = true) : written.testBit (r.target n) = true := by
  rw [written, Nat.testBit_or, Nat.testBit_or, testBit_ofRuns CaseRun.target listed has,
    Bool.or_true, Bool.or_true]

/-- The code point that a run leads to is that of a character. -/
theorem isValidChar_target {r : CaseRun} (listed : r ∈ lowerCaseRuns) {n : Nat}
    (has : r.has n = true) : (r.target n).isValidChar := by
  have checked : (lowerCaseRuns.all fun r => r.members.all fun n =>
      decide (r.target n).isValidChar) = true := by decide +kernel
  have members := List.all_eq_true.1 (List.all_eq_true.1 checked r listed)
  exact of_decide_eq_true (members n (CaseRun.mem_members_of_has has))

/-- Up to the colon there are only digits and marks. With what lower-casing replaces they have nothing in
common with what it writes. -/
theorem replaced_and_written : (1 <<< 0x3B - 1 ||| replaced) &&& written = 0 := by
  decide +kernel

section Written

variable {c : Char} (here : IsWritten c)
include here

theorem not_mark_or_replaced_of_isWritten : ¬ (c.toNat < 0x3B ∨ IsReplaced c) := by
  intro other
  have both : ((1 <<< 0x3B - 1 ||| replaced) &&& written).testBit c.toNat = true := by
    rw [Nat.testBit_and, Nat.testBit_or, Nat.one_shiftLeft, Nat.testBit_two_pow_sub_one,
      Bool.and_eq_true, Bool.or_eq_true, decide_eq_true_eq]
    exact ⟨other, here⟩
  rw [replaced_and_written, Nat.zero_testBit] at both
  cases both

/-- **No character that lower-casing writes** is one that it replaces. -/
theorem not_isReplaced_of_isWritten : ¬ IsReplaced c :=
  fun other => not_mark_or_replaced_of_isWritten here (.inr other)

theorem lt_of_isWritten : 0x3A < c.toNat :=
  Nat.lt_of_not_le fun mark => not_mark_or_replaced_of_isWritten here
    (.inl (Nat.lt_succ_of_le mark))

end Written

theorem toNat_ofNat {n : Nat} (valid : n.isValidChar) : (Char.ofNat n).toNat = n := by
  unfold Char.ofNat
  rw [dif_pos valid]
  rfl

/-! ## One character -/

/-- What is written for a character between those `before` it and the `rest`. -/
def loweredAt (before : List Char) (c : Char) (rest : List Char) : List Char :=
  if c = 'Σ' then
    if meetsCased before && !meetsCased rest then ['ς'] else ['σ']
  else lowerCaseChar c

/-- A character that is already in lower case stays what it is, wherever it stands. -/
def IsLowered (c : Char) : Prop :=
  ∀ before rest, loweredAt before c rest = [c]

theorem lowerCaseFrom_cons (before : List Char) (c : Char) (rest : List Char) :
    lowerCaseFrom before (c :: rest) =
      loweredAt before c rest ++ lowerCaseFrom (c :: before) rest :=
  rfl

theorem isLowered_of_not_isReplaced {c : Char} (other : ¬ IsReplaced c) : IsLowered c := by
  have special : IsReplaced 'Σ' ∧ IsReplaced '\u0130' := by
    unfold IsReplaced
    decide +kernel
  have not_sigma : c ≠ 'Σ' := by
    rintro rfl
    exact other special.1
  have not_dotted : c ≠ '\u0130' := by
    rintro rfl
    exact other special.2
  have in_no_run : lowerCaseRuns.find? (·.has c.toNat) = none := by
    apply List.find?_eq_none.2
    intro r listed has
    exact other (isReplaced_of_has listed has)
  intro before rest
  rw [loweredAt, if_neg not_sigma, lowerCaseChar, if_neg not_dotted, in_no_run]

theorem isLowered_of_isWritten {c : Char} (here : IsWritten c) : IsLowered c :=
  isLowered_of_not_isReplaced (not_isReplaced_of_isWritten here)

/-- What becomes of a character by itself. -/
theorem lowerCaseChar_cases (c : Char) :
    lowerCaseChar c = [c] ∨ lowerCaseChar c ≠ [] ∧ ∀ x ∈ lowerCaseChar c, IsWritten x := by
  have dotted : IsWritten 'i' ∧ IsWritten '\u0307' := by
    unfold IsWritten
    decide +kernel
  unfold lowerCaseChar
  split
  · refine .inr ⟨List.cons_ne_nil _ _, List.forall_mem_cons.2 ⟨dotted.1, ?_⟩⟩
    exact List.forall_mem_singleton.2 dotted.2
  · split
    · rename_i r found
      have has : r.has c.toNat = true := by simpa using List.find?_some found
      have listed := List.mem_of_find?_eq_some found
      refine .inr ⟨List.cons_ne_nil _ _, List.forall_mem_singleton.2 ?_⟩
      change written.testBit (Char.ofNat (r.target c.toNat)).toNat = true
      rw [toNat_ofNat (isValidChar_target listed has)]
      exact testBit_written listed has
    · exact .inl rfl

/-- A character is in lower case, or others are written for it. -/
theorem loweredAt_cases (before : List Char) (c : Char) (rest : List Char) :
    IsLowered c ∨ loweredAt before c rest ≠ [] ∧ ∀ x ∈ loweredAt before c rest, IsWritten x := by
  have sigmas : IsWritten 'ς' ∧ IsWritten 'σ' := by
    unfold IsWritten
    decide +kernel
  by_cases sigma : c = 'Σ'
  · right
    rw [loweredAt, if_pos sigma]
    split
    · exact ⟨List.cons_ne_nil _ _, List.forall_mem_singleton.2 sigmas.1⟩
    · exact ⟨List.cons_ne_nil _ _, List.forall_mem_singleton.2 sigmas.2⟩
  · have same (b r : List Char) : loweredAt b c r = lowerCaseChar c := if_neg sigma
    rw [same]
    apply (lowerCaseChar_cases c).imp_left
    intro stays b r
    rw [same, stays]

theorem bounds_of_isUpper {c : Char} (upper : c.isUpper = true) :
    0x41 ≤ c.toNat ∧ c.toNat ≤ 0x5A := by
  have bounds : 'A'.val ≤ c.val ∧ c.val ≤ 'Z'.val := of_decide_eq_true upper
  exact bounds

theorem not_isLowered_of_isUpper {c : Char} (upper : c.isUpper = true) : ¬ IsLowered c := by
  -- The capitals of ASCII are few enough to try them all.
  have moved : ∀ n ∈ List.range 26, loweredAt [] (Char.ofNat (0x41 + n)) [] ≠
      [Char.ofNat (0x41 + n)] := by decide +kernel
  have bounds := bounds_of_isUpper upper
  intro lowered
  apply moved (c.toNat - 0x41) (List.mem_range.2 (by omega))
  rw [Nat.add_sub_of_le bounds.1, Char.ofNat_toNat]
  exact lowered [] []

/-! ## Texts -/

/-- Lower-casing leaves nothing that it would replace. -/
theorem isLowered_of_mem_lowerCaseFrom {before cs : List Char} {x : Char}
    (mem : x ∈ lowerCaseFrom before cs) : IsLowered x := by
  induction cs generalizing before with
  | nil => cases mem
  | cons c rest ih =>
    rw [lowerCaseFrom_cons] at mem
    cases List.mem_append.1 mem with
    | inr later => exact ih later
    | inl here =>
      rcases loweredAt_cases before c rest with stays | ⟨-, others⟩
      · rw [stays before rest] at here
        rwa [List.mem_singleton.1 here]
      · exact isLowered_of_isWritten (others x here)

theorem isLowered_of_mem_lowerCase {cs : List Char} {x : Char} (mem : x ∈ lowerCase cs) :
    IsLowered x :=
  isLowered_of_mem_lowerCaseFrom mem

theorem lowerCaseFrom_eq_self {before cs : List Char} (lowered : ∀ c ∈ cs, IsLowered c) :
    lowerCaseFrom before cs = cs := by
  induction cs generalizing before with
  | nil => rfl
  | cons c rest ih =>
    have later : ∀ x ∈ rest, IsLowered x := fun x mem => lowered x (List.mem_cons_of_mem _ mem)
    rw [lowerCaseFrom_cons, lowered c List.mem_cons_self, ih later]
    rfl

theorem lowerCase_eq_self {cs : List Char} (lowered : ∀ c ∈ cs, IsLowered c) : lowerCase cs = cs :=
  lowerCaseFrom_eq_self lowered

/-- **Lower-casing twice** is lower-casing once. -/
theorem lowerCase_lowerCase (cs : List Char) : lowerCase (lowerCase cs) = lowerCase cs :=
  lowerCase_eq_self fun _ mem => isLowered_of_mem_lowerCase mem

/-! ## Marks -/

section Mark

variable {mark : Char} (isMark : mark.toNat ≤ 0x3A)
include isMark

theorem ne_mark_of_isWritten {x : Char} (here : IsWritten x) : x ≠ mark := by
  rintro rfl
  exact absurd (lt_of_isWritten here) (Nat.not_lt_of_le isMark)

/-- A mark is written for itself alone. -/
theorem mem_of_mem_lowerCaseFrom {before cs : List Char} (mem : mark ∈ lowerCaseFrom before cs) :
    mark ∈ cs := by
  induction cs generalizing before with
  | nil => cases mem
  | cons c rest ih =>
    rw [lowerCaseFrom_cons] at mem
    cases List.mem_append.1 mem with
    | inr later => exact List.mem_cons_of_mem _ (ih later)
    | inl here =>
      rcases loweredAt_cases before c rest with stays | ⟨-, others⟩
      · rw [stays before rest] at here
        rw [List.mem_singleton.1 here]
        exact List.mem_cons_self
      · exact absurd rfl (ne_mark_of_isWritten isMark (others mark here))

/-- A text that has a mark in front when it is in lower case has it in front before. -/
theorem head?_of_head?_lowerCaseFrom {before cs : List Char}
    (front : (lowerCaseFrom before cs).head? = some mark) : cs.head? = some mark := by
  -- Something is written for every character, so that what comes first is written for the first one.
  cases cs with
  | nil => exact front
  | cons c rest =>
    rw [lowerCaseFrom_cons] at front
    rcases loweredAt_cases before c rest with stays | ⟨filled, others⟩
    · rwa [stays before rest] at front
    · rw [List.head?_append_of_ne_nil _ filled] at front
      exact absurd rfl (ne_mark_of_isWritten isMark
        (others mark (List.mem_of_head? front)))

end Mark

/-- Two neighbours that are not both this mark. -/
def Apart (mark x y : Char) : Prop :=
  x = mark → y ≠ mark

/-- **Marks stay apart** when a text is written in lower case. -/
theorem isChain_lowerCaseFrom {mark : Char} (isMark : mark.toNat ≤ 0x3A) {before cs : List Char}
    (apart : cs.IsChain (Apart mark)) : (lowerCaseFrom before cs).IsChain (Apart mark) := by
  induction cs generalizing before with
  | nil => exact .nil
  | cons c rest ih =>
    obtain ⟨behind, chain⟩ := List.isChain_cons.1 apart
    rw [lowerCaseFrom_cons]
    rcases loweredAt_cases before c rest with stays | ⟨-, others⟩
    · rw [stays before rest]
      refine List.isChain_cons.2 ⟨?_, ih chain⟩
      rintro y front rfl rfl
      exact behind _ (head?_of_head?_lowerCaseFrom isMark front) rfl rfl
    · have other (x : Char) (mem : x ∈ loweredAt before c rest) : x ≠ mark :=
        ne_mark_of_isWritten isMark (others x mem)
      refine List.isChain_append.2 ⟨?_, ih chain, ?_⟩
      · exact List.Pairwise.isChain
          (List.pairwise_of_forall_mem_list fun x mem _ _ here => absurd here (other x mem))
      · intro x last _ _ here
        exact absurd here (other x (List.mem_of_getLast? last))

theorem isChain_lowerCase {mark : Char} (isMark : mark.toNat ≤ 0x3A) {cs : List Char}
    (apart : cs.IsChain (Apart mark)) : (lowerCase cs).IsChain (Apart mark) :=
  isChain_lowerCaseFrom isMark apart

end CloudSearch.Text
