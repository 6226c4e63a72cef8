import Mathlib.Data.List.Forall2
import Mathlib.Tactic.Push

/-!
# Parting a text where a pattern matches

A pattern has two groups, and every match of it is written again with an underscore between what they
match. Matches are looked for from the left, each is the one with the longest first group where it
begins, and the search goes on behind it, so that no character is in two of them (`Pattern.Parts`). This
has always one outcome, and a function of texts finds it if it does the same at the front of every text
(`Pattern.parts_iff`).
-/

namespace CloudSearch.Text

/-- The first group matches a character of the class `first`, or a run of them if it `repeats`. The second
one matches a character of each of the classes listed. -/
structure Pattern where
  first : Char → Bool
  repeats : Bool
  second : List (Char → Bool)

namespace Pattern

variable {p : Pattern} {cs out left right rest : List Char}

/-- At the front of the text, the groups match `left` and `right` and leave the rest. -/
structure Matches (p : Pattern) (cs left right rest : List Char) : Prop where
  text : cs = left ++ right ++ rest
  filled : left ≠ []
  single : p.repeats = false → left.length = 1
  first : ∀ c ∈ left, p.first c = true
  second : List.Forall₂ (fun has c => has c = true) p.second right

/-- Among the matches at the front of the text, this one has the longest first group. -/
structure MatchesGreedily (p : Pattern) (cs left right rest : List Char) : Prop extends
    p.Matches cs left right rest where
  longest : ∀ {left' right' rest'}, p.Matches cs left' right' rest' → left'.length ≤ left.length

/-- The text with every match parted. -/
inductive Parts (p : Pattern) : List Char → List Char → Prop
  | done : Parts p [] []
  | skip {c : Char} {cs out : List Char}
      (none : ∀ left right rest, ¬ p.Matches (c :: cs) left right rest)
      (behind : Parts p cs out) : Parts p (c :: cs) (c :: out)
  | part {cs left right rest out : List Char} (here : p.MatchesGreedily cs left right rest)
      (behind : Parts p rest out) : Parts p cs (left ++ '_' :: (right ++ out))

theorem Matches.length_left_le (m : p.Matches cs left right rest) : left.length ≤ cs.length := by
  rw [m.text, List.append_assoc, List.length_append]
  exact Nat.le_add_right _ _

theorem Matches.length_rest_lt (m : p.Matches cs left right rest) : rest.length < cs.length := by
  have filled := List.length_pos_iff.2 m.filled
  rw [m.text, List.length_append, List.length_append]
  omega

/-- Where there is a match, there is one with the longest first group. -/
theorem Matches.exists_greedy (m : p.Matches cs left right rest) :
    ∃ left right rest, p.MatchesGreedily cs left right rest := by
  -- The first group can become longer only as far as the text goes.
  induction room : cs.length - left.length using Nat.strongRecOn
    generalizing left right rest with
  | _ n ih =>
    by_cases longest : ∀ left' right' rest', p.Matches cs left' right' rest' →
        left'.length ≤ left.length
    · exact ⟨left, right, rest, m, longest _ _ _⟩
    · push Not at longest
      obtain ⟨left', right', rest', m', longer⟩ := longest
      have fits := m'.length_left_le
      exact ih _ (by omega) m' rfl

theorem exists_parts (p : Pattern) (cs : List Char) : ∃ out, p.Parts cs out := by
  induction size : cs.length using Nat.strongRecOn generalizing cs with
  | _ n ih =>
    cases cs with
    | nil => exact ⟨[], .done⟩
    | cons c cs =>
      by_cases some : ∃ left right rest, p.Matches (c :: cs) left right rest
      · obtain ⟨_, _, _, m⟩ := some
        obtain ⟨left, right, rest, here⟩ := m.exists_greedy
        obtain ⟨out, behind⟩ := ih _ (size ▸ here.length_rest_lt) rest rfl
        exact ⟨_, .part here behind⟩
      · push Not at some
        obtain ⟨out, behind⟩ := ih _ (by rw [← size]; exact Nat.lt_succ_self _) cs rfl
        exact ⟨_, .skip some behind⟩

/-- **A function parts the matches** of a pattern if it does so at the front of every text. -/
theorem parts_iff {f : List Char → List Char} (nil : f [] = [])
    (part : ∀ {cs left right rest}, p.Matches cs left right rest →
      f cs = left ++ '_' :: (right ++ f rest))
    (skip : ∀ c cs, (∀ left right rest, ¬ p.Matches (c :: cs) left right rest) →
      f (c :: cs) = c :: f cs) :
    p.Parts cs out ↔ out = f cs := by
  have value {cs out : List Char} (parts : p.Parts cs out) : out = f cs := by
    induction parts with
    | done => exact nil.symm
    | skip none _ ih => rw [skip _ _ none, ih]
    | part here _ ih => rw [part here.toMatches, ih]
  constructor
  · exact value
  · rintro rfl
    obtain ⟨out, parts⟩ := p.exists_parts cs
    rwa [← value parts]

end Pattern

end CloudSearch.Text
