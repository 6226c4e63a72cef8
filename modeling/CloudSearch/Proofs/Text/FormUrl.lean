import CloudSearch.Text.FormUrl

/-!
# Form encoding can be undone

Encoding writes a few characters of ASCII only, among which neither the ampersand nor the equals
sign is. Therefore these can part a query string, and `decodePairs_encodePairs` gets the pairs back
from it, whatever characters are in them.
-/

namespace CloudSearch.Text.FormUrl

/-! ## Characters of encoded texts -/

theorem isAlphanum_upperHexDigit {n : Nat} (h : n < 16) :
    (upperHexDigit n).isAlphanum = true := by
  have : ∀ m : Fin 16, (upperHexDigit m).isAlphanum = true := by decide
  exact this ⟨n, h⟩

/-- An encoded text consists of unreserved characters, plus signs and percent signs. -/
def isEncoded (c : Char) : Bool :=
  isUnreserved c || c == '+' || c == '%'

theorem isEncoded_of_mem_percent {b : UInt8} {c : Char} (mem : c ∈ percent b) :
    isEncoded c = true := by
  have bound : b.toNat < 256 := b.toNat_lt
  have digit : ∀ n < 16, isEncoded (upperHexDigit n) = true := by
    intro n h
    simp [isEncoded, isUnreserved, isAlphanum_upperHexDigit h]
  rcases List.mem_cons.1 mem with rfl | mem
  · decide
  rcases List.mem_cons.1 mem with rfl | mem
  · exact digit _ (by omega)
  · cases List.mem_singleton.1 mem
    exact digit _ (by omega)

theorem isEncoded_of_mem_encodeChar {a c : Char} (mem : c ∈ encodeChar a) :
    isEncoded c = true := by
  unfold encodeChar at mem
  split at mem
  · next unreserved =>
    cases List.mem_singleton.1 mem
    simp [isEncoded, unreserved]
  split at mem
  · cases List.mem_singleton.1 mem
    decide
  · obtain ⟨b, -, mem⟩ := List.mem_flatMap.1 mem
    exact isEncoded_of_mem_percent mem

theorem isEncoded_of_mem_encode {s : String} {c : Char} (mem : c ∈ (encode s).toList) :
    isEncoded c = true := by
  rw [encode, String.toList_ofList] at mem
  obtain ⟨a, -, mem⟩ := List.mem_flatMap.1 mem
  exact isEncoded_of_mem_encodeChar mem

/-- A character that is never written by encoding does not occur in an encoded text. -/
theorem not_mem_encode {mark : Char} (reserved : isEncoded mark = false) (s : String) :
    mark ∉ (encode s).toList := by
  intro mem
  rw [isEncoded_of_mem_encode mem] at reserved
  cases reserved

/-! ## Encoding in two passes -/

/-- What the first pass writes for a character, spaces being left to the second. -/
def percentEncodeChar (c : Char) : List Char :=
  if isUnreserved c || c == ' ' then [c] else (String.utf8EncodeChar c).flatMap percent

/-- What the second pass writes for a character. -/
def plusForSpace (c : Char) : Char :=
  if c = ' ' then '+' else c

theorem map_plusForSpace_of_isEncoded {cs : List Char} (encoded : ∀ c ∈ cs, isEncoded c = true) :
    cs.map plusForSpace = cs := by
  have fixed : ∀ c ∈ cs, plusForSpace c = id c := by
    intro c mem
    refine if_neg ?_
    rintro rfl
    exact absurd (encoded ' ' mem) (by decide)
  rw [List.map_congr_left fixed, List.map_id]

theorem encodeChar_eq (c : Char) : encodeChar c = (percentEncodeChar c).map plusForSpace := by
  unfold percentEncodeChar
  by_cases space : c = ' '
  · subst space
    rfl
  · have form : encodeChar c =
        if isUnreserved c then [c] else (String.utf8EncodeChar c).flatMap percent := by
      rw [encodeChar, if_neg space]
    rw [beq_eq_false_iff_ne.2 space, Bool.or_false, ← form]
    exact (map_plusForSpace_of_isEncoded fun _ mem => isEncoded_of_mem_encodeChar mem).symm

/-- Encoding is percent encoding that leaves the spaces, and then a plus sign for each of them. -/
theorem toList_encode (s : String) :
    (encode s).toList = (s.toList.flatMap percentEncodeChar).map plusForSpace := by
  have passes : encodeChar = fun c => (percentEncodeChar c).map plusForSpace :=
    funext encodeChar_eq
  rw [encode, String.toList_ofList, List.map_flatMap, passes]

/-! ## Decoding encoded texts -/

theorem decodeBytes_percent (b : UInt8) (rest : List Char) :
    decodeBytes (percent b ++ rest) = (decodeBytes rest).map (b :: ·) := by
  have bound : b.toNat < 256 := b.toNat_lt
  have high := hexValue?_upperHexDigit (show b.toNat / 16 < 16 by omega)
  have low := hexValue?_upperHexDigit (show b.toNat % 16 < 16 by omega)
  have byte : UInt8.ofNat (16 * (b.toNat / 16) + b.toNat % 16) = b := by
    rw [Nat.div_add_mod, UInt8.ofNat_toNat]
  rw [percent, List.cons_append, List.cons_append, List.singleton_append, decodeBytes, high, low]
  cases decodeBytes rest with
  | none => rfl
  | some bytes =>
    show some (UInt8.ofNat (16 * (b.toNat / 16) + b.toNat % 16) :: bytes) = some (b :: bytes)
    rw [byte]

theorem decodeBytes_percents (bytes : List UInt8) (rest : List Char) :
    decodeBytes (bytes.flatMap percent ++ rest) = (decodeBytes rest).map (bytes ++ ·) := by
  induction bytes with
  | nil => simp
  | cons b bytes ih =>
    rw [List.flatMap_cons, List.append_assoc, decodeBytes_percent, ih, Option.map_map]
    rfl

theorem decodeBytes_unreserved {c : Char} (unreserved : isUnreserved c = true)
    (rest : List Char) :
    decodeBytes (c :: rest) = (decodeBytes rest).map (String.utf8EncodeChar c ++ ·) := by
  have percent : c ≠ '%' := by
    rintro rfl
    exact absurd unreserved (by decide)
  have plus : c ≠ '+' := by
    rintro rfl
    exact absurd unreserved (by decide)
  rw [decodeBytes]
  · rw [if_neg percent, if_neg plus]
  · intro _ _ _ h
    exact absurd h percent

/-- What is written for a character is read as the bytes of its UTF-8 form. -/
theorem decodeBytes_encodeChar (c : Char) (rest : List Char) :
    decodeBytes (encodeChar c ++ rest) =
      (decodeBytes rest).map (String.utf8EncodeChar c ++ ·) := by
  unfold encodeChar
  split
  · next unreserved => exact decodeBytes_unreserved unreserved rest
  split
  · next space =>
    subst space
    rfl
  · exact decodeBytes_percents _ rest

theorem decodeBytes_flatMap_encodeChar (cs rest : List Char) :
    decodeBytes (cs.flatMap encodeChar ++ rest) =
      (decodeBytes rest).map (cs.flatMap String.utf8EncodeChar ++ ·) := by
  induction cs with
  | nil => simp
  | cons c cs ih =>
    rw [List.flatMap_cons, List.append_assoc, decodeBytes_encodeChar, ih, Option.map_map,
      List.flatMap_cons]
    congr 1
    funext bytes
    exact (List.append_assoc _ _ _).symm

/-- Decoding undoes encoding. -/
theorem decode_encode (s : String) : decode (encode s).toList = some s := by
  have bytes : decodeBytes (encode s).toList = some (s.toList.flatMap String.utf8EncodeChar) := by
    have whole := decodeBytes_flatMap_encodeChar s.toList []
    rw [List.append_nil] at whole
    rw [encode, String.toList_ofList, whole]
    simp [decodeBytes]
  have utf8 : (s.toList.flatMap String.utf8EncodeChar).toByteArray = s.toByteArray :=
    String.utf8Encode_toList
  rw [decode, bytes, Option.bind_eq_bind, Option.bind_some, utf8, String.fromUTF8?,
    dif_pos s.isValidUTF8]
  rfl

/-! ## Taking query strings apart -/

theorem splitAt_of_not_mem {mark : Char} {piece : List Char} (whole : mark ∉ piece) :
    splitAt mark piece = [piece] := by
  induction piece with
  | nil => rfl
  | cons c piece ih =>
    rw [List.mem_cons, not_or] at whole
    rw [splitAt, if_neg (Ne.symm whole.1), ih whole.2]

theorem splitAt_append {mark : Char} {piece : List Char} (whole : mark ∉ piece)
    (rest : List Char) :
    splitAt mark (piece ++ mark :: rest) = piece :: splitAt mark rest := by
  induction piece with
  | nil => rw [List.nil_append, splitAt, if_pos rfl]
  | cons c piece ih =>
    rw [List.mem_cons, not_or] at whole
    rw [List.cons_append, splitAt, if_neg (Ne.symm whole.1), ih whole.2]

theorem toList_intercalate_cons_cons (mark : Char) (first second : String) (rest : List String) :
    ((String.singleton mark).intercalate (first :: second :: rest)).toList =
      first.toList ++ mark :: ((String.singleton mark).intercalate (second :: rest)).toList := by
  rw [String.intercalate_cons_cons, String.toList_append, String.toList_append,
    String.toList_singleton, List.append_assoc, List.singleton_append]

theorem splitAt_intercalate {mark : Char} {pieces : List String} (filled : pieces ≠ [])
    (whole : ∀ piece ∈ pieces, mark ∉ piece.toList) :
    splitAt mark ((String.singleton mark).intercalate pieces).toList =
      pieces.map String.toList := by
  induction pieces with
  | nil => exact absurd rfl filled
  | cons piece pieces ih =>
    rw [List.forall_mem_cons] at whole
    cases pieces with
    | nil =>
      rw [String.intercalate_singleton, splitAt_of_not_mem whole.1]
      rfl
    | cons next pieces =>
      rw [toList_intercalate_cons_cons, splitAt_append whole.1, ih (by simp) whole.2]
      rfl

/-- A key and a value as they stand in a query string. -/
def pairText (p : String × String) : String :=
  encode p.1 ++ "=" ++ encode p.2

theorem toList_pairText (p : String × String) :
    (pairText p).toList = (encode p.1).toList ++ '=' :: (encode p.2).toList := by
  rw [pairText, String.toList_append, String.toList_append, List.append_assoc]
  rfl

theorem isEncoded_of_mem_pairText {p : String × String} {c : Char}
    (mem : c ∈ (pairText p).toList) : isEncoded c = true ∨ c = '=' := by
  rw [toList_pairText] at mem
  rcases List.mem_append.1 mem with key | mem
  · exact .inl (isEncoded_of_mem_encode key)
  rcases List.mem_cons.1 mem with rfl | value
  · exact .inr rfl
  · exact .inl (isEncoded_of_mem_encode value)

theorem decodePair_pairText (p : String × String) : decodePair (pairText p).toList = some p := by
  have key : ∀ c ∈ (encode p.1).toList, (c != '=') = true := by
    intro c mem
    rw [bne_iff_ne]
    rintro rfl
    exact not_mem_encode (by decide) p.1 mem
  rw [toList_pairText, decodePair, List.takeWhile_append_of_pos key,
    List.dropWhile_append_of_pos key]
  simp [decode_encode]

theorem mapM_decodePair (pairs : List (String × String)) :
    (pairs.map fun p => (pairText p).toList).mapM decodePair = some pairs := by
  induction pairs with
  | nil => rfl
  | cons p pairs ih =>
    rw [List.map_cons, List.mapM_cons, decodePair_pairText, ih]
    rfl

/-- **The pairs can be got back.** A query string of at least one pair carries just these pairs. -/
theorem decodePairs_encodePairs {pairs : List (String × String)} (filled : pairs ≠ []) :
    decodePairs (encodePairs pairs).toList = some pairs := by
  have whole : ∀ piece ∈ pairs.map pairText, '&' ∉ piece.toList := by
    intro piece mem ampersand
    obtain ⟨p, -, rfl⟩ := List.mem_map.1 mem
    exact absurd (isEncoded_of_mem_pairText ampersand) (by decide)
  have pieces : splitAt '&' (encodePairs pairs).toList =
      (pairs.map pairText).map String.toList :=
    splitAt_intercalate (by simpa using filled) whole
  rw [decodePairs, pieces, List.map_map]
  exact mapM_decodePair pairs

theorem mem_intercalate {mark c : Char} {pieces : List String}
    (mem : c ∈ ((String.singleton mark).intercalate pieces).toList) :
    c = mark ∨ ∃ piece ∈ pieces, c ∈ piece.toList := by
  induction pieces with
  | nil => exact absurd mem (by simp)
  | cons piece pieces ih =>
    cases pieces with
    | nil =>
      rw [String.intercalate_singleton] at mem
      exact .inr ⟨piece, by simp, mem⟩
    | cons next pieces =>
      rw [toList_intercalate_cons_cons] at mem
      rcases List.mem_append.1 mem with here | mem
      · exact .inr ⟨piece, by simp, here⟩
      rcases List.mem_cons.1 mem with rfl | later
      · exact .inl rfl
      rcases ih later with rfl | ⟨other, among, inside⟩
      · exact .inl rfl
      · exact .inr ⟨other, List.mem_cons_of_mem _ among, inside⟩

/-- The characters of query strings. -/
def isQueryChar (c : Char) : Bool :=
  c.isAlphanum || ['-', '.', '_', '~', '+', '%', '&', '='].contains c

theorem isQueryChar_of_isEncoded {c : Char} (encoded : isEncoded c = true) :
    isQueryChar c = true := by
  simp only [isEncoded, isUnreserved, Bool.or_eq_true, beq_iff_eq] at encoded
  rcases encoded with (((((alphanum | rfl) | rfl) | rfl) | rfl) | rfl) | rfl
  · simp [isQueryChar, alphanum]
  all_goals decide

/-- Query strings have no other characters than these. -/
theorem isQueryChar_of_mem_encodePairs {pairs : List (String × String)} {c : Char}
    (mem : c ∈ (encodePairs pairs).toList) : isQueryChar c = true := by
  have either := @mem_intercalate '&' c (pairs.map pairText) mem
  rcases either with rfl | ⟨piece, among, inside⟩
  · decide
  obtain ⟨p, -, rfl⟩ := List.mem_map.1 among
  rcases isEncoded_of_mem_pairText inside with encoded | rfl
  · exact isQueryChar_of_isEncoded encoded
  · decide

end CloudSearch.Text.FormUrl
