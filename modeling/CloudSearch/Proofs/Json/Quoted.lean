import CloudSearch.Json.Printer
import CloudSearch.Json.Token

/-!
# Written strings are read back

A written string is one token, wherever it stands and whatever characters it is made of. The proof
goes through the text one character at a time: a character stands for itself, is escaped by a letter
or is escaped by its code, and in each case what has been read of the string grows by just that
character (`tokens_escape`).
-/

namespace CloudSearch.Json

namespace TokenScan

/-- A string of which these characters have been read, last first. -/
def within (before : List Char) : TokenScan :=
  .text { before }

theorem tokens_more {s s' : TextScan} {c : Char} (stepped : s.step c = .more s')
    (rest : List Char) :
    (TokenScan.text s).tokens (c :: rest) = (TokenScan.text s').tokens rest := by
  simp [TokenScan.tokens, TokenScan.step, stepped]

/-- A character that is no quote, no backslash and no control character stands for itself. -/
theorem tokens_plain {c : Char} (not_quote : c ≠ '"') (not_backslash : c ≠ '\\')
    (printable : ¬c.toNat < 0x20) (before rest : List Char) :
    (within before).tokens (c :: rest) = (within (c :: before)).tokens rest := by
  have pushed : TextScan.step { before } c = .more { before := c :: before } := by
    simp [TextScan.step, not_quote, not_backslash, printable, TextScan.push]
  exact tokens_more pushed rest

/-- A backslash and a letter stand for the character that the letter stands for. -/
theorem tokens_letter {letter c : Char} (not_code : letter ≠ 'u')
    (stands : TextScan.unescape? letter = some c) (before rest : List Char) :
    (within before).tokens ('\\' :: letter :: rest) = (within (c :: before)).tokens rest := by
  have opened : TextScan.step { before } '\\' = .more { before, mode := .escape } := rfl
  have pushed : TextScan.step { before, mode := .escape } letter =
      .more { before := c :: before } := by
    simp [TextScan.step, not_code, stands, TextScan.push]
  rw [within, tokens_more opened, tokens_more pushed, within]

/-- The code of a control character stands for it. -/
theorem tokens_code {c : Char} (control : c.toNat < 0x20) (before rest : List Char) :
    (within before).tokens ('\\' :: 'u' :: '0' :: '0' :: Nat.digitChar (c.toNat / 16) ::
      Nat.digitChar (c.toNat % 16) :: rest) = (within (c :: before)).tokens rest := by
  have high := Text.hexValue?_digitChar (n := c.toNat / 16) (by omega)
  have low := Text.hexValue?_digitChar (n := c.toNat % 16) (by omega)
  have unit : c.toNat / 16 * 16 + c.toNat % 16 = c.toNat := Nat.div_add_mod' _ _
  have not_surrogate : ¬0xD800 ≤ c.toNat := by omega
  have not_trailing : ¬0xDC00 ≤ c.toNat := by omega
  have opened : TextScan.step { before } '\\' = .more { before, mode := .escape } := rfl
  have marked : TextScan.step { before, mode := .escape } 'u' =
      .more { before, mode := .code 4 0 } := rfl
  have first : TextScan.step { before, mode := .code 4 0 } '0' =
      .more { before, mode := .code 3 0 } := rfl
  have second : TextScan.step { before, mode := .code 3 0 } '0' =
      .more { before, mode := .code 2 0 } := rfl
  have third : TextScan.step { before, mode := .code 2 0 } (Nat.digitChar (c.toNat / 16)) =
      .more { before, mode := .code 1 (c.toNat / 16) } := by
    simp [TextScan.step, high]
  have fourth : TextScan.step { before, mode := .code 1 (c.toNat / 16) }
      (Nat.digitChar (c.toNat % 16)) = .more { before := c :: before } := by
    simp [TextScan.step, low, unit, TextScan.pushUnit, not_surrogate, not_trailing, TextScan.push]
  rw [within, tokens_more opened, tokens_more marked, tokens_more first, tokens_more second,
    tokens_more third, tokens_more fourth, within]

/-- A written character is read as the character. -/
theorem tokens_escape (c : Char) (before rest : List Char) :
    (within before).tokens (escape c ++ rest) = (within (c :: before)).tokens rest := by
  unfold escape
  by_cases quote : c = '"'
  · subst quote
    exact tokens_letter (by decide) rfl before rest
  by_cases backslash : c = '\\'
  · subst backslash
    exact tokens_letter (by decide) rfl before rest
  by_cases backspace : c = '\x08'
  · subst backspace
    exact tokens_letter (by decide) rfl before rest
  by_cases feed : c = '\x0c'
  · subst feed
    exact tokens_letter (by decide) rfl before rest
  by_cases newline : c = '\n'
  · subst newline
    exact tokens_letter (by decide) rfl before rest
  by_cases return_ : c = '\r'
  · subst return_
    exact tokens_letter (by decide) rfl before rest
  by_cases tab : c = '\t'
  · subst tab
    exact tokens_letter (by decide) rfl before rest
  simp only [quote, backslash, backspace, feed, newline, return_, tab, if_false]
  by_cases control : c.toNat < 0x20
  · rw [if_pos control]
    exact tokens_code control before rest
  · rw [if_neg control]
    exact tokens_plain quote backslash control before rest

/-- The rest of a string is read to the quote behind it. -/
theorem tokens_flatMap_escape (cs before rest : List Char) :
    (within before).tokens (cs.flatMap escape ++ '"' :: rest) =
      .text (some (String.ofList (before.reverse ++ cs))) :: TokenScan.between.tokens rest := by
  induction cs generalizing before with
  | nil =>
    rw [List.append_nil]
    rfl
  | cons c cs ih =>
    rw [List.flatMap_cons, List.append_assoc, tokens_escape, ih, List.reverse_cons,
      List.append_assoc, List.singleton_append]

end TokenScan

/-- A written string is one token wherever it stands. -/
theorem tokens_quoteText (s : String) (rest : List Char) :
    tokens ((quoteText s).toList ++ rest) = .text (some s) :: tokens rest := by
  have text : (quoteText s).toList ++ rest = '"' :: (s.toList.flatMap escape ++ '"' :: rest) := by
    rw [quoteText, String.toList_ofList, List.cons_append, List.append_assoc, List.singleton_append]
  have opened : tokens ('"' :: (s.toList.flatMap escape ++ '"' :: rest)) =
      (TokenScan.within []).tokens (s.toList.flatMap escape ++ '"' :: rest) := rfl
  rw [text, opened, TokenScan.tokens_flatMap_escape, List.reverse_nil, List.nil_append,
    String.ofList_toList]
  rfl

end CloudSearch.Json
