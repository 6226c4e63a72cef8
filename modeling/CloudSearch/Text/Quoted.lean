/-!
# Quoted text

A quoted text stands between single quotes; a quote or a backslash inside it has a backslash in
front. `readQuoted` reads the contents up to the closing quote, and `readQuoted_quoted` says that
it finds exactly what was written, whatever text follows.
-/

namespace CloudSearch.Text

/-- One character of quoted text as it is written. -/
def escapeQuoted (c : Char) : List Char :=
  if c = '\'' ∨ c = '\\' then ['\\', c] else [c]

/-- The quoted form of the characters. -/
def quoted (cs : List Char) : List Char :=
  '\'' :: (cs.flatMap escapeQuoted ++ ['\''])

/-- The quoted form of a text. -/
def quote (s : String) : String :=
  String.ofList (quoted s.toList)

/-- Reads the contents of quoted text behind its opening quote: the contents and what follows the
closing quote, or nothing where there is no closing quote. -/
def readQuoted : List Char → Option (List Char × List Char)
  | [] => none
  | '\'' :: rest => some ([], rest)
  | ['\\'] => none
  | '\\' :: c :: rest => (readQuoted rest).map fun (cs, after) => (c :: cs, after)
  | c :: rest => (readQuoted rest).map fun (cs, after) => (c :: cs, after)

@[simp] theorem toList_quote (s : String) : (quote s).toList = quoted s.toList := by
  simp [quote]

theorem readQuoted_escapeQuoted (c : Char) (rest : List Char) :
    readQuoted (escapeQuoted c ++ rest) = (readQuoted rest).map fun (cs, after) => (c :: cs, after) := by
  unfold escapeQuoted
  split
  · simp [readQuoted]
  · next h =>
    simp only [not_or] at h
    simp [readQuoted, h]

theorem readQuoted_flatMap (cs rest : List Char) :
    readQuoted (cs.flatMap escapeQuoted ++ '\'' :: rest) = some (cs, rest) := by
  induction cs with
  | nil => simp [readQuoted]
  | cons c cs ih => simp [readQuoted_escapeQuoted, ih]

/-- Behind the opening quote a reader finds the contents and leaves what was written after. -/
theorem readQuoted_quoted (cs rest : List Char) :
    readQuoted ((quoted cs).tail ++ rest) = some (cs, rest) := by
  simp [quoted, readQuoted_flatMap]

end CloudSearch.Text
