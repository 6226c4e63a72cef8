import CloudSearch.Time.Date

/-!
# Points in time

A point in time is a count of seconds since 1970-01-01 00:00:00 UTC and of nanoseconds in that
second. A leap second has no count of its own: it is written as nanoseconds from a billion on in
the second before it, and shows as the second 60 of its minute.
-/

namespace CloudSearch

/-- A point in time, UTC. -/
structure Instant where
  seconds : Int
  nanos : Nat
deriving DecidableEq, Repr

/-- The first second of the date. -/
def Date.midnight (d : Date) : Instant :=
  ⟨d.toDays * 86400, 0⟩

/-- The decimal digits of `n`, with zeros in front up to the given width. -/
def padded (width n : Nat) : String :=
  let digits := Nat.toDigits 10 n
  String.ofList (List.replicate (width - digits.length) '0' ++ digits)

/-- A year of four digits, with a sign in front where it is negative or has more digits. -/
def yearText (year : Int) : String :=
  if year < 0 then "-" ++ padded 4 year.natAbs
  else if year ≤ 9999 then padded 4 year.natAbs
  else "+" ++ padded 4 year.natAbs

/-- The point in time as `YYYY-MM-DDTHH:MM:SSZ`, without its fraction of a second. -/
def Instant.text (t : Instant) : String :=
  let date := Date.ofDays (t.seconds / 86400)
  let second := (t.seconds % 86400).toNat
  let leap := if 1000000000 ≤ t.nanos then 1 else 0
  yearText date.year ++ "-" ++ padded 2 date.month ++ "-" ++ padded 2 date.day ++ "T" ++
    padded 2 (second / 3600) ++ ":" ++ padded 2 (second / 60 % 60) ++ ":" ++
    padded 2 (second % 60 + leap) ++ "Z"

end CloudSearch
