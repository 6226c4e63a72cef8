import CloudSearch.Time.Instant

/-!
# Ranges

A range has a lower and an upper bound, each of which includes its endpoint, excludes it, or is
open. The endpoints of one range may be of different kinds.
-/

namespace CloudSearch.Filter

/-- An end of a range. -/
inductive Endpoint
  | int (i : Int64)
  | float (x : Float)
  | text (s : String)
  | instant (t : Instant)
deriving DecidableEq, Repr

/-- One side of a range. -/
inductive Bound
  | unbounded
  | included (e : Endpoint)
  | excluded (e : Endpoint)
deriving DecidableEq, Repr

/-- The values between two bounds. -/
structure Range where
  lower : Bound
  upper : Bound
deriving DecidableEq, Repr

/-- The endpoint of the bound, if it has one. -/
def Bound.endpoint? : Bound → Option Endpoint
  | .unbounded => none
  | .included e => some e
  | .excluded e => some e

/-- The endpoint is a number that is not finite. -/
def Endpoint.isNonFinite : Endpoint → Bool
  | .float x => !x.isFinite
  | _ => false

/-- The bound has an endpoint that is not finite. -/
def Bound.isNonFinite (b : Bound) : Bool :=
  b.endpoint?.any Endpoint.isNonFinite

namespace Range

/-- Includes both ends. -/
def between (lower upper : Endpoint) : Range :=
  ⟨.included lower, .included upper⟩

/-- Includes its start and has no upper bound. -/
def atLeast (start : Endpoint) : Range :=
  ⟨.included start, .unbounded⟩

/-- Includes its end and has no lower bound. -/
def atMost (stop : Endpoint) : Range :=
  ⟨.unbounded, .included stop⟩

/-- Excludes its end and has no lower bound. -/
def below (stop : Endpoint) : Range :=
  ⟨.unbounded, .excluded stop⟩

/-- Includes its start and excludes its end. -/
def halfOpen (start stop : Endpoint) : Range :=
  ⟨.included start, .excluded stop⟩

/-- Has no bound on either side. -/
def unbounded : Range :=
  ⟨.unbounded, .unbounded⟩

/-- Neither side has an endpoint. -/
def isUnbounded (r : Range) : Bool :=
  r.lower == .unbounded && r.upper == .unbounded

/-- Some endpoint is a number that is not finite. -/
def hasNonFinite (r : Range) : Bool :=
  r.lower.isNonFinite || r.upper.isNonFinite

theorem isUnbounded_iff {r : Range} : r.isUnbounded = true ↔ r = unbounded := by
  obtain ⟨l, u⟩ := r
  simp [isUnbounded, unbounded]

end Range

end CloudSearch.Filter
