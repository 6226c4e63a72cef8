import CloudSearch.Geo.Query
import CloudSearch.Proofs.Filter.Expressible

/-!
# What a geographic query adds to a search

A query is made sense of once, as a target, and only then put into the words of a dialect.
`compile_eq` parts the two steps: whether there is a target, and what is wrong if there is none, has
nothing to do with the dialect, and what is made of a target cannot fail. The clause that restricts
hits to a box has a written form in either dialect (`restricts_boxClause`).

The numbers in these words are spelled out here, degrees as they are and integers as the centimetres
that the degrees come to.
-/

namespace CloudSearch.Geo
open Outcome CloudSearch.Filter

/-! ## Degrees in centimetres -/

/-- The metres in a degree of latitude. -/
def latitudeDegree : Float := 111133

/-- The metres in a degree of longitude at a latitude. -/
def longitudeDegree (latitude : Float) : Float :=
  111133 * (latitude * 0.017453292519943295).cos

/-- The whole centimetres from 180 degrees below zero to the given degrees. -/
def centimeters (degrees perDegree : Float) : UInt64 :=
  (Decimal.nearestWhole ((degrees + 180) * perDegree * 100)).toUInt64

/-- The degrees, to three places, that many centimetres above 180 degrees below zero. -/
def degreesAt (centimeters : UInt64) (perDegree : Float) : Float :=
  Decimal.thousandths (centimeters.toFloat / perDegree / 100 - 180)

/-- The edges of the box in centimetres, those of longitude where the latitude is the given one. -/
structure Encodes (box : Box) (latitude : Float) (encoded : EncodedBox) : Prop where
  south : encoded.south = centimeters box.south latitudeDegree
  north : encoded.north = centimeters box.north latitudeDegree
  west : encoded.west = centimeters box.west (longitudeDegree latitude)
  east : encoded.east = centimeters box.east (longitudeDegree latitude)

/-- The edges of the encoded box in degrees, those of longitude where the latitude is the given one. -/
structure Decodes (encoded : EncodedBox) (latitude : Float) (box : Box) : Prop where
  south : box.south = degreesAt encoded.south latitudeDegree
  north : box.north = degreesAt encoded.north latitudeDegree
  west : box.west = degreesAt encoded.west (longitudeDegree latitude)
  east : box.east = degreesAt encoded.east (longitudeDegree latitude)

theorem encodes_encode (b : Box) : Encodes b ((b.south + b.north) / 2) b.encode :=
  ⟨rfl, rfl, rfl, rfl⟩

/-- The integer is the word, or the greatest signed word where that is too small. -/
def IsClamped (n : UInt64) (i : Int64) : Prop :=
  i.toInt = min (n.toNat : Int) 0x7FFFFFFFFFFFFFFF

theorem isClamped_clampToInt64 (n : UInt64) : IsClamped n (clampToInt64 n) := by
  unfold IsClamped clampToInt64
  split
  · next small =>
    rw [Int64.toInt_ofInt_of_le (by omega) (by omega)]
    omega
  · next large =>
    have greatest : Int64.maxValue.toInt = 0x7FFFFFFFFFFFFFFF := by decide
    rw [greatest]
    omega

/-! ## Targets in the words of a dialect -/

/-- What a target adds to a search. -/
def Query.constraint (q : Query) (d : Dialect) (t : Target) : Constraint :=
  { filter := t.area.map fun (box, encoded) => q.boxClause d box encoded
    sort := if t.sort then some (q.distanceFrom d t.center) else none }

/-- Only the second of two steps depends on the dialect, and it is not the one that can fail. -/
theorem Query.compile_eq (q : Query) (d : Dialect) :
    q.compile d = q.target.map (Option.map (q.constraint d)) := by
  unfold Query.compile
  rcases q.target with e | _ | t <;> rfl

/-- The leaf can be written in both dialects. -/
def IsPlainRange (a : Atom) : Prop :=
  a.Sound ∧ a.Expressible

theorem IsPlainRange.writable {a : Atom} (plain : IsPlainRange a) (d : Dialect) : a.Writable d := by
  cases d with
  | structured => exact plain.1.writable
  | legacy => exact plain.1.writable_iff.2 plain.2

theorem isPlainRange_between {field : String} {start stop : Endpoint}
    (starts : ∀ x, start ≠ .float x) (stops : ∀ x, stop ≠ .float x) :
    IsPlainRange (.range field (.between start stop)) := by
  refine ⟨⟨by simp [Range.between, Range.unbounded], ?_⟩, ?_, ?_⟩
  · rintro x (low | high)
    · exact absurd (Option.some.inj low) (starts x)
    · exact absurd (Option.some.inj high) (stops x)
  · rintro ⟨⟩
  · rintro ⟨⟩

/-- The clause of a box consists of leaves that can be written in both dialects. -/
theorem Query.isPlainRange_of_mem_boxClause {q : Query} {d : Dialect} {box : Box}
    {encoded : EncodedBox} :
    ∀ a ∈ (q.boxClause d box encoded).formula.leaves, IsPlainRange a := by
  intro a mem
  cases d with
  | structured =>
    simp only [Query.boxClause, Box.clause, Clause.formula, Formula.leaves,
      List.mem_singleton] at mem
    subst mem
    exact isPlainRange_between (by simp) (by simp)
  | legacy =>
    simp only [Query.boxClause, EncodedBox.clause, Clause.formula, Formula.leaves_connect,
      Clause.formulas, Formula.leavesOf, Formula.leaves, List.append_nil, List.singleton_append,
      List.mem_cons, List.not_mem_nil, or_false] at mem
    rcases mem with rfl | rfl
    · exact isPlainRange_between (by simp) (by simp)
    · exact isPlainRange_between (by simp) (by simp)

namespace Query

/-- The names are those of the pair of integer fields: the ones that the query has for it, or those of
its field with an ending. -/
structure ArePair (q : Query) (latField lngField : String) : Prop where
  given : ∀ p, q.encodedFields = some p → latField = p.1 ∧ lngField = p.2
  ending : q.encodedFields = none → latField = q.field ++ "_lat" ∧ lngField = q.field ++ "_lng"

theorem arePair_integerFields (q : Query) : q.ArePair q.integerFields.1 q.integerFields.2 := by
  unfold integerFields
  constructor
  · intro p given
    rw [given]
    exact ⟨rfl, rfl⟩
  · intro unnamed
    rw [unnamed]
    exact ⟨rfl, rfl⟩

/-- The clause restricts hits to the box, in the words of the dialect: in the structured one as one
range on the field, from the corner in the north-west to the one in the south-east; in the legacy one
as one conjunction of two ranges of whole numbers, ends included, on the integer fields. Either way it
can be written. -/
structure Restricts (q : Query) (d : Dialect) (box : Box) (encoded : EncodedBox)
    (c : Filter.Clause) : Prop where
  structured : d = .structured → c = .range q.field
    ⟨.included (.text (Decimal.plain.float box.north ++ "," ++ Decimal.plain.float box.west)),
      .included (.text (Decimal.plain.float box.south ++ "," ++ Decimal.plain.float box.east))⟩
  legacy : d = .legacy → ∃ latField lngField south north west east, q.ArePair latField lngField ∧
    IsClamped encoded.south south ∧ IsClamped encoded.north north ∧
    IsClamped encoded.west west ∧ IsClamped encoded.east east ∧
    c = .group .and [.range latField ⟨.included (.int south), .included (.int north)⟩,
      .range lngField ⟨.included (.int west), .included (.int east)⟩]
  written : ∃ text, Filter.render d [c] = .ok text

theorem restricts_boxClause (q : Query) (d : Dialect) (box : Box) (encoded : EncodedBox) :
    q.Restricts d box encoded (q.boxClause d box encoded) where
  structured := by rintro rfl; rfl
  legacy := by
    rintro rfl
    exact ⟨_, _, _, _, _, _, q.arePair_integerFields, isClamped_clampToInt64 _,
      isClamped_clampToInt64 _, isClamped_clampToInt64 _, isClamped_clampToInt64 _, rfl⟩
  written := by
    rw [Filter.exists_render_iff, Filter.leavesOf_singleton]
    exact fun a mem => (isPlainRange_of_mem_boxClause a mem).writable d

/-- The expression is that of the distance from the place, in the words of the dialect: in the
structured one along the great circle, in degrees; in the legacy one along a straight line between
integers. -/
structure IsDistance (q : Query) (d : Dialect) (center : Coordinate) (s : DistanceSort) : Prop where
  structured : d = .structured → s.expression =
    "haversin(" ++ Decimal.plain.float center.lat ++ "," ++ Decimal.plain.float center.lng ++ "," ++
      q.field ++ ".latitude," ++ q.field ++ ".longitude)"
  legacy : d = .legacy → ∃ latField lngField, q.ArePair latField lngField ∧ s.expression =
    "sqrt(pow(" ++ latField ++ "-" ++ toString (centimeters center.lat latitudeDegree).toNat ++
      ",2)+pow(" ++ lngField ++ "-" ++
      toString (centimeters center.lng (longitudeDegree center.lat)).toNat ++ ",2))"

theorem isDistance_distanceFrom (q : Query) (d : Dialect) (center : Coordinate) :
    q.IsDistance d center (q.distanceFrom d center) where
  structured := by rintro rfl; rfl
  legacy := by
    rintro rfl
    exact ⟨_, _, q.arePair_integerFields, rfl⟩

end Query

/-- The clause is what some geographic query restricts hits by. -/
def IsPlaceClause (d : Dialect) (c : Clause) : Prop :=
  ∃ (q : Query) (made : Constraint), q.compile d = .ok (some made) ∧ made.filter = some c

/-- Whatever the query, its clause can be written. -/
theorem isPlainRange_of_isPlaceClause {d : Dialect} {c : Clause} (place : IsPlaceClause d c) :
    ∀ a ∈ c.formula.leaves, IsPlainRange a := by
  obtain ⟨q, made, compiled, restricts⟩ := place
  rw [q.compile_eq, map_eq_ok_iff] at compiled
  obtain ⟨target, -, aims⟩ := compiled
  obtain ⟨t, -, rfl⟩ := Option.map_eq_some_iff.1 aims
  obtain ⟨⟨box, encoded⟩, -, rfl⟩ := Option.map_eq_some_iff.1 restricts
  exact Query.isPlainRange_of_mem_boxClause

end CloudSearch.Geo
