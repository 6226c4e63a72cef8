import CloudSearch.Filter.Wire
import CloudSearch.Geo.Box

/-!
# Geographic queries

A geographic query restricts hits to a box on one field, orders them by their distance from a
point, or does both. The box is given by its edges, or else by a point and a radius. What the query
asks for does not depend on the dialect; only the form of the box does, a range of corners on the
field itself or two ranges on a pair of integer fields, and that of the distance.
-/

namespace CloudSearch.Geo

/-- A unit of distance. -/
inductive DistanceUnit
  | kilometers
  | miles
  | meters
  /-- Degrees of longitude. -/
  | degrees
deriving DecidableEq, Repr

/-- A distance in kilometres; degrees are those at the given latitude. -/
def DistanceUnit.toKilometers (u : DistanceUnit) (distance latitude : Float) : Float :=
  match u with
  | .kilometers => distance
  | .miles => distance * 1.609344
  | .meters => distance / 1000
  | .degrees => distance * metersPerDegreeOfLongitude latitude / 1000

/-- A distance with its unit. -/
structure Radius where
  distance : Float
  unit : DistanceUnit
deriving DecidableEq, Repr

/-- The edges of a box, of which nothing has been checked. -/
structure Edges where
  south : Float
  north : Float
  west : Float
  east : Float
deriving DecidableEq, Repr

/-- A geographic query on a field. -/
structure Query where
  field : String
  /-- The latitude and the longitude of a point. -/
  point : Option (Float × Float) := none
  radius : Option Radius := none
  within : Option Edges := none
  /-- Hits are to come nearest first. -/
  sort : Bool := false
  /-- The integer fields of latitude and longitude, where they have names of their own. -/
  encodedFields : Option (String × String) := none
deriving DecidableEq, Repr

/-- What a geographic query asks for. -/
structure Target where
  /-- The box, in degrees and encoded. -/
  area : Option (Box × EncodedBox)
  center : Coordinate
  sort : Bool
deriving DecidableEq, Repr

/-- The expression of a ranking by distance. -/
structure DistanceSort where
  expression : String
deriving DecidableEq, Repr

/-- What a geographic query adds to a search. -/
structure Constraint where
  filter : Option Filter.Clause
  sort : Option DistanceSort

/-- The name of every ranking by distance. -/
def DistanceSort.name : String := "distance"

/-- The ranking by distance as it is written, nearest first. -/
def DistanceSort.rank (_ : DistanceSort) (d : Dialect) : String :=
  d.rank name .ascending

/-- The range from the north-west corner of a box to the south-east one. -/
def Box.clause (b : Box) (field : String) : Filter.Clause :=
  let corner (c : Coordinate) :=
    Decimal.plain.float c.lat ++ "," ++ Decimal.plain.float c.lng
  .range field (.between (.text (corner b.upperLeft)) (.text (corner b.lowerRight)))

/-- The unsigned word as a signed one, or the greatest of these. -/
def clampToInt64 (n : UInt64) : Int64 :=
  if n.toNat < 0x8000000000000000 then Int64.ofInt n.toNat else Int64.maxValue

/-- The two ranges of an encoded box. -/
def EncodedBox.clause (b : EncodedBox) (latField lngField : String) : Filter.Clause :=
  let range (start stop : UInt64) : Filter.Range :=
    .between (.int (clampToInt64 start)) (.int (clampToInt64 stop))
  .group .and [.range latField (range b.south b.north), .range lngField (range b.west b.east)]

namespace Query

/-- The integer fields of latitude and longitude. -/
def integerFields (q : Query) : String × String :=
  q.encodedFields.getD (q.field ++ "_lat", q.field ++ "_lng")

/-- What the query asks for, if for anything. The point is checked even where a box makes it
needless, and a point by itself always asks for an order. -/
def target (q : Query) : Except Error (Option Target) := do
  if q.field = "" then return none
  let point ← match q.point with
    | none => pure none
    | some (lat, lng) => some <$> Coordinate.ofDegrees lat lng
  match q.within, point, q.radius with
  | some e, _, _ =>
    let box ← Box.ofEdges e.south e.north e.west e.east
    return some ⟨some (box, box.encode), point.getD box.center, q.sort⟩
  | none, some center, some r =>
    let box ← EncodedBox.around center (r.unit.toKilometers r.distance center.lat * 1000)
    return some ⟨some (box.decode, box), center, q.sort⟩
  | none, some center, none => return some ⟨none, center, true⟩
  | none, none, _ => return none

/-- The box of a target as a clause. -/
def boxClause (q : Query) (d : Dialect) (box : Box) (encoded : EncodedBox) : Filter.Clause :=
  match d with
  | .structured => box.clause q.field
  | .legacy => encoded.clause q.integerFields.1 q.integerFields.2

/-- The ranking by the distance from a point. -/
def distanceFrom (q : Query) (d : Dialect) (center : Coordinate) : DistanceSort :=
  match d with
  | .structured =>
    ⟨"haversin(" ++ Decimal.plain.float center.lat ++ "," ++ Decimal.plain.float center.lng ++ "," ++
      q.field ++ ".latitude," ++ q.field ++ ".longitude)"⟩
  | .legacy =>
    ⟨"sqrt(pow(" ++ q.integerFields.1 ++ "-" ++ toString center.encode.lat.toNat ++ ",2)+pow(" ++
      q.integerFields.2 ++ "-" ++ toString center.encode.lng.toNat ++ ",2))"⟩

/-- What the query adds to a search, if anything. -/
def compile (q : Query) (d : Dialect) : Except Error (Option Constraint) := do
  match ← q.target with
  | none => return none
  | some t =>
    return some
      { filter := t.area.map fun (box, encoded) => q.boxClause d box encoded
        sort := if t.sort then some (q.distanceFrom d t.center) else none }

end Query

end CloudSearch.Geo
