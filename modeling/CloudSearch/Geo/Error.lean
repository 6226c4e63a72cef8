import CloudSearch.Decimal.Notation

/-!
# What can be wrong with a place

The reasons for which coordinates, distances and boxes are refused, and their wording.
-/

namespace CloudSearch.Geo

/-- An axis of the coordinate system. -/
inductive Axis
  | latitude
  | longitude
deriving DecidableEq, Repr

/-- The axis in words. -/
def Axis.name : Axis → String
  | .latitude => "latitude"
  | .longitude => "longitude"

/-- A reason to refuse a place. -/
inductive Error
  | nonFinite
  | latitudeOutOfRange (degrees : Float)
  | longitudeOutOfRange (degrees : Float)
  | invalidRadius (meters : Float)
  | invertedBox (axis : Axis) (start stop : Float)
deriving DecidableEq, Repr

/-- The reason in words. -/
def Error.message : Error → String
  | .nonFinite => "Coordinate component is not a finite number"
  | .latitudeOutOfRange degrees => "Latitude " ++ Decimal.plain.float degrees ++ " is outside [-90, 90]"
  | .longitudeOutOfRange degrees =>
    "Longitude " ++ Decimal.plain.float degrees ++ " is outside [-180, 180]"
  | .invalidRadius meters =>
    "Radius " ++ Decimal.plain.float meters ++ " must be a finite, non-negative distance"
  | .invertedBox axis start stop =>
    "Bounding box is inverted: " ++ axis.name ++ " runs from " ++ Decimal.plain.float start ++
      " to " ++ Decimal.plain.float stop

end CloudSearch.Geo
