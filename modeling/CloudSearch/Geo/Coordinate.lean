import CloudSearch.Decimal.Binary
import CloudSearch.Geo.Error

/-!
# Coordinates and their integer encoding

Degrees are moved up by 180 and counted in centimetres along their axis. A degree of latitude has
the same length everywhere; a degree of longitude shrinks with the cosine of the latitude, so a
longitude is encoded and decoded with respect to a latitude. Decoding rounds to three decimal
places.
-/

namespace CloudSearch.Geo

/-- The radius of the earth in metres. -/
def earthRadius : Float := 6367444

/-- The metres in a degree of latitude. -/
def metersPerDegree : Float := 111133

/-- The units of the encoding in a metre. -/
def unitsPerMeter : Float := 100

/-- An angle in degrees as radians. -/
def radians (degrees : Float) : Float :=
  degrees * 0.017453292519943295

/-- An angle in radians as degrees. -/
def degrees (radians : Float) : Float :=
  radians * 57.29577951308232

/-- A latitude and a longitude in degrees. -/
structure Coordinate where
  lat : Float
  lng : Float
deriving DecidableEq, Repr

/-- The coordinate with the given latitude and longitude, if both are in range. -/
def Coordinate.ofDegrees (lat lng : Float) : Except Error Coordinate :=
  if !lat.isFinite || !lng.isFinite then .error .nonFinite
  else if !(-90 ≤ lat && lat ≤ 90) then .error (.latitudeOutOfRange lat)
  else if !(-180 ≤ lng && lng ≤ 180) then .error (.longitudeOutOfRange lng)
  else .ok ⟨lat, lng⟩

/-- A coordinate in the integer encoding. -/
structure EncodedCoordinate where
  lat : UInt64
  lng : UInt64
deriving DecidableEq, Repr

/-- The metres in a degree of longitude at a latitude. -/
def metersPerDegreeOfLongitude (latitude : Float) : Float :=
  metersPerDegree * (radians latitude).cos

/-- The encoding of a latitude. -/
def encodeLatitude (degrees : Float) : UInt64 :=
  (Decimal.nearestWhole ((degrees + 180) * metersPerDegree * unitsPerMeter)).toUInt64

/-- The encoding of a longitude with respect to a latitude. -/
def encodeLongitude (degrees latitude : Float) : UInt64 :=
  (Decimal.nearestWhole
    ((degrees + 180) * metersPerDegreeOfLongitude latitude * unitsPerMeter)).toUInt64

/-- The latitude of an encoding, not yet rounded. -/
def exactLatitude (value : UInt64) : Float :=
  value.toFloat / metersPerDegree / unitsPerMeter - 180

/-- The latitude of an encoding. -/
def decodeLatitude (value : UInt64) : Float :=
  Decimal.thousandths (exactLatitude value)

/-- The longitude of an encoding with respect to a latitude. -/
def decodeLongitude (value : UInt64) (latitude : Float) : Float :=
  Decimal.thousandths
    (value.toFloat / metersPerDegreeOfLongitude latitude / unitsPerMeter - 180)

/-- The encoding of a coordinate, its longitude with respect to its own latitude. -/
def Coordinate.encode (c : Coordinate) : EncodedCoordinate :=
  ⟨encodeLatitude c.lat, encodeLongitude c.lng c.lat⟩

/-- The coordinate of an encoding. The longitude is decoded with respect to the latitude before
its rounding. -/
def EncodedCoordinate.decode (e : EncodedCoordinate) : Coordinate :=
  ⟨decodeLatitude e.lat, decodeLongitude e.lng (exactLatitude e.lat)⟩

end CloudSearch.Geo
