import CloudSearch.Geo.Coordinate

/-!
# Boxes

A box is bounded by two latitudes and two longitudes, in degrees or in the integer encoding. All
longitudes of an encoded box refer to one latitude, which the box keeps for its decoding.
-/

namespace CloudSearch.Geo

/-- A box in degrees. -/
structure Box where
  south : Float
  north : Float
  west : Float
  east : Float
deriving DecidableEq, Repr

/-- A box in the integer encoding, with the latitude that its longitudes refer to. -/
structure EncodedBox where
  south : UInt64
  north : UInt64
  west : UInt64
  east : UInt64
  referenceLatitude : Float
deriving DecidableEq, Repr

namespace Box

/-- The box with the given edges. Its corners have to be coordinates, and neither axis may run
backwards. -/
def ofEdges (south north west east : Float) : Except Error Box := do
  let _ ← Coordinate.ofDegrees south west
  let _ ← Coordinate.ofDegrees north east
  if north < south then throw (.invertedBox .latitude south north)
  if east < west then throw (.invertedBox .longitude west east)
  return { south, north, west, east }

/-- The corner in the north-west. -/
def upperLeft (b : Box) : Coordinate :=
  ⟨b.north, b.west⟩

/-- The corner in the south-east. -/
def lowerRight (b : Box) : Coordinate :=
  ⟨b.south, b.east⟩

/-- The point halfway between the edges. -/
def center (b : Box) : Coordinate :=
  ⟨(b.south + b.north) / 2, (b.west + b.east) / 2⟩

/-- The encoding of the box with respect to the latitude of its center. -/
def encode (b : Box) : EncodedBox :=
  let latitude := b.center.lat
  { south := encodeLatitude b.south
    north := encodeLatitude b.north
    west := encodeLongitude b.west latitude
    east := encodeLongitude b.east latitude
    referenceLatitude := latitude }

end Box

namespace EncodedBox

/-- The encoded box that reaches the given number of metres from its center to each side. Where it
would begin below the range of the encoding it begins at zero. -/
def around (center : Coordinate) (meters : Float) : Except Error EncodedBox :=
  if !meters.isFinite || meters < 0 then .error (.invalidRadius meters)
  else
    let radiusOfParallel := earthRadius * (radians center.lat).cos
    let latitudeChange := degrees (meters / earthRadius)
    let longitudeChange := degrees (meters / radiusOfParallel)
    .ok
      { south := encodeLatitude (center.lat - latitudeChange)
        north := encodeLatitude (center.lat + latitudeChange)
        west := encodeLongitude (center.lng - longitudeChange) center.lat
        east := encodeLongitude (center.lng + longitudeChange) center.lat
        referenceLatitude := center.lat }

/-- The box in degrees. -/
def decode (b : EncodedBox) : Box :=
  { south := decodeLatitude b.south
    north := decodeLatitude b.north
    west := decodeLongitude b.west b.referenceLatitude
    east := decodeLongitude b.east b.referenceLatitude }

end EncodedBox

end CloudSearch.Geo
