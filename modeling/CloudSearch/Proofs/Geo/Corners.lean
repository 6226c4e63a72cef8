import CloudSearch.Proofs.Double.Order
import CloudSearch.Proofs.Geo.Preference

/-!
# The corners of a box around a point

The box around a point is made of encoded edges, and its corners are read off these without a check.
The encoding and its decoding keep the order of doubles (`encodeLatitude_le`, `decodeLatitude_le`), so
one step on either side decides which latitudes come back within bounds: `beyondSouth` and
`beyondNorth` are the first doubles that do not. Nothing holds an edge back from going over a pole, and
so the corners **are not always coordinates** (`not_corners_isLegal_nearPole`). They are exactly where
the box keeps clear of the poles and of the antimeridian, but for the half of a thousandth of a degree
that rounding takes back (`corners_isLegal_iff`).

In the west there is nothing to keep clear of: the integers of the encoding begin at the antimeridian,
and what would lie before it is moved there (`le_exactLongitude`). Given what a cosine is between the
poles, the edge in the east alone decides (`isClear_iff_east`).
-/

namespace CloudSearch.Geo
open Double Decimal

/-! ## Legal coordinates -/

/-- The coordinate is accepted when its degrees are given. -/
def Coordinate.IsLegal (c : Coordinate) : Prop :=
  Coordinate.ofDegrees c.lat c.lng = .ok c

theorem Coordinate.isLegal_iff_isPlace {c : Coordinate} : c.IsLegal ↔ IsPlace c.lat c.lng := by
  rcases isPlace_or_fault c.lat c.lng with place | ⟨e, fault⟩
  · exact iff_of_true place.ofDegrees_eq place
  · refine iff_of_false (fun legal => ?_) fun place => ?_
    · cases fault.ofDegrees_eq.symm.trans legal
    · cases fault.ofDegrees_eq.symm.trans place.ofDegrees_eq

/-- Numbers within the bounds are finite of themselves. -/
theorem isPlace_iff {lat lng : Float} :
    IsPlace lat lng ↔ (-90 ≤ lat ∧ lat ≤ 90) ∧ (-180 ≤ lng ∧ lng ≤ 180) := by
  refine ⟨fun place => ⟨place.latitude, place.longitude⟩, fun ⟨latitude, longitude⟩ => ?_⟩
  exact ⟨⟨isFinite_of_le_of_le rfl rfl latitude.1 latitude.2,
    isFinite_of_le_of_le rfl rfl longitude.1 longitude.2⟩, latitude, longitude⟩

theorem Coordinate.isLegal_iff {c : Coordinate} :
    c.IsLegal ↔ (-90 ≤ c.lat ∧ c.lat ≤ 90) ∧ (-180 ≤ c.lng ∧ c.lng ≤ 180) :=
  isLegal_iff_isPlace.trans isPlace_iff

/-! ## Rounding to three places -/

variable {x y : Float}

theorem thousandths_le (h : x ≤ y) : thousandths x ≤ thousandths y := by
  have positive : (0 : Float) < 1000 := by decide +kernel
  exact div_le_div_right (nearestWhole_le (mul_le_mul_right h rfl positive)) rfl positive

/-- A longitude is rounded to one within bounds up to half of a thousandth of a degree beyond them. -/
theorem thousandths_within_iff (x : Float) :
    -180 ≤ thousandths x ∧ thousandths x ≤ 180 ↔ -180.0005 < x ∧ x < 180.0005 := by
  have undefined {x : Float} (undefined : ¬IsNumber x) : ¬-180 ≤ thousandths x := by
    rw [thousandths, mul_of_not_isNumber undefined]
    decide +kernel
  have start : Adjacent (-180.0005) (-180.00049999999996) :=
    adjacent_of_negative (m := 6333204568175803) (e := -45) (by norm_num) rfl rfl
  have stop : Adjacent 180.00049999999996 180.0005 :=
    adjacent_of_positive (m := 6333204568175803) (e := -45) (by norm_num) rfl rfl
  exact within_iff thousandths_le undefined start stop (by decide +kernel) (by decide +kernel)
    (by decide +kernel) (by decide +kernel) x

/-! ## Scales -/

/-- With a positive number of metres in a degree, encoding keeps the order. -/
theorem encoding_le {scale : Float} (finite : scale.isFinite = true) (positive : 0 < scale)
    (h : x ≤ y) : (nearestWhole ((x + 180) * scale * unitsPerMeter)).toUInt64 ≤
      (nearestWhole ((y + 180) * scale * unitsPerMeter)).toUInt64 := by
  have moved := Double.add_le_add_right (c := 180) h rfl
  have meters := mul_le_mul_right moved finite positive
  have units := mul_le_mul_right (c := unitsPerMeter) meters rfl (by decide +kernel)
  exact toUInt64_le (nearestWhole_le units)

/-- So does decoding. -/
theorem decoding_le {scale : Float} (finite : scale.isFinite = true) (positive : 0 < scale)
    {v w : UInt64} (h : v ≤ w) : v.toFloat / scale / unitsPerMeter - 180 ≤
      w.toFloat / scale / unitsPerMeter - 180 := by
  have meters := div_le_div_right (toFloat_le h) finite positive
  have degrees := div_le_div_right (c := unitsPerMeter) meters rfl (by decide +kernel)
  exact sub_le_sub_right degrees rfl

/-! ## Latitudes -/

/-- Encoding keeps the order of latitudes. -/
theorem encodeLatitude_le (h : x ≤ y) : encodeLatitude x ≤ encodeLatitude y :=
  encoding_le rfl (by decide +kernel) h

/-- Decoding keeps the order of latitudes. -/
theorem decodeLatitude_le {v w : UInt64} (h : v ≤ w) : decodeLatitude v ≤ decodeLatitude w :=
  thousandths_le (decoding_le rfl (by decide +kernel) h)

/-- The last latitude in the south whose encoding is decoded to one below -90 degrees. -/
def beyondSouth : Float := -90.00049998650267

/-- The first latitude in the north whose encoding is decoded to one above 90 degrees. -/
def beyondNorth : Float := 90.0004999865026

/-- A latitude comes back within bounds from its encoding exactly between the two thresholds. -/
theorem latitude_within_iff (x : Float) :
    -90 ≤ decodeLatitude (encodeLatitude x) ∧ decodeLatitude (encodeLatitude x) ≤ 90 ↔
      beyondSouth < x ∧ x < beyondNorth := by
  have undefined {x : Float} (undefined : ¬IsNumber x) :
      ¬-90 ≤ decodeLatitude (encodeLatitude x) := by
    rw [encodeLatitude, add_of_not_isNumber undefined]
    decide +kernel
  have start : Adjacent beyondSouth (-90.00049998650266) :=
    adjacent_of_negative (m := 6333222159412058) (e := -46) (by norm_num) rfl rfl
  have stop : Adjacent 90.00049998650259 beyondNorth :=
    adjacent_of_positive (m := 6333222159412053) (e := -46) (by norm_num) rfl rfl
  exact within_iff (fun le => decodeLatitude_le (encodeLatitude_le le)) undefined start stop
    (by decide +kernel) (by decide +kernel) (by decide +kernel) (by decide +kernel) x

/-! ## Longitudes -/

/-- The longitude of an encoding with respect to a latitude, not yet rounded. -/
def exactLongitude (value : UInt64) (latitude : Float) : Float :=
  value.toFloat / metersPerDegreeOfLongitude latitude / unitsPerMeter - 180

/-- What a longitude comes back as from its encoding at a latitude, not yet rounded. -/
def returnedLongitude (lng latitude : Float) : Float :=
  exactLongitude (encodeLongitude lng latitude) latitude

theorem IsRadius.nonneg {meters : Float} (right : IsRadius meters) : 0 ≤ meters :=
  (lt_or_le (isNumber_of_isFinite right.1) (isNumber_of_isFinite rfl)).resolve_left right.2

section Cosine

variable {meters latitude : Float} (positive : 0 < (radians latitude).cos)
  (le_one : (radians latitude).cos ≤ 1)
include positive le_one

theorem metersPerDegreeOfLongitude_pos :
    (metersPerDegreeOfLongitude latitude).isFinite = true ∧
      0 < metersPerDegreeOfLongitude latitude := by
  obtain ⟨zero_lt, le⟩ :=
    mul_pos_and_le (x := metersPerDegree) rfl (by decide +kernel) positive le_one
  exact ⟨isFinite_of_le_of_le rfl rfl (le_of_lt zero_lt) le, zero_lt⟩

theorem zero_le_longitudeChange (right : IsRadius meters) :
    0 ≤ longitudeChange meters latitude := by
  obtain ⟨zero_lt, le⟩ := mul_pos_and_le (x := earthRadius) rfl (by decide +kernel) positive le_one
  have finite := isFinite_of_le_of_le rfl rfl (le_of_lt zero_lt) le
  have angle := div_le_div_right right.nonneg finite zero_lt
  rw [zero_div finite zero_lt] at angle
  refine le_trans ?_ (mul_le_mul_right angle rfl (by decide +kernel))
  decide +kernel

/-- Encoding keeps the order of longitudes. -/
theorem encodeLongitude_le (h : x ≤ y) :
    encodeLongitude x latitude ≤ encodeLongitude y latitude := by
  obtain ⟨finite, zero_lt⟩ := metersPerDegreeOfLongitude_pos positive le_one
  exact encoding_le finite zero_lt h

/-- Decoding keeps the order of longitudes. -/
theorem exactLongitude_le {v w : UInt64} (h : v ≤ w) :
    exactLongitude v latitude ≤ exactLongitude w latitude := by
  obtain ⟨finite, zero_lt⟩ := metersPerDegreeOfLongitude_pos positive le_one
  exact decoding_le finite zero_lt h

/-- No encoding stands for a longitude before the antimeridian. -/
theorem le_exactLongitude (v : UInt64) : -180 ≤ exactLongitude v latitude := by
  obtain ⟨finite, zero_lt⟩ := metersPerDegreeOfLongitude_pos positive le_one
  refine le_trans ?_ (exactLongitude_le positive le_one (show 0 ≤ v from Nat.zero_le _))
  have zero_eq : (0 : UInt64).toFloat = 0 := by decide +kernel
  rw [exactLongitude, zero_eq, zero_div finite zero_lt]
  decide +kernel

end Cosine

/-! ## Boxes around a point -/

variable {center : Coordinate} {meters : Float} {box : EncodedBox}

theorem upperLeft_lat_of_around (covers : EncodedBox.around center meters = .ok box) :
    box.decode.upperLeft.lat =
      decodeLatitude (encodeLatitude (center.lat + latitudeChange meters)) := by
  obtain ⟨-, rfl⟩ := eq_of_around covers
  rfl

theorem zero_le_latitudeChange (right : IsRadius meters) : 0 ≤ latitudeChange meters := by
  have angle := div_le_div_right (c := earthRadius) right.nonneg rfl (by decide +kernel)
  refine le_trans ?_ (mul_le_mul_right angle rfl (by decide +kernel))
  decide +kernel

/-- The edges around the point keep clear of the poles and of the antimeridian, but for what rounding
takes back. -/
structure IsClear (center : Coordinate) (meters : Float) : Prop where
  south : beyondSouth < center.lat - latitudeChange meters
  north : center.lat + latitudeChange meters < beyondNorth
  west : -180.0005 < returnedLongitude (center.lng - longitudeChange meters center.lat) center.lat ∧
    returnedLongitude (center.lng - longitudeChange meters center.lat) center.lat < 180.0005
  east : -180.0005 < returnedLongitude (center.lng + longitudeChange meters center.lat) center.lat ∧
    returnedLongitude (center.lng + longitudeChange meters center.lat) center.lat < 180.0005

/-- The edges around the point keep clear of the poles, and the one in the east of the antimeridian. -/
structure IsClearInEast (center : Coordinate) (meters : Float) : Prop where
  south : beyondSouth < center.lat - latitudeChange meters
  north : center.lat + latitudeChange meters < beyondNorth
  east : returnedLongitude (center.lng + longitudeChange meters center.lat) center.lat < 180.0005

/-- The edge in the east decides about the antimeridian, as far as the cosine of the latitude is one that
a latitude between the poles can have. -/
theorem isClear_iff_east (legal : center.IsLegal) (right : IsRadius meters)
    (positive : 0 < (radians center.lat).cos) (le_one : (radians center.lat).cos ≤ 1) :
    IsClear center meters ↔ IsClearInEast center meters := by
  have finite := (Coordinate.isLegal_iff_isPlace.1 legal).finite.2
  have nonneg := zero_le_longitudeChange positive le_one right
  have west_le_east := exactLongitude_le positive le_one (encodeLongitude_le positive le_one
    (le_trans (sub_le_of_nonneg finite nonneg) (le_add_of_nonneg finite nonneg)))
  have after (v : UInt64) : -180.0005 < exactLongitude v center.lat :=
    lt_of_lt_of_le (by decide +kernel) (le_exactLongitude positive le_one v)
  constructor
  · rintro ⟨south, north, -, east⟩
    exact ⟨south, north, east.2⟩
  · rintro ⟨south, north, east⟩
    exact ⟨south, north, ⟨after _, lt_of_le_of_lt west_le_east east⟩, after _, east⟩

/-- **The corners of a box around a point are legal** exactly where the edges keep clear of the poles and
of the antimeridian. The edge in the east alone decides about the antimeridian, as far as the cosine of
the latitude is one that a latitude between the poles can have. -/
theorem corners_isLegal_iff (legal : center.IsLegal)
    (covers : EncodedBox.around center meters = .ok box) :
    (box.decode.upperLeft.IsLegal ∧ box.decode.lowerRight.IsLegal ↔ IsClear center meters) ∧
      (0 < (radians center.lat).cos → (radians center.lat).cos ≤ 1 →
        (IsClear center meters ↔ IsClearInEast center meters)) := by
  obtain ⟨right, rfl⟩ := eq_of_around covers
  refine ⟨?_, isClear_iff_east legal right⟩
  obtain ⟨⟨finite, -⟩, ⟨south_le, le_north⟩, -⟩ := Coordinate.isLegal_iff_isPlace.1 legal
  have nonneg := zero_le_latitudeChange right
  -- the box runs from the point to either pole, so that an edge can cross only the pole it runs to
  have to_south : center.lat - latitudeChange meters < beyondNorth :=
    lt_of_le_of_lt (le_trans (sub_le_of_nonneg finite nonneg) le_north) (by decide +kernel)
  have to_north : beyondSouth < center.lat + latitudeChange meters :=
    lt_of_lt_of_le (by decide +kernel) (le_trans south_le (le_add_of_nonneg finite nonneg))
  simp only [Coordinate.isLegal_iff, EncodedBox.decode, Box.upperLeft, Box.lowerRight,
    latitude_within_iff, decodeLongitude, thousandths_within_iff]
  constructor
  · rintro ⟨⟨⟨-, north⟩, west⟩, ⟨south, -⟩, east⟩
    exact ⟨south, north, west, east⟩
  · rintro ⟨south, north, west, east⟩
    exact ⟨⟨⟨to_north, north⟩, west⟩, ⟨south, to_south⟩, east⟩

theorem corners_isLegal_iff_city :
    Coordinate.IsLegal ⟨45.52, 122.682⟩ ∧ ∃ box,
      EncodedBox.around ⟨45.52, 122.682⟩ 5000 = .ok box ∧
      (box.decode.upperLeft.IsLegal ∧ box.decode.lowerRight.IsLegal ↔
        IsClear ⟨45.52, 122.682⟩ 5000) := by
  have legal : Coordinate.IsLegal ⟨45.52, 122.682⟩ := by
    rw [Coordinate.isLegal_iff]
    decide +kernel
  have right : IsRadius 5000 := by
    unfold IsRadius
    decide +kernel
  obtain ⟨box, covers⟩ := right.exists_around ⟨45.52, 122.682⟩
  exact ⟨legal, box, covers, (corners_isLegal_iff legal covers).1⟩

/-- Twelve kilometres around a point eleven from the pole go over it. -/
theorem not_corners_isLegal_nearPole :
    ¬∀ (center : Coordinate) (meters : Float) (box : EncodedBox), center.IsLegal →
      EncodedBox.around center meters = .ok box →
      box.decode.upperLeft.IsLegal ∧ box.decode.lowerRight.IsLegal := by
  intro always
  have legal : Coordinate.IsLegal ⟨89.9, 0⟩ := by
    rw [Coordinate.isLegal_iff]
    decide +kernel
  have right : IsRadius 12000 := by
    unfold IsRadius
    decide +kernel
  obtain ⟨box, covers⟩ := right.exists_around ⟨89.9, 0⟩
  have north_le := (Coordinate.isLegal_iff.1 (always _ _ _ legal covers).1).1.2
  rw [upperLeft_lat_of_around covers] at north_le
  exact absurd north_le (by decide +kernel)

end CloudSearch.Geo
