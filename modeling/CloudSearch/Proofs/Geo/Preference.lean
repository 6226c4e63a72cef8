import CloudSearch.Proofs.Geo.Constraint

/-!
# What a geographic query decides

A query may have a point, a radius, a box and a flag to sort by, each of them or not, and each of them
sound or not. What it decides is set down as a relation with one rule for each outcome
(`Query.Decides`), in the order in which the parts are preferred: a box before a point with a radius,
and that before a bare point. The rules leave nothing open (`Query.exists_decides`), and each of them
fixes what comes out.

**Both dialects decide alike** (`compile_by_preference`). They differ in the words for what has been
decided: the form of the box, which either of them writes, and the expression of the distance.
-/

namespace CloudSearch.Geo
open Outcome

/-! ## Places and boxes -/

/-- The numbers are finite and are the latitude and the longitude of a place. -/
structure IsPlace (lat lng : Float) : Prop where
  finite : lat.isFinite = true ∧ lng.isFinite = true
  latitude : -90 ≤ lat ∧ lat ≤ 90
  longitude : -180 ≤ lng ∧ lng ≤ 180

/-- What is wrong with a latitude and a longitude in the first place. -/
inductive PlaceFault (lat lng : Float) : Error → Prop
  | nonFinite (infinite : ¬(lat.isFinite = true ∧ lng.isFinite = true)) :
      PlaceFault lat lng .nonFinite
  | latitude (finite : lat.isFinite = true ∧ lng.isFinite = true)
      (outside : ¬(-90 ≤ lat ∧ lat ≤ 90)) : PlaceFault lat lng (.latitudeOutOfRange lat)
  | longitude (finite : lat.isFinite = true ∧ lng.isFinite = true)
      (latitude : -90 ≤ lat ∧ lat ≤ 90) (outside : ¬(-180 ≤ lng ∧ lng ≤ 180)) :
      PlaceFault lat lng (.longitudeOutOfRange lng)

theorem isPlace_or_fault (lat lng : Float) : IsPlace lat lng ∨ ∃ e, PlaceFault lat lng e := by
  by_cases finite : lat.isFinite = true ∧ lng.isFinite = true
  case neg => exact .inr ⟨_, .nonFinite finite⟩
  by_cases latitude : -90 ≤ lat ∧ lat ≤ 90
  case neg => exact .inr ⟨_, .latitude finite latitude⟩
  by_cases longitude : -180 ≤ lng ∧ lng ≤ 180
  case neg => exact .inr ⟨_, .longitude finite latitude longitude⟩
  exact .inl ⟨finite, latitude, longitude⟩

theorem IsPlace.ofDegrees_eq {lat lng : Float} (place : IsPlace lat lng) :
    Coordinate.ofDegrees lat lng = .ok ⟨lat, lng⟩ := by
  simp [Coordinate.ofDegrees, place.finite, place.latitude, place.longitude]

theorem PlaceFault.ofDegrees_eq {lat lng : Float} {e : Error} (fault : PlaceFault lat lng e) :
    Coordinate.ofDegrees lat lng = .error e := by
  unfold Coordinate.ofDegrees
  cases fault with
  | nonFinite infinite =>
    rw [if_pos]
    simpa [Classical.or_iff_not_imp_left] using infinite
  | latitude finite outside =>
    rw [if_neg (by simp [finite]), if_pos]
    simpa [Classical.or_iff_not_imp_left] using outside
  | longitude finite latitude outside =>
    rw [if_neg (by simp [finite]), if_neg (by simp [latitude]), if_pos]
    simpa [Classical.or_iff_not_imp_left] using outside

/-- The edges are those of a box. -/
structure Edges.IsBox (e : Edges) : Prop where
  southWest : IsPlace e.south e.west
  northEast : IsPlace e.north e.east
  upright : ¬e.north < e.south
  forward : ¬e.east < e.west

/-- What is wrong with edges in the first place. -/
inductive Edges.Fault (e : Edges) : Error → Prop
  | southWest {fault : Error} (outside : PlaceFault e.south e.west fault) : Fault e fault
  | northEast {fault : Error} (southWest : IsPlace e.south e.west)
      (outside : PlaceFault e.north e.east fault) : Fault e fault
  | inverted (southWest : IsPlace e.south e.west) (northEast : IsPlace e.north e.east)
      (inverted : e.north < e.south) : Fault e (.invertedBox .latitude e.south e.north)
  | backward (southWest : IsPlace e.south e.west) (northEast : IsPlace e.north e.east)
      (upright : ¬e.north < e.south) (backward : e.east < e.west) :
      Fault e (.invertedBox .longitude e.west e.east)

/-- The box with the edges, whatever they are. -/
def Edges.box (e : Edges) : Box :=
  { south := e.south, north := e.north, west := e.west, east := e.east }

theorem Edges.isBox_or_fault (e : Edges) : e.IsBox ∨ ∃ fault, e.Fault fault := by
  rcases isPlace_or_fault e.south e.west with southWest | ⟨fault, outside⟩
  case inr => exact .inr ⟨_, .southWest outside⟩
  rcases isPlace_or_fault e.north e.east with northEast | ⟨fault, outside⟩
  case inr => exact .inr ⟨_, .northEast southWest outside⟩
  by_cases inverted : e.north < e.south
  case pos => exact .inr ⟨_, .inverted southWest northEast inverted⟩
  by_cases backward : e.east < e.west
  case pos => exact .inr ⟨_, .backward southWest northEast inverted backward⟩
  exact .inl ⟨southWest, northEast, inverted, backward⟩

theorem Edges.IsBox.ofEdges_eq {e : Edges} (box : e.IsBox) :
    Box.ofEdges e.south e.north e.west e.east = .ok e.box := by
  simp [Box.ofEdges, box.southWest.ofDegrees_eq, box.northEast.ofDegrees_eq, box.upright,
    box.forward, Edges.box]

theorem Edges.Fault.ofEdges_eq {e : Edges} {fault : Error} (wrong : e.Fault fault) :
    Box.ofEdges e.south e.north e.west e.east = .error fault := by
  unfold Box.ofEdges
  cases wrong with
  | southWest outside => rw [outside.ofDegrees_eq, error_bind]
  | northEast southWest outside =>
    rw [southWest.ofDegrees_eq, ok_bind, outside.ofDegrees_eq, error_bind]
  | inverted southWest northEast inverted =>
    simp [southWest.ofDegrees_eq, northEast.ofDegrees_eq, inverted]
  | backward southWest northEast upright backward =>
    simp [southWest.ofDegrees_eq, northEast.ofDegrees_eq, upright, backward]

/-- The distance can be that of a circle. -/
def IsRadius (meters : Float) : Prop :=
  meters.isFinite = true ∧ ¬meters < 0

theorem IsRadius.exists_around {meters : Float} (right : IsRadius meters) (center : Coordinate) :
    ∃ box, EncodedBox.around center meters = .ok box := by
  refine ⟨_, if_neg ?_⟩
  simp [right.1, right.2]

theorem around_of_not_isRadius {meters : Float} (wrong : ¬IsRadius meters) (center : Coordinate) :
    EncodedBox.around center meters = .error (.invalidRadius meters) := by
  refine if_pos ?_
  simpa [IsRadius, Classical.or_iff_not_imp_left] using wrong

/-- The distance in metres, of which a degree of longitude has as many as the latitude gives it. -/
def Radius.meters (r : Radius) (latitude : Float) : Float :=
  match r.unit with
  | .kilometers => r.distance * 1000
  | .miles => r.distance * 1.609344 * 1000
  | .meters => r.distance / 1000 * 1000
  | .degrees => r.distance * longitudeDegree latitude / 1000 * 1000

theorem Radius.toKilometers_eq (r : Radius) (latitude : Float) :
    r.unit.toKilometers r.distance latitude * 1000 = r.meters latitude := by
  unfold meters
  cases r.unit <;> rfl

/-- The degrees of latitude in a distance, on a sphere with a radius of 6367444 metres. -/
def latitudeChange (meters : Float) : Float :=
  meters / 6367444 * 57.29577951308232

/-- The degrees of longitude in a distance at a latitude of that sphere. -/
def longitudeChange (meters latitude : Float) : Float :=
  meters / (6367444 * (latitude * 0.017453292519943295).cos) * 57.29577951308232

/-- The edges as far from the center as the distance goes. -/
def edgesAround (center : Coordinate) (meters : Float) : Box :=
  { south := center.lat - latitudeChange meters
    north := center.lat + latitudeChange meters
    west := center.lng - longitudeChange meters center.lat
    east := center.lng + longitudeChange meters center.lat }

variable {center : Coordinate} {meters : Float} {box : EncodedBox}

/-- A box is around a point only if the distance can be that of a circle, and its edges are as far from
the point as the distance goes. -/
theorem eq_of_around (covers : EncodedBox.around center meters = .ok box) :
    IsRadius meters ∧ box =
      { south := encodeLatitude (center.lat - latitudeChange meters)
        north := encodeLatitude (center.lat + latitudeChange meters)
        west := encodeLongitude (center.lng - longitudeChange meters center.lat) center.lat
        east := encodeLongitude (center.lng + longitudeChange meters center.lat) center.lat
        referenceLatitude := center.lat } := by
  by_cases right : IsRadius meters
  · unfold EncodedBox.around at covers
    rw [if_neg (by simp [right.1, right.2])] at covers
    exact ⟨right, (Except.ok.inj covers).symm⟩
  · rw [around_of_not_isRadius right] at covers
    cases covers

theorem encodes_of_around (covers : EncodedBox.around center meters = .ok box) :
    Encodes (edgesAround center meters) center.lat box := by
  obtain ⟨-, rfl⟩ := eq_of_around covers
  exact ⟨rfl, rfl, rfl, rfl⟩

theorem decodes_of_around (covers : EncodedBox.around center meters = .ok box) :
    Decodes box center.lat box.decode := by
  obtain ⟨-, rfl⟩ := eq_of_around covers
  exact ⟨rfl, rfl, rfl, rfl⟩

/-! ## What is decided -/

/-- What a query uses of what it was given. -/
inductive Use
  | box (edges : Edges)
  | circle (center : Coordinate) (meters : Float)
  | point (center : Coordinate)

namespace Query

/-- The point, if there is one, is that of a place. -/
def PointSound (q : Query) : Prop :=
  ∀ lat lng, q.point = some (lat, lng) → IsPlace lat lng

/-- The outcome of a query: an error, nothing, or what it uses. A box is preferred to a point with a
radius, and that to a bare point, but a point has to be sound in any case. -/
inductive Decides (q : Query) : Except Error (Option Use) → Prop
  | noField (unnamed : q.field = "") : Decides q (.ok none)
  | badPoint {lat lng : Float} {e : Error} (named : q.field ≠ "") (given : q.point = some (lat, lng))
      (wrong : PlaceFault lat lng e) : Decides q (.error e)
  | badBox {edges : Edges} {e : Error} (named : q.field ≠ "") (sound : q.PointSound)
      (given : q.within = some edges) (wrong : edges.Fault e) : Decides q (.error e)
  | box {edges : Edges} (named : q.field ≠ "") (sound : q.PointSound)
      (given : q.within = some edges) (right : edges.IsBox) : Decides q (.ok (some (.box edges)))
  | badRadius {lat lng : Float} {r : Radius} (named : q.field ≠ "") (sound : q.PointSound)
      (boxless : q.within = none) (given : q.point = some (lat, lng)) (reach : q.radius = some r)
      (wrong : ¬IsRadius (r.meters lat)) : Decides q (.error (.invalidRadius (r.meters lat)))
  | circle {lat lng : Float} {r : Radius} (named : q.field ≠ "") (sound : q.PointSound)
      (boxless : q.within = none) (given : q.point = some (lat, lng)) (reach : q.radius = some r)
      (right : IsRadius (r.meters lat)) :
      Decides q (.ok (some (.circle ⟨lat, lng⟩ (r.meters lat))))
  | point {lat lng : Float} (named : q.field ≠ "") (sound : q.PointSound)
      (boxless : q.within = none) (given : q.point = some (lat, lng)) (reachless : q.radius = none) :
      Decides q (.ok (some (.point ⟨lat, lng⟩)))
  | nowhere (named : q.field ≠ "") (boxless : q.within = none) (pointless : q.point = none) :
      Decides q (.ok none)

theorem exists_decides (q : Query) : ∃ decision, q.Decides decision := by
  by_cases named : q.field = ""
  case pos => exact ⟨_, .noField named⟩
  by_cases sound : q.PointSound
  case neg =>
    simp only [PointSound, Classical.not_forall] at sound
    obtain ⟨lat, lng, given, wrong⟩ := sound
    obtain ⟨e, fault⟩ := (isPlace_or_fault lat lng).resolve_left wrong
    exact ⟨_, .badPoint named given fault⟩
  cases within : q.within with
  | some edges =>
    rcases edges.isBox_or_fault with right | ⟨e, wrong⟩
    · exact ⟨_, .box named sound within right⟩
    · exact ⟨_, .badBox named sound within wrong⟩
  | none =>
    rcases given : q.point with _ | ⟨lat, lng⟩
    · exact ⟨_, .nowhere named within given⟩
    cases reach : q.radius with
    | none => exact ⟨_, .point named sound within given reach⟩
    | some r =>
      by_cases right : IsRadius (r.meters lat)
      · exact ⟨_, .circle named sound within given reach right⟩
      · exact ⟨_, .badRadius named sound within given reach right⟩

end Query

/-! ## Targets -/

/-- The box that hits are restricted to, in degrees and encoded. A given box is in degrees as it was
given, and encoded with respect to the latitude of its middle. A circle is encoded with respect to the
latitude of its center, and in degrees it is what the encoding stands for. -/
inductive Use.Area : Use → Box → EncodedBox → Prop
  | box {edges : Edges} {encoded : EncodedBox}
      (counted : Encodes edges.box ((edges.south + edges.north) / 2) encoded) :
      Area (.box edges) edges.box encoded
  | circle {center : Coordinate} {meters : Float} {box : Box} {encoded : EncodedBox}
      (counted : Encodes (edgesAround center meters) center.lat encoded)
      (read : Decodes encoded center.lat box) : Area (.circle center meters) box encoded

namespace Query

/-- Distances are those from the place: the point where there is one, and the middle of the box
otherwise. -/
structure IsCenter (q : Query) (center : Coordinate) : Prop where
  point : ∀ lat lng, q.point = some (lat, lng) → center = ⟨lat, lng⟩
  middle : ∀ e, q.point = none → q.within = some e →
    center = ⟨(e.south + e.north) / 2, (e.west + e.east) / 2⟩

/-- The target that a use comes down to. A bare point is always sorted by. -/
inductive Aims (q : Query) : Use → Target → Prop
  | box {edges : Edges} {center : Coordinate} (counted : q.IsCenter center) :
      Aims q (.box edges) ⟨some (edges.box, edges.box.encode), center, q.sort⟩
  | circle {center : Coordinate} {meters : Float} {box : EncodedBox}
      (covers : EncodedBox.around center meters = .ok box) (counted : q.IsCenter center) :
      Aims q (.circle center meters) ⟨some (box.decode, box), center, q.sort⟩
  | point {center : Coordinate} (counted : q.IsCenter center) :
      Aims q (.point center) ⟨none, center, true⟩

theorem isCenter_of_point {q : Query} {lat lng : Float} (given : q.point = some (lat, lng)) :
    q.IsCenter ⟨lat, lng⟩ := by
  refine ⟨?_, ?_⟩
  · intro lat' lng' given'
    rw [given] at given'
    cases given'
    rfl
  · intro e pointless
    rw [given] at pointless
    cases pointless

theorem isCenter_of_within {q : Query} {e : Edges} (given : q.within = some e) :
    q.IsCenter ((q.point.map fun p => ⟨p.1, p.2⟩).getD e.box.center) := by
  rcases point : q.point with _ | ⟨lat, lng⟩
  · refine ⟨?_, ?_⟩
    · intro lat lng pointed
      rw [point] at pointed
      cases pointed
    · intro e' _ given'
      rw [given] at given'
      cases given'
      rfl
  · exact isCenter_of_point point

theorem target_of_within {q : Query} {e : Edges} (named : q.field ≠ "") (sound : q.PointSound)
    (given : q.within = some e) :
    q.target = (Box.ofEdges e.south e.north e.west e.east).map fun box =>
      some ⟨some (box, box.encode), (q.point.map fun p => ⟨p.1, p.2⟩).getD box.center, q.sort⟩ := by
  unfold target
  rcases point : q.point with _ | ⟨lat, lng⟩
  · simp only [if_neg named, given]
    rfl
  · simp only [if_neg named, given, (sound lat lng point).ofDegrees_eq]
    rfl

theorem target_of_radius {q : Query} {lat lng : Float} {r : Radius} (named : q.field ≠ "")
    (sound : q.PointSound) (boxless : q.within = none) (given : q.point = some (lat, lng))
    (reach : q.radius = some r) :
    q.target = (EncodedBox.around ⟨lat, lng⟩ (r.meters lat)).map
      fun box => some ⟨some (box.decode, box), ⟨lat, lng⟩, q.sort⟩ := by
  rw [← r.toKilometers_eq]
  unfold target
  simp only [if_neg named, given, (sound lat lng given).ofDegrees_eq, boxless, reach]
  rfl

theorem Decides.target_eq_error {q : Query} {e : Error} (decides : q.Decides (.error e)) :
    q.target = .error e := by
  cases decides with
  | badPoint named given wrong =>
    unfold target
    simp only [if_neg named, given, wrong.ofDegrees_eq]
    rfl
  | badBox named sound given wrong =>
    rw [target_of_within named sound given, wrong.ofEdges_eq, map_error]
  | badRadius named sound boxless given reach wrong =>
    rw [target_of_radius named sound boxless given reach, around_of_not_isRadius wrong, map_error]

theorem Decides.target_eq_none {q : Query} (decides : q.Decides (.ok none)) :
    q.target = .ok none := by
  unfold target
  cases decides with
  | noField unnamed =>
    rw [if_pos unnamed]
    rfl
  | nowhere named boxless pointless =>
    simp only [if_neg named, boxless, pointless]
    rfl

theorem Decides.exists_target {q : Query} {use : Use} (decides : q.Decides (.ok (some use))) :
    ∃ t, q.target = .ok (some t) ∧ q.Aims use t := by
  cases decides with
  | box named sound given right =>
    rw [target_of_within named sound given, right.ofEdges_eq, map_ok]
    exact ⟨_, rfl, .box (isCenter_of_within given)⟩
  | circle named sound boxless given reach right =>
    obtain ⟨box, covers⟩ := right.exists_around ⟨_, _⟩
    rw [target_of_radius named sound boxless given reach, covers, map_ok]
    exact ⟨_, rfl, .circle covers (isCenter_of_point given)⟩
  | point named sound boxless given reachless =>
    unfold target
    simp only [if_neg named, given, (sound _ _ given).ofDegrees_eq, boxless, reachless]
    exact ⟨_, rfl, .point (isCenter_of_point given)⟩

/-! ## What is made of a decision -/

/-- What is added to a search for the sake of a use. -/
structure Made (q : Query) (d : Dialect) (use : Use) (made : Constraint) : Prop where
  /-- There is a filter unless a bare point is used. -/
  filters_iff : made.filter.isSome = true ↔ ∀ center, use ≠ .point center
  /-- It restricts hits to the box that is used. -/
  restricts : ∀ c, made.filter = some c →
    ∃ box encoded, use.Area box encoded ∧ q.Restricts d box encoded c
  /-- There is an order if it is asked for, or if a bare point is used. -/
  sorts_iff : made.sort.isSome = true ↔ q.sort = true ∨ ∃ center, use = .point center
  /-- It is that of the distance from the point, or else from the middle of the box. -/
  counts : ∀ s, made.sort = some s → ∃ center, q.IsCenter center ∧ q.IsDistance d center s

/-- There is an order if the flag says so. -/
theorem isSome_constraint_sort (q : Query) (d : Dialect) (t : Target) :
    (q.constraint d t).sort.isSome = true ↔ t.sort = true := by
  unfold constraint
  cases t.sort <;> simp

theorem isDistance_of_constraint {q : Query} {d : Dialect} {t : Target} {s : DistanceSort}
    (sorts : (q.constraint d t).sort = some s) : q.IsDistance d t.center s := by
  unfold constraint at sorts
  cases sorted : t.sort with
  | false => simp [sorted] at sorts
  | true =>
    rw [sorted, if_pos rfl, Option.some.injEq] at sorts
    exact sorts ▸ q.isDistance_distanceFrom d t.center

theorem Aims.made {q : Query} {use : Use} {t : Target} (aims : q.Aims use t) (d : Dialect) :
    q.Made d use (q.constraint d t) := by
  refine ⟨?filters_iff, ?restricts, ?sorts_iff, ?counts⟩
  case filters_iff => cases aims <;> simp [constraint]
  case restricts =>
    rintro c restricts
    cases aims with
    | box =>
      cases restricts
      exact ⟨_, _, .box (encodes_encode _), q.restricts_boxClause d _ _⟩
    | circle covers =>
      cases restricts
      exact ⟨_, _, .circle (encodes_of_around covers) (decodes_of_around covers),
        q.restricts_boxClause d _ _⟩
    | point => cases restricts
  case sorts_iff =>
    rw [isSome_constraint_sort]
    cases aims <;> simp
  case counts =>
    intro s sorts
    refine ⟨t.center, ?_, isDistance_of_constraint sorts⟩
    cases aims with
    | box counted | circle _ counted | point counted => exact counted

end Query

/-- **Both dialects decide alike**, by the documented preference. A query has a decision; and whatever
the rules let it decide, either dialect fails with that error, or adds nothing, or adds what is made
for that use in its own words. -/
theorem compile_by_preference (q : Query) :
    (∃ decision, q.Decides decision) ∧
    (∀ e, q.Decides (.error e) → ∀ d, q.compile d = .error e) ∧
    (q.Decides (.ok none) → ∀ d, q.compile d = .ok none) ∧
    (∀ use, q.Decides (.ok (some use)) → ∀ d, ∃ made,
      q.compile d = .ok (some made) ∧ q.Made d use made) := by
  refine ⟨q.exists_decides, ?_, ?_, ?_⟩
  · intro e decides d
    rw [q.compile_eq, decides.target_eq_error, map_error]
  · intro decides d
    rw [q.compile_eq, decides.target_eq_none, map_ok, Option.map_none]
  · intro use decides d
    obtain ⟨t, target_eq, aims⟩ := decides.exists_target
    rw [q.compile_eq, target_eq, map_ok, Option.map_some]
    exact ⟨_, rfl, aims.made d⟩

end CloudSearch.Geo
