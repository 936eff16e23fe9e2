import ScriptedMap.Proofs.Geo.Geometry
import ScriptedMap.Proofs.Geo.Search

namespace ScriptedMap

section Attempts

variable {ε α β : Type} {e : ε} {xs : List α}

theorem ok_bind_cons_eq_error_iff {b : β} {rest : Except ε (List β)} :
    (do let c ← id (Except.ok b : Except ε β); let cs ← rest; pure (c :: cs)) = .error e ↔
      rest = .error e := by
  cases rest <;> simp [bind, Except.bind, pure, Except.pure]

/-- Attempts made for some members of a list fail with the first of them that fails. -/
theorem mapM_filterMap_eq_error_iff {attempt? : α → Option (Except ε β)} :
    (xs.filterMap attempt?).mapM id = .error e ↔
      ∃ i x, IsFirst (fun y => ∃ d, attempt? y = some (.error d)) xs i x ∧
        attempt? x = some (.error e) := by
  induction xs with
  | nil =>
    constructor
    · intro h
      cases h
    · intro h
      obtain ⟨i, x, hfirst, -⟩ := h
      cases hfirst.mem
  | cons x xs ih =>
    cases hx : attempt? x with
    | none => rw [List.filterMap_cons_none hx, ih, exists_isFirst_cons_of_neg (by simp [hx])]
    | some result =>
      rw [List.filterMap_cons_some hx, List.mapM_cons]
      cases result with
      | error d =>
        change (Except.error d : Except ε (List β)) = .error e ↔ _
        rw [exists_isFirst_cons_of_pos ⟨d, hx⟩, hx, Option.some.injEq, Except.error.injEq,
          Except.error.injEq]
      | ok b =>
        rw [ok_bind_cons_eq_error_iff, ih, exists_isFirst_cons_of_neg (by simp [hx])]

theorem mapM_eq_error_iff {f : α → Except ε β} :
    xs.mapM f = .error e ↔
      ∃ i x, IsFirst (fun y => ∃ d, f y = .error d) xs i x ∧ f x = .error e := by
  have hall : xs.mapM f = (xs.filterMap fun x => some (f x)).mapM id := by
    rw [List.filterMap_eq_map', List.mapM_map]
    rfl
  rw [hall, mapM_filterMap_eq_error_iff]
  simp only [Option.some.injEq]

end Attempts

/-- The value is no array, or the first of its items that cannot be read has the fault. -/
inductive Json.IsFaultyArray {α ε : Type} (notArray : ε) (IsFrom : Json → α → Prop)
    (IsFault : Json → ε → Prop) (v : Json) : ε → Prop
  | kind (h : ∀ items, v ≠ .array items) : IsFaultyArray notArray IsFrom IsFault v notArray
  | item {items : List Json} {i : Nat} {w : Json} {e : ε} (hv : v = .array items)
      (hfirst : IsFirst (fun w => ¬∃ a, IsFrom w a) items i w) (h : IsFault w e) :
      IsFaultyArray notArray IsFrom IsFault v e

/-- The value is not an array that begins with two numbers. -/
inductive Point.IsFault (v : Json) : GeometryError → Prop
  | bad (h : ¬∃ p, Point.IsFrom v p) : IsFault v (.badPosition v)

def Ring.IsFault : Json → GeometryError → Prop :=
  Json.IsFaultyArray .positionsNotArray Point.IsFrom Point.IsFault

def Polygon.IsFault : Json → GeometryError → Prop :=
  Json.IsFaultyArray .ringsNotArray Ring.IsFrom Ring.IsFault

section Arrays

variable {α ε : Type} {read : Json → Except ε α} {IsFrom : Json → α → Prop}
  {IsFault : Json → ε → Prop} {notArray e : ε}

/-- Reads the items of an array. -/
def Json.readItems (notArray : ε) (read : Json → Except ε α) : Json → Except ε (List α)
  | .array items => items.mapM read
  | _ => .error notArray

theorem exists_error_iff (hok : ∀ v a, read v = .ok a ↔ IsFrom v a) (v : Json) :
    (∃ e, read v = .error e) ↔ ¬∃ a, IsFrom v a := by
  simp only [← hok]
  cases read v <;> simp

theorem Json.isFaultyArray_of_ne {v : Json} (hv : ∀ items, v ≠ .array items) :
    IsFaultyArray notArray IsFrom IsFault v e ↔ e = notArray := by
  constructor
  · intro h
    cases h with
    | kind _ => rfl
    | item harray _ _ => exact absurd harray (hv _)
  · intro h
    rw [h]
    exact .kind hv

theorem Json.isFaultyArray_array {items : List Json} :
    IsFaultyArray notArray IsFrom IsFault (.array items) e ↔
      ∃ i w, IsFirst (fun w => ¬∃ a, IsFrom w a) items i w ∧ IsFault w e := by
  constructor
  · intro h
    cases h with
    | kind h => exact absurd rfl (h items)
    | item hv hfirst hw =>
      cases hv
      exact ⟨_, _, hfirst, hw⟩
  · intro h
    obtain ⟨i, w, hfirst, hw⟩ := h
    exact .item rfl hfirst hw

theorem Json.readItems_eq_ok_iff (hok : ∀ v a, read v = .ok a ↔ IsFrom v a) (v : Json)
    {as : List α} : v.readItems notArray read = .ok as ↔ v.IsArrayOf IsFrom as := by
  cases v with
  | array items => simp [readItems, IsArrayOf, mapM_eq_ok_iff hok]
  | _ => simp [readItems, IsArrayOf]

theorem Json.readItems_eq_error_iff (hok : ∀ v a, read v = .ok a ↔ IsFrom v a)
    (herror : ∀ v e, read v = .error e ↔ IsFault v e) (v : Json) :
    v.readItems notArray read = .error e ↔ v.IsFaultyArray notArray IsFrom IsFault e := by
  cases v with
  | array items =>
    simp only [readItems, isFaultyArray_array, mapM_eq_error_iff, exists_error_iff hok]
    simp only [herror]
  | _ =>
    rw [isFaultyArray_of_ne (by simp), readItems, Except.error.injEq, eq_comm]
    simp

end Arrays

namespace Feature

theorem ring_eq_readItems : ring = Json.readItems .positionsNotArray position := by
  funext v
  cases v <;> rfl

theorem polygon_eq_readItems : polygon = Json.readItems .ringsNotArray ring := by
  funext v
  cases v <;> rfl

theorem position_eq (v : Json) :
    position v = .error (.badPosition v) ∨ ∃ p, position v = .ok p := by
  unfold position
  split
  · split
    · exact .inr ⟨_, rfl⟩
    · exact .inl rfl
  · exact .inl rfl

theorem position_eq_error_iff (v : Json) (e : GeometryError) :
    position v = .error e ↔ Point.IsFault v e := by
  constructor
  · intro h
    have hnone : ¬∃ p, Point.IsFrom v p := (exists_error_iff position_eq_ok_iff v).mp ⟨e, h⟩
    rcases position_eq v with hbad | ⟨p, hp⟩
    · obtain rfl : GeometryError.badPosition v = e := Except.error.inj (hbad.symm.trans h)
      exact .bad hnone
    · exact absurd ⟨p, (position_eq_ok_iff v p).mp hp⟩ hnone
  · intro h
    cases h with
    | bad hnone =>
      rcases position_eq v with hbad | ⟨p, hp⟩
      · exact hbad
      · exact absurd ⟨p, (position_eq_ok_iff v p).mp hp⟩ hnone

theorem ring_eq_error_iff (v : Json) (e : GeometryError) :
    ring v = .error e ↔ Ring.IsFault v e := by
  rw [ring_eq_readItems]
  exact Json.readItems_eq_error_iff position_eq_ok_iff position_eq_error_iff v

theorem polygon_eq_error_iff (v : Json) (e : GeometryError) :
    polygon v = .error e ↔ Polygon.IsFault v e := by
  rw [polygon_eq_readItems]
  exact Json.readItems_eq_error_iff ring_eq_ok_iff ring_eq_error_iff v

/-- The feature has a geometry of the kind with these coordinates. -/
def HasCoordinates (feature : Json) (kind : Option String) (coordinates : Json) : Prop :=
  ∃ geometry, feature.field? "geometry" = some geometry ∧
    geometry.field? "coordinates" = some coordinates ∧ kind? geometry = kind

/-- The polygons of the feature. A geometry that has no area has none. -/
inductive HasPolygons (feature : Json) : List Polygon → Prop
  | missing (h : LacksGeometry feature) : HasPolygons feature []
  | polygon {coordinates : Json} {p : Polygon}
      (hgeometry : HasCoordinates feature (some "Polygon") coordinates)
      (h : Polygon.IsFrom coordinates p) : HasPolygons feature [p]
  | multiPolygon {coordinates : Json} {ps : List Polygon}
      (hgeometry : HasCoordinates feature (some "MultiPolygon") coordinates)
      (h : coordinates.IsArrayOf Polygon.IsFrom ps) : HasPolygons feature ps
  | other {coordinates : Json} {kind : Option String}
      (hgeometry : HasCoordinates feature kind coordinates) (hpolygon : kind ≠ some "Polygon")
      (hmulti : kind ≠ some "MultiPolygon") : HasPolygons feature []

/-- Why the polygons of the feature cannot be read. -/
inductive IsFault (feature : Json) : GeometryError → Prop
  | coordinates {geometry : Json} (hgeometry : feature.field? "geometry" = some geometry)
      (hnull : geometry ≠ .null) (h : geometry.field? "coordinates" = none) :
      IsFault feature .missingCoordinates
  | polygon {coordinates : Json} {e : GeometryError}
      (hgeometry : HasCoordinates feature (some "Polygon") coordinates)
      (h : Polygon.IsFault coordinates e) : IsFault feature e
  | multiPolygon {coordinates : Json} {e : GeometryError}
      (hgeometry : HasCoordinates feature (some "MultiPolygon") coordinates)
      (h : coordinates.IsFaultyArray .polygonsNotArray Polygon.IsFrom Polygon.IsFault e) :
      IsFault feature e

theorem polygons_of_hasCoordinates {feature coordinates : Json} {kind : Option String}
    (h : HasCoordinates feature kind coordinates) :
    polygons feature = polygonsOf kind coordinates := by
  obtain ⟨geometry, hgeometry, hcoordinates, hkind⟩ := h
  rw [polygons_eq_polygonsOf hgeometry hcoordinates, hkind]

theorem polygonsOf_polygon (coordinates : Json) :
    polygonsOf (some "Polygon") coordinates = (polygon coordinates).map ([·]) := rfl

theorem polygonsOf_multiPolygon (coordinates : Json) :
    polygonsOf (some "MultiPolygon") coordinates =
      coordinates.readItems .polygonsNotArray polygon := by
  cases coordinates <;> rfl

theorem polygonsOf_other {kind : Option String} (hpolygon : kind ≠ some "Polygon")
    (hmulti : kind ≠ some "MultiPolygon") (coordinates : Json) :
    polygonsOf kind coordinates = .ok [] := (if_neg hpolygon).trans (if_neg hmulti)

theorem polygons_of_hasPolygons {feature : Json} {ps : List Polygon} (h : HasPolygons feature ps) :
    polygons feature = .ok ps := by
  cases h with
  | missing h => exact polygons_of_lacksGeometry h
  | polygon hgeometry h =>
    rw [polygons_of_hasCoordinates hgeometry, polygonsOf_polygon, (polygon_eq_ok_iff _ _).mpr h]
    rfl
  | multiPolygon hgeometry h =>
    rw [polygons_of_hasCoordinates hgeometry, polygonsOf_multiPolygon]
    exact (Json.readItems_eq_ok_iff polygon_eq_ok_iff _).mpr h
  | other hgeometry hpolygon hmulti =>
    rw [polygons_of_hasCoordinates hgeometry, polygonsOf_other hpolygon hmulti]

theorem polygons_of_isFault {feature : Json} {e : GeometryError} (h : IsFault feature e) :
    polygons feature = .error e := by
  cases h with
  | coordinates hgeometry hnull h =>
    rename_i geometry
    cases geometry with
    | null => exact absurd rfl hnull
    | _ => simp only [polygons, hgeometry, h]
  | polygon hgeometry h =>
    rw [polygons_of_hasCoordinates hgeometry, polygonsOf_polygon, (polygon_eq_error_iff _ _).mpr h]
    rfl
  | multiPolygon hgeometry h =>
    rw [polygons_of_hasCoordinates hgeometry, polygonsOf_multiPolygon]
    exact (Json.readItems_eq_error_iff polygon_eq_ok_iff polygon_eq_error_iff _).mpr h

theorem geometry_cases (feature : Json) :
    LacksGeometry feature ∨
    (∃ geometry, feature.field? "geometry" = some geometry ∧ geometry ≠ .null ∧
      geometry.field? "coordinates" = none) ∨
    ∃ kind coordinates, HasCoordinates feature kind coordinates := by
  cases hgeometry : feature.field? "geometry" with
  | none => exact .inl (.inl hgeometry)
  | some geometry =>
    cases hcoordinates : geometry.field? "coordinates" with
    | some coordinates => exact .inr (.inr ⟨_, coordinates, geometry, hgeometry, hcoordinates, rfl⟩)
    | none =>
      by_cases hnull : geometry = .null
      · exact .inl (.inr (hnull ▸ hgeometry))
      · exact .inr (.inl ⟨geometry, rfl, hnull, hcoordinates⟩)

/-- A feature has polygons or a fault. -/
theorem hasPolygons_or_isFault (feature : Json) :
    (∃ ps, HasPolygons feature ps) ∨ ∃ e, IsFault feature e := by
  rcases geometry_cases feature with hlacks | ⟨geometry, hgeometry, hnull, hnone⟩ |
    ⟨kind, coordinates, hgeometry⟩
  · exact .inl ⟨[], .missing hlacks⟩
  · exact .inr ⟨_, .coordinates hgeometry hnull hnone⟩
  · by_cases hpolygon : kind = some "Polygon"
    · subst hpolygon
      cases hread : polygon coordinates with
      | ok p => exact .inl ⟨[p], .polygon hgeometry ((polygon_eq_ok_iff _ _).mp hread)⟩
      | error e => exact .inr ⟨e, .polygon hgeometry ((polygon_eq_error_iff _ _).mp hread)⟩
    · by_cases hmulti : kind = some "MultiPolygon"
      · subst hmulti
        cases hread : coordinates.readItems .polygonsNotArray polygon with
        | ok ps =>
          have hitems := (Json.readItems_eq_ok_iff polygon_eq_ok_iff _).mp hread
          exact .inl ⟨ps, .multiPolygon hgeometry hitems⟩
        | error e =>
          have hfault :=
            (Json.readItems_eq_error_iff polygon_eq_ok_iff polygon_eq_error_iff _).mp hread
          exact .inr ⟨e, .multiPolygon hgeometry hfault⟩
      · exact .inl ⟨[], .other hgeometry hpolygon hmulti⟩

theorem polygons_eq_ok_iff (feature : Json) (ps : List Polygon) :
    polygons feature = .ok ps ↔ HasPolygons feature ps := by
  constructor
  · intro h
    rcases hasPolygons_or_isFault feature with ⟨qs, hqs⟩ | ⟨e, he⟩
    · obtain rfl : ps = qs := Except.ok.inj (h.symm.trans (polygons_of_hasPolygons hqs))
      exact hqs
    · cases h.symm.trans (polygons_of_isFault he)
  · exact polygons_of_hasPolygons

theorem polygons_eq_error_iff (feature : Json) (e : GeometryError) :
    polygons feature = .error e ↔ IsFault feature e := by
  constructor
  · intro h
    rcases hasPolygons_or_isFault feature with ⟨ps, hps⟩ | ⟨d, hd⟩
    · cases h.symm.trans (polygons_of_hasPolygons hps)
    · obtain rfl : e = d := Except.error.inj (h.symm.trans (polygons_of_isFault hd))
      exact hd
  · exact polygons_of_isFault

end Feature

end ScriptedMap
