import ScriptedMap.Geo.Features
import ScriptedMap.Proofs.Attempt

namespace ScriptedMap

/-- The value is an array, the items of which are related to the members of the list. -/
def Json.IsArrayOf {α : Type} (R : Json → α → Prop) (v : Json) (as : List α) : Prop :=
  ∃ items, v = .array items ∧ List.Forall₂ R items as

/-- The value is an array of two numbers, and perhaps of more items. -/
def Point.IsFrom (v : Json) (p : Point) : Prop :=
  ∃ lng lat rest, v = .array (lng :: lat :: rest) ∧ lng.real? = some p.lng ∧ lat.real? = some p.lat

theorem Json.real?_ofNat (n : Nat) : (Json.ofNat n).real? = some (.ofInt n) := by
  rw [Json.ofNat, Json.real?, Json.Number.toReal]

theorem Point.isFrom_ofNat (lng lat : Nat) (rest : List Json) :
    Point.IsFrom (.array (.ofNat lng :: .ofNat lat :: rest)) ⟨.ofInt lng, .ofInt lat⟩ := by
  refine ⟨_, _, rest, rfl, ?_, ?_⟩
  · rw [Json.real?_ofNat]
  · rw [Json.real?_ofNat]

def Ring.IsFrom : Json → Ring → Prop := Json.IsArrayOf Point.IsFrom

def Polygon.IsFrom : Json → Polygon → Prop := Json.IsArrayOf Ring.IsFrom

namespace Feature

theorem position_eq_ok_iff (v : Json) (p : Point) : position v = .ok p ↔ Point.IsFrom v p := by
  constructor
  · intro h
    unfold position at h
    split at h
    · next lng lat rest =>
      split at h
      · next x y hlng hlat =>
        obtain rfl := Except.ok.inj h
        exact ⟨lng, lat, rest, rfl, hlng, hlat⟩
      · cases h
    · cases h
  · rintro ⟨lng, lat, rest, rfl, hlng, hlat⟩
    rw [position, hlng, hlat]

theorem ring_eq_ok_iff (v : Json) (r : Ring) : ring v = .ok r ↔ Ring.IsFrom v r := by
  cases v with
  | array items => simp [ring, Ring.IsFrom, Json.IsArrayOf, mapM_eq_ok_iff position_eq_ok_iff]
  | _ => simp [ring, Ring.IsFrom, Json.IsArrayOf]

theorem polygon_eq_ok_iff (v : Json) (p : Polygon) : polygon v = .ok p ↔ Polygon.IsFrom v p := by
  cases v with
  | array items => simp [polygon, Polygon.IsFrom, Json.IsArrayOf, mapM_eq_ok_iff ring_eq_ok_iff]
  | _ => simp [polygon, Polygon.IsFrom, Json.IsArrayOf]

/-- The kind of a geometry. -/
def kind? (geometry : Json) : Option String := (geometry.field? "type").bind Json.text?

def LacksGeometry (feature : Json) : Prop :=
  feature.field? "geometry" = none ∨ feature.field? "geometry" = some .null

theorem polygons_of_lacksGeometry {feature : Json} (h : LacksGeometry feature) :
    polygons feature = .ok [] := by
  rcases h with h | h <;> rw [polygons, h]

theorem polygons_eq_polygonsOf {feature geometry coordinates : Json}
    (hgeometry : feature.field? "geometry" = some geometry)
    (hcoordinates : geometry.field? "coordinates" = some coordinates) :
    polygons feature = polygonsOf (kind? geometry) coordinates := by
  cases geometry with
  | object fields => simp only [polygons, hgeometry, hcoordinates, kind?]
  | _ => cases hcoordinates

end Feature

end ScriptedMap
