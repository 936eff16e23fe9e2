import ScriptedMap.Proofs.Geo.Loading

namespace ScriptedMap

namespace Feature

/-- The geometry is a polygon, or several, and its coordinates are well formed. -/
def HasArea (feature : Json) : Prop :=
  ∃ geometry coordinates, feature.field? "geometry" = some geometry ∧
    geometry.field? "coordinates" = some coordinates ∧
    (kind? geometry = some "Polygon" ∧ (∃ p, Polygon.IsFrom coordinates p) ∨
      kind? geometry = some "MultiPolygon" ∧ ∃ ps, Json.IsArrayOf Polygon.IsFrom coordinates ps)

/-- The geometry is an object, but of no kind that has an area. -/
def HasNoArea (feature : Json) : Prop :=
  ∃ fields, feature.field? "geometry" = some (.object fields) ∧
    kind? (.object fields) ≠ some "Polygon" ∧ kind? (.object fields) ≠ some "MultiPolygon"

def LacksCoordinates (feature : Json) : Prop :=
  ∃ geometry, feature.field? "geometry" = some geometry ∧ geometry.field? "coordinates" = none

theorem LacksGeometry.not_hasNoArea {feature : Json} (h : LacksGeometry feature) :
    ¬HasNoArea feature := by
  rintro ⟨fields, hgeometry, -⟩
  rcases h with h | h
  · rw [h] at hgeometry
    cases hgeometry
  · rw [h] at hgeometry
    cases hgeometry

section Fit

variable {feature coordinates : Json} {kind : Option String} {ps : List Polygon}

theorem HasCoordinates.not_lacksCoordinates (h : HasCoordinates feature kind coordinates) :
    ¬LacksCoordinates feature := by
  intro hlacks
  obtain ⟨geometry, hgeometry, hcoordinates, -⟩ := h
  obtain ⟨other, hother, hnone⟩ := hlacks
  obtain rfl : geometry = other := Option.some.inj (hgeometry.symm.trans hother)
  rw [hcoordinates] at hnone
  cases hnone

theorem HasNoArea.kind_ne (h : HasNoArea feature)
    (hgeometry : HasCoordinates feature kind coordinates) :
    kind ≠ some "Polygon" ∧ kind ≠ some "MultiPolygon" := by
  obtain ⟨fields, hfields, hne⟩ := h
  obtain ⟨geometry, hsame, -, rfl⟩ := hgeometry
  obtain rfl : .object fields = geometry := Option.some.inj (hfields.symm.trans hsame)
  exact hne

/-- A geometry that has no area is read as no polygons, but only if it has coordinates. -/
theorem HasNoArea.hasPolygons_iff (h : HasNoArea feature) :
    HasPolygons feature ps ↔ ¬LacksCoordinates feature ∧ ps = [] := by
  constructor
  · intro hps
    cases hps with
    | missing hlacks => exact absurd h hlacks.not_hasNoArea
    | polygon hgeometry _ => exact absurd rfl (h.kind_ne hgeometry).1
    | multiPolygon hgeometry _ => exact absurd rfl (h.kind_ne hgeometry).2
    | other hgeometry _ _ => exact ⟨hgeometry.not_lacksCoordinates, rfl⟩
  · intro hread
    obtain ⟨hhas, rfl⟩ := hread
    rcases geometry_cases feature with hlacks | ⟨geometry, hgeometry, -, hnone⟩ |
      ⟨kind, coordinates, hgeometry⟩
    · exact absurd h hlacks.not_hasNoArea
    · exact absurd ⟨geometry, hgeometry, hnone⟩ hhas
    · exact .other hgeometry (h.kind_ne hgeometry).1 (h.kind_ne hgeometry).2

theorem HasArea.exists_hasPolygons (h : HasArea feature) :
    ¬LacksCoordinates feature ∧ ∃ ps, HasPolygons feature ps := by
  obtain ⟨geometry, coordinates, hgeometry, hcoordinates, hkind⟩ := h
  have hhas : HasCoordinates feature (kind? geometry) coordinates :=
    ⟨geometry, hgeometry, hcoordinates, rfl⟩
  refine ⟨hhas.not_lacksCoordinates, ?_⟩
  rcases hkind with ⟨hkind, p, hp⟩ | ⟨hkind, ps, hps⟩
  · rw [hkind] at hhas
    exact ⟨[p], .polygon hhas hp⟩
  · rw [hkind] at hhas
    exact ⟨ps, .multiPolygon hhas hps⟩

/-- The feature has no geometry, an area that is well formed, or a geometry that has no area. -/
def IsFit (feature : Json) : Prop := LacksGeometry feature ∨ HasArea feature ∨ HasNoArea feature

theorem IsFit.exists_hasPolygons_iff (h : IsFit feature) :
    (∃ ps, HasPolygons feature ps) ↔ (HasNoArea feature → ¬LacksCoordinates feature) := by
  rcases h with hlacks | harea | hnone
  · have hnot : ¬HasNoArea feature := hlacks.not_hasNoArea
    exact ⟨fun _ hnone => absurd hnone hnot, fun _ => ⟨[], .missing hlacks⟩⟩
  · obtain ⟨hhas, hread⟩ := harea.exists_hasPolygons
    exact ⟨fun _ _ => hhas, fun _ => hread⟩
  · simp only [hnone.hasPolygons_iff, exists_and_left, exists_eq, and_true]
    exact ⟨fun hhas _ => hhas, fun hhas => hhas hnone⟩

end Fit

end Feature

namespace Atlas

open Dataset

theorem exists_holdsCountries_iff {text : String} {fs : List Json}
    (hfs : Feature.ofText text = .ok fs) : (∃ cs, HoldsCountries text cs) ↔
      ∀ f ∈ fs.filter Feature.isCountry, ∃ ps, Feature.HasPolygons f ps :=
  exists_holds_iff (fun _ _ => Feature.isOf_country_iff) (ofText_eq_ok_iff.mp hfs)

theorem exists_holdsRegions_iff {text : String} {fs : List Json}
    (hfs : Feature.ofText text = .ok fs) : (∃ rs, HoldsRegions (some text) rs) ↔
      ∀ f ∈ fs.filter Feature.isRegion, ∃ ps, Feature.HasPolygons f ps :=
  exists_holds_iff (fun _ _ => Feature.isOf_region_iff) (ofText_eq_ok_iff.mp hfs)

theorem exists_read_iff {config : Config} {countries : String} {regions : Option String} :
    (∃ atlas, read config countries regions = .ok atlas) ↔
      (∃ cs, HoldsCountries countries cs) ∧ ∃ rs, HoldsRegions regions rs := by
  simp only [← readCountries_eq_ok_iff, ← readRegions?_eq_ok_iff, read_eq]
  constructor
  · intro h
    obtain ⟨atlas, hread⟩ := h
    obtain ⟨cs, hcs, hrest⟩ := bind_eq_ok.mp hread
    obtain ⟨rs, hrs, -⟩ := bind_eq_ok.mp hrest
    exact ⟨⟨cs, hcs⟩, rs, hrs⟩
  · intro h
    obtain ⟨⟨cs, hcs⟩, rs, hrs⟩ := h
    exact ⟨_, bind_eq_ok.mpr ⟨cs, hcs, bind_eq_ok.mpr ⟨rs, hrs, rfl⟩⟩⟩

/-- Datasets of features that fit are read, unless a geometry that has no area lacks coordinates;
and what is read of such a geometry is no polygons. -/
theorem read_fit_iff {config : Config} {countries regions : String} {fs gs : List Json}
    (hfs : Feature.ofText countries = .ok fs) (hgs : Feature.ofText regions = .ok gs)
    (hfit : ∀ f ∈ fs.filter Feature.isCountry ++ gs.filter Feature.isRegion, Feature.IsFit f) :
    ((∃ atlas, read config countries (some regions) = .ok atlas) ↔
      ∀ f ∈ fs.filter Feature.isCountry ++ gs.filter Feature.isRegion,
        Feature.HasNoArea f → ¬Feature.LacksCoordinates f) ∧
    ∀ atlas, read config countries (some regions) = .ok atlas →
      List.Forall₂ (fun f (c : Country) => c.IsOf f ∧
        (Feature.HasNoArea f → c.territory.polygons = [])) (fs.filter Feature.isCountry)
          atlas.countries ∧
      List.Forall₂ (fun f (r : Region) => r.IsOf f ∧
        (Feature.HasNoArea f → r.territory.polygons = [])) (gs.filter Feature.isRegion)
          atlas.regions := by
  constructor
  · rw [exists_read_iff, exists_holdsCountries_iff hfs, exists_holdsRegions_iff hgs,
      ← List.forall_mem_append]
    exact forall₂_congr fun f hf => (hfit f hf).exists_hasPolygons_iff
  · intro atlas hread
    obtain ⟨-, hcountries, hregions⟩ := of_read hread
    have hcs := hcountries.forall₂ (ofText_eq_ok_iff.mp hfs)
    have hrs := Holds.forall₂ hregions (ofText_eq_ok_iff.mp hgs)
    refine ⟨hcs.imp ?_, hrs.imp ?_⟩
    · intro f c hc
      exact ⟨hc, fun hnone => (hnone.hasPolygons_iff.mp hc.territory.polygons).2⟩
    · intro f r hr
      exact ⟨hr, fun hnone => (hnone.hasPolygons_iff.mp hr.territory.polygons).2⟩

theorem lacksCoordinates_ofGeometry (name : String) (geometry : Json) :
    Feature.LacksCoordinates (ofGeometry name geometry) ↔ geometry.field? "coordinates" = none := by
  constructor
  · rintro ⟨other, hsame, hnone⟩
    obtain rfl : geometry = other := Option.some.inj hsame
    exact hnone
  · exact fun hnone => ⟨geometry, rfl, hnone⟩

/-- A polygon with an empty ring and a position with an altitude, a point, and no geometry. -/
def shapes : List Json :=
  [ofGeometry "Square" (.object [("type", .text "Polygon"),
      ("coordinates", .array [.array [], .array [.array [.ofNat 1, .ofNat 2, .ofNat 300]]])]),
   ofGeometry "Cape" (.object [("coordinates", .array [.ofNat 1, .ofNat 2]),
      ("type", .text "Point")]),
   ofGeometry "Nowhere" .null]

theorem shapes_fit : ∀ f ∈ shapes, Feature.IsFit f := by
  rw [shapes, List.forall_mem_cons, List.forall_mem_cons, List.forall_mem_singleton]
  refine ⟨.inr (.inl ⟨_, _, rfl, rfl, .inl ⟨rfl, ?_⟩⟩), .inr (.inr ⟨_, rfl, ?_, ?_⟩),
    .inl (.inr rfl)⟩
  · have hring := List.Forall₂.cons (Point.isFrom_ofNat 1 2 [.ofNat 300]) .nil
    exact ⟨_, _, rfl, .cons ⟨_, rfl, .nil⟩ (.cons ⟨_, rfl, hring⟩ .nil)⟩
  · decide
  · decide

theorem read_fit_iff_shapes : ∃ countries regions fs gs atlas,
    Feature.ofText countries = .ok fs ∧ Feature.ofText regions = .ok gs ∧
    (∀ f ∈ fs.filter Feature.isCountry ++ gs.filter Feature.isRegion, Feature.IsFit f) ∧
    read .standard countries (some regions) = .ok atlas ∧
    ∃ square cape nowhere, atlas.countries = [square, cape, nowhere] ∧
      cape.territory.polygons = [] := by
  have hreread : shapes.map Json.reread = shapes := by
    simp [shapes, ofGeometry, Json.reread, Json.rereadFields, Json.rereadItems, Json.reread_ofNat]
  have hfs := Feature.ofText_compact hreread rfl
  have hgs : Feature.ofText (Json.object [("features", .array [])]).compact = .ok [] :=
    Feature.ofText_compact rfl rfl
  have hfit : ∀ f ∈ shapes.filter Feature.isCountry ++ [].filter Feature.isRegion,
      Feature.IsFit f := shapes_fit
  have hcoordinates : ∀ f ∈ shapes.filter Feature.isCountry ++ [].filter Feature.isRegion,
      Feature.HasNoArea f → ¬Feature.LacksCoordinates f := by
    change ∀ f ∈ shapes, _
    rw [shapes, List.forall_mem_cons, List.forall_mem_cons, List.forall_mem_singleton]
    refine ⟨?_, ?_, ?_⟩
    · rintro - hlacks
      cases (lacksCoordinates_ofGeometry _ _).mp hlacks
    · rintro - hlacks
      cases (lacksCoordinates_ofGeometry _ _).mp hlacks
    · rintro ⟨_, hobject, -⟩
      cases hobject
  obtain ⟨hiff, hread⟩ := read_fit_iff hfs hgs hfit
  obtain ⟨atlas, hatlas⟩ := hiff.mpr hcoordinates
  refine ⟨_, _, _, _, atlas, hfs, hgs, hfit, hatlas, ?_⟩
  have hcountries := (hread atlas hatlas).1
  change List.Forall₂ _ shapes _ at hcountries
  rw [shapes] at hcountries
  obtain ⟨square, _, -, hrest, hfirst⟩ := List.forall₂_cons_left_iff.mp hcountries
  obtain ⟨cape, _, ⟨-, hnone⟩, hlast, rfl⟩ := List.forall₂_cons_left_iff.mp hrest
  obtain ⟨nowhere, _, -, hnil, rfl⟩ := List.forall₂_cons_left_iff.mp hlast
  rw [List.forall₂_nil_left_iff.mp hnil] at hfirst
  exact ⟨square, cape, nowhere, hfirst, hnone ⟨_, rfl, by decide, by decide⟩⟩

/-- A collection of geometries in one feature refuses the whole dataset. -/
theorem read_not_fit : ¬∀ (config : Config) (countries regions : String) (fs gs : List Json),
    Feature.ofText countries = .ok fs → Feature.ofText regions = .ok gs →
    (∀ f ∈ fs.filter Feature.isCountry ++ gs.filter Feature.isRegion, Feature.IsFit f) →
    ∃ atlas, read config countries (some regions) = .ok atlas := by
  intro h
  let islands : Json := ofGeometry "Islands"
    (.object [("type", .text "GeometryCollection"), ("geometries", .array [])])
  have hfs : Feature.ofText (Json.object [("features", .array [islands])]).compact =
      .ok [islands] := Feature.ofText_compact rfl rfl
  have hgs : Feature.ofText (Json.object [("features", .array [])]).compact = .ok [] :=
    Feature.ofText_compact rfl rfl
  have hfit : ∀ f ∈ [islands].filter Feature.isCountry ++ [].filter Feature.isRegion,
      Feature.IsFit f := by
    change ∀ f ∈ [islands], _
    rw [List.forall_mem_singleton]
    exact .inr (.inr ⟨_, rfl, by decide, by decide⟩)
  have hread := h .standard _ _ _ _ hfs hgs hfit
  rw [exists_read_iff, exists_holdsCountries_iff hfs] at hread
  obtain ⟨ps, hps⟩ := hread.1 islands List.mem_cons_self
  have hnone : Feature.HasNoArea islands := ⟨_, rfl, by decide, by decide⟩
  exact (hnone.hasPolygons_iff.mp hps).1 ((lacksCoordinates_ofGeometry _ _).mpr rfl)

end Atlas

end ScriptedMap
