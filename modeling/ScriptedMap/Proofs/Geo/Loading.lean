import ScriptedMap.Config.Standard
import ScriptedMap.Proofs.Geo.Dataset
import ScriptedMap.Proofs.Geo.Fault

namespace ScriptedMap

namespace Feature

/-- The territory has the first name of the feature, its first country if there is one, and its
polygons. -/
structure Describes (names parents : List String) (feature : Json) (t : Territory) : Prop where
  name : FirstText names feature t.name
  parent : ∀ text, t.parent = some text ↔ FirstText parents feature text
  polygons : HasPolygons feature t.polygons

end Feature

/-- The country is the one of the feature. -/
structure Country.IsOf (feature : Json) (c : Country) : Prop where
  territory : Feature.Describes ["NAME", "ADMIN"] [] feature c.territory
  name : c.name = Feature.key feature "NAME"
  admin : c.admin = Feature.key feature "ADMIN"
  longName : c.longName = Feature.key feature "NAME_LONG"

/-- The region is the one of the feature. -/
structure Region.IsOf (feature : Json) (r : Region) : Prop where
  territory : Feature.Describes ["name", "NAME", "name_en", "woe_name"]
    ["admin", "ADMIN", "sovereignt"] feature r.territory
  names : r.names =
    (Feature.texts feature ["name", "NAME", "name_en", "woe_name"]).map normalize
  parents : r.parents = (Feature.texts feature ["admin", "ADMIN", "sovereignt"]).map normalize

namespace Feature

/-- The country of a feature with this name and these polygons. -/
def countryOf (feature : Json) (name : String) (ps : List Polygon) : Country :=
  ⟨⟨name, none, ps⟩, key feature "NAME", key feature "ADMIN", key feature "NAME_LONG"⟩

/-- The region of a feature with this name and these polygons. -/
def regionOf (feature : Json) (name : String) (ps : List Polygon) : Region :=
  ⟨⟨name, (texts feature ["admin", "ADMIN", "sovereignt"]).head?, ps⟩,
    (texts feature ["name", "NAME", "name_en", "woe_name"]).map normalize,
    (texts feature ["admin", "ADMIN", "sovereignt"]).map normalize⟩

theorem isOf_country_iff {feature : Json} {c : Country} :
    c.IsOf feature ↔ ∃ name ps, FirstText ["NAME", "ADMIN"] feature name ∧ HasPolygons feature ps ∧
      c = countryOf feature name ps := by
  constructor
  · intro h
    have hparent : c.territory.parent = none := by
      apply Option.eq_none_iff_forall_ne_some.mpr
      intro text htext
      obtain ⟨i, key, hfirst, -⟩ := (h.territory.parent text).mp htext
      cases hfirst.mem
    refine ⟨_, _, h.territory.name, h.territory.polygons, ?_⟩
    rw [countryOf, ← hparent, ← h.name, ← h.admin, ← h.longName]
  · intro h
    obtain ⟨name, ps, hname, hps, rfl⟩ := h
    refine ⟨⟨hname, ?_, hps⟩, rfl, rfl, rfl⟩
    intro text
    rw [← head?_texts_eq_some_iff]
    exact Iff.rfl

theorem isOf_region_iff {feature : Json} {r : Region} :
    r.IsOf feature ↔ ∃ name ps, FirstText ["name", "NAME", "name_en", "woe_name"] feature name ∧
      HasPolygons feature ps ∧ r = regionOf feature name ps := by
  constructor
  · intro h
    have hparent : r.territory.parent = (texts feature ["admin", "ADMIN", "sovereignt"]).head? := by
      apply Option.ext
      intro text
      rw [h.territory.parent, head?_texts_eq_some_iff]
    refine ⟨_, _, h.territory.name, h.territory.polygons, ?_⟩
    rw [regionOf, ← hparent, ← h.names, ← h.parents]
  · intro h
    obtain ⟨name, ps, hname, hps, rfl⟩ := h
    refine ⟨⟨hname, ?_, hps⟩, rfl, rfl⟩
    intro text
    rw [← head?_texts_eq_some_iff]
    exact Iff.rfl

section Attempts

variable {α : Type} (names : List String) (fault : String → GeometryError → AtlasError)
  (build : Json → String → List Polygon → α)

/-- What is read of a feature, if it has one of the names. A fault is told under the name. -/
def attempt? (feature : Json) : Option (Except AtlasError α) :=
  (texts feature names).head?.map fun name =>
    ((polygons feature).mapError (fault name)).map (build feature name)

theorem country?_eq_attempt? : country? = attempt? ["NAME", "ADMIN"] .country countryOf := by
  funext feature
  rw [attempt?, head?_texts_country]
  rfl

theorem region?_eq_attempt? :
    region? = attempt? ["name", "NAME", "name_en", "woe_name"] .region regionOf := rfl

variable {names fault build} {feature : Json}

theorem isSome_attempt? :
    (attempt? names fault build feature).isSome = decide (IsNamed names feature) := by
  rw [attempt?, Option.isSome_map, Bool.eq_iff_iff, isSome_head?_texts, decide_eq_true_iff]

theorem attempt?_eq_ok_iff {a : α} : attempt? names fault build feature = some (.ok a) ↔
    ∃ name ps, FirstText names feature name ∧ HasPolygons feature ps ∧
      a = build feature name ps := by
  simp only [attempt?, Option.map_eq_some_iff, head?_texts_eq_some_iff, ← polygons_eq_ok_iff]
  cases polygons feature <;> simp [Except.mapError, Except.map, eq_comm]

theorem attempt?_eq_error_iff {e : AtlasError} :
    attempt? names fault build feature = some (.error e) ↔
      ∃ name cause, FirstText names feature name ∧ IsFault feature cause ∧
        e = fault name cause := by
  simp only [attempt?, Option.map_eq_some_iff, head?_texts_eq_some_iff, ← polygons_eq_error_iff]
  cases polygons feature <;> simp [Except.mapError, Except.map, eq_comm]

/-- The attempt fails for a feature that has one of the names and no polygons that can be read. -/
theorem exists_attempt?_eq_error_iff :
    (∃ e, attempt? names fault build feature = some (.error e)) ↔
      IsNamed names feature ∧ ¬∃ ps, HasPolygons feature ps := by
  have hfault : (∃ cause, IsFault feature cause) ↔ ¬∃ ps, HasPolygons feature ps := by
    simp only [← exists_error_iff polygons_eq_ok_iff, polygons_eq_error_iff]
  rw [← hfault, ← exists_firstText_iff]
  simp only [attempt?_eq_error_iff]
  constructor
  · intro h
    obtain ⟨e, name, cause, hname, hcause, -⟩ := h
    exact ⟨⟨name, hname⟩, cause, hcause⟩
  · intro h
    obtain ⟨⟨name, hname⟩, cause, hcause⟩ := h
    exact ⟨_, name, cause, hname, hcause, rfl⟩

end Attempts

end Feature

namespace Dataset

/-- The text is a collection of these features. -/
def HasFeatures (text : String) (fs : List Json) : Prop :=
  ∃ root, Json.readable? text = some root ∧ root.field? "features" = some (.array fs)

/-- Why the text is no collection: it is not JSON, or no array of features is in it. -/
inductive IsCollectionFault (text : String) : CollectionError → Prop
  | notJson (h : Json.readable? text = none) : IsCollectionFault text .invalidJson
  | noFeatures {root : Json} (hroot : Json.readable? text = some root)
      (h : ∀ fs, root.field? "features" ≠ some (.array fs)) : IsCollectionFault text .noFeatures

/-- The list has what the features of the dataset are that have one of the names, in their order. -/
def Holds {α : Type} (names : List String) (IsOf : Json → α → Prop) (text : String)
    (as : List α) : Prop :=
  ∃ fs, HasFeatures text fs ∧ List.Forall₂ IsOf (fs.filter fun f => Feature.IsNamed names f) as

/-- The text is no collection, or the first feature with one of the names of which no polygons can
be read has the fault. -/
inductive IsFault (names : List String) (collection : CollectionError → AtlasError)
    (fault : String → GeometryError → AtlasError) (text : String) : AtlasError → Prop
  | collection {cause : CollectionError} (h : IsCollectionFault text cause) :
      IsFault names collection fault text (collection cause)
  | feature {fs : List Json} {i : Nat} {f : Json} {name : String} {cause : GeometryError}
      (hfs : HasFeatures text fs)
      (hfirst : IsFirst (fun f => Feature.IsNamed names f ∧ ¬∃ ps, Feature.HasPolygons f ps) fs i f)
      (hname : Feature.FirstText names f name) (h : Feature.IsFault f cause) :
      IsFault names collection fault text (fault name cause)

theorem features_eq_some_iff {root : Json} {fs : List Json} :
    (root.field? "features").bind Json.array? = some fs ↔
      root.field? "features" = some (.array fs) := by
  rw [Option.bind_eq_some_iff]
  constructor
  · intro h
    obtain ⟨v, hv, harray⟩ := h
    cases v with
    | array items =>
      obtain rfl : items = fs := Option.some.inj harray
      exact hv
    | _ => cases harray
  · intro h
    exact ⟨_, h, rfl⟩

theorem ofText_eq_ok_iff {text : String} {fs : List Json} :
    Feature.ofText text = .ok fs ↔ HasFeatures text fs := by
  unfold Feature.ofText HasFeatures
  cases Json.readable? text with
  | none => simp
  | some root =>
    simp only [Option.some.injEq, exists_eq_left', ← features_eq_some_iff]
    cases (root.field? "features").bind Json.array? <;> simp

theorem ofText_eq_error_iff {text : String} {cause : CollectionError} :
    Feature.ofText text = .error cause ↔ IsCollectionFault text cause := by
  unfold Feature.ofText
  constructor
  · intro h
    split at h
    · next hnone =>
      cases h
      exact .notJson hnone
    · next root hroot =>
      split at h
      · next hnone =>
        cases h
        refine .noFeatures hroot ?_
        intro fs hfs
        rw [features_eq_some_iff.mpr hfs] at hnone
        cases hnone
      · cases h
  · intro h
    cases h with
    | notJson hnone => rw [hnone]
    | noFeatures hroot h =>
      have hnone : ∀ fs, _ ≠ some fs := fun fs => features_eq_some_iff.not.mpr (h fs)
      rw [hroot]
      simp only [Option.eq_none_iff_forall_ne_some.mpr hnone]

section Reading

variable {α : Type} (names : List String) (collection : CollectionError → AtlasError)
  (fault : String → GeometryError → AtlasError) (build : Json → String → List Polygon → α)

/-- Reads what the features of a dataset are that have one of the names. -/
def readAll (text : String) : Except AtlasError (List α) := do
  let features ← (Feature.ofText text).mapError collection
  (features.filterMap (Feature.attempt? names fault build)).mapM id

variable {names collection fault build} {text : String}

theorem readAll_eq_ok_iff {IsOf : Json → α → Prop}
    (hof : ∀ f a, IsOf f a ↔ ∃ name ps, Feature.FirstText names f name ∧
      Feature.HasPolygons f ps ∧ a = build f name ps) {as : List α} :
    readAll names collection fault build text = .ok as ↔ Holds names IsOf text as := by
  simp only [readAll, bind_eq_ok, mapError_eq_ok, ofText_eq_ok_iff, mapM_filterMap_eq_ok_iff,
    Feature.isSome_attempt?, Feature.attempt?_eq_ok_iff, ← hof]
  exact Iff.rfl

theorem Holds.forall₂ {IsOf : Json → α → Prop} {as : List α} (h : Holds names IsOf text as)
    {fs : List Json} (hfs : HasFeatures text fs) :
    List.Forall₂ IsOf (fs.filter fun f => Feature.IsNamed names f) as := by
  obtain ⟨gs, hgs, has⟩ := h
  have hsame := (ofText_eq_ok_iff.mpr hfs).symm.trans (ofText_eq_ok_iff.mpr hgs)
  obtain rfl : fs = gs := Except.ok.inj hsame
  exact has

/-- A dataset holds a list if and only if the polygons can be read of all its features that have one
of the names. -/
theorem exists_holds_iff {IsOf : Json → α → Prop}
    (hof : ∀ f a, IsOf f a ↔ ∃ name ps, Feature.FirstText names f name ∧
      Feature.HasPolygons f ps ∧ a = build f name ps) {fs : List Json} (hfs : HasFeatures text fs) :
    (∃ as, Holds names IsOf text as) ↔
      ∀ f ∈ fs.filter fun f => Feature.IsNamed names f, ∃ ps, Feature.HasPolygons f ps := by
  have hnamed : ∀ f ∈ fs.filter fun f => Feature.IsNamed names f,
      (∃ a, IsOf f a) ↔ ∃ ps, Feature.HasPolygons f ps := by
    intro f hf
    have hf : Feature.IsNamed names f := of_decide_eq_true (List.mem_filter.mp hf).2
    obtain ⟨name, hname⟩ := Feature.exists_firstText_iff.mpr hf
    simp only [hof]
    constructor
    · intro h
      obtain ⟨_, _, ps, -, hps, -⟩ := h
      exact ⟨ps, hps⟩
    · intro h
      obtain ⟨ps, hps⟩ := h
      exact ⟨_, name, ps, hname, hps, rfl⟩
  rw [← forall₂_congr hnamed, ← exists_forall₂_iff]
  constructor
  · intro h
    obtain ⟨as, has⟩ := h
    exact ⟨as, has.forall₂ hfs⟩
  · intro h
    obtain ⟨as, has⟩ := h
    exact ⟨as, fs, hfs, has⟩

theorem readAll_eq_error_iff {e : AtlasError} :
    readAll names collection fault build text = .error e ↔
      IsFault names collection fault text e := by
  simp only [readAll, bind_eq_error, mapError_eq_error, mapError_eq_ok, ofText_eq_ok_iff,
    ofText_eq_error_iff, mapM_filterMap_eq_error_iff, Feature.exists_attempt?_eq_error_iff]
  simp only [Feature.attempt?_eq_error_iff]
  constructor
  · intro h
    rcases h with ⟨cause, hcause, rfl⟩ | ⟨fs, hfs, i, f, hfirst, name, cause, hname, hcause, rfl⟩
    · exact .collection hcause
    · exact .feature hfs hfirst hname hcause
  · intro h
    cases h with
    | collection hcause => exact .inl ⟨_, hcause, rfl⟩
    | feature hfs hfirst hname hcause =>
      exact .inr ⟨_, hfs, _, _, hfirst, _, _, hname, hcause, rfl⟩

end Reading

/-- The countries are those of the dataset. -/
def HoldsCountries (text : String) (cs : List Country) : Prop :=
  Holds ["NAME", "ADMIN"] Country.IsOf text cs

/-- The regions are those of the dataset, if there is one. -/
def HoldsRegions : Option String → List Region → Prop
  | none, rs => rs = []
  | some text, rs => Holds ["name", "NAME", "name_en", "woe_name"] Region.IsOf text rs

def IsCountriesFault (text : String) (e : AtlasError) : Prop :=
  IsFault ["NAME", "ADMIN"] .countries .country text e

def IsRegionsFault : Option String → AtlasError → Prop
  | none, _ => False
  | some text, e => IsFault ["name", "NAME", "name_en", "woe_name"] .regions .region text e

end Dataset

namespace Atlas

open Dataset

theorem readCountries_eq_readAll :
    readCountries = readAll ["NAME", "ADMIN"] .countries .country Feature.countryOf := by
  funext text
  rw [readCountries, Feature.country?_eq_attempt?]
  rfl

theorem readRegions_eq_readAll :
    readRegions = readAll ["name", "NAME", "name_en", "woe_name"] .regions .region
      Feature.regionOf := by
  funext text
  rw [readRegions, Feature.region?_eq_attempt?]
  rfl

theorem readCountries_eq_ok_iff {text : String} {cs : List Country} :
    readCountries text = .ok cs ↔ HoldsCountries text cs := by
  rw [readCountries_eq_readAll]
  exact readAll_eq_ok_iff fun _ _ => Feature.isOf_country_iff

theorem readCountries_eq_error_iff {text : String} {e : AtlasError} :
    readCountries text = .error e ↔ IsCountriesFault text e := by
  rw [readCountries_eq_readAll]
  exact readAll_eq_error_iff

/-- Reads the regions of a dataset that may be missing. -/
def readRegions? : Option String → Except AtlasError (List Region)
  | none => .ok []
  | some text => readRegions text

theorem readRegions?_eq_ok_iff {regions : Option String} {rs : List Region} :
    readRegions? regions = .ok rs ↔ HoldsRegions regions rs := by
  cases regions with
  | none => rw [readRegions?, HoldsRegions, Except.ok.injEq, eq_comm]
  | some text =>
    rw [readRegions?, readRegions_eq_readAll]
    exact readAll_eq_ok_iff fun _ _ => Feature.isOf_region_iff

theorem readRegions?_eq_error_iff {regions : Option String} {e : AtlasError} :
    readRegions? regions = .error e ↔ IsRegionsFault regions e := by
  cases regions with
  | none => simp [readRegions?, IsRegionsFault]
  | some text =>
    rw [readRegions?, readRegions_eq_readAll]
    exact readAll_eq_error_iff

theorem read_eq (config : Config) (countries : String) (regions : Option String) :
    read config countries regions = (do
      let cs ← readCountries countries
      let rs ← readRegions? regions
      return { empty config with countries := cs, regions := rs }) := by
  cases regions <;> rfl

/-- An atlas that is read has the other names of its configuration and the territories of its
datasets. -/
theorem of_read {config : Config} {countries : String} {regions : Option String} {atlas : Atlas}
    (h : read config countries regions = .ok atlas) :
    atlas.aliases = config.aliases ∧ HoldsCountries countries atlas.countries ∧
      HoldsRegions regions atlas.regions := by
  rw [read_eq] at h
  obtain ⟨cs, hcs, hrest⟩ := bind_eq_ok.mp h
  obtain ⟨rs, hrs, hatlas⟩ := bind_eq_ok.mp hrest
  obtain rfl := Except.ok.inj hatlas
  exact ⟨rfl, readCountries_eq_ok_iff.mp hcs, readRegions?_eq_ok_iff.mp hrs⟩

/-- An atlas is read exactly as its datasets have it, or refused for their first fault. -/
theorem read_iff (config : Config) (countries : String) (regions : Option String) :
    (∀ atlas, read config countries regions = .ok atlas ↔
      atlas.aliases = config.aliases ∧ atlas.fixedCenters = config.fixedCenters ∧
        HoldsCountries countries atlas.countries ∧ HoldsRegions regions atlas.regions) ∧
    ∀ e, read config countries regions = .error e ↔
      IsCountriesFault countries e ∨
        (∃ cs, HoldsCountries countries cs) ∧ IsRegionsFault regions e := by
  simp only [← readCountries_eq_ok_iff, ← readRegions?_eq_ok_iff, ← readCountries_eq_error_iff,
    ← readRegions?_eq_error_iff]
  rw [read_eq]
  constructor
  · intro atlas
    rw [bind_eq_ok]
    constructor
    · intro h
      obtain ⟨cs, hcs, hrest⟩ := h
      obtain ⟨rs, hrs, hatlas⟩ := bind_eq_ok.mp hrest
      obtain rfl := Except.ok.inj hatlas
      exact ⟨rfl, rfl, hcs, hrs⟩
    · intro h
      obtain ⟨haliases, hcenters, hcs, hrs⟩ := h
      refine ⟨_, hcs, bind_eq_ok.mpr ⟨_, hrs, ?_⟩⟩
      rw [empty, ← haliases, ← hcenters]
      rfl
  · intro e
    rw [bind_eq_error]
    constructor
    · intro h
      rcases h with hcountries | ⟨cs, hcs, hrest⟩
      · exact .inl hcountries
      · rcases bind_eq_error.mp hrest with hregions | ⟨rs, -, hnone⟩
        · exact .inr ⟨⟨cs, hcs⟩, hregions⟩
        · cases hnone
    · intro h
      rcases h with hcountries | ⟨⟨cs, hcs⟩, hregions⟩
      · exact .inl hcountries
      · exact .inr ⟨cs, hcs, bind_eq_error.mpr (.inl hregions)⟩

/-- A feature with a name and a geometry. -/
def ofGeometry (name : String) (geometry : Json) : Json :=
  .object [("properties", .object [("NAME", .text name)]), ("geometry", geometry)]

/-- A feature without a name and without coordinates, and a reef. Of its polygons the first has no
rings, the second has a position of one number, and the third is none. -/
def reefs : List Json :=
  [.object [("geometry", .object [("type", .text "Polygon")])],
   ofGeometry "Reef" (.object [("type", .text "MultiPolygon"), ("coordinates", .array
    [.array [], .array [.array [.array [.ofNat 1, .ofNat 2, .ofNat 300], .array [.ofNat 1]]],
     .null])])]

theorem read_iff_reef :
    read .standard (Json.object [("features", .array reefs)]).compact (some "no collection") =
      .error (.country "Reef" (.badPosition (.array [.ofNat 1]))) := by
  let nameless : Json := .object [("geometry", .object [("type", .text "Polygon")])]
  let reef : Json := reefs[1]
  have hreread : reefs.map Json.reread = reefs := by
    simp [reefs, ofGeometry, Json.reread, Json.rereadFields, Json.rereadItems, Json.reread_ofNat]
  have hfs := ofText_eq_ok_iff.mp (Feature.ofText_compact hreread rfl)
  have hfault : Feature.polygons reef = .error (.badPosition (.array [.ofNat 1])) := rfl
  have hnone : ¬∃ ps, Feature.HasPolygons reef ps := by
    intro h
    obtain ⟨ps, hps⟩ := h
    have hok : Feature.polygons reef = .ok ps := (Feature.polygons_eq_ok_iff _ _).mpr hps
    cases hfault.symm.trans hok
  have hname : Feature.FirstText ["NAME", "ADMIN"] reef "Reef" :=
    Feature.head?_texts_eq_some_iff.mp rfl
  have hnameless : ¬Feature.IsNamed ["NAME", "ADMIN"] nameless := by decide
  have hfirst : IsFirst (fun f => Feature.IsNamed ["NAME", "ADMIN"] f ∧
      ¬∃ ps, Feature.HasPolygons f ps) reefs 1 reef := by
    refine ⟨rfl, ⟨Feature.exists_firstText_iff.mp ⟨_, hname⟩, hnone⟩, ?_⟩
    intro f hf
    obtain rfl : f = nameless := List.mem_singleton.mp hf
    exact fun h => hnameless h.1
  refine ((read_iff _ _ _).2 _).mpr (.inl ?_)
  exact .feature hfs hfirst hname ((Feature.polygons_eq_error_iff _ _).mp hfault)

end Atlas

end ScriptedMap
