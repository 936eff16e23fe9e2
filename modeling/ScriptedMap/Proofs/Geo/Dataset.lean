import Mathlib.Data.List.Forall2
import ScriptedMap.Geo.Features
import ScriptedMap.Proofs.Attempt
import ScriptedMap.Proofs.Geo.Search
import ScriptedMap.Proofs.Json.Reader

namespace ScriptedMap

namespace Feature

/-- The normalized text of a property, which is empty if the feature does not have it. -/
def key (feature : Json) (name : String) : String :=
  ((property? feature name).map normalize).getD ""

/-- The texts of those properties that the feature has. -/
def texts (feature : Json) (names : List String) : List String :=
  names.filterMap (property? feature)

/-- The feature has the text under the key, and the text is not empty. -/
def HasText (feature : Json) (key text : String) : Prop :=
  text ≠ "" ∧ ∃ properties, feature.field? "properties" = some properties ∧
    properties.field? key = some (.text text)

def IsPresent (feature : Json) (key : String) : Prop := ∃ text, HasText feature key text

/-- Under one of the keys the feature has a text. -/
def IsNamed (keys : List String) (feature : Json) : Prop := ∃ key ∈ keys, IsPresent feature key

/-- The feature has the text under the first of the keys under which it has any. -/
def FirstText (keys : List String) (feature : Json) (text : String) : Prop :=
  ∃ i key, IsFirst (IsPresent feature) keys i key ∧ HasText feature key text

theorem text?_eq_some_iff {v : Json} {text : String} : v.text? = some text ↔ v = .text text := by
  cases v <;> simp [Json.text?]

theorem property?_eq_some_iff {feature : Json} {key text : String} :
    property? feature key = some text ↔ HasText feature key text := by
  simp only [property?, HasText, Option.filter_eq_some_iff, Option.bind_eq_some_iff,
    text?_eq_some_iff, Bool.not_eq_true', String.isEmpty_eq_false_iff]
  constructor
  · intro h
    obtain ⟨⟨v, ⟨properties, hproperties, hv⟩, rfl⟩, hne⟩ := h
    exact ⟨hne, properties, hproperties, hv⟩
  · intro h
    obtain ⟨hne, properties, hproperties, htext⟩ := h
    exact ⟨⟨_, ⟨properties, hproperties, htext⟩, rfl⟩, hne⟩

theorem head?_texts_eq_some_iff {feature : Json} {keys : List String} {text : String} :
    (texts feature keys).head? = some text ↔ FirstText keys feature text := by
  unfold FirstText texts
  induction keys with
  | nil =>
    constructor
    · intro h
      cases h
    · intro h
      obtain ⟨i, key, hfirst, -⟩ := h
      cases hfirst.mem
  | cons key keys ih =>
    cases hkey : property? feature key with
    | none =>
      have hnone : ¬IsPresent feature key := by simp [IsPresent, ← property?_eq_some_iff, hkey]
      rw [List.filterMap_cons_none hkey, ih, exists_isFirst_cons_of_neg hnone]
    | some t =>
      have ht : IsPresent feature key := ⟨t, property?_eq_some_iff.mp hkey⟩
      have hhead : (t :: keys.filterMap (property? feature)).head? = property? feature key :=
        hkey.symm
      rw [List.filterMap_cons_some hkey, hhead, property?_eq_some_iff,
        exists_isFirst_cons_of_pos ht]

theorem isSome_head?_texts {feature : Json} {keys : List String} :
    (texts feature keys).head?.isSome = true ↔ IsNamed keys feature := by
  rw [texts, List.head?_filterMap, List.findSome?_isSome_iff]
  simp only [Option.isSome_iff_exists, property?_eq_some_iff]
  rfl

theorem exists_firstText_iff {feature : Json} {keys : List String} :
    (∃ text, FirstText keys feature text) ↔ IsNamed keys feature := by
  simp only [← head?_texts_eq_some_iff, ← Option.isSome_iff_exists, isSome_head?_texts]

instance (keys : List String) (feature : Json) : Decidable (IsNamed keys feature) :=
  decidable_of_iff _ isSome_head?_texts

def isCountry (feature : Json) : Bool := IsNamed ["NAME", "ADMIN"] feature

def isRegion (feature : Json) : Bool := IsNamed ["name", "NAME", "name_en", "woe_name"] feature

theorem head?_texts_country (feature : Json) : (texts feature ["NAME", "ADMIN"]).head? =
    (property? feature "NAME" <|> property? feature "ADMIN") := by
  rw [texts, List.head?_filterMap]
  cases hname : property? feature "NAME" <;> cases hadmin : property? feature "ADMIN" <;>
    simp [List.findSome?, hname, hadmin]

end Feature

/-- The second dataset has the features of the first one and then others. -/
def Extends (text longer : String) : Prop :=
  ∃ features more, Feature.ofText text = .ok features ∧
    Feature.ofText longer = .ok (features ++ more)

namespace Feature

/-- A feature with these properties and no geometry. -/
def ofProperties (properties : List (String × String)) : Json :=
  .object [("properties", .object (properties.map fun p => (p.1, .text p.2)))]

/-- The text of a collection of features with these properties. -/
def collection (features : List (List (String × String))) : String :=
  (Json.object [("features", .array (features.map ofProperties))]).compact

theorem reread_ofProperties (properties : List (String × String)) :
    (ofProperties properties).reread = ofProperties properties := by
  simp [ofProperties, Json.reread, Json.rereadFields_eq_map, Function.comp_def]

theorem isReadable_ofProperties (properties : List (String × String)) {depth : Nat} :
    (ofProperties properties).isReadable (depth + 2) = true := by
  have htexts : Json.fieldsReadable depth (properties.map fun p => (p.1, .text p.2)) = true := by
    induction properties with
    | nil => rfl
    | cons p properties ih => exact ih
  simp [ofProperties, Json.isReadable, Json.fieldsReadable, htexts]

theorem areReadable_ofProperties (features : List (List (String × String))) {depth : Nat} :
    Json.areReadable (depth + 2) (features.map ofProperties) = true := by
  induction features with
  | nil => rfl
  | cons f features ih =>
    rw [List.map_cons, Json.areReadable, ih, isReadable_ofProperties]
    rfl

/-- A written collection is read, if its features are and can be read as they are. -/
theorem ofText_compact {features : List Json} (hreread : features.map Json.reread = features)
    (hreadable : Json.areReadable (Json.maxDepth - 2) features = true) :
    ofText (Json.object [("features", .array features)]).compact = .ok features := by
  let root := Json.object [("features", .array features)]
  have hsame : root.reread = root := by
    simp [root, Json.reread, Json.rereadFields, Json.rereadItems_eq_map, hreread]
  have hroot : root.isReadable Json.maxDepth = true := by
    simp only [root, Json.isReadable, Json.fieldsReadable, Bool.and_true, Bool.and_eq_true]
    exact ⟨rfl, rfl, hreadable⟩
  have hread : Json.readable? root.compact = some root := by
    rw [Json.readable?, Json.compact, Json.read?_write, hsame, Option.filter_some, if_pos hroot]
  rw [ofText, hread]
  rfl

theorem ofText_collection (features : List (List (String × String))) :
    ofText (collection features) = .ok (features.map ofProperties) := by
  refine ofText_compact ?_ (areReadable_ofProperties features)
  simp [Function.comp_def, reread_ofProperties]

end Feature

namespace Atlas

theorem readCountries_append {text longer : String} (h : Extends text longer) {cs ds : List Country}
    (hcs : readCountries text = .ok cs) (hds : readCountries longer = .ok ds) :
    ∃ more, ds = cs ++ more := by
  obtain ⟨features, more, htext, hlonger⟩ := h
  obtain ⟨_, hfirst, hcountries⟩ := bind_eq_ok.mp hcs
  obtain ⟨_, hwhole, hall⟩ := bind_eq_ok.mp hds
  obtain rfl := Except.ok.inj (htext.symm.trans (mapError_eq_ok.mp hfirst))
  obtain rfl := Except.ok.inj (hlonger.symm.trans (mapError_eq_ok.mp hwhole))
  have hjoined := mapM_id_eq_ok.mp hall
  rw [List.filterMap_append, mapM_id_eq_ok.mp hcountries] at hjoined
  obtain ⟨cs', more, hds, hcs', -⟩ := List.map_eq_append_iff.mp hjoined.symm
  obtain rfl := List.map_injective_iff.mpr (fun _ _ => Except.ok.inj) hcs'
  exact ⟨more, hds⟩

theorem read_collection {config : Config} {countries regions : List (List (String × String))}
    {cs : List Country} {rs : List Region}
    (hcs : ((countries.map Feature.ofProperties).filterMap Feature.country?).mapM id = .ok cs)
    (hrs : ((regions.map Feature.ofProperties).filterMap Feature.region?).mapM id = .ok rs) :
    read config (Feature.collection countries) (some (Feature.collection regions)) =
      .ok { empty config with countries := cs, regions := rs } := by
  have hcountries : readCountries (Feature.collection countries) = .ok cs := by
    rw [readCountries, Feature.ofText_collection]
    exact hcs
  have hregions : readRegions (Feature.collection regions) = .ok rs := by
    rw [readRegions, Feature.ofText_collection]
    exact hrs
  exact bind_eq_ok.mpr ⟨cs, hcountries, bind_eq_ok.mpr ⟨rs, hregions, rfl⟩⟩

end Atlas

end ScriptedMap
