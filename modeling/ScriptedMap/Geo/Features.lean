import ScriptedMap.Geo.Atlas
import ScriptedMap.Json.Canonical
import ScriptedMap.Json.Printer
import ScriptedMap.Json.Reader

namespace ScriptedMap

/-- Why the geometry of a feature cannot be read. -/
inductive GeometryError where
  | missingCoordinates
  | polygonsNotArray
  | ringsNotArray
  | positionsNotArray
  | badPosition (value : Json)
deriving Repr

/-- Why a text is not a feature collection. -/
inductive CollectionError where
  | invalidJson
  | noFeatures
deriving DecidableEq, Repr

inductive AtlasError where
  | countries (cause : CollectionError)
  | regions (cause : CollectionError)
  | country (name : String) (cause : GeometryError)
  | region (name : String) (cause : GeometryError)
deriving Repr

def GeometryError.message : GeometryError → String
  | missingCoordinates => "geometry missing `coordinates`"
  | polygonsNotArray => "MultiPolygon coordinates must be an array"
  | ringsNotArray => "polygon must be an array of rings"
  | positionsNotArray => "ring must be an array of positions"
  | badPosition value => "bad position " ++ value.canonical.compact

def CollectionError.message : CollectionError → String
  | invalidJson => "invalid JSON"
  | noFeatures => "file has no `features` array"

def AtlasError.message : AtlasError → String
  | countries cause => "countries dataset: " ++ cause.message
  | regions cause => "regions dataset: " ++ cause.message
  | country name cause => "country `" ++ name ++ "`: " ++ cause.message
  | region name cause => "region `" ++ name ++ "`: " ++ cause.message

namespace Feature

/-- The features of a collection. -/
def ofText (text : String) : Except CollectionError (List Json) :=
  match Json.readable? text with
  | none => .error .invalidJson
  | some root =>
    match (root.field? "features").bind Json.array? with
    | none => .error .noFeatures
    | some features => .ok features

/-- A property of a feature, if it is a text and not empty. -/
def property? (feature : Json) (key : String) : Option String :=
  (((feature.field? "properties").bind (·.field? key)).bind Json.text?).filter (!·.isEmpty)

/-- A position is a longitude and a latitude; what comes after them is left out. -/
def position (v : Json) : Except GeometryError Point :=
  match v with
  | .array (lng :: lat :: _) =>
    match lng.real?, lat.real? with
    | some lng, some lat => .ok ⟨lng, lat⟩
    | _, _ => .error (.badPosition v)
  | _ => .error (.badPosition v)

def ring : Json → Except GeometryError Ring
  | .array positions => positions.mapM position
  | _ => .error .positionsNotArray

def polygon : Json → Except GeometryError Polygon
  | .array rings => rings.mapM ring
  | _ => .error .ringsNotArray

/-- The polygons of a geometry of the given kind. -/
def polygonsOf (kind : Option String) (coordinates : Json) : Except GeometryError (List Polygon) :=
  if kind = some "Polygon" then (polygon coordinates).map ([·])
  else if kind = some "MultiPolygon" then
    match coordinates with
    | .array polygons => polygons.mapM polygon
    | _ => .error .polygonsNotArray
  else .ok []

/-- The polygons of a feature. One without an area has none. -/
def polygons (feature : Json) : Except GeometryError (List Polygon) :=
  match feature.field? "geometry" with
  | none => .ok []
  | some .null => .ok []
  | some geometry =>
    match geometry.field? "coordinates" with
    | none => .error .missingCoordinates
    | some coordinates => polygonsOf ((geometry.field? "type").bind Json.text?) coordinates

/-- The country of a feature that has a name. -/
def country? (feature : Json) : Option (Except AtlasError Country) :=
  (property? feature "NAME" <|> property? feature "ADMIN").map fun name => do
    let polygons ← (polygons feature).mapError (.country name)
    let key (k : String) : String := ((property? feature k).map normalize).getD ""
    return ⟨⟨name, none, polygons⟩, key "NAME", key "ADMIN", key "NAME_LONG"⟩

def regionNameKeys : List String := ["name", "NAME", "name_en", "woe_name"]

def regionParentKeys : List String := ["admin", "ADMIN", "sovereignt"]

/-- The region of a feature that has a name. -/
def region? (feature : Json) : Option (Except AtlasError Region) :=
  let names := regionNameKeys.filterMap (property? feature)
  let parents := regionParentKeys.filterMap (property? feature)
  names.head?.map fun name => do
    let polygons ← (polygons feature).mapError (.region name)
    return ⟨⟨name, parents.head?, polygons⟩, names.map normalize, parents.map normalize⟩

end Feature

namespace Atlas

/-- A feature without a name is passed over, and the first that cannot be
read refuses the dataset. -/
def readCountries (text : String) : Except AtlasError (List Country) := do
  let features ← (Feature.ofText text).mapError .countries
  (features.filterMap Feature.country?).mapM id

def readRegions (text : String) : Except AtlasError (List Region) := do
  let features ← (Feature.ofText text).mapError .regions
  (features.filterMap Feature.region?).mapM id

/-- Reads an atlas from a dataset of countries and perhaps one of regions. -/
def read (config : Config) (countries : String) (regions : Option String) :
    Except AtlasError Atlas := do
  let countries ← readCountries countries
  let regions ← match regions with
    | none => pure []
    | some text => readRegions text
  return { empty config with countries, regions }

end Atlas

end ScriptedMap
