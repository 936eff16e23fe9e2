import ScriptedMap.Geo.Atlas
import ScriptedMap.Surface.Call

namespace ScriptedMap

structure Scene where
  config : Config
  atlas : Atlas
deriving DecidableEq, Repr

/-- Why a command has no effect. -/
inductive Skip where
  | unknownTerritory (name : String)
  | unknownRegion (name parent : String)
  | unknownEffect (name : String)
deriving DecidableEq, Repr

def Skip.reason : Skip → String
  | unknownTerritory name => s!"unknown territory \"{name}\""
  | unknownRegion name parent => s!"unknown region \"{name}\" in \"{parent}\""
  | unknownEffect name => s!"unknown effect \"{name}\""

/-- The text at the end of an attack. Coordinates have one place. -/
def Endpoint.label : Endpoint → String
  | point place => s!"{writeFixed 1 place.lat}, {writeFixed 1 place.lng}"
  | territory name => name

/-- A callout stands on the side from which it points. -/
def Direction.anchor : Direction → Anchor
  | left => .right
  | right => .left

/-- The least and the greatest scale of a symbol. -/
def symbolScales : Binary64 × Binary64 := (0.5, 3)

namespace Scene

def color (scene : Scene) (token : String) : String := scene.config.resolveColor (some token)

def territory (scene : Scene) (name : String) : Except Skip Territory :=
  match scene.atlas.findTerritory? name with
  | some t => .ok t
  | none => .error (.unknownTerritory name)

def region (scene : Scene) (name parent : String) : Except Skip Territory :=
  match scene.atlas.findSubregion? name parent with
  | some t => .ok t
  | none => .error (.unknownRegion name parent)

def effect (scene : Scene) (name : String) : Except Skip EffectKind :=
  match scene.config.effects.get? name with
  | some kind => .ok kind
  | none => .error (.unknownEffect name)

/-- Where an endpoint is on the map. -/
def locate (scene : Scene) : Endpoint → Except Skip Point
  | .point place => .ok place
  | .territory name => (scene.territory name).map scene.atlas.representativePoint

/-- What a command of the script asks for, unless it is skipped. Waiting asks for nothing. -/
def request? (scene : Scene) (script : Script) : Command → Except Skip (Option Request)
  | .country name color animation => do
    let t ← scene.territory name
    return some (.drawTerritory t.name (scene.color color) (.solid animation))
  | .region name parent color animation occupied => do
    let t ← scene.region name parent
    return some (.drawTerritory t.name (scene.color color)
      (if occupied then .occupied else .solid animation))
  | .line (.territory source) (.territory target) color => do
    let source ← scene.territory source
    let target ← scene.territory target
    return some (.drawConnector source.name target.name (scene.color color))
  | .line source target color => do
    let source ← scene.locate source
    let target ← scene.locate target
    return some (.drawArrow source target (scene.color color) .plainLine none)
  | .attack source target color curve width headSize => do
    let start ← scene.locate source
    let stop ← scene.locate target
    return some (.drawArrow start stop (scene.color color) ⟨curve, width, headSize⟩
      (some ⟨source.label, target.label⟩))
  | .bubble place text color =>
    .ok (some (.placeMarker () (.bubble text (scene.color color)) place .center))
  | .label place text size color =>
    .ok (some (.placeMarker () (.label text size (scene.config.resolveColor color)) place .center))
  | .arrow place text direction color =>
    .ok (some (.placeMarker () (.callout text direction (scene.color color)) place
      direction.anchor))
  | .year text highlight => .ok (some (.showYear text highlight))
  | .effect place name color size => do
    let kind ← scene.effect name
    let scale := size.clamp symbolScales.1 symbolScales.2
    return some (.placeMarker () (.symbol name kind.label (scene.color color) scale) place .center)
  | .legend (.entry label color) => .ok (some (.addLegendEntry ⟨label, scene.color color⟩))
  | .legend .auto => .ok (some (.showLegend (script.legend scene.config)))
  | .legend .hide => .ok (some .hideLegend)
  | .zoom target => do
    let t ← scene.territory target
    return some (.panToBounds t.boundingBox)
  | .fly place zoom => .ok (some (.panTo place zoom))
  | .cinematic place zoom pitch bearing =>
    .ok (some (.cinematic ⟨place, zoom, pitch.getD scene.config.cinematic.pitch,
      bearing.getD scene.config.cinematic.bearing⟩))
  | .wait _ => .ok none
  | .remove .last => .ok (some .removeLastMarker)
  | .remove .arrows => .ok (some .clearConnectors)
  | .remove .effects => .ok (some .clearSymbols)

end Scene

end ScriptedMap
