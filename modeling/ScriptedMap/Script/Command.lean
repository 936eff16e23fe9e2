import ScriptedMap.Geo.Point

namespace ScriptedMap

/-- How a filled territory is animated. -/
inductive Animation where
  | none
  | pulse
  | fade
  | radial
  | sweep
deriving DecidableEq, Repr

/-- The side to which a callout points. -/
inductive Direction where
  | left
  | right
deriving DecidableEq, Repr

/-- What is taken off the map. -/
inductive Removal where
  /-- The marker placed last. -/
  | last
  /-- All connectors and arrows. -/
  | arrows
  /-- All effect symbols. -/
  | effects
deriving DecidableEq, Repr

/-- One end of a line or an attack: a point, or a territory looked up by name when the command is
played. -/
inductive Endpoint where
  | point (place : Point)
  | territory (name : String)
deriving DecidableEq, Repr

/-- What happens to the legend. -/
inductive LegendChange where
  | entry (label color : String)
  /-- One entry for each fill color of the script. -/
  | auto
  | hide
deriving DecidableEq, Repr

/-- What one line of a script does. Names and colors are as they are written. -/
inductive Command where
  | country (name color : String) (animation : Animation)
  | region (name country color : String) (animation : Animation) (occupied : Bool)
  | line (source target : Endpoint) (color : String)
  | attack (source target : Endpoint) (color : String) (curve width headSize : Binary64)
  | bubble (place : Point) (text color : String)
  | label (place : Point) (text : String) (size : Nat) (color : Option String)
  | arrow (place : Point) (text : String) (direction : Direction) (color : String)
  | year (text : String) (highlight : Bool)
  | effect (place : Point) (name color : String) (size : Binary64)
  | legend (change : LegendChange)
  | zoom (target : String)
  | fly (place : Point) (zoom : Binary64)
  | cinematic (place : Point) (zoom : Binary64) (pitch bearing : Option Binary64)
  | wait (ms : Nat)
  | remove (what : Removal)
deriving DecidableEq, Repr

/-- The word that opens a line. -/
inductive Keyword where
  | country
  | region
  | line
  | attack
  | bubble
  | label
  | arrow
  | year
  | effect
  | legend
  | zoom
  | fly
  | cinematic
  | wait
  | remove
deriving DecidableEq, Repr

namespace Animation

def name : Animation → String
  | none => "none"
  | pulse => "pulse"
  | fade => "fade"
  | radial => "radial"
  | sweep => "sweep"

def all : List Animation := [none, pulse, fade, radial, sweep]

def ofName? (name : String) : Option Animation := all.find? (·.name == name)

end Animation

namespace Direction

def name : Direction → String
  | left => "left"
  | right => "right"

def all : List Direction := [left, right]

def ofName? (name : String) : Option Direction := all.find? (·.name == name)

end Direction

namespace Removal

def name : Removal → String
  | last => "last"
  | arrows => "arrows"
  | effects => "effects"

def all : List Removal := [last, arrows, effects]

def ofName? (name : String) : Option Removal := all.find? (·.name == name)

end Removal

namespace Keyword

def name : Keyword → String
  | country => "country"
  | region => "region"
  | line => "line"
  | attack => "attack"
  | bubble => "bubble"
  | label => "label"
  | arrow => "arrow"
  | year => "year"
  | effect => "effect"
  | legend => "legend"
  | zoom => "zoom"
  | fly => "fly"
  | cinematic => "cinematic"
  | wait => "wait"
  | remove => "remove"

def all : List Keyword :=
  [country, region, line, attack, bubble, label, arrow, year, effect, legend, zoom, fly, cinematic,
   wait, remove]

def ofName? (name : String) : Option Keyword := all.find? (·.name == name)

end Keyword

namespace Command

/-- The keyword of the lines that give such a command. -/
def keyword : Command → Keyword
  | country .. => .country
  | region .. => .region
  | line .. => .line
  | attack .. => .attack
  | bubble .. => .bubble
  | label .. => .label
  | arrow .. => .arrow
  | year .. => .year
  | effect .. => .effect
  | legend .. => .legend
  | zoom .. => .zoom
  | fly .. => .fly
  | cinematic .. => .cinematic
  | wait .. => .wait
  | remove .. => .remove

/-- The color as it is written, if the command has one. -/
def color? : Command → Option String
  | country _ color _ => some color
  | region _ _ color _ _ => some color
  | line _ _ color => some color
  | attack _ _ color _ _ _ => some color
  | bubble _ _ color => some color
  | label _ _ _ color => color
  | arrow _ _ _ color => some color
  | effect _ _ color _ => some color
  | legend (.entry _ color) => some color
  | _ => Option.none

/-- The territory a command fills and the color it is given. -/
def fill? : Command → Option (String × String)
  | country name color _ => some (name, color)
  | region name _ color _ _ => some (name, color)
  | _ => Option.none

end Command

end ScriptedMap
