import ScriptedMap.Config.Basic

namespace ScriptedMap

def SettleTimes.standard : SettleTimes := ⟨600, 1300, 2100⟩

def CinematicDefaults.standard : CinematicDefaults := ⟨30, 0⟩

namespace Config

def standardPalette : Table String :=
  [("red", "#ff4757"), ("orange", "#ffa502"), ("yellow", "#ffda00"), ("gold", "#f9ca24"),
   ("green", "#2ed573"), ("blue", "#3742fa"), ("cyan", "#00d2d3"), ("purple", "#8854d0"),
   ("pink", "#ff6b81"), ("magenta", "#a55eea"), ("white", "#ffffff"), ("maroon", "#b71540"),
   ("coral", "#ff7675"), ("salmon", "#ffb8b8"), ("navy", "#1e3799"), ("lime", "#7bed9f")]

def standardAliases : Table String :=
  [("usa", "united states of america"), ("us", "united states of america"),
   ("america", "united states of america"), ("uk", "united kingdom"), ("britain", "united kingdom"),
   ("england", "united kingdom"), ("uae", "united arab emirates"), ("czech", "czechia"),
   ("russia", "russian federation"), ("holland", "netherlands")]

def standardCenters : Table Point :=
  [("france", ⟨2.5, 46.6⟩), ("united kingdom", ⟨-2.5, 54.5⟩), ("netherlands", ⟨5.5, 52.2⟩),
   ("united states of america", ⟨-98.5, 39.5⟩), ("denmark", ⟨10, 56⟩), ("portugal", ⟨-8, 39.6⟩),
   ("spain", ⟨-3.5, 40⟩), ("norway", ⟨10, 62⟩), ("russia", ⟨37, 55⟩),
   ("russian federation", ⟨37, 55⟩)]

def standardEffects : Table EffectKind :=
  [("explosion", ⟨"Explosion", "combat"⟩),
   ("battle", ⟨"Battle", "combat"⟩),
   ("bombing", ⟨"Bombing", "combat"⟩),
   ("fire", ⟨"Fire / Destruction", "combat"⟩),
   ("skull", ⟨"Casualties / Atrocity", "combat"⟩),
   ("nuke", ⟨"Nuclear", "combat"⟩),
   ("tank", ⟨"Armor / Tank", "military"⟩),
   ("troops", ⟨"Infantry / Troops", "military"⟩),
   ("plane", ⟨"Air Force", "military"⟩),
   ("naval", ⟨"Navy / Fleet", "military"⟩),
   ("oil", ⟨"Oil / Petroleum", "resources"⟩),
   ("factory", ⟨"Industry / Factory", "resources"⟩),
   ("port", ⟨"Port / Trade", "resources"⟩),
   ("flag", ⟨"Flag / Claim", "political"⟩),
   ("capital", ⟨"Capital / Key City", "political"⟩),
   ("shield", ⟨"Defense / Fortification", "political"⟩),
   ("treaty", ⟨"Peace / Treaty", "political"⟩),
   ("uprising", ⟨"Uprising / Revolution", "political"⟩),
   ("occupation", ⟨"Occupation", "political"⟩)]

def standard : Config where
  palette := standardPalette
  defaultColor := "#3b82f6"
  aliases := standardAliases
  fixedCenters := standardCenters
  effects := standardEffects
  settle := .standard
  cinematic := .standard

end Config

end ScriptedMap
