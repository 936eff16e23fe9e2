import ScriptedMap.Config.Basic
import ScriptedMap.Geo.Name
import ScriptedMap.Geo.Territory

namespace ScriptedMap

/-- A country and its normalized names. A name that is missing is empty. -/
structure Country where
  territory : Territory
  name : String
  admin : String
  longName : String
deriving DecidableEq, Repr

/-- A region, its normalized names, and the normalized names of its country. -/
structure Region where
  territory : Territory
  names : List String
  parents : List String
deriving DecidableEq, Repr

structure Atlas where
  aliases : Table String
  /-- Points that represent territories better than the centers of their boxes. -/
  fixedCenters : Table Point
  countries : List Country
  regions : List Region
deriving DecidableEq, Repr

/-- A key is the name sought. A missing key is none. -/
def isKey (sought key : String) : Bool := !key.isEmpty && key == sought

/-- A key that is not missing begins like the name sought, up to the end of the shorter. -/
def sharesBeginning (sought key : String) : Bool :=
  !key.isEmpty && (begins sought key || begins key sought)

/-- In how many ways a country can have the name sought, the best first. -/
def Country.tests (sought : String) : List (Country → Bool) :=
  [fun c => isKey sought c.name, fun c => isKey sought c.admin, fun c => isKey sought c.longName,
   fun c => sharesBeginning sought c.name || sharesBeginning sought c.admin]

namespace Region

/-- By how many bytes a name may be longer or shorter that contains another or
is contained in it. -/
def slack : Nat := 3

/-- The region belongs to the country of the given name, which may stand for another, or to one
whose name contains it. -/
def isIn (parent standsFor : String) (r : Region) : Bool :=
  r.parents.any fun p => p == parent || p == standsFor || isWithin parent p

def hasName (name : String) (r : Region) : Bool := r.names.any (· == name)

/-- The lengths of two texts in bytes differ by little. -/
def areClose (s t : String) : Bool :=
  s.utf8ByteSize ≤ t.utf8ByteSize + slack && t.utf8ByteSize ≤ s.utf8ByteSize + slack

def hasSimilarName (name : String) (r : Region) : Bool :=
  r.names.any fun n => areClose n name && (isWithin name n || isWithin n name)

end Region

namespace Atlas

/-- The atlas without territories. -/
def empty (config : Config) : Atlas := ⟨config.aliases, config.fixedCenters, [], []⟩

/-- The name that a normalized name stands for. -/
def unalias (atlas : Atlas) (name : String) : String := (atlas.aliases.get? name).getD name

/-- The country of the given name. Among those that fit it equally well it is the first of the
dataset. -/
def findTerritory? (atlas : Atlas) (name : String) : Option Territory :=
  if (normalize name).isEmpty then none
  else
    ((Country.tests (atlas.unalias (normalize name))).findSome? fun test =>
      atlas.countries.find? test).map (·.territory)

/-- The region of the given name in the country of the given name. -/
def findSubregion? (atlas : Atlas) (name parent : String) : Option Territory :=
  let n := normalize name
  let p := normalize parent
  if n.isEmpty || p.isEmpty then none
  else
    let isIn := Region.isIn p (atlas.unalias p)
    ([Region.hasName n, Region.hasSimilarName n].findSome? fun test =>
      atlas.regions.find? fun r => test r && isIn r).map (·.territory)

/-- Where markers and arrows attach to a territory. -/
def representativePoint (atlas : Atlas) (t : Territory) : Point :=
  (atlas.fixedCenters.get? (lowercase t.name)).getD t.boundingBox.center

end Atlas

end ScriptedMap
