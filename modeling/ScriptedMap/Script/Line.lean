import ScriptedMap.Script.Command
import ScriptedMap.Script.Field
import ScriptedMap.Script.Numeral
import ScriptedMap.Text.Alphanumeric
import ScriptedMap.Text.Ascii
import ScriptedMap.Text.Lowercase

namespace ScriptedMap

/-- The text before the first `mark` and the text after it. -/
def cutAt? (mark : Char) : List Char → Option (List Char × List Char)
  | [] => none
  | c :: s => if c = mark then some ([], s) else (cutAt? mark s).map fun p => (c :: p.1, p.2)

namespace Field

/-- The name of a color is one word. -/
def colorOf? (token : List Char) : Option String :=
  if token.isEmpty || token.any isBlank then none else some (String.ofList token)

def color? (f : Field) : Option String := f.bare?.bind colorOf?

def name? (f : Field) : Option String := (f.bare?.filter (!·.isEmpty)).map String.ofList

def text? (f : Field) : Option String := (f.quoted?.filter (!·.isEmpty)).map String.ofList

def number? (f : Field) : Option Binary64 := f.bare?.bind Numeral.read?

def unsigned? (f : Field) : Option Binary64 := f.bare?.bind Numeral.readUnsigned?

/-- The latitude stands before the longitude. -/
def point? (lat lng : Field) : Option Point := do return ⟨← lng.number?, ← lat.number?⟩

/-- The option words know no case. -/
def word? (f : Field) : Option String := f.bare?.map fun t => String.ofList (asciiLower t)

def animation? (f : Field) : Option Animation := f.word?.bind Animation.ofName?

def direction? (f : Field) : Option Direction := f.word?.bind Direction.ofName?

end Field

/-- Two numerals are a point, the latitude first; any other text is the name of a territory. -/
def Endpoint.ofToken (token : List Char) : Endpoint :=
  match words token with
  | [lat, lng] =>
    match Numeral.read? lat, Numeral.read? lng with
    | some lat, some lng => point ⟨lng, lat⟩
    | _, _ => territory (String.ofList token)
  | _ => territory (String.ofList token)

namespace Command

def defaultCurve : Binary64 := 0.15

def defaultWidth : Binary64 := 1

def defaultLabelSize : Nat := 14

def defaultTextColor : String := "blue"

def defaultArrowColor : String := "white"

def defaultEffectColor : String := "red"

def defaultEffectSize : Binary64 := 1

def region? : List Field → Option Command
  | [name, parent, color] => do
    return region (← name.name?) (← parent.name?) (← color.color?) .none false
  | [name, parent, color, modifier] => do
    let name ← name.name?
    let parent ← parent.name?
    let color ← color.color?
    if (← modifier.word?) == "occupied" then return region name parent color .none true
    return region name parent color (← modifier.animation?) false
  | _ => none

/-- The fields of a connector are bare, and blank ones count for nothing. -/
def connectorTokens? (fields : List Field) : Option (List (List Char)) :=
  (fields.mapM Field.bare?).map (·.filter (!·.isEmpty))

def line? : List (List Char) → Option Command
  | [source, target, color] => do
    return line (.ofToken source) (.ofToken target) (← Field.colorOf? color)
  | _ => none

/-- The head of an arrow is as large as its shaft is wide unless the line says otherwise. -/
def attack? : List (List Char) → Option Command
  | source :: target :: color :: numbers => do
    let color ← Field.colorOf? color
    let numbers ← numbers.mapM Numeral.read?
    let attack := attack (.ofToken source) (.ofToken target) color
    match numbers with
    | [] => return attack defaultCurve defaultWidth defaultWidth
    | [curve] => return attack curve defaultWidth defaultWidth
    | [curve, width] => return attack curve width width
    | [curve, width, headSize] => return attack curve width headSize
    | _ => none
  | _ => none

def bubble? : List Field → Option Command
  | [lat, lng, text] => do
    return bubble (← Field.point? lat lng) (← text.text?) defaultTextColor
  | [lat, lng, text, color] => do
    return bubble (← Field.point? lat lng) (← text.text?) (← color.color?)
  | _ => none

/-- A size that is zero or needs more than 32 bits is the default. -/
def labelSize? (f : Field) : Option Nat := do
  let digits ← f.bare?
  if digits.isEmpty || !digits.all Char.isDigit then none
  let size := Json.Numeral.digitsValue digits
  return if size = 0 ∨ Nat.pow 2 32 ≤ size then defaultLabelSize else size

def label? : List Field → Option Command
  | [lat, lng, text] => do
    return label (← Field.point? lat lng) (← text.text?) defaultLabelSize none
  | [lat, lng, text, size] => do
    return label (← Field.point? lat lng) (← text.text?) (← labelSize? size) none
  | [lat, lng, text, size, color] => do
    return label (← Field.point? lat lng) (← text.text?) (← labelSize? size) (← color.color?)
  | _ => none

/-- A fourth field alone is a direction if it can be, and else a color. -/
def arrow? : List Field → Option Command
  | [lat, lng, text] => do
    return arrow (← Field.point? lat lng) (← text.text?) .right defaultArrowColor
  | [lat, lng, text, modifier] => do
    let place ← Field.point? lat lng
    let text ← text.text?
    match modifier.direction? with
    | some direction => return arrow place text direction defaultArrowColor
    | none => return arrow place text .right (← modifier.color?)
  | [lat, lng, text, direction, color] => do
    return arrow (← Field.point? lat lng) (← text.text?) (← direction.direction?) (← color.color?)
  | _ => none

def year? : List Field → Option Command
  | [text] => do return year (← text.text?) false
  | [text, flag] => do
    if (← flag.word?) == "highlight" then return year (← text.text?) true
    none
  | _ => none

/-- The name of an effect is made of letters, numerals and underscores, and is
kept in lower case. -/
def effectName? (f : Field) : Option String := do
  let name ← f.name?
  if name.toList.all fun c => isAlphanumeric c || c = '_' then return lowercase name
  none

def effectSize? (f : Field) : Option Binary64 := do
  let size ← f.unsigned?
  return if size.isNaN || size.isZero then defaultEffectSize else size

def effect? : List Field → Option Command
  | [lat, lng, name] => do
    return effect (← Field.point? lat lng) (← effectName? name) defaultEffectColor defaultEffectSize
  | [lat, lng, name, color] => do
    return effect (← Field.point? lat lng) (← effectName? name) (← color.color?) defaultEffectSize
  | [lat, lng, name, color, size] => do
    return effect (← Field.point? lat lng) (← effectName? name) (← color.color?)
      (← effectSize? size)
  | _ => none

def legendEntry? : List Field → Option Command
  | [text] => do return legend (.entry (← text.text?) defaultTextColor)
  | [text, color] => do return legend (.entry (← text.text?) (← color.color?))
  | _ => none

def fly? : List Field → Option Command
  | [lat, lng, level] => do return fly (← Field.point? lat lng) (← level.unsigned?)
  | _ => none

def cinematic? : List Field → Option Command
  | [lat, lng, level] => do
    return cinematic (← Field.point? lat lng) (← level.unsigned?) none none
  | [lat, lng, level, pitch] => do
    return cinematic (← Field.point? lat lng) (← level.unsigned?) (← pitch.number?) none
  | [lat, lng, level, pitch, bearing] => do
    return cinematic (← Field.point? lat lng) (← level.unsigned?) (← pitch.number?)
      (← bearing.number?)
  | _ => none

/-- An amount of time before its unit, and how many milliseconds the unit has. -/
def splitUnit (s : List Char) : List Char × Binary64 :=
  match s.reverse with
  | 's' :: 'm' :: amount => (amount.reverse, 1)
  | 's' :: amount => (amount.reverse, 1000)
  | _ => (s, 1000)

/-- Seconds, or milliseconds where `ms` says so, rounded to milliseconds that 64 bits hold. -/
def wait? (args : List Char) : Option Command :=
  let (amount, unit) := splitUnit (asciiLower args)
  (Numeral.readUnsigned? amount).map fun x => wait ((x * unit).toNatWithin (Nat.pow 2 64 - 1))

def isNameCharacter (c : Char) : Bool :=
  isAlphanumeric c || isBlank c || c = '_' || c = '-' || c = '\''

/-- Fills the territory of the given name. -/
def country? (name : List Char) (fields : List Field) : Option Command :=
  if name.isEmpty || !name.all isNameCharacter then none
  else match fields with
    | [color] => do return country (String.ofList name) (← color.color?) .none
    | [color, animation] => do
      return country (String.ofList name) (← color.color?) (← animation.animation?)
    | _ => none

/-- The fields of a text, if all of it is fields. -/
def fields? (args : List Char) : Option (List Field) := (Field.list args).toOption

/-- The command of a keyword and what follows it. -/
def ofArguments? (keyword : Keyword) (args : List Char) : Option Command :=
  match keyword with
  | .country => do
    let (name, rest) ← cutAt? ',' args
    country? (trim name) (← fields? (trim rest))
  | .region => do region? (← fields? args)
  | .line => do line? (← connectorTokens? (← fields? args))
  | .attack => do attack? (← connectorTokens? (← fields? args))
  | .bubble => do bubble? (← fields? args)
  | .label => do label? (← fields? args)
  | .arrow => do arrow? (← fields? args)
  | .year => do year? (← fields? args)
  | .effect => do effect? (← fields? args)
  | .legend =>
    if asciiLower args = "auto".toList then some (legend .auto)
    else if asciiLower args = "hide".toList then some (legend .hide)
    else do legendEntry? (← fields? args)
  | .zoom => if args.isEmpty then none else some (zoom (String.ofList args))
  | .fly => do fly? (← fields? args)
  | .cinematic => do cinematic? (← fields? args)
  | .wait => wait? args
  | .remove => (Removal.ofName? (String.ofList (asciiLower args))).map remove

/-- Nothing but blanks, or a comment. -/
def isIgnored (line : List Char) : Bool :=
  match trim line with
  | [] => true
  | c :: _ => c = '#'

/-- The command that a line gives. If what stands before its first colon is a keyword, the rule of
the keyword reads the rest, or nothing does; anything else is the name of a territory. -/
def ofLine? (line : List Char) : Option Command :=
  if isIgnored line then none
  else do
    let (head, args) ← cutAt? ':' (trim line)
    match Keyword.ofName? (String.ofList (asciiLower (trim head))) with
    | some keyword => ofArguments? keyword (trim args)
    | none => country? (trim head) (← fields? (trim args))

end Command

end ScriptedMap
