import ScriptedMap.Config.Basic
import ScriptedMap.Script.Basic
import ScriptedMap.Text.Ascii

namespace ScriptedMap

/-- What a command is advised against for. -/
inductive Finding where
  /-- The color is no code and not in the palette, of which the first names are shown. -/
  | unknownColor (token : String) (available : List String)
  /-- The country was given another color before. -/
  | recolored (name previous : String)
  | unknownEffect (name : String)
deriving DecidableEq, Repr

/-- Advice about a line. What it advises against is played all the same, as far as it can be. -/
structure Diagnostic where
  line : Nat
  finding : Finding
deriving DecidableEq, Repr

def Finding.message : Finding → String
  | unknownColor token available =>
    let shown := ", ".intercalate available
    s!"\"{token}\" is not a valid color. Available: {shown}..."
  | recolored name previous =>
    s!"\"{name}\" is already colored \"{previous}\". A country can only show one color at a time."
  | unknownEffect name => s!"\"{name}\" is not a known effect"

/-- The message behind its line, which is shown counted from one. -/
def Diagnostic.write (d : Diagnostic) : String := s!"line {d.line + 1}: {d.finding.message}"

namespace Config

/-- How many palette names are shown. -/
def shownColors : Nat := 8

def colorFindings (config : Config) (command : Command) : List Finding :=
  match command.color? with
  | none => []
  | some token =>
    if config.isKnownColor token then []
    else [.unknownColor token (config.palette.names.take shownColors)]

/-- The findings on a command where `colors` were last given to the countries, by name in lower
case. -/
def findings (config : Config) (colors : Table String) (command : Command) : List Finding :=
  config.colorFindings command ++
    match command with
    | .country name color _ =>
      match colors.get? (lowercase name) with
      | none => []
      | some previous => if sameIgnoringCase previous color then [] else [.recolored name previous]
    | .effect _ name _ _ => if (config.effects.get? name).isSome then [] else [.unknownEffect name]
    | _ => []

/-- The colors last given to the countries after a command. -/
def recolor (colors : Table String) : Command → Table String
  | .country name color _ => colors.insert (lowercase name) color
  | _ => colors

def diagnose (config : Config) (colors : Table String) : List Entry → List Diagnostic
  | [] => []
  | e :: es =>
    (config.findings colors e.command).map (Diagnostic.mk e.line)
      ++ diagnose config (recolor colors e.command) es

/-- All diagnostics of a script in the order of its lines. -/
def check (config : Config) (script : Script) : List Diagnostic := config.diagnose [] script.entries

end Config

end ScriptedMap
