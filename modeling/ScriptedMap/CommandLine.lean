import ScriptedMap.Config.Reader
import ScriptedMap.Geo.Features
import ScriptedMap.Script.Json
import ScriptedMap.Timeline.Basic

namespace ScriptedMap

/-- What the arguments say so far. -/
structure Settings where
  script : Option String
  countries : Option String
  regions : Option String
  config : Option String
  /-- The script is printed and not played. -/
  check : Bool
deriving DecidableEq, Repr

inductive Invocation where
  | run (script : String) (settings : Settings)
  | help
  | version
  /-- The arguments make no sense. -/
  | misuse
deriving DecidableEq, Repr

/-- What kind of argument a text is. -/
inductive Argument where
  | operand (text : String)
  /-- Only operands follow. -/
  | terminator
  | short (c : Char)
  | long (name : String) (value : Option String)
deriving DecidableEq, Repr

/-- A single hyphen is an operand. -/
def Argument.ofText (text : String) : Argument :=
  match text.toList with
  | ['-', '-'] => terminator
  | '-' :: '-' :: s =>
    match cutAt? '=' s with
    | some (name, value) => long (String.ofList name) (some (String.ofList value))
    | none => long (String.ofList s) none
  | '-' :: c :: _ => short c
  | _ => operand text

namespace Settings

def initial : Settings := ⟨none, none, none, none, false⟩

/-- Gives a value to what has none. -/
def giveOnce? (old : Option String) (value : String) : Option String :=
  if value.isEmpty || old.isSome then none else some value

def giveScript? (s : Settings) (value : String) : Option Settings :=
  (giveOnce? s.script value).map fun v => { s with script := some v }

/-- Gives a value to the option of the given name. -/
def give? (s : Settings) (name value : String) : Option Settings :=
  if name = "countries" then
    (giveOnce? s.countries value).map fun v => { s with countries := some v }
  else if name = "regions" then
    (giveOnce? s.regions value).map fun v => { s with regions := some v }
  else if name = "config" then
    (giveOnce? s.config value).map fun v => { s with config := some v }
  else none

/-- A script is needed, and regions need countries. -/
def complete (s : Settings) : Invocation :=
  match s.script with
  | none => .misuse
  | some script => if s.regions.isSome && s.countries.isNone then .misuse else .run script s

def readOperands (s : Settings) : List String → Invocation
  | [] => s.complete
  | text :: rest =>
    match s.giveScript? text with
    | some s => s.readOperands rest
    | none => .misuse

/-- An option can have the text as its value. -/
def isValue (text : String) : Bool :=
  match Argument.ofText text with
  | .operand _ => true
  | _ => false

/-- Reads the arguments one after the other. The first that is wrong, or that asks for help or for
the version, decides. -/
def read (s : Settings) : List String → Invocation
  | [] => s.complete
  | text :: rest =>
    match Argument.ofText text with
    | .operand text =>
      match s.giveScript? text with
      | some s => s.read rest
      | none => .misuse
    | .terminator => s.readOperands rest
    | .short c => if c = 'V' then .version else if c = 'h' then .help else .misuse
    | .long name (some value) =>
      match s.give? name value with
      | some s => s.read rest
      | none => .misuse
    | .long name none =>
      if name = "version" then .version
      else if name = "help" then .help
      else if name = "check" then if s.check then .misuse else { s with check := true }.read rest
      else
        match rest with
        | [] => .misuse
        | value :: rest =>
          match if isValue value then s.give? name value else none with
          | some s => s.read rest
          | none => .misuse

end Settings

/-- How an invocation ends: with an exit code, a text that it prints, and what it complains of. -/
structure Report where
  code : Nat
  output : String
  error : Option String
  /-- For how long the script was played, in milliseconds. -/
  elapsed : Nat
deriving DecidableEq, Repr

namespace Report

def success (output : String) : Report := ⟨0, output, none, 0⟩

def failure (message : String) : Report := ⟨1, "", some ("Error: " ++ message), 0⟩

end Report

/-- The contents of the files that can be read, by path. -/
abbrev Files := String → Option String

namespace Invocation

def ofArguments (arguments : List String) : Invocation := Settings.initial.read arguments

/-- The files that the invocation may read. -/
def paths : Invocation → List String
  | run script s => script :: [s.config, s.countries, s.regions].filterMap id
  | _ => []

def versionText : String := "mapscript 0.1.0\n"

def helpLines : List String :=
  ["Usage: mapscript [OPTIONS] <SCRIPT>",
   "",
   "Arguments:",
   "  <SCRIPT>  Map script to play",
   "",
   "Options:",
   "      --countries <COUNTRIES>  Countries GeoJSON (NAME / ADMIN / NAME_LONG properties)",
   "      --regions <REGIONS>      Sub-region GeoJSON (name / admin properties)",
   "      --config <CONFIG>        JSON file overriding palette, aliases, effects or settle times",
   "      --check                  Only parse and validate; print the commands as JSON",
   "  -h, --help                   Print help",
   "  -V, --version                Print version"]

def helpText : String := String.join (helpLines.map (· ++ "\n"))

def readConfig (files : Files) : Option String → Except String Config
  | none => .ok .standard
  | some path =>
    match files path with
    | none => .error ("Reading " ++ path)
    | some text =>
      match Config.ofText? text with
      | none => .error ("Loading config " ++ path)
      | some config => .ok config

/-- The atlas of the datasets, if they can be read. -/
def readAtlas? (files : Files) (config : Config) (s : Settings) : Option Atlas :=
  match s.countries with
  | none => some (.empty config)
  | some path => do
    let countries ← files path
    let regions ← match s.regions with
      | none => pure none
      | some path => (files path).map some
    (Atlas.read config countries regions).toOption

/-- Plays a script from its beginning to its end. -/
def playThrough (scene : Scene) (script : Script) : Outcome :=
  scene.run .none (Playback.initial.load script).next

/-- How playing went. -/
def summary (o : Outcome) : String :=
  let status := (o.status.map Status.write).getD ""
  let skipped := o.events.countP Event.isSkipped
  let calls := o.next.surface.calls.length
  s!"{status}: {o.next.cursor}/{o.next.length} commands, {skipped} without effect, " ++
    s!"{calls} render calls\n"

def report (files : Files) : Invocation → Report
  | misuse => ⟨2, "", none, 0⟩
  | help => .success helpText
  | version => .success versionText
  | run path s =>
    match files path with
    | none => .failure ("Reading " ++ path)
    | some text =>
      match readConfig files s.config with
      | .error message => .failure message
      | .ok config =>
        let script := Script.ofText text
        if s.check then .success (script.dump ++ "\n")
        else
          match readAtlas? files config s with
          | none => .failure "Loading territory datasets"
          | some atlas =>
            let o := playThrough ⟨config, atlas⟩ script
            { Report.success (summary o) with elapsed := o.elapsed }

end Invocation

end ScriptedMap
