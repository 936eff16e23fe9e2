import ScriptedMap.Surface.Basic
import ScriptedMap.Timeline.Event

namespace ScriptedMap

inductive RunState where
  | idle
  | running
  | stopped
deriving DecidableEq, Repr

/-- What happens during a run, some time after it has begun. -/
inductive Interruption where
  | none
  | stopAt (time : Nat)
  /-- The run is not continued. -/
  | dropAt (time : Nat)
deriving DecidableEq, Repr

inductive Operation where
  | load (script : Script)
  | run (interruption : Interruption)
  | stepForward
  | stepBackward
  | stop
  | restart
  | requestStop
  | withdrawStop
deriving DecidableEq, Repr

/-- A script, a cursor in it, and the surface on which the commands before the cursor have been
played. -/
structure Playback where
  script : Script
  /-- How many commands have been played. -/
  cursor : Nat
  state : RunState
  surface : Surface
  stopRequested : Bool
deriving DecidableEq, Repr

/-- What an operation leads to. A status is told by all operations that play, unless they are
dropped. -/
structure Outcome where
  next : Playback
  events : List Event
  status : Option Status
  elapsed : Nat
deriving DecidableEq, Repr

/-- What playing one command leads to. -/
structure Act where
  surface : Surface
  events : List Event
  /-- How long the next command has to wait. -/
  settle : Nat
deriving DecidableEq, Repr

/-- No delay takes longer than thirty years of 365 days. -/
def longestDelay : Nat := 30 * 365 * 24 * 60 * 60 * 1000

namespace Interruption

/-- The time comes in a delay that begins at `start`. -/
def isIn (time start settle : Nat) : Bool := start ≤ time && time < start + settle

/-- A stop is requested in the delay. -/
def stops (start settle : Nat) : Interruption → Bool
  | stopAt time => isIn time start settle
  | _ => false

/-- When in the delay the run is dropped. -/
def dropTime? (start settle : Nat) : Interruption → Option Nat
  | dropAt time => if isIn time start settle then some time else Option.none
  | _ => Option.none

end Interruption

/-- The outcome with events that came before it. -/
def Outcome.behind (o : Outcome) (events : List Event) : Outcome :=
  { o with events := events ++ o.events }

namespace Playback

def initial : Playback := ⟨.empty, 0, .idle, .initial, false⟩

def length (p : Playback) : Nat := p.script.length

/-- The line of the next command. -/
def line? (p : Playback) : Option Nat := (p.script.entries[p.cursor]?).map (·.line)

def progress (p : Playback) : Event := .progress p.cursor p.length p.line?

def stepped (p : Playback) : Status := .stepped p.cursor p.length

/-- Ends an operation with a status. -/
def finish (p : Playback) (status : Status) (elapsed : Nat) : Outcome :=
  ⟨p, [.finished status], some status, elapsed⟩

/-- Ends an operation that tells no status. -/
def quietly (p : Playback) (events : List Event) : Outcome := ⟨p, events, none, 0⟩

def draw (p : Playback) (request : Request) : Playback :=
  { p with surface := p.surface.draw request }

/-- The surface is cleared before the first command. -/
def clearAtStart (p : Playback) : Playback := if p.cursor = 0 then p.draw .clearAll else p

/-- The playback after the command at the cursor, which has led to `act`. -/
def advance (p : Playback) (act : Act) : Playback :=
  { p with surface := act.surface, cursor := p.cursor + 1 }

/-- The surface stays as it is until the script is played. -/
def load (p : Playback) (script : Script) : Outcome :=
  { p with script, cursor := 0, state := .idle, stopRequested := true }.quietly
    [.loaded script.length script.rejectedLines.length]

/-- Also ends a run that has been dropped. -/
def stop (p : Playback) : Outcome :=
  let state := if p.state = .running then .stopped else p.state
  { p with state, stopRequested := true }.quietly []

def restart (p : Playback) : Outcome :=
  let next := { p.draw .clearAll with cursor := 0, state := .idle, stopRequested := true }
  next.quietly [next.progress]

end Playback

namespace Scene

/-- How long the next command has to wait for `c`: its settle time, within the longest delay. -/
def delay (scene : Scene) (c : Command) : Nat := min (scene.config.settle.after c) longestDelay

/-- Plays the command at `index`. -/
def act (scene : Scene) (script : Script) (index : Nat) (e : Entry) (s : Surface) : Act :=
  match scene.request? script e.command with
  | .error skip => ⟨s, [.skipped index e.line skip], 0⟩
  | .ok none => ⟨s, [], scene.delay e.command⟩
  | .ok (some request) => ⟨s.draw request, [], scene.delay e.command⟩

/-- Plays commands, the first of them at `index`, without delays. -/
def replay (scene : Scene) (script : Script) (index : Nat) (s : Surface) :
    List Entry → Surface × List Event
  | [] => (s, [])
  | e :: es =>
    let act := scene.act script index e s
    let rest := scene.replay script (index + 1) act.surface es
    (rest.1, act.events ++ rest.2)

/-- Plays the remaining entries, `elapsed` milliseconds after the run began. -/
def play (scene : Scene) (interruption : Interruption) (elapsed : Nat) (p : Playback) :
    List Entry → Outcome
  | [] => { p with state := .idle }.finish .done elapsed
  | e :: es =>
    if p.stopRequested then { p with state := .stopped }.finish .stopped elapsed
    else
      let act := scene.act p.script p.cursor e p.surface
      match interruption.dropTime? elapsed act.settle with
      | some time => ⟨{ p with surface := act.surface }, act.events, none, time⟩
      | none =>
        let next := { p.advance act with stopRequested := interruption.stops elapsed act.settle }
        (scene.play interruption (elapsed + act.settle) next es).behind
          (act.events ++ [next.progress])

/-- The diagnostics of the script, where it is about to be played from its first command. -/
def warnings (scene : Scene) (p : Playback) : List Event :=
  let diagnostics := scene.config.check p.script
  if p.cursor = 0 && !diagnostics.isEmpty then [.warnings diagnostics] else []

/-- Plays from the cursor on. -/
def run (scene : Scene) (interruption : Interruption) (p : Playback) : Outcome :=
  if p.script.entries.isEmpty then p.finish .nothingToRun 0
  else
    let opened := { p.clearAtStart with state := .running, stopRequested := false }
    (scene.play interruption 0 opened (p.script.entries.drop p.cursor)).behind
      (scene.warnings p ++ [.started p.cursor])

/-- Plays the command at the cursor. -/
def stepForward (scene : Scene) (p : Playback) : Outcome :=
  match p.script.entries[p.cursor]? with
  | none => p.finish .atEnd 0
  | some e =>
    let opened := { p.clearAtStart with state := .idle }
    let act := scene.act opened.script opened.cursor e opened.surface
    let next := opened.advance act
    (next.finish next.stepped act.settle).behind (act.events ++ [next.progress])

/-- Moves the cursor back by one command and plays all before it on a cleared surface. -/
def stepBackward (scene : Scene) (p : Playback) : Outcome :=
  if p.cursor = 0 then p.finish .atStart 0
  else
    let cursor := p.cursor - 1
    let played := scene.replay p.script 0 (p.surface.draw .clearAll) (p.script.entries.take cursor)
    let next := { p with cursor, state := .idle, surface := played.1 }
    (next.finish next.stepped 0).behind (played.2 ++ [next.progress])

def perform (scene : Scene) (p : Playback) : Operation → Outcome
  | .load script => p.load script
  | .run interruption => scene.run interruption p
  | .stepForward => scene.stepForward p
  | .stepBackward => scene.stepBackward p
  | .stop => p.stop
  | .restart => p.restart
  | .requestStop => { p with stopRequested := true }.quietly []
  | .withdrawStop => { p with stopRequested := false }.quietly []

end Scene

end ScriptedMap
