import ScriptedMap.Script.Diagnostic
import ScriptedMap.Timeline.Scene

namespace ScriptedMap

/-- How an operation on a timeline ends. -/
inductive Status where
  /-- There is no command to run. -/
  | nothingToRun
  | done
  | stopped
  /-- There is no command left to step over. -/
  | atEnd
  | atStart
  | stepped (current total : Nat)
deriving DecidableEq, Repr

def Status.write : Status → String
  | nothingToRun => "No commands to run"
  | done => "Done"
  | stopped => "Stopped"
  | atEnd => "End of script"
  | atStart => "Start of script"
  | stepped current total => s!"Step {current}/{total}"

inductive Event where
  | loaded (commands rejected : Nat)
  | started (cursor : Nat)
  /-- The cursor has moved; the line is that of the next command. -/
  | progress (current total : Nat) (line : Option Nat)
  | skipped (index line : Nat) (skip : Skip)
  | warnings (diagnostics : List Diagnostic)
  | finished (status : Status)
deriving DecidableEq, Repr

def Event.isSkipped : Event → Bool
  | skipped .. => true
  | _ => false

end ScriptedMap
