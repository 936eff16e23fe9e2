import ScriptedMap.CommandLine

namespace ScriptedMap

def readFile? (path : String) : IO (Option (String × String)) := do
  try return some (path, ← IO.FS.readFile path)
  catch _ => return none

/-- Sleeps in pieces, because one sleep lasts no longer than 32 bits of milliseconds. -/
def pause (ms : Nat) : IO Unit := do
  let longest := Nat.pow 2 32 - 1
  for _ in [0 : ms / longest] do IO.sleep longest.toUInt32
  IO.sleep (ms % longest).toUInt32

end ScriptedMap

open ScriptedMap

def main (arguments : List String) : IO UInt32 := do
  let invocation := Invocation.ofArguments arguments
  let files ← invocation.paths.filterMapM readFile?
  let report := invocation.report (List.lookup · files)
  pause report.elapsed
  IO.print report.output
  if let some message := report.error then IO.eprintln message
  return report.code.toUInt32
