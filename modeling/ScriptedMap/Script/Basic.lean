import ScriptedMap.Script.Line
import ScriptedMap.Text.Lines

namespace ScriptedMap

/-- A command and the line it stands on. -/
structure Entry where
  line : Nat
  command : Command
deriving DecidableEq, Repr

/-- The commands of a text, and the lines that give none although they are neither blank nor
comments. Lines are counted from zero. -/
structure Script where
  entries : List Entry
  rejectedLines : List Nat
deriving DecidableEq, Repr

namespace Script

def empty : Script := ⟨[], []⟩

instance : Inhabited Script where
  default := empty

def commands (script : Script) : List Command := script.entries.map (·.command)

def sourceLines (script : Script) : List Nat := script.entries.map (·.line)

def length (script : Script) : Nat := script.entries.length

/-- The script with one more command. -/
def push (script : Script) (line : Nat) (command : Command) : Script :=
  { script with entries := script.entries ++ [⟨line, command⟩] }

/-- The script with one more rejected line. -/
def reject (script : Script) (line : Nat) : Script :=
  { script with rejectedLines := script.rejectedLines ++ [line] }

/-- The script that numbered lines give. -/
def ofLines (lines : List (List Char × Nat)) : Script where
  entries := lines.filterMap fun l => (Command.ofLine? l.1).map (Entry.mk l.2)
  rejectedLines := (lines.filter fun l =>
    !Command.isIgnored l.1 && (Command.ofLine? l.1).isNone).map (·.2)

/-- Reads a script; no text is too odd for one. -/
def ofText (text : String) : Script := ofLines (lines text.toList).zipIdx

end Script

end ScriptedMap
