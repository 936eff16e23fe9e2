import ScriptedMap.Json.Basic
import ScriptedMap.Decimal.Writing

namespace ScriptedMap.Json

/-- Numbers of ordinary size are written in full, whole ones with `.0`; others have
a power of ten. -/
def numberStyle : NumberStyle where
  tie := .toEven
  pointZero := true
  plain := some (-5, 16)

def hexDigits : List Char := "0123456789abcdef".toList

/-- The written form of a character inside a quoted text. -/
def escape (c : Char) : List Char :=
  if c = '"' then ['\\', '"']
  else if c = '\\' then ['\\', '\\']
  else if c = '\n' then ['\\', 'n']
  else if c = '\r' then ['\\', 'r']
  else if c = '\t' then ['\\', 't']
  else if c = '\x08' then ['\\', 'b']
  else if c = '\x0c' then ['\\', 'f']
  else if c < ' ' then
    '\\' :: 'u' :: '0' :: '0' :: [hexDigits.getD (c.toNat / 16) '0',
      hexDigits.getD (c.toNat % 16) '0']
  else [c]

def writeText (s : String) : List Char := '"' :: s.toList.flatMap escape ++ ['"']

/-- A number that is not finite is written `null`. -/
def writeNumber : Number → List Char
  | .integer i => (toString i).toList
  | .real x => if x.isFinite then (numberStyle.write x).toList else "null".toList

/-- The line break before a part at a level, if there are levels. -/
def lineBreak : Option Nat → List Char
  | none => []
  | some level => '\n' :: List.replicate (2 * level) ' '

def deeper (level : Option Nat) : Option Nat := level.map (· + 1)

/-- The mark between a name and its value. -/
def colon (level : Option Nat) : List Char := if level.isSome then [':', ' '] else [':']

mutual

/-- Writes a value that stands at a level, or on one line where there is none. -/
def write (level : Option Nat) : Json → List Char
  | .null => "null".toList
  | .boolean b => (if b then "true" else "false").toList
  | .number n => writeNumber n
  | .text s => writeText s
  | .array [] => ['[', ']']
  | .array (v :: vs) =>
    '[' :: lineBreak (deeper level) ++ write (deeper level) v ++ writeItems (deeper level) vs
      ++ lineBreak level ++ [']']
  | .object [] => ['{', '}']
  | .object ((name, v) :: fs) =>
    '{' :: lineBreak (deeper level) ++ writeText name ++ colon level ++ write (deeper level) v
      ++ writeFields (deeper level) fs ++ lineBreak level ++ ['}']
  | .unreadable => "null".toList

/-- The parts of an array after the first. -/
def writeItems (level : Option Nat) : List Json → List Char
  | [] => []
  | v :: vs => ',' :: lineBreak level ++ write level v ++ writeItems level vs

/-- The parts of an object after the first. -/
def writeFields (level : Option Nat) : List (String × Json) → List Char
  | [] => []
  | (name, v) :: fs =>
    ',' :: lineBreak level ++ writeText name ++ colon level ++ write level v ++ writeFields level fs

end

/-- The value on one line. -/
def compact (v : Json) : String := String.ofList (v.write none)

/-- The value with one part a line. -/
def pretty (v : Json) : String := String.ofList (v.write (some 0))

end ScriptedMap.Json
