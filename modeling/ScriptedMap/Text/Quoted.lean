import ScriptedMap.Text.Printable

namespace ScriptedMap

/-- A character by its code point, in lower-case hexadecimal digits. -/
def codePoint (c : Char) : List Char := "\\u\x7b".toList ++ Nat.toDigits 16 c.toNat ++ ['\x7d']

/-- A character between marks of the given kind, escaped if it would not show. -/
def escapeWithin (mark c : Char) : List Char :=
  if c = '\x00' then ['\\', '0']
  else if c = '\t' then ['\\', 't']
  else if c = '\r' then ['\\', 'r']
  else if c = '\n' then ['\\', 'n']
  else if c = '\\' then ['\\', '\\']
  else if c = mark then ['\\', mark]
  else if isGraphemeExtend c || !isPrintable c then codePoint c
  else [c]

/-- The character between single quotes. -/
def quoteChar (c : Char) : String := String.ofList ('\'' :: escapeWithin '\'' c ++ ['\''])

/-- The text between double quotes. -/
def quoteText (s : String) : String :=
  String.ofList ('"' :: s.toList.flatMap (escapeWithin '"') ++ ['"'])

end ScriptedMap
