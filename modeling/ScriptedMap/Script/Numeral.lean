import ScriptedMap.Binary64.Basic
import ScriptedMap.Json.Numeral

namespace ScriptedMap.Numeral

def isNumeric (c : Char) : Bool := c.isDigit || c = '.'

/-- The sign of a numeral and the characters after it. -/
def signed : List Char → Bool × List Char
  | '-' :: s => (true, s)
  | s => (false, s)

/-- The digits before the first point, and those between it and the second. -/
def parts (s : List Char) : List Char × List Char :=
  (s.takeWhile Char.isDigit, ((s.dropWhile Char.isDigit).drop 1).takeWhile Char.isDigit)

def value (negative : Bool) (s : List Char) : Binary64 :=
  let (whole, fraction) := parts s
  if whole.isEmpty && fraction.isEmpty then .nan
  else .ofDecimal negative (Json.Numeral.digitsValue (whole ++ fraction)) (-fraction.length)

/-- The value of a numeral is that of its longest beginning that is a decimal number, so `1.2.3` is
read as `1.2`; where no beginning is one, as in `.`, it is not-a-number. -/
def read? (token : List Char) : Option Binary64 :=
  let (negative, s) := signed token
  if s.isEmpty || !s.all isNumeric then none else some (value negative s)

/-- The value of a numeral without a sign. -/
def readUnsigned? (token : List Char) : Option Binary64 :=
  if (signed token).1 then none else read? token

end ScriptedMap.Numeral
