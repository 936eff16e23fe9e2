import ScriptedMap.Decimal.Shortest

namespace ScriptedMap

/-- How the digits of a number are laid out. -/
structure NumberStyle where
  /-- The choice between two equally near decimals of the same length. -/
  tie : Tie
  /-- A whole number is written with `.0`. -/
  pointZero : Bool
  /-- The powers of ten of the leading digit, from the first and below the second, for which the
  number is written out in full; without a range every number is. -/
  plain : Option (Int × Int)

namespace NumberStyle

def zeros (n : Nat) : List Char := List.replicate n '0'

/-- Digits written out in full, the point standing after the first `point` of them. -/
def writePlain (style : NumberStyle) (digits : List Char) (point : Int) : List Char :=
  if point ≤ 0 then '0' :: '.' :: zeros (-point).toNat ++ digits
  else if digits.length ≤ point.toNat then
    digits ++ zeros (point.toNat - digits.length) ++ (if style.pointZero then ['.', '0'] else [])
  else digits.take point.toNat ++ '.' :: digits.drop point.toNat

/-- One digit before the point and a power of ten, whose sign is always written. -/
def writePower (digits : List Char) (power : Int) : List Char :=
  digits.take 1 ++ (if digits.length ≤ 1 then [] else '.' :: digits.drop 1)
    ++ 'e' :: (if power < 0 then '-' else '+') :: Nat.toDigits 10 power.natAbs

def writeMagnitude (style : NumberStyle) (n : Fin finiteCount) : List Char :=
  if n.val = 0 then '0' :: (if style.pointZero then ['.', '0'] else [])
  else
    let d := Decimal.shortest style.tie n
    let all := Nat.toDigits 10 d.digits
    let digits := (all.reverse.dropWhile (· = '0')).reverse
    let point := all.length + d.exponent
    match style.plain with
    | none => style.writePlain digits point
    | some (low, high) =>
      if low ≤ point - 1 && point - 1 < high then style.writePlain digits point
      else writePower digits (point - 1)

/-- The number with the fewest digits that identify it. -/
def write (style : NumberStyle) : Binary64 → String
  | .nan => "NaN"
  | .infinity s => if s then "-inf" else "inf"
  | .finite s n => String.ofList ((if s then ['-'] else []) ++ style.writeMagnitude n)

end NumberStyle

/-- The digits of `n`, at least `width` of them. -/
def paddedDigits (width n : Nat) : List Char :=
  let digits := Nat.toDigits 10 n
  NumberStyle.zeros (width - digits.length) ++ digits

/-- The number with `places` digits after the point, rounded from its exact value; on a tie the last
digit is even. The sign of a number that rounds to zero stays. -/
def writeFixed (places : Nat) : Binary64 → String
  | .nan => "NaN"
  | .infinity s => if s then "-inf" else "inf"
  | .finite s n =>
    let scaled := Binary64.nearest (Binary64.units n.val * Nat.pow 10 places) Binary64.unitsPerOne
    let digits := paddedDigits (places + 1) scaled
    let whole := digits.length - places
    String.ofList ((if s then ['-'] else []) ++ digits.take whole
      ++ (if places = 0 then [] else '.' :: digits.drop whole))

end ScriptedMap
