import ScriptedMap.Json.Basic

namespace ScriptedMap.Json

/-- A numeral as it is written; an absent fraction has no digits. -/
structure Numeral where
  negative : Bool
  whole : List Char
  fraction : List Char
  /-- The digits of the exponent after its sign. -/
  exponent : Option (Bool × List Char)
deriving DecidableEq, Repr

namespace Numeral

/-- The exponent part of a numeral, and nothing after it. -/
def exponentOf? : List Char → Option (Option (Bool × List Char))
  | [] => some none
  | c :: s =>
    if c = 'e' ∨ c = 'E' then
      let (negative, digits) := match s with
        | '-' :: s => (true, s)
        | '+' :: s => (false, s)
        | s => (false, s)
      if digits.isEmpty || !digits.all Char.isDigit then none else some (some (negative, digits))
    else none

/-- Reads a numeral that takes the whole word. -/
def ofWord? (word : List Char) : Option Numeral :=
  let (negative, s) := match word with
    | '-' :: s => (true, s)
    | s => (false, s)
  let whole := s.takeWhile Char.isDigit
  if whole.isEmpty || (whole.head? == some '0' && whole.length != 1) then none
  else match s.dropWhile Char.isDigit with
    | '.' :: s =>
      let fraction := s.takeWhile Char.isDigit
      if fraction.isEmpty then none
      else (exponentOf? (s.dropWhile Char.isDigit)).map fun e => ⟨negative, whole, fraction, e⟩
    | s => (exponentOf? s).map fun e => ⟨negative, whole, [], e⟩

def digitValue (c : Char) : Nat := c.toNat - '0'.toNat

/-- The natural that decimal digits denote. -/
def digitsValue (digits : List Char) : Nat := digits.foldl (fun n c => 10 * n + digitValue c) 0

/-- The leading digits that 64 bits hold, as a natural after `n`, and the digits that remain. -/
def leading (n : Nat) : List Char → Nat × List Char
  | [] => (n, [])
  | c :: s =>
    if 10 * n + digitValue c < Nat.pow 2 64 then leading (10 * n + digitValue c) s
    else (n, c :: s)

/-- Divides `count` times by `10 ^ 308`, but leaves zero alone. -/
def shrink (x : Binary64) : Nat → Binary64
  | 0 => x
  | count + 1 => if x.isZero then x else shrink (x / .ofDecimal false 1 308) count

/-- `significand * 10 ^ exponent` by roundings of at most 308 places each; `none` instead of an
infinity. -/
def scale? (significand : Nat) (exponent : Int) : Option Binary64 :=
  let x := Binary64.ofNat significand
  if x.isZero then some x
  else if 308 < exponent then none
  else if 0 ≤ exponent then
    let y := x * .ofDecimal false 1 exponent
    if y.isFinite then some y else none
  else
    let blocks := (exponent.natAbs - 1) / 308
    some (shrink x blocks / .ofDecimal false 1 (exponent.natAbs - 308 * blocks : Nat))

/-- The greatest exponent that is read digit by digit. -/
def exponentLimit : Nat := Nat.pow 2 31 - 1

/-- The magnitude of a numeral whose fraction and exponent may be absent. -/
def magnitude? (n : Numeral) : Option Binary64 :=
  let (w, wholeRest) := leading 0 n.whole
  let (significand, fractionRest) := leading w n.fraction
  let point : Int := wholeRest.length - (n.fraction.length - fractionRest.length : Nat)
  match n.exponent with
  | none => scale? significand point
  | some (negative, digits) =>
    let e := digitsValue digits
    if exponentLimit < e then
      if significand = 0 || negative then some 0 else none
    else scale? significand (if negative then point - e else point + e)

/-- The number that a numeral denotes. Without fraction and exponent it is an integer, if 64 bits
hold it and it is no negative zero. Of any other numeral only the first digits count, as many as 64
bits hold, and it denotes nothing if its number would be infinite. -/
def number? (n : Numeral) : Option Number :=
  let integer : Int := if n.negative then -digitsValue n.whole else digitsValue n.whole
  if n.fraction.isEmpty && n.exponent.isNone && integer < Int.pow 2 64 && -Int.pow 2 63 ≤ integer
      && !(n.negative && integer == 0) then
    some (.integer integer)
  else
    n.magnitude?.map fun x => .real (if n.negative then -x else x)

end Numeral

end ScriptedMap.Json
