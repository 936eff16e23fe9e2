import ScriptedMap.Binary64.Basic

namespace ScriptedMap

/-- The number `digits * 10 ^ exponent`. -/
structure Decimal where
  digits : Nat
  exponent : Int
deriving DecidableEq, Repr

/-- Which of two equally near decimals is taken. -/
inductive Tie where
  | toEven
  | up
deriving DecidableEq, Repr

namespace Decimal

/-- The decimal is rounded to magnitude `n`. -/
def readsBack (n : Fin finiteCount) (d : Decimal) : Bool :=
  Binary64.ofDecimal false d.digits d.exponent = .finite false n

/-- The least `k` with `num / den < 10 ^ k`, for a positive quotient. The binary logarithms place it
within four candidates. -/
def scale (num den : Nat) : Int :=
  let low := ((num.log2 : Int) - den.log2 - 1) * 1233 / 4096
  let below (k : Int) : Bool := num * Nat.pow 10 (-k).toNat < den * Nat.pow 10 k.toNat
  if below low then low
  else if below (low + 1) then low + 1
  else if below (low + 2) then low + 2
  else low + 3

/-- One of the two neighbours of `num / den`: the one that fits, and if both do the nearer. -/
def choose? (tie : Tie) (num den : Nat) (lowerFits upperFits : Bool) (lower upper : Decimal) :
    Option Decimal :=
  match lowerFits, upperFits with
  | false, false => none
  | true, false => some lower
  | false, true => some upper
  | true, true =>
    match compare (2 * (num % den)) den, tie with
    | .lt, _ => some lower
    | .gt, _ => some upper
    | .eq, .up => some upper
    | .eq, .toEven => some (if lower.digits % 2 = 0 then lower else upper)

/-- The neighbour of magnitude `n` on the grid of multiples of `10 ^ exponent` that reads back to
it. -/
def onGrid? (tie : Tie) (n : Fin finiteCount) (exponent : Int) : Option Decimal :=
  let num := Binary64.units n.val * Nat.pow 10 (-exponent).toNat
  let den := Binary64.unitsPerOne * Nat.pow 10 exponent.toNat
  let lower : Decimal := ⟨num / den, exponent⟩
  let upper : Decimal := ⟨num / den + 1, exponent⟩
  choose? tie num den (readsBack n lower) (readsBack n upper) lower upper

/-- The decimal with the fewest digits that reads back to magnitude `n`, on the first grid that has
one. Seventeen digits always suffice; the exact value stands for a longer search. -/
def shortest (tie : Tie) (n : Fin finiteCount) : Decimal :=
  let k := scale (Binary64.units n.val) Binary64.unitsPerOne
  let found := (List.range 17).findSome? fun i => onGrid? tie n (k - (i + 1 : Nat))
  found.getD ⟨Binary64.units n.val * Nat.pow 5 1074, -1074⟩

end Decimal

end ScriptedMap
