import ScriptedMap.Binary64.Basic

namespace ScriptedMap.Binary64

protected def neg : Binary64 → Binary64
  | nan => nan
  | infinity s => infinity (!s)
  | finite s n => finite (!s) n

instance : Neg Binary64 where
  neg := Binary64.neg

/-- The value of a finite number in units, with its sign. -/
def signedUnits (negative : Bool) (n : Fin finiteCount) : Int :=
  if negative then -units n.val else units n.val

/-- An exact sum of zero is negative only if both summands are. -/
protected def add : Binary64 → Binary64 → Binary64
  | nan, _ => nan
  | _, nan => nan
  | infinity s, infinity t => if s = t then infinity s else nan
  | infinity s, finite .. => infinity s
  | finite .., infinity t => infinity t
  | finite s m, finite t n =>
    let sum := signedUnits s m + signedUnits t n
    round (if sum = 0 then s && t else sum < 0) sum.natAbs 1

instance : Add Binary64 where
  add := Binary64.add

/-- The exact product, rounded once. Zero times an infinity has no value. -/
protected def mul : Binary64 → Binary64 → Binary64
  | nan, _ => nan
  | _, nan => nan
  | infinity s, infinity t => infinity (s != t)
  | infinity s, finite t n => if n.val = 0 then nan else infinity (s != t)
  | finite s m, infinity t => if m.val = 0 then nan else infinity (s != t)
  | finite s m, finite t n => round (s != t) (units m.val * units n.val) unitsPerOne

instance : Mul Binary64 where
  mul := Binary64.mul

/-- The exact quotient, rounded once. -/
protected def div : Binary64 → Binary64 → Binary64
  | nan, _ => nan
  | _, nan => nan
  | infinity _, infinity _ => nan
  | infinity s, finite t _ => infinity (s != t)
  | finite s _, infinity t => finite (s != t) ⟨0, by decide⟩
  | finite s m, finite t n =>
    if n.val = 0 then
      if m.val = 0 then nan else infinity (s != t)
    else round (s != t) (units m.val * unitsPerOne) (units n.val)

instance : Div Binary64 where
  div := Binary64.div

/-- The lesser of two numbers; a number is preferred to not-a-number, and of two equal ones the
second is taken. -/
protected def min (x y : Binary64) : Binary64 :=
  if y.isNaN then x else if x.lt y then x else y

/-- The greater of two numbers, with the preferences of `min`. -/
protected def max (x y : Binary64) : Binary64 :=
  if y.isNaN then x else if y.lt x then x else y

/-- The number of the range from `low` to `high` nearest to `x`; not-a-number stays. -/
def clamp (x low high : Binary64) : Binary64 :=
  let x := if x.lt low then low else x
  if high.lt x then high else x

/-- The nearest natural, a half rounded up, held within `limit`. Negative numbers and not-a-number
count as zero. -/
def toNatWithin (limit : Nat) : Binary64 → Nat
  | nan => 0
  | infinity s => if s then 0 else limit
  | finite s n => if s then 0 else min limit ((2 * units n.val + unitsPerOne) / (2 * unitsPerOne))

end ScriptedMap.Binary64
