namespace ScriptedMap

/-- How many finite magnitudes there are. -/
def finiteCount : Nat := 2047 * Nat.pow 2 52

/-- A number of the IEEE 754 format binary64. All patterns of not-a-number are one value; zero has a
sign. Magnitudes are numbered upward from zero, so that the order of their numbers is that of their
values, and one has an even significand exactly when its number is even. -/
inductive Binary64 where
  | nan
  | infinity (negative : Bool)
  | finite (negative : Bool) (magnitude : Fin finiteCount)
deriving DecidableEq, Repr

namespace Binary64

/-- How many bits the significand of magnitude `n` is shifted to the left. -/
def shift (n : Nat) : Nat := n / Nat.pow 2 52 - 1

/-- The value of magnitude `n` in units of `2 ^ -1074`. -/
def units (n : Nat) : Nat := (n - shift n * Nat.pow 2 52) * Nat.pow 2 (shift n)

/-- How many units make one. -/
def unitsPerOne : Nat := Nat.pow 2 1074

/-- The natural nearest to `num / den`, on a tie the even one. -/
def nearest (num den : Nat) : Nat :=
  let q := num / den
  match compare (2 * (num % den)) den with
  | .lt => q
  | .gt => q + 1
  | .eq => if q % 2 = 0 then q else q + 1

/-- The number of the magnitude nearest to `num / den` units. It is `finiteCount` or more where the
value is too large for a finite magnitude. -/
def nearestMagnitude (num den : Nat) : Nat :=
  let s := (num / den).log2 - 52
  s * Nat.pow 2 52 + nearest num (den * Nat.pow 2 s)

/-- Rounds `num / den` units once, to the nearest magnitude and on a tie to the even one. -/
def round (negative : Bool) (num den : Nat) : Binary64 :=
  let n := nearestMagnitude num den
  if h : n < finiteCount then .finite negative ⟨n, h⟩ else .infinity negative

/-- The number `digits * 10 ^ exponent` with a sign, rounded. -/
def ofDecimal (negative : Bool) (digits : Nat) (exponent : Int) : Binary64 :=
  round negative (digits * unitsPerOne * Nat.pow 10 exponent.toNat) (Nat.pow 10 (-exponent).toNat)

def ofNat (n : Nat) : Binary64 := ofDecimal false n 0

def ofInt (i : Int) : Binary64 := ofDecimal (i < 0) i.natAbs 0

instance : OfScientific Binary64 where
  ofScientific digits negativeExponent places :=
    ofDecimal false digits (if negativeExponent then -(places : Int) else places)

instance (n : Nat) : OfNat Binary64 n where
  ofNat := ofNat n

instance : Inhabited Binary64 where
  default := 0

def isNaN : Binary64 → Bool
  | nan => true
  | _ => false

def isFinite : Binary64 → Bool
  | finite .. => true
  | _ => false

/-- Zero of either sign. -/
def isZero : Binary64 → Bool
  | finite _ n => n.val == 0
  | _ => false

def isNegative : Binary64 → Bool
  | nan => false
  | infinity s => s
  | finite s _ => s

/-- The place of a number in the order of the extended line; the two zeros share theirs. -/
def rank : Binary64 → Option Int
  | nan => none
  | infinity s => some (if s then -finiteCount else finiteCount)
  | finite s n => some (if s then -n.val else n.val)

/-- Strictly below; not-a-number is neither below nor above anything. -/
def lt (x y : Binary64) : Bool :=
  match x.rank, y.rank with
  | some a, some b => a < b
  | _, _ => false

end Binary64

end ScriptedMap
