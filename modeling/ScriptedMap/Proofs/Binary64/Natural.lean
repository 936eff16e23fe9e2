import ScriptedMap.Proofs.Binary64.Rounding

namespace ScriptedMap.Binary64

/-- The natural is a binary64 number. -/
def IsExact (k : Nat) : Prop := ∃ n : Fin finiteCount, units n.val = k * unitsPerOne

/-- The number is the natural. -/
def IsNatural (x : Binary64) (k : Nat) : Prop :=
  ∃ n : Fin finiteCount, x = .finite false n ∧ units n.val = k * unitsPerOne

/-- The number is the natural or greater. -/
inductive AtLeast (k : Nat) : Binary64 → Prop
  | finite {n : Fin finiteCount} (h : k * unitsPerOne ≤ units n.val) : AtLeast k (.finite false n)
  | infinity : AtLeast k (.infinity false)

theorem unitsPerOne_pos : 0 < unitsPerOne := by decide +kernel

theorem units_of_lt {n : Nat} (h : n < 2 ^ 53) : units n = n := by
  obtain ⟨significand, hn, hunits, hlt, hnormal⟩ := exists_units_eq_shifted n
  have hshift : shift n = 0 := by
    have : shift n = n / 2 ^ 52 - 1 := rfl
    omega
  rw [hshift, Nat.zero_mul, Nat.zero_add] at hn
  rw [hunits, hshift, ← hn, Nat.pow_zero, Nat.mul_one]

theorem exists_units_eq_two_mul (n : Nat) : ∃ m, units m = 2 * units n := by
  rcases Nat.lt_or_ge n (2 ^ 52) with hlt | hge
  · refine ⟨2 * n, ?_⟩
    rw [units_of_lt (by omega), units_of_lt (by omega)]
  · -- the next binade has the same significands
    have hshift : shift (n + 2 ^ 52) = shift n + 1 := by
      have hn : shift n = n / 2 ^ 52 - 1 := rfl
      have hm : shift (n + 2 ^ 52) = (n + 2 ^ 52) / 2 ^ 52 - 1 := rfl
      omega
    have hsignificand : n + 2 ^ 52 - (shift n + 1) * 2 ^ 52 = n - shift n * 2 ^ 52 := by omega
    refine ⟨n + 2 ^ 52, ?_⟩
    unfold units
    simp only [Nat.pow_eq]
    rw [hshift, hsignificand, Nat.pow_succ]
    ring

theorem exists_units_eq_mul_two_pow {k : Nat} (hk : k ≤ 2 ^ 53) (e : Nat) :
    ∃ n, units n = k * 2 ^ e := by
  induction e with
  | zero =>
    rcases Nat.lt_or_eq_of_le hk with hlt | rfl
    · exact ⟨k, by rw [units_of_lt hlt, Nat.pow_zero, Nat.mul_one]⟩
    · exact ⟨2 ^ 53, rfl⟩
  | succ e ih =>
    obtain ⟨n, hn⟩ := ih
    obtain ⟨m, hm⟩ := exists_units_eq_two_mul n
    refine ⟨m, ?_⟩
    rw [hm, hn, Nat.pow_succ]
    ring

theorem lt_finiteCount {n k e : Nat} (h : units n = k * 2 ^ e) (hk : k ≤ 2 ^ 53) (he : e ≤ 2044) :
    n < finiteCount := by
  obtain ⟨significand, -, hunits, -, hnormal⟩ := exists_units_eq_shifted n
  by_contra hge
  have hcount : finiteCount = 2047 * 2 ^ 52 := rfl
  have hshift : shift n = n / 2 ^ 52 - 1 := rfl
  have hlarge : 2 ^ 52 ≤ significand := hnormal.resolve_left (by omega)
  have hpow : 2 ^ (e + 2) ≤ 2 ^ shift n := Nat.pow_le_pow_right (by decide) (by omega)
  have hlt : k * 2 ^ e < significand * 2 ^ shift n := by
    calc k * 2 ^ e ≤ 2 ^ 53 * 2 ^ e := Nat.mul_le_mul_right _ hk
      _ < 2 ^ 54 * 2 ^ e := Nat.mul_lt_mul_of_pos_right (by decide) (Nat.two_pow_pos _)
      _ = 2 ^ 52 * 2 ^ (e + 2) := by ring
      _ ≤ significand * 2 ^ shift n := Nat.mul_le_mul hlarge hpow
  omega

theorem isExact_mul_two_pow {k e : Nat} (hk : k ≤ 2 ^ 53) (he : e ≤ 970) : IsExact (k * 2 ^ e) := by
  obtain ⟨j, hj, hone⟩ : ∃ j ≤ 1074, unitsPerOne = 2 ^ j := ⟨1074, le_refl _, by decide +kernel⟩
  obtain ⟨n, hn⟩ := exists_units_eq_mul_two_pow hk (e + j)
  refine ⟨⟨n, lt_finiteCount hn hk (by omega)⟩, ?_⟩
  rw [hn, hone, Nat.pow_add, Nat.mul_assoc]

theorem isExact_of_le {k : Nat} (hk : k ≤ 2 ^ 53) : IsExact k := by
  have h := isExact_mul_two_pow (e := 0) hk (by decide)
  rwa [Nat.pow_zero, Nat.mul_one] at h

/-- Whatever 64 bits hold is below a binary64 number. -/
theorem isExact_two_pow_64 : IsExact (2 ^ 64) := by
  have h := isExact_mul_two_pow (k := 1) (e := 64) (by decide) (by decide)
  rwa [Nat.one_mul] at h

theorem ofDecimal_natural (negative : Bool) (k : Nat) :
    ofDecimal negative k 0 = round negative (k * unitsPerOne) 1 := by
  have hzero : (0 : Int).toNat = 0 := rfl
  have hneg : (-0 : Int).toNat = 0 := rfl
  rw [ofDecimal, hzero, hneg, Nat.pow_eq, Nat.pow_zero, Nat.mul_one]

theorem isNatural_ofDecimal {k : Nat} (hk : IsExact k) : IsNatural (ofDecimal false k 0) k := by
  obtain ⟨n, hn⟩ := hk
  refine ⟨n, ?_, hn⟩
  have hround := round_units false n Nat.one_pos
  rwa [Nat.mul_one, hn, ← ofDecimal_natural] at hround

theorem isNatural_literal {k : Nat} (hk : IsExact k) : IsNatural (OfNat.ofNat k) k := by
  have hliteral : (OfNat.ofNat k : Binary64) = ofNat k := rfl
  rw [hliteral, ofNat]
  exact isNatural_ofDecimal hk

theorem finite_mul_finite (s t : Bool) (m n : Fin finiteCount) :
    finite s m * finite t n = round (s != t) (units m.val * units n.val) unitsPerOne := by
  simp only [HMul.hMul, Mul.mul, Binary64.mul]

theorem toNatWithin_finite (n : Fin finiteCount) (limit : Nat) :
    (finite false n).toNatWithin limit =
      min limit ((2 * units n.val + unitsPerOne) / (2 * unitsPerOne)) := by
  simp only [toNatWithin, Bool.false_eq_true, if_false]

theorem IsNatural.mul {x y : Binary64} {a b : Nat} (hx : IsNatural x a) (hy : IsNatural y b)
    (hab : IsExact (a * b)) : IsNatural (x * y) (a * b) := by
  obtain ⟨m, rfl, hm⟩ := hx
  obtain ⟨n, rfl, hn⟩ := hy
  obtain ⟨p, hp⟩ := hab
  refine ⟨p, ?_, hp⟩
  have hproduct : units m.val * units n.val = units p.val * unitsPerOne := by
    rw [hm, hn, hp]
    ring
  rw [finite_mul_finite, hproduct]
  exact round_units false p unitsPerOne_pos

theorem IsNatural.toNatWithin {x : Binary64} {k : Nat} (hx : IsNatural x k) (limit : Nat) :
    x.toNatWithin limit = min limit k := by
  obtain ⟨n, rfl, hn⟩ := hx
  have hhalf : (2 * units n.val + unitsPerOne) / (2 * unitsPerOne) = k := by
    have hone := unitsPerOne_pos
    rw [hn]
    apply Nat.div_eq_of_lt_le
    · calc k * (2 * unitsPerOne) = 2 * (k * unitsPerOne) := by ring
        _ ≤ 2 * (k * unitsPerOne) + unitsPerOne := Nat.le_add_right _ _
    · calc 2 * (k * unitsPerOne) + unitsPerOne
          < 2 * (k * unitsPerOne) + 2 * unitsPerOne := by omega
        _ = (k + 1) * (2 * unitsPerOne) := by ring
  rw [toNatWithin_finite, hhalf]

theorem atLeast_round {k num den : Nat} (hk : IsExact k) (hden : 0 < den)
    (h : k * unitsPerOne * den ≤ num) : AtLeast k (round false num den) := by
  obtain ⟨n, hn⟩ := hk
  have hle : n.val ≤ nearestMagnitude num den := by
    apply le_nearestMagnitude hden
    rw [hn]
    exact h
  unfold round
  dsimp only
  split
  · next hlt =>
    apply AtLeast.finite
    rw [← hn]
    exact strictMono_units.monotone hle
  · exact .infinity

theorem atLeast_ofDecimal {k d : Nat} (hk : IsExact k) (h : k ≤ d) :
    AtLeast k (ofDecimal false d 0) := by
  rw [ofDecimal_natural]
  apply atLeast_round hk Nat.one_pos
  rw [Nat.mul_one]
  exact Nat.mul_le_mul_right unitsPerOne h

theorem atLeast_one_powerOfTen (e : Nat) : AtLeast 1 (ofDecimal false 1 e) := by
  have hexponent : (e : Int).toNat = e := Int.toNat_natCast e
  have hnegative : (-(e : Int)).toNat = 0 := by omega
  have hexact : IsExact 1 := isExact_of_le (by decide)
  rw [ofDecimal, hexponent, hnegative, Nat.pow_eq, Nat.pow_eq, Nat.pow_zero]
  apply atLeast_round hexact Nat.one_pos
  rw [Nat.mul_one]
  exact Nat.le_mul_of_pos_right _ (Nat.pow_pos (by decide))

theorem AtLeast.mul {x y : Binary64} {a b k : Nat} (hx : AtLeast a x) (hy : IsNatural y b)
    (hk : IsExact k) (hpos : 0 < b) (h : k ≤ a * b) : AtLeast k (x * y) := by
  obtain ⟨n, rfl, hn⟩ := hy
  cases hx with
  | @finite m hm =>
    rw [finite_mul_finite]
    apply atLeast_round hk unitsPerOne_pos
    rw [hn]
    calc k * unitsPerOne * unitsPerOne ≤ a * b * unitsPerOne * unitsPerOne :=
          Nat.mul_le_mul_right _ (Nat.mul_le_mul_right _ h)
      _ = a * unitsPerOne * (b * unitsPerOne) := by ring
      _ ≤ units m.val * (b * unitsPerOne) := Nat.mul_le_mul_right _ hm
  | infinity =>
    have hne : n.val ≠ 0 := by
      intro hzero
      have hpositive : 0 < units n.val := by
        rw [hn]
        exact Nat.mul_pos hpos unitsPerOne_pos
      rw [hzero] at hpositive
      exact absurd hpositive (by decide)
    have hproduct : Binary64.infinity false * Binary64.finite false n = .infinity false :=
      if_neg hne
    rw [hproduct]
    exact .infinity

/-- Above the limit a number is held at the limit. -/
theorem AtLeast.toNatWithin {x : Binary64} {k limit : Nat} (hx : AtLeast k x) (hlimit : limit ≤ k) :
    x.toNatWithin limit = limit := by
  cases hx with
  | @finite n h =>
    have hle : limit ≤ (2 * units n.val + unitsPerOne) / (2 * unitsPerOne) := by
      rw [Nat.le_div_iff_mul_le (Nat.mul_pos (by decide) unitsPerOne_pos)]
      calc limit * (2 * unitsPerOne) ≤ k * (2 * unitsPerOne) := Nat.mul_le_mul_right _ hlimit
        _ = 2 * (k * unitsPerOne) := by ring
        _ ≤ 2 * units n.val + unitsPerOne := by omega
    rw [toNatWithin_finite]
    exact Nat.min_eq_left hle
  | infinity => rfl

theorem isFinite_ofDecimal (negative : Bool) {k d : Nat} (hk : IsExact k) (h : d ≤ k) :
    (ofDecimal negative d 0).isFinite = true := by
  obtain ⟨n, hn⟩ := hk
  rw [ofDecimal_natural]
  apply isFinite_round negative n Nat.one_pos
  rw [hn, Nat.mul_one]
  exact Nat.mul_le_mul_right unitsPerOne h

theorem IsNatural.isFinite {x : Binary64} {k : Nat} (hx : IsNatural x k) : x.isFinite = true := by
  obtain ⟨n, rfl, -⟩ := hx
  rfl

theorem isFinite_neg (x : Binary64) : (-x).isFinite = x.isFinite := by
  cases x <;> rfl

theorem finite_div_finite (s t : Bool) (m : Fin finiteCount) {n : Fin finiteCount}
    (hn : n.val ≠ 0) :
    finite s m / finite t n = round (s != t) (units m.val * unitsPerOne) (units n.val) := by
  simp only [HDiv.hDiv, Div.div, Binary64.div, hn, if_false]

/-- A finite number stays finite when it is divided by one or more. -/
theorem AtLeast.isFinite_div {x y : Binary64} (hy : AtLeast 1 y) (hx : x.isFinite = true) :
    (x / y).isFinite = true := by
  cases x with
  | nan => cases hx
  | infinity s => cases hx
  | finite s m =>
    cases hy with
    | infinity => rfl
    | @finite n h =>
      rw [Nat.one_mul] at h
      have hpos : 0 < units n.val := unitsPerOne_pos.trans_le h
      have hne : n.val ≠ 0 := by
        intro hzero
        rw [hzero] at hpos
        exact absurd hpos (by decide)
      rw [finite_div_finite s false m hne]
      exact isFinite_round _ m hpos (Nat.mul_le_mul_left _ h)

end ScriptedMap.Binary64
