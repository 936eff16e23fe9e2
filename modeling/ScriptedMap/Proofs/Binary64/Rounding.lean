import Mathlib.Data.Nat.Log
import Mathlib.Tactic.Linarith
import Mathlib.Tactic.Ring
import ScriptedMap.Binary64.Arithmetic

namespace ScriptedMap.Binary64

section Nearest

variable {num den num' den' k : Nat}

/-- The nearest natural is `k` or more from the middle between `k - 1` and `k` on; the middle itself
belongs to the even one of the two. -/
theorem le_nearest_iff (hden : 0 < den) : k ≤ nearest num den ↔
    2 * (k * den) < 2 * num + den ∨ 2 * (k * den) = 2 * num + den ∧ k % 2 = 0 := by
  have hnum : num / den * den + num % den = num := Nat.div_add_mod' num den
  have hmod : num % den < den := Nat.mod_lt num hden
  unfold nearest
  generalize num / den = q at hnum ⊢
  generalize num % den = r at hnum hmod ⊢
  dsimp only
  -- only `k = q + 1` depends on where between `q` and `q + 1` the quotient lies
  rcases Nat.lt_trichotomy k (q + 1) with hk | rfl | hk
  · have hmul : k * den ≤ q * den := Nat.mul_le_mul_right den (by omega)
    split <;> (try split) <;> omega
  · rw [Nat.succ_mul q den]
    split
    · next h =>
      rw [Nat.compare_eq_lt] at h
      omega
    · next h =>
      rw [Nat.compare_eq_gt] at h
      omega
    · next h =>
      rw [Nat.compare_eq_eq] at h
      split <;> omega
  · have hmul : (q + 2) * den ≤ k * den := Nat.mul_le_mul_right den hk
    rw [Nat.add_mul] at hmul
    split <;> (try split) <;> omega

/-- The nearest natural grows with the quotient. -/
theorem nearest_le_nearest (hden : 0 < den) (hden' : 0 < den') (h : num * den' ≤ num' * den) :
    nearest num den ≤ nearest num' den' := by
  have hself := (le_nearest_iff hden).mp (le_refl (nearest num den))
  rw [le_nearest_iff hden']
  generalize nearest num den = k at hself ⊢
  -- the same comparison over the common denominator
  have hscale : 2 * (k * den') * den = 2 * (k * den) * den' := by ring
  have hmono : (2 * num + den) * den' ≤ (2 * num' + den') * den := by
    calc (2 * num + den) * den' = 2 * (num * den') + den * den' := by ring
      _ ≤ 2 * (num' * den) + den * den' := by omega
      _ = (2 * num' + den') * den := by ring
  rcases hself with hlt | ⟨heq, heven⟩
  · left
    apply Nat.lt_of_mul_lt_mul_right (a := den)
    calc 2 * (k * den') * den = 2 * (k * den) * den' := hscale
      _ < (2 * num + den) * den' := Nat.mul_lt_mul_of_pos_right hlt hden'
      _ ≤ (2 * num' + den') * den := hmono
  · have hle : 2 * (k * den') ≤ 2 * num' + den' := by
      apply Nat.le_of_mul_le_mul_right _ hden
      rw [hscale, heq]
      exact hmono
    rcases Nat.lt_or_eq_of_le hle with hlt | heq'
    · exact .inl hlt
    · exact .inr ⟨heq', heven⟩

theorem nearest_mul (hden : 0 < den) : nearest (k * den) den = k := by
  have hdiv : k * den / den = k := Nat.mul_div_cancel k hden
  have hmod : k * den % den = 0 := Nat.mul_mod_left k den
  have hlt : compare (2 * 0) den = .lt := Nat.compare_eq_lt.mpr (by omega)
  rw [nearest, hdiv, hmod, hlt]

theorem le_nearest (hden : 0 < den) (h : k * den ≤ num) : k ≤ nearest num den := by
  rw [le_nearest_iff hden]
  omega

theorem nearest_le (hden : 0 < den) (h : num ≤ k * den) : nearest num den ≤ k := by
  have hmono := nearest_le_nearest hden hden (Nat.mul_le_mul_right den h)
  rwa [nearest_mul hden] at hmono

end Nearest

section NearestMagnitude

variable {num den num' den' n m : Nat}

/-- By how many bits a quotient is shifted so that at most 53 are left of it. -/
theorem shifted_bounds (q : Nat) :
    q < 2 ^ (53 + (q.log2 - 52)) ∧ (q.log2 - 52 = 0 ∨ 2 ^ (52 + (q.log2 - 52)) ≤ q) := by
  have hlt : q < 2 ^ (q.log2 + 1) := Nat.lt_log2_self
  refine ⟨hlt.trans_le (Nat.pow_le_pow_right (by decide) (by omega)), ?_⟩
  rcases Nat.lt_or_ge 52 q.log2 with hlarge | hsmall
  · right
    have hne : q ≠ 0 := by
      rintro rfl
      rw [Nat.log2_zero] at hlarge
      cases hlarge
    have hlog : 52 + (q.log2 - 52) = q.log2 := by omega
    rw [hlog]
    exact Nat.log2_self_le hne
  · exact .inl (by omega)

theorem nearest_shifted_le (hden : 0 < den) :
    nearest num (den * 2 ^ ((num / den).log2 - 52)) ≤ 2 ^ 53 := by
  have hq := (shifted_bounds (num / den)).1
  rw [Nat.div_lt_iff_lt_mul hden, Nat.pow_add] at hq
  apply nearest_le (Nat.mul_pos hden (Nat.two_pow_pos _))
  calc num ≤ 2 ^ 53 * 2 ^ ((num / den).log2 - 52) * den := hq.le
    _ = 2 ^ 53 * (den * 2 ^ ((num / den).log2 - 52)) := by ring

theorem le_nearest_shifted (hden : 0 < den) (hshift : (num / den).log2 - 52 ≠ 0) :
    2 ^ 52 ≤ nearest num (den * 2 ^ ((num / den).log2 - 52)) := by
  have hq := (shifted_bounds (num / den)).2.resolve_left hshift
  rw [Nat.le_div_iff_mul_le hden, Nat.pow_add] at hq
  apply le_nearest (Nat.mul_pos hden (Nat.two_pow_pos _))
  calc 2 ^ 52 * (den * 2 ^ ((num / den).log2 - 52))
      = 2 ^ 52 * 2 ^ ((num / den).log2 - 52) * den := by ring
    _ ≤ num := hq

/-- The nearest magnitude grows with the quotient. -/
theorem nearestMagnitude_le_nearestMagnitude (hden : 0 < den) (hden' : 0 < den')
    (h : num * den' ≤ num' * den) : nearestMagnitude num den ≤ nearestMagnitude num' den' := by
  have hquotient : num / den ≤ num' / den' := by
    rw [Nat.le_div_iff_mul_le hden']
    apply Nat.le_of_mul_le_mul_right _ hden
    calc num / den * den' * den = num / den * den * den' := by ring
      _ ≤ num * den' := Nat.mul_le_mul_right den' (Nat.div_mul_le_self num den)
      _ ≤ num' * den := h
  have hlog : (num / den).log2 ≤ (num' / den').log2 := by
    rw [Nat.log2_eq_log_two, Nat.log2_eq_log_two]
    exact Nat.log_mono_right hquotient
  have hupper : nearest num (den * 2 ^ ((num / den).log2 - 52)) ≤ 2 ^ 53 := nearest_shifted_le hden
  unfold nearestMagnitude
  simp only [Nat.pow_eq]
  rcases Nat.lt_or_ge ((num / den).log2 - 52) ((num' / den').log2 - 52) with hlt | hge
  · -- the shift differs, and at a larger shift all magnitudes are larger
    have hmul : ((num / den).log2 - 52 + 1) * 2 ^ 52 ≤ ((num' / den').log2 - 52) * 2 ^ 52 :=
      Nat.mul_le_mul_right _ hlt
    have hlower : 2 ^ 52 ≤ nearest num' (den' * 2 ^ ((num' / den').log2 - 52)) :=
      le_nearest_shifted hden' (by omega)
    omega
  · have hsame : (num' / den').log2 - 52 = (num / den).log2 - 52 := by omega
    rw [hsame]
    refine Nat.add_le_add_left (nearest_le_nearest ?_ ?_ ?_) _
    · exact Nat.mul_pos hden (Nat.two_pow_pos _)
    · exact Nat.mul_pos hden' (Nat.two_pow_pos _)
    · calc num * (den' * 2 ^ ((num / den).log2 - 52))
          = num * den' * 2 ^ ((num / den).log2 - 52) := by ring
        _ ≤ num' * den * 2 ^ ((num / den).log2 - 52) := Nat.mul_le_mul_right _ h
        _ = num' * (den * 2 ^ ((num / den).log2 - 52)) := by ring

/-- A magnitude is its significand, shifted; only magnitudes that are not shifted have fewer than 53
bits. -/
theorem exists_units_eq_shifted (n : Nat) : ∃ significand, n = shift n * 2 ^ 52 + significand ∧
    units n = significand * 2 ^ shift n ∧ significand < 2 ^ 53 ∧
      (shift n = 0 ∨ 2 ^ 52 ≤ significand) := by
  have hshift : shift n = n / 2 ^ 52 - 1 := rfl
  refine ⟨n - shift n * 2 ^ 52, ?_, rfl, ?_, ?_⟩ <;> omega

theorem log2_units (n : Nat) : (units n).log2 - 52 = shift n := by
  obtain ⟨significand, -, hunits, hlt, hnormal⟩ := exists_units_eq_shifted n
  rw [hunits]
  rcases hnormal with hzero | hle
  · rw [hzero, Nat.pow_zero, Nat.mul_one]
    rcases Nat.eq_zero_or_pos significand with rfl | hpos
    · rfl
    · have hlog : significand.log2 < 53 := (Nat.log2_lt hpos.ne').mpr hlt
      omega
  · have hpow : 0 < 2 ^ shift n := Nat.two_pow_pos _
    have hpos : significand * 2 ^ shift n ≠ 0 := by positivity
    have hlog : (significand * 2 ^ shift n).log2 = 52 + shift n := by
      rw [Nat.log2_eq_iff hpos]
      constructor
      · rw [Nat.pow_add]
        exact Nat.mul_le_mul_right _ hle
      · calc significand * 2 ^ shift n < 2 ^ 53 * 2 ^ shift n :=
            Nat.mul_lt_mul_of_pos_right hlt hpow
          _ = 2 ^ (52 + shift n + 1) := by ring
    omega

/-- What is a magnitude is not changed. -/
theorem nearestMagnitude_units (n : Nat) (hden : 0 < den) :
    nearestMagnitude (units n * den) den = n := by
  obtain ⟨significand, hn, hunits, -, -⟩ := exists_units_eq_shifted n
  have hscale : units n * den = significand * (den * 2 ^ shift n) := by
    rw [hunits]
    ring
  have hnearest : nearest (units n * den) (den * 2 ^ shift n) = significand := by
    rw [hscale]
    exact nearest_mul (Nat.mul_pos hden (Nat.two_pow_pos _))
  unfold nearestMagnitude
  simp only [Nat.pow_eq]
  rw [Nat.mul_div_cancel _ hden, log2_units, hnearest]
  exact hn.symm

theorem le_of_units_le (h : units m ≤ units n) : m ≤ n := by
  have hmono := nearestMagnitude_le_nearestMagnitude Nat.one_pos Nat.one_pos
    (Nat.mul_le_mul_right 1 (Nat.mul_le_mul_right 1 h))
  rwa [nearestMagnitude_units m Nat.one_pos, nearestMagnitude_units n Nat.one_pos] at hmono

/-- Magnitudes are numbered in the order of their values. -/
theorem strictMono_units : StrictMono units := by
  intro m n hmn
  by_contra h
  exact Nat.not_le_of_gt hmn (le_of_units_le (Nat.not_lt.mp h))

theorem le_nearestMagnitude (hden : 0 < den) (h : units n * den ≤ num) :
    n ≤ nearestMagnitude num den := by
  have hmono := nearestMagnitude_le_nearestMagnitude hden hden (Nat.mul_le_mul_right den h)
  rwa [nearestMagnitude_units n hden] at hmono

theorem nearestMagnitude_le (hden : 0 < den) (h : num ≤ units n * den) :
    nearestMagnitude num den ≤ n := by
  have hmono := nearestMagnitude_le_nearestMagnitude hden hden (Nat.mul_le_mul_right den h)
  rwa [nearestMagnitude_units n hden] at hmono

end NearestMagnitude

section Round

variable {num den : Nat}

theorem round_units (negative : Bool) (n : Fin finiteCount) (hden : 0 < den) :
    round negative (units n.val * den) den = .finite negative n := by
  unfold round
  simp only [nearestMagnitude_units n.val hden]
  exact dif_pos n.isLt

/-- A quotient that is at most a finite magnitude is finite when it is rounded. -/
theorem isFinite_round (negative : Bool) (n : Fin finiteCount) (hden : 0 < den)
    (h : num ≤ units n.val * den) : (round negative num den).isFinite = true := by
  have hlt : nearestMagnitude num den < finiteCount := (nearestMagnitude_le hden h).trans_lt n.isLt
  unfold round
  simp only [hlt, dif_pos]
  rfl

end Round

end ScriptedMap.Binary64
