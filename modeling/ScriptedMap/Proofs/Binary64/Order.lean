import ScriptedMap.Proofs.Binary64.Rounding

namespace ScriptedMap.Binary64

/-- The value of a finite number in units of `2 ^ -1074`. -/
def value? : Binary64 → Option Int
  | finite negative n => some (signedUnits negative n)
  | _ => none

/-- Both numbers are finite, and the first is not above the second. -/
def AtMost (x y : Binary64) : Prop := ∃ a b, x.value? = some a ∧ y.value? = some b ∧ a ≤ b

/-- Both numbers are finite, and their values are equal. -/
def SameValue (x y : Binary64) : Prop := ∃ a, x.value? = some a ∧ y.value? = some a

/-- Signs apart, greater magnitudes have greater values, and only zero has none. -/
theorem signedUnits_lt_iff (s t : Bool) (m n : Fin finiteCount) :
    signedUnits s m < signedUnits t n ↔
      (if s then -(m.val : Int) else m.val) < if t then -(n.val : Int) else n.val := by
  have hzero : units 0 = 0 := rfl
  have hpos (k : Nat) : units 0 < units k ↔ 0 < k := strictMono_units.lt_iff_lt
  have hm := hpos m.val
  have hn := hpos n.val
  have hmn : units m.val < units n.val ↔ m.val < n.val := strictMono_units.lt_iff_lt
  have hnm : units n.val < units m.val ↔ n.val < m.val := strictMono_units.lt_iff_lt
  rw [hzero] at hm hn
  unfold signedUnits
  generalize units m.val = a at *
  generalize units n.val = b at *
  cases s <;> cases t <;> simp only [Bool.false_eq_true, if_false, if_true] <;> omega

theorem lt_finite_iff (s t : Bool) (m n : Fin finiteCount) :
    (finite s m).lt (finite t n) = true ↔ signedUnits s m < signedUnits t n := by
  rw [signedUnits_lt_iff]
  exact decide_eq_true_iff

section Order

variable {x y z : Binary64}

theorem exists_eq_finite (hx : x.isFinite = true) : ∃ s n, x = finite s n := by
  cases x with
  | finite s n => exact ⟨s, n, rfl⟩
  | nan => cases hx
  | infinity s => cases hx

theorem not_isNaN_of_isFinite (hx : x.isFinite = true) : ¬x.isNaN = true := by
  obtain ⟨s, n, rfl⟩ := exists_eq_finite hx
  exact Bool.false_ne_true

theorem exists_value?_iff : (∃ a, x.value? = some a) ↔ x.isFinite = true := by
  cases x <;> simp [value?, isFinite]

theorem atMost_refl (hx : x.isFinite = true) : AtMost x x := by
  obtain ⟨a, ha⟩ := exists_value?_iff.mpr hx
  exact ⟨a, a, ha, ha, le_refl a⟩

theorem AtMost.trans (hxy : AtMost x y) (hyz : AtMost y z) : AtMost x z := by
  obtain ⟨a, b, ha, hb, hab⟩ := hxy
  obtain ⟨b', c, hb', hc, hbc⟩ := hyz
  obtain rfl := Option.some.inj (hb.symm.trans hb')
  exact ⟨a, c, ha, hc, hab.trans hbc⟩

theorem AtMost.antisymm (hxy : AtMost x y) (hyx : AtMost y x) : SameValue x y := by
  obtain ⟨a, b, ha, hb, hab⟩ := hxy
  obtain ⟨b', a', hb', ha', hba⟩ := hyx
  obtain rfl := Option.some.inj (ha.symm.trans ha')
  obtain rfl := Option.some.inj (hb.symm.trans hb')
  exact ⟨a, ha, le_antisymm hab hba ▸ hb⟩

theorem atMost_of_not_lt (hx : x.isFinite = true) (hy : y.isFinite = true) (h : ¬x.lt y = true) :
    AtMost y x := by
  obtain ⟨s, m, rfl⟩ := exists_eq_finite hx
  obtain ⟨t, n, rfl⟩ := exists_eq_finite hy
  rw [lt_finite_iff, not_lt] at h
  exact ⟨_, _, rfl, rfl, h⟩

theorem atMost_of_lt (hx : x.isFinite = true) (hy : y.isFinite = true) (h : x.lt y = true) :
    AtMost x y := by
  obtain ⟨s, m, rfl⟩ := exists_eq_finite hx
  obtain ⟨t, n, rfl⟩ := exists_eq_finite hy
  exact ⟨_, _, rfl, rfl, ((lt_finite_iff s t m n).mp h).le⟩

theorem min_cases (hx : x.isFinite = true) (hy : y.isFinite = true) :
    x.min y = x ∧ AtMost x y ∨ x.min y = y ∧ AtMost y x := by
  rw [Binary64.min, if_neg (not_isNaN_of_isFinite hy)]
  split
  · next hlt => exact .inl ⟨rfl, atMost_of_lt hx hy hlt⟩
  · next hge => exact .inr ⟨rfl, atMost_of_not_lt hx hy hge⟩

theorem max_cases (hx : x.isFinite = true) (hy : y.isFinite = true) :
    x.max y = x ∧ AtMost y x ∨ x.max y = y ∧ AtMost x y := by
  rw [Binary64.max, if_neg (not_isNaN_of_isFinite hy)]
  split
  · next hlt => exact .inl ⟨rfl, atMost_of_lt hy hx hlt⟩
  · next hge => exact .inr ⟨rfl, atMost_of_not_lt hy hx hge⟩

end Order

end ScriptedMap.Binary64
