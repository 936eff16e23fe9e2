import Mathlib.Data.List.Basic

namespace ScriptedMap

variable {α : Type}

/-- `a`, which stands at `i`, is the first member of the list for which `P` holds. -/
structure IsFirst (P : α → Prop) (l : List α) (i : Nat) (a : α) : Prop where
  get : l[i]? = some a
  holds : P a
  before : ∀ b ∈ l.take i, ¬P b

/-- `a`, which stands at `i`, has the rank `r`, no member has a lesser rank, and none before `a` has
the same. -/
structure IsBest (rank : α → Option Nat) (l : List α) (i r : Nat) (a : α) : Prop where
  first : IsFirst (fun b => rank b = some r) l i a
  least : ∀ b ∈ l, ∀ q ∈ rank b, r ≤ q

section First

variable {P Q : α → Prop} {l more : List α} {i j : Nat} {x a b : α}

theorem IsFirst.mem (h : IsFirst P l i a) : a ∈ l := List.mem_of_getElem? h.get

theorem IsFirst.le (h : IsFirst P l i a) (hj : l[j]? = some b) (hb : P b) : i ≤ j := by
  by_contra hle
  have hlt : j < i := Nat.lt_of_not_le hle
  have hget : (l.take i)[j]? = some b := by
    rw [List.getElem?_take_of_lt hlt, hj]
  exact h.before b (List.mem_of_getElem? hget) hb

theorem IsFirst.eq (h : IsFirst P l i a) (h' : IsFirst P l j b) : i = j ∧ a = b := by
  have hij : i = j := Nat.le_antisymm (h.le h'.get h'.holds) (h'.le h.get h.holds)
  subst hij
  exact ⟨rfl, Option.some.inj (h.get.symm.trans h'.get)⟩

theorem IsFirst.of_append (h : IsFirst P (l ++ more) i a) (hi : i < l.length) :
    IsFirst P l i a := by
  have htake : (l ++ more).take i = l.take i := List.take_append_of_le_length (Nat.le_of_lt hi)
  refine ⟨?_, h.holds, ?_⟩
  · rw [← List.getElem?_append_left hi]
    exact h.get
  · rw [← htake]
    exact h.before

theorem IsFirst.not_of_append (h : IsFirst P (l ++ more) i a) (hi : l.length ≤ i) (hb : b ∈ l) :
    ¬P b := by
  apply h.before
  rw [List.take_append]
  exact List.mem_append_left _ ((List.take_of_length_le hi).symm ▸ hb)

theorem isFirst_zero (hx : P x) : IsFirst P (x :: l) 0 x := ⟨rfl, hx, by simp⟩

theorem IsFirst.succ (hx : ¬P x) (h : IsFirst P l i a) : IsFirst P (x :: l) (i + 1) a := by
  refine ⟨h.get, h.holds, ?_⟩
  rw [List.take_succ_cons, List.forall_mem_cons]
  exact ⟨hx, h.before⟩

theorem IsFirst.of_cons (hx : ¬P x) (h : IsFirst P (x :: l) i a) : ∃ j, IsFirst P l j a := by
  cases i with
  | zero =>
    have hsame : x = a := Option.some.inj h.get
    exact absurd (hsame ▸ h.holds) hx
  | succ j =>
    have hbefore := h.before
    rw [List.take_succ_cons, List.forall_mem_cons] at hbefore
    exact ⟨j, h.get, h.holds, hbefore.2⟩

theorem exists_isFirst_cons_of_pos (hx : P x) :
    (∃ i a, IsFirst P (x :: l) i a ∧ Q a) ↔ Q x := by
  constructor
  · intro h
    obtain ⟨i, a, hfirst, ha⟩ := h
    obtain rfl := (hfirst.eq (isFirst_zero hx)).2
    exact ha
  · intro h
    exact ⟨0, x, isFirst_zero hx, h⟩

theorem exists_isFirst_cons_of_neg (hx : ¬P x) :
    (∃ i a, IsFirst P (x :: l) i a ∧ Q a) ↔ ∃ i a, IsFirst P l i a ∧ Q a := by
  constructor
  · intro h
    obtain ⟨i, a, hfirst, ha⟩ := h
    obtain ⟨j, hrest⟩ := hfirst.of_cons hx
    exact ⟨j, a, hrest, ha⟩
  · intro h
    obtain ⟨i, a, hfirst, ha⟩ := h
    exact ⟨i + 1, a, hfirst.succ hx, ha⟩

theorem find?_eq_some_iff_isFirst {p : α → Bool} :
    l.find? p = some a ↔ ∃ i, IsFirst (fun b => p b = true) l i a := by
  rw [List.find?_eq_some_iff_getElem]
  constructor
  · rintro ⟨hp, i, hi, rfl, hbefore⟩
    refine ⟨i, List.getElem?_eq_getElem hi, hp, ?_⟩
    intro b hb
    obtain ⟨j, hj, rfl⟩ := List.mem_take_iff_getElem.mp hb
    simpa using hbefore j (by omega)
  · rintro ⟨i, h⟩
    obtain ⟨hi, hget⟩ := List.getElem?_eq_some_iff.mp h.get
    refine ⟨h.holds, i, hi, hget, ?_⟩
    intro j hj
    have hmem : l[j] ∈ l.take i := List.mem_take_iff_getElem.mpr ⟨j, by omega, rfl⟩
    simpa using h.before _ hmem

/-- A search finds the first member with a property, or there is none with it. -/
theorem find?_cases {p : α → Bool} (hp : ∀ a, p a = true ↔ P a) (l : List α) :
    (∃ i a, IsFirst P l i a ∧ l.find? p = some a) ∨ (∀ a ∈ l, ¬P a) ∧ l.find? p = none := by
  cases hfind : l.find? p with
  | some a =>
    obtain ⟨i, hi⟩ := find?_eq_some_iff_isFirst.mp hfind
    simp only [hp] at hi
    exact .inl ⟨i, a, hi, rfl⟩
  | none =>
    refine .inr ⟨?_, rfl⟩
    intro a ha hP
    exact List.find?_eq_none.mp hfind a ha ((hp a).mpr hP)

end First

section Best

variable {rank : α → Option Nat} {l more : List α} {i j r q : Nat} {a b : α}

theorem IsBest.eq (h : IsBest rank l i r a) (h' : IsBest rank l j q b) :
    i = j ∧ r = q ∧ a = b := by
  have hrq : r ≤ q := h.least b h'.first.mem q h'.first.holds
  have hqr : q ≤ r := h'.least a h.first.mem r h.first.holds
  have hr : r = q := Nat.le_antisymm hrq hqr
  subst hr
  obtain ⟨hij, hab⟩ := h.first.eq h'.first
  exact ⟨hij, rfl, hab⟩

/-- Of a longer list the best is the one of the beginning, or it comes later and is better. -/
theorem IsBest.of_append (h : IsBest rank (l ++ more) i r a) :
    IsBest rank l i r a ∨ a ∈ more ∧ ∀ b ∈ l, ∀ q ∈ rank b, r < q := by
  by_cases hi : i < l.length
  · have hleast : ∀ b ∈ l, ∀ q ∈ rank b, r ≤ q :=
      fun b hb => h.least b (List.mem_append_left _ hb)
    exact .inl ⟨h.first.of_append hi, hleast⟩
  · have hge : l.length ≤ i := Nat.le_of_not_lt hi
    refine .inr ⟨?_, ?_⟩
    · have hget := h.first.get
      rw [List.getElem?_append_right hge] at hget
      exact List.mem_of_getElem? hget
    · intro b hb q hq
      have hle : r ≤ q := h.least b (List.mem_append_left _ hb) q hq
      have hne : r ≠ q := by
        rintro rfl
        exact h.first.not_of_append hge hb hq
      omega

end Best

/-- The number of the first test that `a` passes. -/
def rankBy (tests : List (α → Bool)) (a : α) : Option Nat := tests.findIdx? (· a)

/-- What the first test finds that finds something. -/
def search (tests : List (α → Bool)) (l : List α) : Option α :=
  tests.findSome? fun test => l.find? test

section Search

variable {tests : List (α → Bool)} {l : List α} {a : α}

theorem rankBy_cons_of_pos {test : α → Bool} (h : test a = true) :
    rankBy (test :: tests) a = some 0 := by
  simp [rankBy, List.findIdx?_cons, h]

theorem rankBy_cons_of_neg {test : α → Bool} (h : test a = false) :
    rankBy (test :: tests) a = (rankBy tests a).map (· + 1) := by
  simp [rankBy, List.findIdx?_cons, h]

theorem IsBest.cons {test : α → Bool} (hnone : ∀ b ∈ l, test b = false) {i r : Nat}
    (h : IsBest (rankBy tests) l i r a) : IsBest (rankBy (test :: tests)) l i (r + 1) a := by
  have hrank : ∀ b ∈ l, rankBy (test :: tests) b = (rankBy tests b).map (· + 1) :=
    fun b hb => rankBy_cons_of_neg (hnone b hb)
  refine ⟨⟨h.first.get, ?_, ?_⟩, ?_⟩
  · rw [hrank a h.first.mem, h.first.holds]
    rfl
  · intro b hb hr
    rw [hrank b (List.mem_of_mem_take hb)] at hr
    obtain ⟨q, hq, hsucc⟩ := Option.map_eq_some_iff.mp hr
    obtain rfl : q = r := Nat.succ.inj hsucc
    exact h.first.before b hb hq
  · intro b hb q hq
    rw [hrank b hb] at hq
    obtain ⟨p, hp, rfl⟩ := Option.map_eq_some_iff.mp hq
    exact Nat.succ_le_succ (h.least b hb p hp)

theorem search_eq_none_iff : search tests l = none ↔ ∀ a ∈ l, rankBy tests a = none := by
  simp only [search, rankBy, List.findSome?_eq_none_iff, List.find?_eq_none,
    List.findIdx?_eq_none_iff, Bool.not_eq_true]
  exact ⟨fun h a ha test ht => h test ht a ha, fun h test ht a ha => h a ha test ht⟩

theorem isBest_of_search (h : search tests l = some a) :
    ∃ i r, IsBest (rankBy tests) l i r a := by
  induction tests with
  | nil => cases h
  | cons test tests ih =>
    rw [search, List.findSome?_cons] at h
    cases hfind : l.find? test with
    | some b =>
      rw [hfind] at h
      obtain rfl : b = a := Option.some.inj h
      obtain ⟨i, hi⟩ := find?_eq_some_iff_isFirst.mp hfind
      refine ⟨i, 0, ⟨hi.get, rankBy_cons_of_pos hi.holds, ?_⟩, fun _ _ q _ => Nat.zero_le q⟩
      intro c hc hzero
      have hneg : test c = false := by simpa using hi.before c hc
      rw [rankBy_cons_of_neg hneg] at hzero
      obtain ⟨q, -, hq⟩ := Option.map_eq_some_iff.mp hzero
      exact absurd hq (Nat.succ_ne_zero q)
    | none =>
      rw [hfind] at h
      have hnone : ∀ b ∈ l, test b = false := by
        simpa using hfind
      obtain ⟨i, r, hbest⟩ := ih h
      exact ⟨i, r + 1, hbest.cons hnone⟩

theorem search_eq_some_iff :
    search tests l = some a ↔ ∃ i r, IsBest (rankBy tests) l i r a := by
  constructor
  · exact isBest_of_search
  · rintro ⟨i, r, hbest⟩
    cases hsearch : search tests l with
    | none =>
      have hrank := search_eq_none_iff.mp hsearch a hbest.first.mem
      rw [hbest.first.holds] at hrank
      cases hrank
    | some b =>
      obtain ⟨j, q, hb⟩ := isBest_of_search hsearch
      exact congrArg some (hb.eq hbest).2.2

end Search

end ScriptedMap
