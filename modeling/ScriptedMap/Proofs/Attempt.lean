import Mathlib.Data.List.Forall2

namespace ScriptedMap

variable {ε α β : Type}

instance decidableEqOk [DecidableEq α] (x : Except ε α) (a : α) : Decidable (x = .ok a) :=
  match x with
  | .ok b => decidable_of_iff (b = a) (by rw [Except.ok.injEq])
  | .error _ => isFalse nofun

theorem bind_eq_ok {x : Except ε α} {f : α → Except ε β} {b : β} :
    x >>= f = .ok b ↔ ∃ a, x = .ok a ∧ f a = .ok b := by
  cases x <;> simp [bind, Except.bind]

theorem mapError_eq_ok {δ : Type} {f : ε → δ} {x : Except ε α} {a : α} :
    x.mapError f = .ok a ↔ x = .ok a := by
  cases x <;> simp [Except.mapError]

theorem bind_eq_error {x : Except ε α} {f : α → Except ε β} {e : ε} :
    x >>= f = .error e ↔ x = .error e ∨ ∃ a, x = .ok a ∧ f a = .error e := by
  cases x <;> simp [bind, Except.bind]

theorem mapError_eq_error {δ : Type} {f : ε → δ} {x : Except ε α} {d : δ} :
    x.mapError f = .error d ↔ ∃ e, x = .error e ∧ d = f e := by
  cases x <;> simp [Except.mapError, eq_comm]

theorem mapM_eq_ok {f : α → Except ε β} {xs : List α} {ys : List β} :
    xs.mapM f = .ok ys ↔ List.Forall₂ (fun x y => f x = .ok y) xs ys := by
  induction xs generalizing ys with
  | nil =>
    rw [List.mapM_nil, List.forall₂_nil_left_iff]
    constructor
    · intro h
      exact (Except.ok.inj h).symm
    · rintro rfl
      rfl
  | cons x xs ih =>
    rw [List.mapM_cons, bind_eq_ok, List.forall₂_cons_left_iff]
    constructor
    · rintro ⟨y, hx, hrest⟩
      obtain ⟨rest, hxs, hcons⟩ := bind_eq_ok.mp hrest
      exact ⟨y, rest, hx, ih.mp hxs, (Except.ok.inj hcons).symm⟩
    · rintro ⟨y, rest, hx, hxs, rfl⟩
      exact ⟨y, hx, bind_eq_ok.mpr ⟨rest, ih.mpr hxs, rfl⟩⟩

theorem length_of_mapM {f : α → Option β} {xs : List α} {ys : List β}
    (h : xs.mapM f = some ys) : ys.length = xs.length := by
  induction xs generalizing ys with
  | nil =>
    cases h
    rfl
  | cons x xs ih =>
    rw [List.mapM_cons] at h
    obtain ⟨y, -, h⟩ := Option.bind_eq_some_iff.mp h
    obtain ⟨rest, hrest, h⟩ := Option.bind_eq_some_iff.mp h
    cases h
    rw [List.length_cons, List.length_cons, ih hrest]

theorem mapM_eq_ok_iff {f : α → Except ε β} {R : α → β → Prop} (hf : ∀ x y, f x = .ok y ↔ R x y)
    {xs : List α} {ys : List β} : xs.mapM f = .ok ys ↔ List.Forall₂ R xs ys := by
  simp only [mapM_eq_ok, hf]

theorem mapM_id_eq_ok {xs : List (Except ε α)} {as : List α} :
    xs.mapM id = .ok as ↔ xs = as.map .ok := by
  rw [mapM_eq_ok, ← List.forall₂_eq_eq_eq, List.forall₂_map_right_iff]
  rfl

/-- Each member of the second of two related lists is related to some member of the first. -/
theorem exists_of_forall₂ {R : α → β → Prop} {xs : List α} {ys : List β}
    (h : List.Forall₂ R xs ys) {y : β} (hy : y ∈ ys) : ∃ x ∈ xs, R x y := by
  induction h with
  | nil => cases hy
  | @cons x z _ _ hxz _ ih =>
    rcases List.mem_cons.mp hy with rfl | hy
    · exact ⟨x, List.mem_cons_self, hxz⟩
    · obtain ⟨w, hw, hwy⟩ := ih hy
      exact ⟨w, List.mem_cons_of_mem x hw, hwy⟩

/-- There is a list related to a list if and only if each member is related to something. -/
theorem exists_forall₂_iff {R : α → β → Prop} {xs : List α} :
    (∃ ys, List.Forall₂ R xs ys) ↔ ∀ x ∈ xs, ∃ y, R x y := by
  induction xs with
  | nil => exact ⟨fun _ => nofun, fun _ => ⟨[], .nil⟩⟩
  | cons x xs ih =>
    rw [List.forall_mem_cons, ← ih]
    constructor
    · intro h
      obtain ⟨ys, hys⟩ := h
      obtain ⟨y, rest, hy, hrest, -⟩ := List.forall₂_cons_left_iff.mp hys
      exact ⟨⟨y, hy⟩, rest, hrest⟩
    · intro h
      obtain ⟨⟨y, hy⟩, rest, hrest⟩ := h
      exact ⟨y :: rest, .cons hy hrest⟩

/-- If every attempt succeeds that is made for members of a list, the results are those of the
members for which one is made. -/
theorem forall₂_of_filterMap_eq {attempt? : α → Option (Except ε β)} {xs : List α}
    {ys : List β} (h : xs.filterMap attempt? = ys.map .ok) :
    List.Forall₂ (fun x y => attempt? x = some (.ok y))
      (xs.filter fun x => (attempt? x).isSome) ys := by
  induction xs generalizing ys with
  | nil =>
    rw [List.map_eq_nil_iff.mp h.symm]
    exact .nil
  | cons x xs ih =>
    cases hx : attempt? x with
    | none =>
      rw [List.filterMap_cons_none hx] at h
      rw [List.filter_cons_of_neg (by simp [hx])]
      exact ih h
    | some result =>
      rw [List.filterMap_cons_some hx] at h
      rw [List.filter_cons_of_pos (by simp [hx])]
      cases ys with
      | nil => cases h
      | cons y ys =>
        obtain ⟨rfl, hxs⟩ := List.cons.inj h
        exact .cons hx (ih hxs)

/-- Attempts made for some members of a list succeed if each of them does. -/
theorem mapM_filterMap_eq_ok_iff {attempt? : α → Option (Except ε β)} {xs : List α}
    {ys : List β} :
    (xs.filterMap attempt?).mapM id = .ok ys ↔
      List.Forall₂ (fun x y => attempt? x = some (.ok y))
        (xs.filter fun x => (attempt? x).isSome) ys := by
  rw [mapM_id_eq_ok]
  constructor
  · exact forall₂_of_filterMap_eq
  · intro h
    have hnamed : (xs.filter fun x => (attempt? x).isSome).filterMap attempt? = ys.map .ok := by
      generalize (xs.filter fun x => (attempt? x).isSome) = named at h
      induction h with
      | nil => rfl
      | cons hx _ ih => rw [List.filterMap_cons_some hx, ih, List.map_cons]
    rw [← hnamed, List.filterMap_filter]
    congr 1
    funext x
    cases attempt? x <;> rfl

end ScriptedMap
