import ScriptedMap.Json.Reader
import ScriptedMap.Proofs.Binary64.Natural

namespace ScriptedMap

namespace Json

/-- Every number in the value is finite. -/
inductive IsFinite : Json → Prop
  | null : IsFinite .null
  | boolean (b : Bool) : IsFinite (.boolean b)
  | number {n : Number} (h : n.toReal.isFinite = true) : IsFinite (.number n)
  | text (s : String) : IsFinite (.text s)
  | array {items : List Json} (h : ∀ v ∈ items, IsFinite v) : IsFinite (.array items)
  | object {fields : List (String × Json)} (h : ∀ f ∈ fields, IsFinite f.2) :
      IsFinite (.object fields)
  | unreadable : IsFinite .unreadable

namespace Numeral

theorem leading_lt {n : Nat} (hn : n < 2 ^ 64) (s : List Char) : (leading n s).1 < 2 ^ 64 := by
  induction s generalizing n with
  | nil => exact hn
  | cons c s ih =>
    rw [leading]
    split
    · next hlt => exact ih hlt
    · exact hn

theorem isFinite_shrink {x : Binary64} (hx : x.isFinite = true) (count : Nat) :
    (shrink x count).isFinite = true := by
  induction count generalizing x with
  | zero => exact hx
  | succ count ih =>
    have hdivisor := Binary64.atLeast_one_powerOfTen 308
    rw [Nat.cast_ofNat] at hdivisor
    rw [shrink]
    split
    · exact hx
    · exact ih (hdivisor.isFinite_div hx)

theorem isFinite_of_scale? {significand : Nat} (h : significand < 2 ^ 64) {exponent : Int}
    {x : Binary64} (hx : scale? significand exponent = some x) : x.isFinite = true := by
  have hstart : (Binary64.ofNat significand).isFinite = true :=
    Binary64.isFinite_ofDecimal false Binary64.isExact_two_pow_64 h.le
  unfold scale? at hx
  dsimp only at hx
  split at hx
  · rw [← Option.some.inj hx]
    exact hstart
  split at hx
  · cases hx
  split at hx
  · split at hx
    · next hfinite =>
      cases hx
      exact hfinite
    · cases hx
  · cases hx
    exact (Binary64.atLeast_one_powerOfTen _).isFinite_div (isFinite_shrink hstart _)

theorem isFinite_of_magnitude? {m : Numeral} {x : Binary64} (hx : m.magnitude? = some x) :
    x.isFinite = true := by
  have hwhole : (leading 0 m.whole).1 < 2 ^ 64 := leading_lt (by decide) m.whole
  have hsignificand := leading_lt hwhole m.fraction
  unfold magnitude? at hx
  dsimp only at hx
  split at hx
  · exact isFinite_of_scale? hsignificand hx
  · split at hx
    · split at hx
      · have hzero := Binary64.isNatural_literal (Binary64.isExact_of_le (Nat.zero_le _))
        rw [← Option.some.inj hx]
        exact hzero.isFinite
      · cases hx
    · exact isFinite_of_scale? hsignificand hx

theorem isFinite_of_number? {m : Numeral} {n : Number} (hn : m.number? = some n) :
    n.toReal.isFinite = true := by
  unfold number? at hn
  extract_lets integer at hn
  split at hn
  · next hinteger =>
    cases hn
    simp only [Bool.and_eq_true, decide_eq_true_eq] at hinteger
    obtain ⟨⟨⟨-, hupper⟩, hlower⟩, -⟩ := hinteger
    have hpow : Int.pow 2 64 = 2 ^ 64 := rfl
    have hpow' : Int.pow 2 63 = 2 ^ 63 := rfl
    have hsmall : integer.natAbs ≤ 2 ^ 64 := by omega
    have hfinite : (Binary64.ofInt integer).isFinite = true :=
      Binary64.isFinite_ofDecimal (integer < 0) Binary64.isExact_two_pow_64 hsmall
    exact hfinite
  · obtain ⟨x, hx, rfl⟩ := Option.map_eq_some_iff.mp hn
    have hfinite := isFinite_of_magnitude? hx
    change (if m.negative = true then -x else x).isFinite = true
    split
    · rw [Binary64.isFinite_neg]
      exact hfinite
    · exact hfinite

end Numeral

theorem isFinite_of_ofWord? {w : List Char} {v : Json} (h : ofWord? w = some v) : v.IsFinite := by
  unfold ofWord? at h
  split at h
  · cases h
    exact .null
  split at h
  · cases h
    exact .boolean true
  split at h
  · cases h
    exact .boolean false
  · obtain ⟨m, -, rfl⟩ := Option.map_eq_some_iff.mp h
    cases hn : m.number? with
    | none => exact .unreadable
    | some n => exact .number (Numeral.isFinite_of_number? hn)

theorem isFinite_ofFields {fields : List (Option String × Json)} (h : ∀ f ∈ fields, f.2.IsFinite) :
    (ofFields fields).IsFinite := by
  have hnamed : ∀ named, (fields.mapM fun f => f.1.map fun name => (name, f.2)) = some named →
      ∀ f ∈ named, f.2.IsFinite := by
    induction fields with
    | nil =>
      intro named hnamed f hf
      cases hnamed
      cases hf
    | cons field fields ih =>
      intro named hnamed
      rw [List.mapM_cons] at hnamed
      obtain ⟨first, hfirst, hnamed⟩ := Option.bind_eq_some_iff.mp hnamed
      obtain ⟨rest, hrest, hnamed⟩ := Option.bind_eq_some_iff.mp hnamed
      obtain ⟨name, -, rfl⟩ := Option.map_eq_some_iff.mp hfirst
      cases hnamed
      rw [List.forall_mem_cons] at h ⊢
      exact ⟨h.1, ih h.2 rest hrest⟩
  unfold ofFields
  split
  · next named heq => exact .object (hnamed named heq)
  · exact .unreadable

/-- Every number in the parts of the array or object that have been read is finite. -/
inductive Frame.IsFinite : Frame → Prop
  | array {items : List Json} (h : ∀ v ∈ items, v.IsFinite) : IsFinite (.array items)
  | object {fields : List (Option String × Json)} {name : Option String}
      (h : ∀ f ∈ fields, f.2.IsFinite) : IsFinite (.object fields name)

theorem isFinite_cons {frame : Frame} {frames : List Frame} (hframe : frame.IsFinite)
    (hframes : ∀ f ∈ frames, f.IsFinite) : ∀ f ∈ frame :: frames, f.IsFinite :=
  List.forall_mem_cons.mpr ⟨hframe, hframes⟩

/-- What is read of the tokens has finite numbers only, where a value must begin
and behind a value. -/
structure ReadsFinite (ts : List Token) : Prop where
  value : ∀ {frames v}, (∀ f ∈ frames, f.IsFinite) → value? frames ts = some v → v.IsFinite
  next : ∀ {u frames v}, u.IsFinite → (∀ f ∈ frames, f.IsFinite) → next? u frames ts = some v →
    v.IsFinite

section Step

variable {ts : List Token} (hrest : ∀ rest : List Token, rest.length < ts.length → ReadsFinite rest)
  {frames : List Frame} (hframes : ∀ f ∈ frames, f.IsFinite) {v : Json}

include hrest hframes

theorem isFinite_of_value? (h : value? frames ts = some v) : v.IsFinite := by
  unfold value? at h
  split at h
  · next w rest =>
    split at h
    · next u hu => exact (hrest _ (by simp +arith)).next (isFinite_of_ofWord? hu) hframes h
    · cases h
  · next s rest =>
    have htext : ((s.map Json.text).getD .unreadable).IsFinite := by
      cases s with
      | none => exact .unreadable
      | some s => exact .text s
    exact (hrest _ (by simp +arith)).next htext hframes h
  · exact (hrest _ (by simp +arith)).next (.array (List.forall_mem_nil _)) hframes h
  · exact (hrest _ (by simp +arith)).value
      (isFinite_cons (.array (List.forall_mem_nil _)) hframes) h
  · exact (hrest _ (by simp +arith)).next (.object (List.forall_mem_nil _)) hframes h
  · exact (hrest _ (by simp +arith)).value
      (isFinite_cons (.object (List.forall_mem_nil _)) hframes) h
  · cases h

theorem isFinite_of_next? {u : Json} (hu : u.IsFinite) (h : next? u frames ts = some v) :
    v.IsFinite := by
  unfold next? at h
  split at h
  · cases h
    exact hu
  · next items frames rest =>
    obtain ⟨hitems | _, hframes⟩ := List.forall_mem_cons.mp hframes
    have hread := List.forall_mem_cons.mpr ⟨hu, hitems⟩
    exact (hrest _ (by simp +arith)).value (isFinite_cons (.array hread) hframes) h
  · next items frames rest =>
    obtain ⟨hitems | _, hframes⟩ := List.forall_mem_cons.mp hframes
    have hread := List.forall_mem_cons.mpr ⟨hu, hitems⟩
    have harray := IsFinite.array fun w hw => hread w (List.mem_reverse.mp hw)
    exact (hrest _ (by simp +arith)).next harray hframes h
  · next fields name frames name' rest =>
    obtain ⟨_ | hfields, hframes⟩ := List.forall_mem_cons.mp hframes
    have hread : ∀ f ∈ (name, u) :: fields, f.2.IsFinite := List.forall_mem_cons.mpr ⟨hu, hfields⟩
    exact (hrest _ (by simp +arith)).value (isFinite_cons (.object hread) hframes) h
  · next fields name frames rest =>
    obtain ⟨_ | hfields, hframes⟩ := List.forall_mem_cons.mp hframes
    have hread : ∀ f ∈ (name, u) :: fields, f.2.IsFinite := List.forall_mem_cons.mpr ⟨hu, hfields⟩
    have hobject := isFinite_ofFields fun f hf => hread f (List.mem_reverse.mp hf)
    exact (hrest _ (by simp +arith)).next hobject hframes h
  · cases h

end Step

theorem readsFinite (ts : List Token) : ReadsFinite ts := by
  -- on the number of tokens, because up to three of them are taken at a time
  induction hn : ts.length using Nat.strongRecOn generalizing ts with
  | _ n ih =>
    subst hn
    have hrest : ∀ rest : List Token, rest.length < ts.length → ReadsFinite rest :=
      fun rest hlt => ih _ hlt rest rfl
    constructor
    · exact fun hframes h => isFinite_of_value? hrest hframes h
    · exact fun hu hframes h => isFinite_of_next? hrest hframes hu h

theorem isFinite_of_readable? {text : String} {v : Json} (h : readable? text = some v) :
    v.IsFinite := by
  obtain ⟨hread, -⟩ := Option.filter_eq_some_iff.mp h
  obtain ⟨ts, -, hvalue⟩ := Option.bind_eq_some_iff.mp hread
  exact (readsFinite ts).value (List.forall_mem_nil _) hvalue

section Parts

variable {v w : Json} (hv : v.IsFinite)

include hv

theorem IsFinite.field? {name : String} (hw : v.field? name = some w) : w.IsFinite := by
  cases hv with
  | object hfields =>
    obtain ⟨f, hf, rfl⟩ := Option.map_eq_some_iff.mp hw
    exact hfields f (List.mem_reverse.mp (List.mem_of_find?_eq_some hf))
  | _ => cases hw

theorem IsFinite.items {items : List Json} (hitems : v = .array items) :
    ∀ w ∈ items, w.IsFinite := by
  subst hitems
  cases hv with
  | array h => exact h

theorem IsFinite.real? {x : Binary64} (hx : v.real? = some x) : x.isFinite = true := by
  cases hv with
  | number hn =>
    cases hx
    exact hn
  | _ => cases hx

end Parts

end Json

end ScriptedMap
