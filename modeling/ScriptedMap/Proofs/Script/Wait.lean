import ScriptedMap.Proofs.Binary64.Natural
import ScriptedMap.Proofs.Script.Head
import ScriptedMap.Proofs.Script.Numeral

namespace ScriptedMap

namespace Numeral

open Json.Numeral (AllDigits digitsValue)

theorem isNumeric_toLower (c : Char) : isNumeric c.toLower = isNumeric c := by
  by_cases hupper : 'A'.val ≤ c.val ∧ c.val ≤ 'Z'.val
  · have hlower := toNat_toLower hupper
    simp only [UInt32.le_iff_toNat_le] at hupper
    have hrange : 65 ≤ c.toNat ∧ c.toNat ≤ 90 := hupper
    have hletter {d : Char} (hd : 65 ≤ d.toNat) : isNumeric d = false := by
      rw [isNumeric, Bool.or_eq_false_iff]
      refine ⟨?_, decide_eq_false ?_⟩
      · rw [← Bool.not_eq_true, Char.isDigit_iff_toNat]
        have hnine : '9'.toNat = 57 := rfl
        omega
      · rintro rfl
        exact absurd hd (by decide)
    rw [hletter (by omega), hletter hrange.1]
  · have hsame : c.toLower = c := dif_neg hupper
    rw [hsame]

theorem readUnsigned?_digits {s : List Char} (hs : AllDigits s) (hne : s ≠ []) :
    readUnsigned? s = some (.ofDecimal false (digitsValue s) 0) := by
  have hnumeric : ∀ c ∈ s, isNumeric c = true := by
    intro c hc
    rw [isNumeric, hs c hc, Bool.true_or]
  refine readUnsigned?_eq_some_iff.mpr ⟨⟨s, hne, hnumeric⟩, rfl, ?_⟩
  have hne' : s ++ [] ≠ [] := by rwa [List.append_nil]
  have hvalue : value false s = _ := value_of_parts (parts_digits hs) hne'
  rwa [List.append_nil] at hvalue

end Numeral

namespace Command

open Binary64 (IsExact IsNatural AtLeast)
open Json.Numeral (AllDigits digitsValue)
open Numeral (isNumeric)

/-- The line is one for waits, whose keyword may be in any letter case, and has this argument. -/
inductive Waits : List Char → List Char → Prop
  | intro {head args : List Char} (hcolon : ':' ∉ head)
      (hspells : asciiLower (trim head) = Keyword.wait.name.toList) :
      Waits (head ++ ':' :: args) (trim args)

/-- The text is a unit of time in any letter case, of this many milliseconds. That of seconds may be
left out. -/
inductive IsUnit : List Char → Nat → Prop
  | milliseconds {text : List Char} (h : asciiLower text = "ms".toList) : IsUnit text 1
  | seconds {text : List Char} (h : asciiLower text = "s".toList) : IsUnit text 1000
  | unnamed : IsUnit [] 1000

theorem Waits.ofLine? {line argument : List Char} (h : Waits line argument) :
    ofLine? line = wait? argument := by
  obtain ⟨hcolon, hspells⟩ := h
  exact ofLine?_of_keyword hcolon hspells

theorem splitUnit_milliseconds (amount : List Char) :
    splitUnit (amount ++ "ms".toList) = (amount, 1) := by
  have hreverse : (amount ++ "ms".toList).reverse = 's' :: 'm' :: amount.reverse :=
    List.reverse_append
  rw [splitUnit, hreverse]
  simp only [List.reverse_reverse]

theorem splitUnit_seconds {amount : List Char} (h : amount.getLast? ≠ some 'm') :
    splitUnit (amount ++ "s".toList) = (amount, 1000) := by
  have hreverse : (amount ++ "s".toList).reverse = 's' :: amount.reverse := List.reverse_append
  rw [← List.head?_reverse] at h
  rw [splitUnit, hreverse]
  split
  · next heq =>
    rw [(List.cons.inj heq).2] at h
    exact absurd rfl h
  · next heq =>
    rw [← (List.cons.inj heq).2, List.reverse_reverse]
  · next hother => exact absurd rfl (hother _)

theorem splitUnit_unnamed {amount : List Char} (h : amount.getLast? ≠ some 's') :
    splitUnit amount = (amount, 1000) := by
  rw [← List.head?_reverse] at h
  rw [splitUnit]
  split
  · next heq =>
    rw [heq] at h
    exact absurd rfl h
  · next heq =>
    rw [heq] at h
    exact absurd rfl h
  · rfl

/-- Whatever is split is an amount with a unit behind it, or with none. -/
theorem splitUnit_cases (s : List Char) : ∃ unit,
    (unit = "ms".toList ∨ unit = "s".toList ∨ unit = []) ∧ s = (splitUnit s).1 ++ unit := by
  have hs {t : List Char} (h : s.reverse = t) : s = t.reverse := by rw [← h, List.reverse_reverse]
  rw [splitUnit]
  split
  · next heq => exact ⟨"ms".toList, by simp, by rw [hs heq]; simp⟩
  · next heq => exact ⟨"s".toList, by simp, by rw [hs heq]; simp⟩
  · exact ⟨[], by simp, (List.append_nil s).symm⟩

section Amount

variable {unit : List Char} {k : Nat} (hunit : IsUnit unit k)

include hunit

theorem IsUnit.pos : 0 < k := by
  cases hunit <;> decide

theorem IsUnit.splitUnit {amount : List Char} (hnumeric : ∀ c ∈ amount, isNumeric c = true) :
    ∃ x, splitUnit (asciiLower (amount ++ unit)) = (amount, x) ∧ IsNatural x k := by
  have hlower : asciiLower (amount ++ unit) = amount ++ asciiLower unit := by
    rw [asciiLower, List.map_append]
    exact congrArg (· ++ _) (Numeral.asciiLower_of_numeric hnumeric)
  have hlast {c : Char} (hc : isNumeric c = false) : amount.getLast? ≠ some c := by
    intro hlast
    rw [hnumeric c (List.mem_of_getLast? hlast)] at hc
    cases hc
  have hone : IsNatural 1 1 := Binary64.isNatural_literal (Binary64.isExact_of_le (by decide))
  have hthousand : IsNatural 1000 1000 :=
    Binary64.isNatural_literal (Binary64.isExact_of_le (by decide))
  rw [hlower]
  cases hunit with
  | milliseconds h =>
    rw [h]
    exact ⟨1, splitUnit_milliseconds amount, hone⟩
  | seconds h =>
    rw [h]
    exact ⟨1000, splitUnit_seconds (hlast rfl), hthousand⟩
  | unnamed =>
    have hempty : amount ++ asciiLower [] = amount := List.append_nil amount
    rw [hempty]
    exact ⟨1000, splitUnit_unnamed (hlast rfl), hthousand⟩

theorem IsUnit.wait? (u : Written.Unsigned) : ∃ x, IsNatural x k ∧
    wait? (u.digits ++ unit) = some (wait ((u.value * x).toNatWithin (Nat.pow 2 64 - 1))) := by
  obtain ⟨x, hsplit, hx⟩ := hunit.splitUnit u.numeric
  refine ⟨x, hx, ?_⟩
  rw [Command.wait?, hsplit]
  simp only [Numeral.readUnsigned?_eq_some_iff.mpr ⟨u, rfl, rfl⟩, Option.map_some]

/-- There is a binary64 number among the naturals of units that have 64 bits of milliseconds or
more, and it is the least of these. -/
theorem IsUnit.exists_least : ∃ t, IsExact t ∧ 2 ^ 64 ≤ t * k ∧ ∀ n, 2 ^ 64 ≤ k * n → t ≤ n := by
  have hseconds : IsExact (4611686018427388 * 2 ^ 2) :=
    Binary64.isExact_mul_two_pow (by decide) (by decide)
  cases hunit with
  | milliseconds => exact ⟨_, Binary64.isExact_two_pow_64, by decide, fun n h => by omega⟩
  | seconds => exact ⟨_, hseconds, by decide, fun n h => by omega⟩
  | unnamed => exact ⟨_, hseconds, by decide, fun n h => by omega⟩

end Amount

/-- Only amounts with units behind them are read. -/
theorem wait?_eq_none_iff {argument : List Char} : wait? argument = none ↔
    ¬∃ (u : Written.Unsigned) (unit : List Char) (k : Nat), IsUnit unit k ∧
      argument = u.digits ++ unit := by
  constructor
  · rintro hnone ⟨u, unit, k, hunit, rfl⟩
    obtain ⟨x, -, hsome⟩ := hunit.wait? u
    rw [hsome] at hnone
    cases hnone
  · intro hshape
    refine Option.map_eq_none_iff.mpr ?_
    change Numeral.readUnsigned? (splitUnit (asciiLower argument)).1 = none
    by_contra hne
    obtain ⟨x, hx⟩ := Option.ne_none_iff_exists'.mp hne
    obtain ⟨u, hu, -⟩ := Numeral.readUnsigned?_eq_some_iff.mp hx
    obtain ⟨unit, hword, hsplit⟩ := splitUnit_cases (asciiLower argument)
    rw [← hu] at hsplit
    -- the letters of the unit are all that was changed
    obtain ⟨amount, unit', rfl, hamount, hunit⟩ := List.map_eq_append_iff.mp hsplit
    have hnil : amount ≠ [] := by
      rintro rfl
      exact u.ne_nil hamount.symm
    have hnumeric : ∀ c ∈ amount, isNumeric c = true := by
      intro c hc
      rw [← Numeral.isNumeric_toLower]
      apply u.numeric
      rw [← hamount]
      exact List.mem_map_of_mem hc
    have hunit' : ∃ k, IsUnit unit' k := by
      rcases hword with rfl | rfl | rfl
      · exact ⟨1, .milliseconds hunit⟩
      · exact ⟨1000, .seconds hunit⟩
      · obtain rfl := List.map_eq_nil_iff.mp hunit
        exact ⟨1000, .unnamed⟩
    obtain ⟨k, hk⟩ := hunit'
    exact hshape ⟨⟨amount, hnil, hnumeric⟩, unit', k, hk, rfl⟩

section Whole

variable {digits unit : List Char} {k : Nat} (hunit : IsUnit unit k) (hdigits : AllDigits digits)
  (hne : digits ≠ [])

include hunit hdigits hne

theorem wait?_digits : ∃ x, IsNatural x k ∧ wait? (digits ++ unit) = some (wait
    ((Binary64.ofDecimal false (digitsValue digits) 0 * x).toNatWithin (Nat.pow 2 64 - 1))) := by
  obtain ⟨u, rfl, hvalue⟩ := Numeral.readUnsigned?_eq_some_iff.mp
    (Numeral.readUnsigned?_digits hdigits hne)
  rw [← hvalue]
  exact hunit.wait? u

theorem wait?_exact (h : k * digitsValue digits ≤ 2 ^ 53) :
    wait? (digits ++ unit) = some (wait (k * digitsValue digits)) := by
  obtain ⟨x, hx, hwait⟩ := wait?_digits hunit hdigits hne
  have hsmall : digitsValue digits ≤ 2 ^ 53 :=
    le_trans (Nat.le_mul_of_pos_left _ hunit.pos) h
  rw [Nat.mul_comm] at h
  have hproduct := (Binary64.isNatural_ofDecimal (Binary64.isExact_of_le hsmall)).mul hx
    (Binary64.isExact_of_le h)
  have hlimit : digitsValue digits * k ≤ Nat.pow 2 64 - 1 := h.trans (by decide)
  rw [hwait, hproduct.toNatWithin, Nat.min_eq_right hlimit, Nat.mul_comm]

theorem wait?_saturated (h : 2 ^ 64 ≤ k * digitsValue digits) :
    wait? (digits ++ unit) = some (wait 18446744073709551615) := by
  obtain ⟨x, hx, hwait⟩ := wait?_digits hunit hdigits hne
  obtain ⟨t, ht, hlarge, hleast⟩ := hunit.exists_least
  have hamount := Binary64.atLeast_ofDecimal ht (hleast _ h)
  have hproduct := hamount.mul hx Binary64.isExact_two_pow_64 hunit.pos hlarge
  have hbelow : Nat.pow 2 64 - 1 ≤ 2 ^ 64 := by decide
  rw [hwait, hproduct.toNatWithin hbelow]

end Whole

/-- Whole milliseconds and seconds are waited exactly up to 53 bits of milliseconds, and from 64
bits on for as long as there is, never for less. Exactly the arguments that are no amount with a
unit behind it are no waits. -/
theorem wait_exact_or_longest {line argument : List Char} (h : Waits line argument) :
    (∀ digits unit k, AllDigits digits → digits ≠ [] → IsUnit unit k → argument = digits ++ unit →
      (k * digitsValue digits ≤ 2 ^ 53 →
        ofLine? line = some (wait (k * digitsValue digits))) ∧
      (2 ^ 64 ≤ k * digitsValue digits → ofLine? line = some (wait 18446744073709551615))) ∧
    (ofLine? line = none ↔ ¬∃ (u : Written.Unsigned) (unit : List Char) (k : Nat), IsUnit unit k ∧
      argument = u.digits ++ unit) := by
  rw [h.ofLine?]
  refine ⟨?_, wait?_eq_none_iff⟩
  rintro digits unit k hdigits hne hunit rfl
  exact ⟨wait?_exact hunit hdigits hne, wait?_saturated hunit hdigits hne⟩

/-- Neither the case of the unit nor zeros in front matter, and a unit needs an amount. -/
theorem wait_exact_or_longest_padded :
    let line (args : String) := "Wait".toList ++ ':' :: args.toList
    Waits (line " 007mS") "007mS".toList ∧ ofLine? (line " 007mS") = some (wait 7) ∧
      ofLine? (line " 18446744073709552S") = some (wait 18446744073709551615) ∧
      ofLine? (line " s") = none := by
  intro line
  have hwaits (args : String) : Waits (line args) (trim args.toList) :=
    .intro (by decide) (by decide)
  have hdigits {s : String} (h : s.toList.all Char.isDigit = true) : AllDigits s.toList :=
    List.all_eq_true.mp h
  refine ⟨hwaits " 007mS", ?_, ?_, ?_⟩
  · exact ((wait_exact_or_longest (hwaits " 007mS")).1 "007".toList "mS".toList 1 (hdigits rfl)
      (by decide) (.milliseconds rfl) (by decide)).1 (by decide)
  · exact ((wait_exact_or_longest (hwaits " 18446744073709552S")).1 "18446744073709552".toList
      "S".toList 1000 (hdigits rfl) (by decide) (.seconds rfl) (by decide)).2 (by decide)
  · rw [(wait_exact_or_longest (hwaits " s")).2]
    rintro ⟨u, unit, k, -, hs⟩
    obtain ⟨c, digits, hu⟩ := List.exists_cons_of_ne_nil u.ne_nil
    have hc : isNumeric c = true := u.numeric c (hu ▸ List.mem_cons_self)
    have htrim : trim " s".toList = ['s'] := by decide
    rw [htrim, hu] at hs
    obtain ⟨rfl, -⟩ := List.cons.inj hs
    cases hc

end Command

end ScriptedMap
