import ScriptedMap.Proofs.Json.Numeral
import ScriptedMap.Proofs.Script.Token

namespace ScriptedMap

open Json.Numeral (AllDigits sign exponentOf? digitsValue takeWhile_digits dropWhile_digits)

namespace Binary64

/-- The power of ten that an exponent stands for, if there is one. -/
def exponentValue : Option (Bool × List Char) → Int
  | none => 0
  | some (negative, digits) => if negative then -digitsValue digits else digitsValue digits

/-- The number that a text without its sign spells as a whole: a name of an infinity or of
not-a-number, or digits with a point among them and an exponent behind them, both of which may be
missing. -/
def ofUnsignedText? (negative : Bool) (s : List Char) : Option Binary64 :=
  if asciiLower s = "nan".toList then some .nan
  else if asciiLower s = "inf".toList ∨ asciiLower s = "infinity".toList then
    some (.infinity negative)
  else
    let whole := s.takeWhile Char.isDigit
    let (fraction, rest) := match s.dropWhile Char.isDigit with
      | '.' :: s => (s.takeWhile Char.isDigit, s.dropWhile Char.isDigit)
      | s => ([], s)
    if whole.isEmpty && fraction.isEmpty then none
    else (exponentOf? rest).map fun e =>
      ofDecimal negative (digitsValue (whole ++ fraction)) (exponentValue e - fraction.length)

/-- The number that a text spells as a whole. -/
def ofText? : List Char → Option Binary64
  | '-' :: s => ofUnsignedText? true s
  | '+' :: s => ofUnsignedText? false s
  | s => ofUnsignedText? false s

theorem ofDecimal_ne_nan (negative : Bool) (digits : Nat) (exponent : Int) :
    ofDecimal negative digits exponent ≠ .nan := by
  unfold ofDecimal round
  dsimp only
  split <;> exact nofun

end Binary64

theorem Written.Number.text_eq (n : Written.Number) : n.text = sign n.negative ++ n.digits := by
  unfold text sign
  cases n.negative <;> rfl

namespace Numeral

/-- The text is a decimal number with these digits before and behind its point. The point may be
missing if there are none behind it, and on one side of it at least there are some. -/
inductive Spells (negative : Bool) (whole : List Char) : List Char → List Char → Prop
  | integer (hw : AllDigits whole) (hne : whole ≠ []) :
    Spells negative whole [] (sign negative ++ whole)
  | point {fraction : List Char} (hw : AllDigits whole) (hf : AllDigits fraction)
      (hne : whole ++ fraction ≠ []) :
      Spells negative whole fraction (sign negative ++ (whole ++ '.' :: fraction))

def IsDecimal (s : List Char) : Prop := ∃ negative whole fraction, Spells negative whole fraction s

/-- The beginning of the token is a decimal number, and there is no longer one. -/
structure IsLongestDecimal (p token : List Char) : Prop where
  begins : p <+: token
  decimal : IsDecimal p
  longest : ∀ q, q <+: token → IsDecimal q → q.length ≤ p.length

theorem count_point_digits {s : List Char} (hs : AllDigits s) : s.count '.' = 0 := by
  rw [List.count_eq_zero]
  intro hmem
  have hdigit := hs '.' hmem
  revert hdigit
  decide

theorem count_point_sign (negative : Bool) : (sign negative).count '.' = 0 := by
  cases negative <;> decide

section Spells

variable {negative : Bool} {whole fraction s : List Char}

theorem Spells.count_point_le (h : Spells negative whole fraction s) : s.count '.' ≤ 1 := by
  cases h with
  | integer hw => simp [count_point_sign, count_point_digits hw]
  | point hw hf => simp [count_point_sign, count_point_digits hw, count_point_digits hf]

theorem Spells.exists_digit (h : Spells negative whole fraction s) : ∃ c ∈ s, c.isDigit = true := by
  cases h with
  | integer hw hne =>
    obtain ⟨c, hc⟩ := List.exists_mem_of_ne_nil whole hne
    exact ⟨c, by simp [hc], hw c hc⟩
  | point hw hf hne =>
    obtain ⟨c, hc⟩ := List.exists_mem_of_ne_nil _ hne
    rcases List.mem_append.mp hc with hc | hc
    · exact ⟨c, by simp [hc], hw c hc⟩
    · exact ⟨c, by simp [hc], hf c hc⟩

theorem Spells.numeric (h : Spells negative whole fraction s) :
    ∃ t, s = sign negative ++ t ∧ ∀ c ∈ t, isNumeric c = true := by
  have hdigits {t : List Char} (ht : AllDigits t) : ∀ c ∈ t, isNumeric c = true := by
    intro c hc
    rw [isNumeric, ht c hc, Bool.true_or]
  cases h with
  | integer hw => exact ⟨whole, rfl, hdigits hw⟩
  | point hw hf =>
    refine ⟨whole ++ '.' :: fraction, rfl, ?_⟩
    intro c hc
    rcases List.mem_append.mp hc with hc | hc
    · exact hdigits hw c hc
    · rcases List.mem_cons.mp hc with rfl | hc
      · rfl
      · exact hdigits hf c hc

end Spells

theorem toLower_of_isNumeric {c : Char} (hc : isNumeric c = true) : c.toLower = c := by
  have hupper : ¬('A'.val ≤ c.val ∧ c.val ≤ 'Z'.val) := by
    rw [isNumeric, Bool.or_eq_true, decide_eq_true_eq] at hc
    rcases hc with hdigit | rfl
    · simp only [Char.isDigit, Bool.and_eq_true, decide_eq_true_eq,
        UInt32.le_iff_toNat_le] at hdigit
      rw [UInt32.le_iff_toNat_le]
      have hlow : 'A'.val.toNat = 65 := rfl
      have hhigh : c.val.toNat ≤ 57 := hdigit.2
      omega
    · decide
  exact dif_neg hupper

theorem asciiLower_of_numeric {s : List Char} (hs : ∀ c ∈ s, isNumeric c = true) :
    asciiLower s = s := by
  have hsame : ∀ c ∈ s, c.toLower = id c := fun c hc => toLower_of_isNumeric (hs c hc)
  rw [asciiLower, List.map_congr_left hsame, List.map_id]

theorem ofText?_sign {s : List Char} (hs : ∀ c ∈ s, isNumeric c = true) (negative : Bool) :
    Binary64.ofText? (sign negative ++ s) = Binary64.ofUnsignedText? negative s := by
  cases negative with
  | true => rfl
  | false =>
    change Binary64.ofText? s = _
    unfold Binary64.ofText?
    split
    · exact absurd (hs '-' List.mem_cons_self) (by decide)
    · exact absurd (hs '+' List.mem_cons_self) (by decide)
    · rfl

theorem ofUnsignedText?_numeric {s : List Char} (hs : ∀ c ∈ s, isNumeric c = true)
    (negative : Bool) :
    Binary64.ofUnsignedText? negative s =
      let whole := s.takeWhile Char.isDigit
      let (fraction, rest) := match s.dropWhile Char.isDigit with
        | '.' :: s => (s.takeWhile Char.isDigit, s.dropWhile Char.isDigit)
        | s => ([], s)
      if whole.isEmpty && fraction.isEmpty then none
      else (exponentOf? rest).map fun e => .ofDecimal negative (digitsValue (whole ++ fraction))
        (Binary64.exponentValue e - fraction.length) := by
  have hname {word : List Char} (hword : ∃ c ∈ word, isNumeric c = false) :
      asciiLower s ≠ word := by
    obtain ⟨c, hc, hletter⟩ := hword
    rw [asciiLower_of_numeric hs]
    rintro rfl
    rw [hs c hc] at hletter
    cases hletter
  have hnan : asciiLower s ≠ "nan".toList := hname ⟨'n', by decide, by decide⟩
  have hinf : asciiLower s ≠ "inf".toList := hname ⟨'n', by decide, by decide⟩
  have hinfinity : asciiLower s ≠ "infinity".toList := hname ⟨'n', by decide, by decide⟩
  rw [Binary64.ofUnsignedText?, if_neg hnan, if_neg (not_or.mpr ⟨hinf, hinfinity⟩)]

/-- Every decimal number can be read as a number, and has the value of its digits. -/
theorem Spells.ofText? {negative : Bool} {whole fraction s : List Char}
    (h : Spells negative whole fraction s) : Binary64.ofText? s =
      some (.ofDecimal negative (digitsValue (whole ++ fraction)) (-fraction.length)) := by
  obtain ⟨t, ht, hnumeric⟩ := h.numeric
  rw [ht, ofText?_sign hnumeric, ofUnsignedText?_numeric hnumeric]
  cases h with
  | integer hw hne =>
    obtain rfl := List.append_cancel_left ht
    have htake := List.takeWhile_eq_self_iff.mpr hw
    have hdrop := List.dropWhile_eq_nil_iff.mpr hw
    simp [htake, hdrop, hne, exponentOf?, Binary64.exponentValue]
  | point hw hf hne =>
    obtain rfl := List.append_cancel_left ht
    have hpoint : ∀ c ∈ ('.' :: fraction).head?, c.isDigit = false := by
      intro c hc
      cases hc
      rfl
    have htake := List.takeWhile_eq_self_iff.mpr hf
    have hdrop := List.dropWhile_eq_nil_iff.mpr hf
    have hempty : (whole.isEmpty && fraction.isEmpty) = false := by
      rw [Bool.and_eq_false_imp]
      intro hwhole
      rw [List.isEmpty_iff.mp hwhole] at hne
      exact List.isEmpty_eq_false_iff.mpr hne
    simp [takeWhile_digits hw hpoint, dropWhile_digits hw hpoint, htake, hdrop, hempty, exponentOf?,
      Binary64.exponentValue]

theorem parts_digits {s : List Char} (hs : AllDigits s) : parts s = (s, []) := by
  have htake := List.takeWhile_eq_self_iff.mpr hs
  have hdrop := List.dropWhile_eq_nil_iff.mpr hs
  rw [parts, htake, hdrop]
  rfl

/-- A numeral is digits, or digits around a point, behind which the next thing is another point. -/
theorem parts_cases {s : List Char} (hs : ∀ c ∈ s, isNumeric c = true) :
    (AllDigits s ∧ parts s = (s, [])) ∨
    ∃ whole fraction rest, AllDigits whole ∧ AllDigits fraction ∧
      s = whole ++ '.' :: fraction ++ rest ∧ (∀ c ∈ rest.head?, c = '.') ∧
      parts s = (whole, fraction) := by
  have hdigits (t : List Char) : AllDigits (t.takeWhile Char.isDigit) :=
    fun c hc => List.mem_takeWhile_imp hc
  have hpoint {t rest : List Char} (ht : t.dropWhile Char.isDigit = rest) (hmem : ∀ c ∈ t, c ∈ s) :
      ∀ c ∈ rest.head?, c = '.' := by
    rintro c hc
    have hdigit := List.head?_dropWhile_not Char.isDigit t
    rw [ht, hc] at hdigit
    have hc' : c ∈ t := (List.dropWhile_sublist _).mem (ht ▸ List.mem_of_head? hc)
    have hnumeric := hs c (hmem c hc')
    rw [isNumeric, Bool.or_eq_true, decide_eq_true_eq] at hnumeric
    exact hnumeric.resolve_left (Bool.eq_false_iff.mp hdigit)
  have hsplit : s.takeWhile Char.isDigit ++ s.dropWhile Char.isDigit = s :=
    List.takeWhile_append_dropWhile
  cases hrest : s.dropWhile Char.isDigit with
  | nil =>
    left
    rw [hrest, List.append_nil] at hsplit
    have hs' : AllDigits s := hsplit ▸ hdigits s
    exact ⟨hs', parts_digits hs'⟩
  | cons c t =>
    right
    obtain rfl : c = '.' := hpoint hrest (fun _ hc => hc) c rfl
    have ht : ∀ c ∈ t, c ∈ s := by
      intro c hc
      rw [← hsplit, hrest]
      simp [hc]
    refine ⟨_, t.takeWhile Char.isDigit, _, hdigits s, hdigits t, ?_, hpoint rfl ht, ?_⟩
    · rw [List.append_assoc, List.cons_append, List.takeWhile_append_dropWhile, ← hrest, hsplit]
    · rw [parts, hrest]
      rfl

/-- A beginning with one point at most does not reach over the second point. -/
theorem isPrefix_of_count_point {q head rest : List Char} (hq : q <+: head ++ rest)
    (hcount : q.count '.' ≤ 1) (hhead : 1 ≤ head.count '.') (hrest : ∀ c ∈ rest.head?, c = '.') :
    q <+: head := by
  cases rest with
  | nil => rwa [List.append_nil] at hq
  | cons c rest =>
    obtain rfl := hrest c rfl
    rcases Nat.lt_or_ge head.length q.length with hlt | hge
    · have hover : head ++ ['.'] <+: q := by
        have hbegins : head ++ ['.'] <+: head ++ '.' :: rest := ⟨rest, by simp⟩
        apply List.prefix_of_prefix_length_le hbegins hq
        rw [List.length_append]
        exact hlt
      have htwo := hover.sublist.count_le '.'
      rw [List.count_append, List.count_singleton_self] at htwo
      omega
    · exact List.prefix_of_prefix_length_le hq (List.prefix_append _ _) hge

/-- What is read of a numeral is its longest beginning that is a decimal number, if there is one. -/
theorem exists_leading (n : Written.Number) : ∃ p whole fraction, p <+: n.text ∧
    (∀ q, q <+: n.text → IsDecimal q → q <+: p) ∧ parts n.digits = (whole, fraction) ∧
    (whole ++ fraction ≠ [] → Spells n.negative whole fraction p) ∧
    (whole ++ fraction = [] → ¬∃ c ∈ p, c.isDigit = true) := by
  have htext := n.text_eq
  rcases parts_cases n.numeric with
    ⟨hw, hparts⟩ | ⟨whole, fraction, rest, hw, hf, hs, hrest, hparts⟩
  · refine ⟨n.text, n.digits, [], List.prefix_rfl, fun q hq _ => hq, hparts, ?_, ?_⟩
    · intro _
      rw [htext]
      exact .integer hw n.ne_nil
    · intro hnil
      exact absurd (List.append_eq_nil_iff.mp hnil).1 n.ne_nil
  · rw [hs] at htext
    refine ⟨sign n.negative ++ (whole ++ '.' :: fraction), whole, fraction, ?_, ?_, hparts, ?_, ?_⟩
    · rw [htext]
      exact ⟨rest, by simp⟩
    · intro q hq hdecimal
      obtain ⟨negative, w, f, hspells⟩ := hdecimal
      rw [htext, ← List.append_assoc] at hq
      apply isPrefix_of_count_point hq hspells.count_point_le _ hrest
      simp
      omega
    · exact .point hw hf
    · intro hnil
      obtain ⟨rfl, rfl⟩ := List.append_eq_nil_iff.mp hnil
      rw [← List.any_eq_true]
      cases n.negative <;> exact Bool.false_ne_true

theorem value_of_parts {negative : Bool} {s whole fraction : List Char}
    (h : parts s = (whole, fraction)) (hne : whole ++ fraction ≠ []) : value negative s =
      .ofDecimal negative (digitsValue (whole ++ fraction)) (-fraction.length) := by
  have hempty : ¬(whole.isEmpty && fraction.isEmpty) = true := by
    simpa [List.append_eq_nil_iff] using hne
  rw [value, h]
  exact if_neg hempty

theorem value_of_parts_nil {negative : Bool} {s : List Char} (h : parts s = ([], [])) :
    value negative s = .nan := by
  rw [value, h]
  rfl

theorem sign_append_signed (token : List Char) :
    sign (signed token).1 ++ (signed token).2 = token := by
  unfold signed
  split <;> rfl

theorem read?_eq_none_iff {token : List Char} :
    read? token = none ↔ ∀ n : Written.Number, n.text ≠ token := by
  constructor
  · rintro hnone n rfl
    rw [n.read?_text] at hnone
    cases hnone
  · intro hne
    rw [read?]
    apply if_pos
    by_contra hshape
    rw [Bool.or_eq_true, not_or, List.isEmpty_iff, Bool.not_eq_true', Bool.not_eq_false,
      List.all_eq_true] at hshape
    let n : Written.Number := ⟨⟨(signed token).2, hshape.1, hshape.2⟩, (signed token).1⟩
    exact hne n (n.text_eq.trans (sign_append_signed token))

theorem exists_number {token : List Char} {x : Binary64} (h : read? token = some x) :
    ∃ n : Written.Number, n.text = token := by
  have hsome : ¬∀ n : Written.Number, n.text ≠ token := by
    rw [← read?_eq_none_iff, h]
    exact Option.some_ne_none x
  exact not_forall_not.mp hsome

theorem readUnsigned?_eq_some_iff {token : List Char} {x : Binary64} :
    readUnsigned? token = some x ↔ ∃ u : Written.Unsigned, u.digits = token ∧ u.value = x := by
  constructor
  · intro h
    rw [readUnsigned?] at h
    split at h
    · cases h
    · next hsign =>
      obtain ⟨n, rfl⟩ := exists_number h
      rw [n.signed_text] at hsign
      have htext : n.text = n.digits := if_neg hsign
      have hpositive : n.negative = false := Bool.eq_false_iff.mpr hsign
      rw [n.read?_text, Written.Number.value, hpositive] at h
      exact ⟨n.toUnsigned, htext.symm, Option.some.inj h⟩
  · rintro ⟨u, rfl, rfl⟩
    exact u.unsigned?_field

/-- Exactly the tokens of digits and points with perhaps a minus sign before them are numerals. A
numeral is not-a-number if it does not begin with a decimal number, and else has the value of the
longest such number at its beginning, which is always read as a number. -/
theorem read?_longest :
    (∀ token, read? token = none ↔ ∀ n : Written.Number, n.text ≠ token) ∧
    ∀ n : Written.Number,
      (read? n.text = some .nan ↔ ∀ p, p <+: n.text → p ≠ [] → ¬IsDecimal p) ∧
      ((∃ p, p <+: n.text ∧ IsDecimal p) → ∃ p x, IsLongestDecimal p n.text ∧
        Binary64.ofText? p = some x ∧ x ≠ .nan ∧ read? n.text = some x) := by
  refine ⟨fun _ => read?_eq_none_iff, fun n => ?_⟩
  obtain ⟨p, whole, fraction, hbegins, hlongest, hparts, hspells, hnone⟩ := exists_leading n
  by_cases hnil : whole ++ fraction = []
  · -- a decimal number would have a digit in it
    have hno : ∀ q, q <+: n.text → ¬IsDecimal q := by
      rintro q hq ⟨negative, w, f, hdecimal⟩
      obtain ⟨c, hc, hdigit⟩ := hdecimal.exists_digit
      exact hnone hnil ⟨c, (hlongest q hq ⟨negative, w, f, hdecimal⟩).subset hc, hdigit⟩
    obtain ⟨rfl, rfl⟩ := List.append_eq_nil_iff.mp hnil
    rw [n.read?_text, Written.Number.value, value_of_parts_nil hparts]
    refine ⟨iff_of_true rfl fun q hq _ => hno q hq, ?_⟩
    rintro ⟨q, hq, hdecimal⟩
    exact absurd hdecimal (hno q hq)
  · have hp := hspells hnil
    have hdecimal : IsDecimal p := ⟨_, _, _, hp⟩
    have hvalue : read? n.text = Binary64.ofText? p := by
      rw [n.read?_text, Written.Number.value, value_of_parts hparts hnil, hp.ofText?]
    have hnan : Binary64.ofText? p ≠ some .nan := by
      rw [hp.ofText?]
      exact fun h => Binary64.ofDecimal_ne_nan _ _ _ (Option.some.inj h)
    refine ⟨iff_of_false (hvalue ▸ hnan) fun hno => hno p hbegins ?_ hdecimal, fun _ => ?_⟩
    · rintro rfl
      obtain ⟨c, hc, -⟩ := hp.exists_digit
      cases hc
    · refine ⟨p, _, ⟨hbegins, hdecimal, fun q hq hq' => (hlongest q hq hq').length_le⟩, hp.ofText?,
        Binary64.ofDecimal_ne_nan _ _ _, ?_⟩
      rw [hvalue, hp.ofText?]

/-- The second point ends the number. -/
theorem read?_longest_two_points :
    let n : Written.Number := ⟨⟨"1.2.3".toList, by decide, List.all_eq_true.mp rfl⟩, true⟩
    n.text = "-1.2.3".toList ∧ (∃ p, p <+: n.text ∧ IsDecimal p) ∧
      ∃ p x, IsLongestDecimal p n.text ∧ Binary64.ofText? p = some x ∧ x ≠ .nan ∧
        read? n.text = some x := by
  intro n
  have hdecimal : IsDecimal "-1.2".toList :=
    ⟨true, ['1'], ['2'], .point (List.all_eq_true.mp rfl) (List.all_eq_true.mp rfl) (by decide)⟩
  have hbegins : ∃ p, p <+: n.text ∧ IsDecimal p := ⟨_, by decide, hdecimal⟩
  exact ⟨rfl, hbegins, (read?_longest.2 n).2 hbegins⟩

end Numeral

end ScriptedMap
