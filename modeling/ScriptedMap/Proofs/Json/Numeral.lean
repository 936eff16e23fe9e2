import ScriptedMap.Json.Printer
import ScriptedMap.Json.Reader

namespace ScriptedMap

namespace Binary64

theorem units_ne_zero {n : Nat} (h : n ≠ 0) : units n ≠ 0 := by
  have hpow : Nat.pow 2 52 = 4503599627370496 := rfl
  have hsignificand : n - shift n * Nat.pow 2 52 ≠ 0 := by
    rw [shift, hpow]
    omega
  exact Nat.mul_ne_zero hsignificand (Nat.ne_of_gt (Nat.pow_pos (by decide)))

theorem nearest_zero (den : Nat) : nearest 0 den = 0 := by
  rw [nearest, Nat.zero_mod, Nat.zero_div]
  cases den with
  | zero => rfl
  | succ d => rfl

theorem ofDecimal_zero (negative : Bool) (exponent : Int) :
    ofDecimal negative 0 exponent = .finite negative ⟨0, by decide⟩ := by
  have hmagnitude (den : Nat) : nearestMagnitude 0 den = 0 := by
    have hshift : (0 / den).log2 - 52 = 0 := by
      rw [Nat.zero_div]
      rfl
    rw [nearestMagnitude, hshift, nearest_zero]
  rw [ofDecimal, Nat.zero_mul, Nat.zero_mul, round]
  simp only [hmagnitude]
  rfl

end Binary64

namespace Decimal

theorem digits_ne_zero_of_readsBack {n : Fin finiteCount} (hn : n.val ≠ 0) {d : Decimal}
    (h : readsBack n d = true) : d.digits ≠ 0 := by
  intro hzero
  rw [readsBack, hzero, Binary64.ofDecimal_zero, decide_eq_true_eq] at h
  injection h with _ h
  exact hn (congrArg Fin.val h).symm

theorem fits_of_choose? {tie : Tie} {num den : Nat} {lowerFits upperFits : Bool}
    {lower upper d : Decimal} (h : choose? tie num den lowerFits upperFits lower upper = some d) :
    (lowerFits = true ∧ d = lower) ∨ (upperFits = true ∧ d = upper) := by
  rw [choose?.eq_def] at h
  split at h
  case h_1 => cases h
  case h_2 => exact .inl ⟨rfl, (Option.some.inj h).symm⟩
  case h_3 => exact .inr ⟨rfl, (Option.some.inj h).symm⟩
  case h_4 =>
    split at h
    · exact .inl ⟨rfl, (Option.some.inj h).symm⟩
    · exact .inr ⟨rfl, (Option.some.inj h).symm⟩
    · exact .inr ⟨rfl, (Option.some.inj h).symm⟩
    · split at h
      · exact .inl ⟨rfl, (Option.some.inj h).symm⟩
      · exact .inr ⟨rfl, (Option.some.inj h).symm⟩

theorem readsBack_of_onGrid? {tie : Tie} {n : Fin finiteCount} {exponent : Int} {d : Decimal}
    (h : onGrid? tie n exponent = some d) : readsBack n d = true := by
  rw [onGrid?] at h
  rcases fits_of_choose? h with ⟨hfits, hd⟩ | ⟨hfits, hd⟩
  · rw [hd]
    exact hfits
  · rw [hd]
    exact hfits

theorem shortest_digits_ne_zero (tie : Tie) {n : Fin finiteCount} (hn : n.val ≠ 0) :
    (shortest tie n).digits ≠ 0 := by
  rw [shortest]
  -- what is found reads back to `n`, which the zero decimal does not
  cases hfound : (List.range 17).findSome? fun i =>
      onGrid? tie n (scale (Binary64.units n.val) Binary64.unitsPerOne - (i + 1 : Nat)) with
  | none =>
    have hpow : Nat.pow 5 1074 ≠ 0 := by decide +kernel
    simp only [Option.getD_none]
    exact Nat.mul_ne_zero (Binary64.units_ne_zero hn) hpow
  | some d =>
    obtain ⟨i, -, hi⟩ := List.exists_of_findSome?_eq_some hfound
    exact digits_ne_zero_of_readsBack hn (readsBack_of_onGrid? hi)

end Decimal

namespace Json

namespace Numeral

def AllDigits (s : List Char) : Prop := ∀ c ∈ s, c.isDigit = true

def sign (negative : Bool) : List Char := if negative then ['-'] else []

def writtenFraction (digits : List Char) : List Char :=
  if digits.isEmpty then [] else '.' :: digits

/-- The exponent as it is written, always with its sign. -/
def writtenExponent : Option (Bool × List Char) → List Char
  | none => []
  | some (negative, digits) => 'e' :: (if negative then '-' else '+') :: digits

def written (m : Numeral) : List Char :=
  sign m.negative ++ m.whole ++ writtenFraction m.fraction
    ++ writtenExponent m.exponent

/-- What the grammar asks of the parts of a numeral. -/
structure WellFormed (m : Numeral) : Prop where
  whole_ne_nil : m.whole ≠ []
  whole_digits : AllDigits m.whole
  no_leading_zero : m.whole.head? = some '0' → m.whole.length = 1
  fraction_digits : AllDigits m.fraction
  exponent_ne_nil : ∀ e ∈ m.exponent, e.2 ≠ []
  exponent_digits : ∀ e ∈ m.exponent, AllDigits e.2

theorem allDigits_append {s t : List Char} (hs : AllDigits s) (ht : AllDigits t) :
    AllDigits (s ++ t) := by
  intro c hc
  rcases List.mem_append.mp hc with hc | hc
  · exact hs c hc
  · exact ht c hc

theorem allDigits_zeros (n : Nat) : AllDigits (NumberStyle.zeros n) := by
  intro c hc
  rw [List.eq_of_mem_replicate hc]
  rfl

theorem allDigits_toDigits (n : Nat) : AllDigits (Nat.toDigits 10 n) :=
  fun _ hc => Nat.isDigit_of_mem_toDigits (by decide) (by decide) hc

theorem takeWhile_digits {s rest : List Char} (hs : AllDigits s)
    (hrest : ∀ c ∈ rest.head?, c.isDigit = false) : (s ++ rest).takeWhile Char.isDigit = s := by
  rw [List.takeWhile_append_of_pos hs]
  cases rest with
  | nil => simp
  | cons c rest => simp [hrest c rfl]

theorem dropWhile_digits {s rest : List Char} (hs : AllDigits s)
    (hrest : ∀ c ∈ rest.head?, c.isDigit = false) : (s ++ rest).dropWhile Char.isDigit = rest := by
  rw [List.dropWhile_append_of_pos hs]
  cases rest with
  | nil => rfl
  | cons c rest => simp [hrest c rfl]

theorem exponentOf?_written {e : Option (Bool × List Char)} (hne : ∀ e' ∈ e, e'.2 ≠ [])
    (hdigits : ∀ e' ∈ e, AllDigits e'.2) : exponentOf? (writtenExponent e) = some e := by
  cases e with
  | none => rfl
  | some e =>
    obtain ⟨negative, digits⟩ := e
    have hne : digits ≠ [] := hne _ rfl
    have hall : digits.all Char.isDigit = true := List.all_eq_true.mpr (hdigits _ rfl)
    have hempty : digits.isEmpty = false := List.isEmpty_eq_false_iff.mpr hne
    cases negative <;> simp [writtenExponent, exponentOf?, hempty, hall]

theorem head?_writtenExponent (e : Option (Bool × List Char)) :
    ∀ c ∈ (writtenExponent e).head?, c.isDigit = false ∧ c ≠ '.' := by
  intro c hc
  cases e with
  | none => cases hc
  | some e =>
    cases hc
    decide

theorem WellFormed.accepts_whole {m : Numeral} (hm : m.WellFormed) :
    (m.whole.isEmpty || (m.whole.head? == some '0' && m.whole.length != 1)) = false := by
  have hempty : m.whole.isEmpty = false := List.isEmpty_eq_false_iff.mpr hm.whole_ne_nil
  rw [hempty, Bool.false_or, Bool.and_eq_false_imp]
  intro hhead
  have hlength : m.whole.length = 1 := hm.no_leading_zero (beq_iff_eq.mp hhead)
  rw [hlength]
  rfl

/-- The numeral that a word without its sign is. -/
def ofUnsigned? (negative : Bool) (s : List Char) : Option Numeral :=
  let whole := s.takeWhile Char.isDigit
  if whole.isEmpty || (whole.head? == some '0' && whole.length != 1) then none
  else match s.dropWhile Char.isDigit with
    | '.' :: s =>
      let fraction := s.takeWhile Char.isDigit
      if fraction.isEmpty then none
      else (exponentOf? (s.dropWhile Char.isDigit)).map fun e => ⟨negative, whole, fraction, e⟩
    | s => (exponentOf? s).map fun e => ⟨negative, whole, [], e⟩

theorem ofWord?_minus (s : List Char) : ofWord? ('-' :: s) = ofUnsigned? true s := rfl

theorem ofWord?_unsigned {s : List Char} (h : s.head? ≠ some '-') :
    ofWord? s = ofUnsigned? false s := by
  cases s with
  | nil => rfl
  | cons c s =>
    have hc (t : List Char) : c :: s ≠ '-' :: t := by
      intro hs
      exact h (congrArg List.head? hs)
    rw [ofWord?.eq_2 _ hc]
    rfl

theorem WellFormed.ofUnsigned? {m : Numeral} (hm : m.WellFormed) :
    ofUnsigned? m.negative
      (m.whole ++ (writtenFraction m.fraction ++ writtenExponent m.exponent)) = some m := by
  have hexponent : exponentOf? (writtenExponent m.exponent) = some m.exponent :=
    exponentOf?_written hm.exponent_ne_nil hm.exponent_digits
  have hafter (c : Char) (hc : c ∈ (writtenExponent m.exponent).head?) : c.isDigit = false :=
    (head?_writtenExponent m.exponent c hc).1
  -- reading goes by whether a point stands after the whole digits
  cases hfraction : m.fraction with
  | nil =>
    have hhead : (writtenExponent m.exponent).head? ≠ some '.' :=
      fun h => (head?_writtenExponent m.exponent '.' h).2 rfl
    rw [writtenFraction, List.isEmpty_nil, if_pos rfl, List.nil_append, Numeral.ofUnsigned?,
      takeWhile_digits hm.whole_digits hafter, dropWhile_digits hm.whole_digits hafter]
    simp only [hm.accepts_whole, Bool.false_eq_true, if_false]
    split
    next s hs => exact absurd (congrArg List.head? hs) hhead
    next =>
      rw [hexponent, Option.map_some, ← hfraction]
  | cons d ds =>
    have hdigits : AllDigits (d :: ds) := hfraction ▸ hm.fraction_digits
    have hpoint (c : Char) (hc : c ∈ ('.' :: (d :: ds ++ writtenExponent m.exponent)).head?) :
        c.isDigit = false := by
      cases hc
      rfl
    rw [writtenFraction, List.isEmpty_cons, if_neg Bool.false_ne_true, List.cons_append,
      Numeral.ofUnsigned?, takeWhile_digits hm.whole_digits hpoint,
      dropWhile_digits hm.whole_digits hpoint]
    simp only [hm.accepts_whole, Bool.false_eq_true, if_false, takeWhile_digits hdigits hafter,
      dropWhile_digits hdigits hafter, List.isEmpty_cons, hexponent]
    rw [Option.map_some, ← hfraction]

/-- A numeral is read back from its characters. -/
theorem ofWord?_written {m : Numeral} (hm : m.WellFormed) : ofWord? m.written = some m := by
  have hread := hm.ofUnsigned?
  rw [written, List.append_assoc, List.append_assoc]
  cases hsign : m.negative with
  | true =>
    rw [hsign] at hread
    exact (ofWord?_minus _).trans hread
  | false =>
    rw [hsign] at hread
    have hhead : (m.whole ++ (writtenFraction m.fraction ++ writtenExponent m.exponent)).head?
        ≠ some '-' := by
      intro h
      obtain ⟨c, s, hwhole⟩ := List.exists_cons_of_ne_nil hm.whole_ne_nil
      have hdigit : c.isDigit = true := hm.whole_digits c (hwhole ▸ List.mem_cons_self)
      rw [hwhole, List.cons_append, List.head?_cons] at h
      rw [Option.some.inj h] at hdigit
      exact absurd hdigit (by decide)
    exact (ofWord?_unsigned hhead).trans hread

/-- Digits that begin a number which is not zero. -/
structure Significant (digits : List Char) : Prop where
  ne_nil : digits ≠ []
  all_digits : AllDigits digits
  head_ne_zero : digits.head? ≠ some '0'

theorem digitChar_ne_zero {d : Nat} (h : d ≠ 0) (hd : d < 10) : Nat.digitChar d ≠ '0' := by
  intro hchar
  have hvalue : (Nat.digitChar d).toNat = 48 + d := Nat.toNat_digitChar_of_lt_ten hd
  rw [hchar] at hvalue
  have hzero : ('0' : Char).toNat = 48 := rfl
  omega

theorem significant_toDigits {n : Nat} (h : n ≠ 0) : Significant (Nat.toDigits 10 n) := by
  refine ⟨Nat.toDigits_ne_nil, allDigits_toDigits n, ?_⟩
  induction n using Nat.strongRecOn with
  | ind n ih =>
    rcases Nat.lt_or_ge n 10 with hn | hn
    · rw [Nat.toDigits_of_lt_base hn, List.head?_cons]
      exact fun hhead => digitChar_ne_zero h hn (Option.some.inj hhead)
    · have hquotient : n / 10 ≠ 0 := by omega
      have hhead : (Nat.toDigits 10 (n / 10)).head? ≠ some '0' := ih (n / 10) (by omega) hquotient
      have hne : Nat.toDigits 10 (n / 10) ≠ [] := Nat.toDigits_ne_nil
      obtain ⟨c, s, hdigits⟩ := List.exists_cons_of_ne_nil hne
      rw [Nat.toDigits_of_base_le (by decide) hn, hdigits, List.cons_append, List.head?_cons]
      rwa [hdigits, List.head?_cons] at hhead

/-- Zeros at the end can be left out. -/
theorem Significant.dropZeros {s : List Char} (hs : Significant s) :
    Significant (s.reverse.dropWhile (· = '0')).reverse := by
  obtain ⟨c, t, rfl⟩ := List.exists_cons_of_ne_nil hs.ne_nil
  have hc : c ≠ '0' := fun hc => hs.head_ne_zero (congrArg some hc)
  have hdrop : ((c :: t).reverse.dropWhile (· = '0')).reverse
      = c :: (t.reverse.dropWhile (· = '0')).reverse := by
    rw [List.reverse_cons, List.dropWhile_append]
    split
    next h => simp [List.isEmpty_iff.mp h, hc]
    next => simp
  rw [hdrop]
  refine ⟨List.cons_ne_nil _ _, ?_, hs.head_ne_zero⟩
  intro d hd
  apply hs.all_digits
  rcases List.mem_cons.mp hd with rfl | hd
  · exact List.mem_cons_self
  · exact List.mem_cons_of_mem _ (List.mem_reverse.mp ((List.dropWhile_sublist _).mem
      (List.mem_reverse.mp hd)))

theorem Significant.append {s t : List Char} (hs : Significant s) (ht : AllDigits t) :
    Significant (s ++ t) := by
  have hne : s ++ t ≠ [] := by simp [hs.ne_nil]
  refine ⟨hne, allDigits_append hs.all_digits ht, ?_⟩
  obtain ⟨c, u, rfl⟩ := List.exists_cons_of_ne_nil hs.ne_nil
  exact hs.head_ne_zero

theorem Significant.take {s : List Char} (hs : Significant s) {k : Nat} (hk : k ≠ 0) :
    Significant (s.take k) := by
  obtain ⟨c, u, rfl⟩ := List.exists_cons_of_ne_nil hs.ne_nil
  obtain ⟨j, rfl⟩ := Nat.exists_eq_succ_of_ne_zero hk
  have hdigits : AllDigits ((c :: u).take (j + 1)) :=
    fun d hd => hs.all_digits d (List.mem_of_mem_take hd)
  exact ⟨List.cons_ne_nil _ _, hdigits, hs.head_ne_zero⟩

theorem Significant.wellFormed {whole fraction : List Char} (hs : Significant whole)
    (hfraction : AllDigits fraction) (negative : Bool) :
    WellFormed ⟨negative, whole, fraction, none⟩ where
  whole_ne_nil := hs.ne_nil
  whole_digits := hs.all_digits
  no_leading_zero := fun h => absurd h hs.head_ne_zero
  fraction_digits := hfraction
  exponent_ne_nil := fun _ he => nomatch he
  exponent_digits := fun _ he => nomatch he

theorem wellFormed_zero {fraction : List Char} (hfraction : AllDigits fraction) (negative : Bool) :
    WellFormed ⟨negative, ['0'], fraction, none⟩ where
  whole_ne_nil := List.cons_ne_nil _ _
  whole_digits := allDigits_zeros 1
  no_leading_zero := fun _ => rfl
  fraction_digits := hfraction
  exponent_ne_nil := fun _ he => nomatch he
  exponent_digits := fun _ he => nomatch he

theorem WellFormed.withExponent {m : Numeral} (hm : m.WellFormed) (negative : Bool)
    {digits : List Char} (hne : digits ≠ []) (hdigits : AllDigits digits) :
    WellFormed { m with exponent := some (negative, digits) } where
  whole_ne_nil := hm.whole_ne_nil
  whole_digits := hm.whole_digits
  no_leading_zero := hm.no_leading_zero
  fraction_digits := hm.fraction_digits
  exponent_ne_nil := by
    rintro e ⟨⟩
    exact hne
  exponent_digits := by
    rintro e ⟨⟩
    exact hdigits

/-- The characters are a numeral. -/
def Spells (s : List Char) : Prop := ∃ m : Numeral, m.WellFormed ∧ m.written = s

theorem Significant.spells_writePlain {digits : List Char} (hs : Significant digits)
    (negative : Bool)
    (point : Int) : Spells (sign negative ++ numberStyle.writePlain digits point) := by
  have hpointZero : numberStyle.pointZero = true := rfl
  rw [NumberStyle.writePlain, hpointZero, if_pos rfl]
  by_cases hpoint : point ≤ 0
  · have hfraction : AllDigits (NumberStyle.zeros (-point).toNat ++ digits) :=
      allDigits_append (allDigits_zeros _) hs.all_digits
    refine ⟨_, wellFormed_zero hfraction negative, ?_⟩
    simp [written, sign, writtenFraction, writtenExponent, hs.ne_nil, hpoint]
  · rw [if_neg hpoint]
    by_cases hlength : digits.length ≤ point.toNat
    · have hwhole : Significant (digits ++ NumberStyle.zeros (point.toNat - digits.length)) :=
        hs.append (allDigits_zeros _)
      refine ⟨_, hwhole.wellFormed (allDigits_zeros 1) negative, ?_⟩
      have hzero : writtenFraction (NumberStyle.zeros 1) = ['.', '0'] := rfl
      simp [written, sign, hzero, writtenExponent, hlength]
    · have hwhole : Significant (digits.take point.toNat) := hs.take (by omega)
      have hfraction : AllDigits (digits.drop point.toNat) :=
        fun c hc => hs.all_digits c (List.mem_of_mem_drop hc)
      have hne : digits.drop point.toNat ≠ [] := by
        intro h
        exact hlength (List.drop_eq_nil_iff.mp h)
      refine ⟨_, hwhole.wellFormed hfraction negative, ?_⟩
      simp [written, sign, writtenFraction, writtenExponent, hlength]

theorem Significant.spells_writePower {digits : List Char} (hs : Significant digits)
    (negative : Bool)
    (power : Int) : Spells (sign negative ++ NumberStyle.writePower digits power) := by
  have hwhole : Significant (digits.take 1) := hs.take Nat.one_ne_zero
  have hfraction : AllDigits (digits.drop 1) :=
    fun c hc => hs.all_digits c (List.mem_of_mem_drop hc)
  refine ⟨_, (hwhole.wellFormed hfraction negative).withExponent (power < 0) Nat.toDigits_ne_nil
    (allDigits_toDigits power.natAbs), ?_⟩
  have hdrop : writtenFraction (digits.drop 1)
      = if digits.length ≤ 1 then [] else '.' :: digits.drop 1 := by
    by_cases hlength : digits.length ≤ 1
    · rw [List.drop_eq_nil_of_le hlength, if_pos hlength]
      rfl
    · have hne : digits.drop 1 ≠ [] := fun h => hlength (List.drop_eq_nil_iff.mp h)
      rw [writtenFraction, List.isEmpty_eq_false_iff.mpr hne, if_neg hlength]
      rfl
  rw [written, hdrop, NumberStyle.writePower]
  simp [sign, writtenExponent]

/-- A finite number is written as a numeral. -/
theorem spells_write (negative : Bool) (n : Fin finiteCount) :
    Spells (numberStyle.write (.finite negative n)).toList := by
  have hsign : (numberStyle.write (.finite negative n)).toList
      = sign negative ++ numberStyle.writeMagnitude n := by
    rw [NumberStyle.write, String.toList_ofList, sign]
  rw [hsign, NumberStyle.writeMagnitude]
  by_cases hn : n.val = 0
  · refine ⟨_, wellFormed_zero (allDigits_zeros 1) negative, ?_⟩
    rw [if_pos hn]
    cases negative
    · rfl
    · rfl
  · have hs : Significant (Nat.toDigits 10 (Decimal.shortest numberStyle.tie n).digits) :=
      significant_toDigits (Decimal.shortest_digits_ne_zero _ hn)
    have hplain : numberStyle.plain = some (-5, 16) := rfl
    rw [if_neg hn]
    simp only [hplain]
    split
    · exact hs.dropZeros.spells_writePlain negative _
    · exact hs.dropZeros.spells_writePower negative _

theorem wellFormed_toDigits (negative : Bool) (n : Nat) :
    WellFormed ⟨negative, Nat.toDigits 10 n, [], none⟩ := by
  have hnil : AllDigits [] := fun _ hc => nomatch hc
  by_cases hn : n = 0
  · rw [hn]
    exact wellFormed_zero hnil negative
  · exact (significant_toDigits hn).wellFormed hnil negative

theorem spells_toString (i : Int) : Spells (toString i).toList := by
  cases i with
  | ofNat n =>
    refine ⟨_, wellFormed_toDigits false n, ?_⟩
    have htext : (toString (Int.ofNat n)).toList = Nat.toDigits 10 n := Nat.toList_repr
    rw [htext]
    simp [written, sign, writtenFraction, writtenExponent]
  | negSucc n =>
    refine ⟨_, wellFormed_toDigits true (n + 1), ?_⟩
    have htext : (toString (Int.negSucc n)).toList = '-' :: Nat.toDigits 10 (n + 1) := by
      have hrepr : toString (Int.negSucc n) = "-" ++ Nat.repr (n + 1) := rfl
      rw [hrepr, String.toList_append, Nat.toList_repr]
      rfl
    rw [htext]
    simp [written, sign, writtenFraction, writtenExponent]

theorem not_delimits_of_isDigit {c : Char} (h : c.isDigit = true) : Token.delimits c = false := by
  rw [Bool.eq_false_iff]
  intro hdelimits
  simp only [Token.delimits, Token.isSpace, Bool.or_eq_true, decide_eq_true_eq] at hdelimits
  rcases hdelimits with ((((rfl | rfl) | rfl) | rfl) | hmark) | rfl
  case inl.inr =>
    rw [Token.punctuation?.eq_def] at hmark
    split at hmark
    all_goals first | exact absurd h (by decide) | cases hmark
  all_goals exact absurd h (by decide)

theorem not_delimits_of_mem_writtenExponent {e : Option (Bool × List Char)}
    (hdigits : ∀ e' ∈ e, AllDigits e'.2) {c : Char} (hc : c ∈ writtenExponent e) :
    Token.delimits c = false := by
  cases e with
  | none => cases hc
  | some e =>
    obtain ⟨negative, digits⟩ := e
    rcases List.mem_cons.mp hc with rfl | hc
    · rfl
    rcases List.mem_cons.mp hc with rfl | hc
    · cases negative
      · rfl
      · rfl
    · exact not_delimits_of_isDigit (hdigits _ rfl c hc)

/-- No character of a numeral ends a word. -/
theorem not_delimits_of_mem_written {m : Numeral} (hm : m.WellFormed) {c : Char}
    (hc : c ∈ m.written) : Token.delimits c = false := by
  rw [written, List.append_assoc, List.append_assoc, List.mem_append, List.mem_append,
    List.mem_append] at hc
  rcases hc with hc | hc | hc | hc
  case inl =>
    rw [sign] at hc
    split at hc
    · rw [List.mem_singleton.mp hc]
      rfl
    · cases hc
  case inr.inl => exact not_delimits_of_isDigit (hm.whole_digits c hc)
  case inr.inr.inl =>
    rw [writtenFraction] at hc
    split at hc
    · cases hc
    rcases List.mem_cons.mp hc with rfl | hc
    · rfl
    · exact not_delimits_of_isDigit (hm.fraction_digits c hc)
  case inr.inr.inr => exact not_delimits_of_mem_writtenExponent hm.exponent_digits hc

theorem written_ne_nil {m : Numeral} (hm : m.WellFormed) : m.written ≠ [] := by
  simp [written, hm.whole_ne_nil]

end Numeral

/-- What a numeral denotes is read from its characters. -/
theorem ofWord?_numeral {m : Numeral} (hm : m.WellFormed) :
    ofWord? m.written = some ((m.number?.map .number).getD .unreadable) := by
  have hread : Numeral.ofWord? m.written = some m := Numeral.ofWord?_written hm
  have hother {w : List Char} (hw : Numeral.ofWord? w = none) : m.written ≠ w := by
    intro h
    rw [h, hw] at hread
    cases hread
  have hnull : m.written ≠ "null".toList := hother rfl
  have htrue : m.written ≠ "true".toList := hother rfl
  have hfalse : m.written ≠ "false".toList := hother rfl
  rw [ofWord?, if_neg hnull, if_neg htrue, if_neg hfalse, hread, Option.map_some]

/-- Characters that reading takes as one word, and this word as a value. -/
structure IsWord (w : List Char) : Prop where
  ne_nil : w ≠ []
  no_delimiter : ∀ c ∈ w, Token.delimits c = false
  value : ∃ v, ofWord? w = some v

theorem isWord_of_spells {w : List Char} (h : Numeral.Spells w) : IsWord w := by
  obtain ⟨m, hm, rfl⟩ := h
  exact ⟨Numeral.written_ne_nil hm, fun c hc => Numeral.not_delimits_of_mem_written hm hc,
    ⟨_, ofWord?_numeral hm⟩⟩

theorem isWord_literal {w : List Char} {v : Json} (hne : w ≠ [])
    (hany : w.any Token.delimits = false)
    (hv : ofWord? w = some v) : IsWord w where
  ne_nil := hne
  no_delimiter := fun c hc => Bool.eq_false_iff.mpr (List.any_eq_false.mp hany c hc)
  value := ⟨v, hv⟩

theorem isWord_null : IsWord "null".toList := isWord_literal (by decide) rfl rfl

theorem isWord_boolean (b : Bool) : IsWord (if b then "true" else "false").toList := by
  cases b with
  | false => exact isWord_literal (by decide) rfl rfl
  | true => exact isWord_literal (by decide) rfl rfl

/-- Every number is written as a word that has a value, be it `null`. -/
theorem isWord_writeNumber (n : Number) : IsWord (writeNumber n) := by
  cases n with
  | integer i => exact isWord_of_spells (Numeral.spells_toString i)
  | real x =>
    cases x with
    | finite negative n => exact isWord_of_spells (Numeral.spells_write negative n)
    | nan => exact isWord_null
    | infinity negative => exact isWord_null

/-- A natural of 64 bits is read back. -/
theorem ofWord?_natural {n : Nat} (hn : n < Nat.pow 2 64) :
    ofWord? (writeNumber (.integer n)) = some (.number (.integer n)) := by
  have hwritten : writeNumber (.integer n)
      = (Numeral.mk false (Nat.toDigits 10 n) [] none).written := by
    have htext : (toString (Int.ofNat n)).toList = Nat.toDigits 10 n := Nat.toList_repr
    simp only [Numeral.written, Numeral.writtenFraction, Numeral.writtenExponent, List.isEmpty_nil,
      if_true, List.append_nil]
    exact htext
  have hvalue : Numeral.digitsValue (Nat.toDigits 10 n) = n :=
    Nat.ofDigitChars_toDigits (by decide) (by decide)
  have hnumber : (Numeral.mk false (Nat.toDigits 10 n) [] none).number? = some (.integer n) := by
    have hupper : (n : Int) < Int.pow 2 64 := Int.ofNat_lt.mpr hn
    have hlower : -Int.pow 2 63 ≤ (n : Int) := by
      have hpow : Int.pow 2 63 = 9223372036854775808 := rfl
      omega
    rw [Numeral.number?]
    simp only [Bool.false_eq_true, if_false, hvalue]
    rw [decide_eq_true hupper, decide_eq_true hlower]
    rfl
  rw [hwritten, ofWord?_numeral (Numeral.wellFormed_toDigits false n), hnumber]
  rfl

end Json

end ScriptedMap
