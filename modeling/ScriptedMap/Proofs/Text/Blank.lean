import Mathlib.Data.List.TakeWhile
import ScriptedMap.Text.Blank

namespace ScriptedMap

def AllBlank (s : List Char) : Prop := ∀ c ∈ s, isBlank c = true

instance : DecidablePred AllBlank := fun _ => decidable_of_iff _ List.all_eq_true

theorem allBlank_nil : AllBlank [] := by
  intro c hc
  cases hc

theorem not_mem_of_allBlank {s : List Char} (hs : AllBlank s) {c : Char} (hc : isBlank c = false) :
    c ∉ s := by
  intro hmem
  have hblank := hs c hmem
  rw [hc] at hblank
  cases hblank

theorem find?_of_allBlank {s : List Char} (hs : AllBlank s) : s.find? (!isBlank ·) = none := by
  rw [List.find?_eq_none]
  intro c hc
  simp [hs c hc]

theorem trimStart_append {before : List Char} (hb : AllBlank before) (s : List Char) :
    trimStart (before ++ s) = trimStart s := List.dropWhile_append_of_pos hb

theorem trimStart_cons {c : Char} (hc : isBlank c = false) (s : List Char) :
    trimStart (c :: s) = c :: s := by
  simp [trimStart, hc]

theorem trimStart_eq_nil_iff {s : List Char} : trimStart s = [] ↔ AllBlank s :=
  List.dropWhile_eq_nil_iff

theorem not_blank_of_trimStart_eq_cons {s t : List Char} {c : Char} (h : trimStart s = c :: t) :
    isBlank c = false := by
  have hhead := List.head?_dropWhile_not isBlank s
  unfold trimStart at h
  rw [h] at hhead
  exact hhead

theorem exists_eq_append_trimStart (s : List Char) :
    ∃ before, AllBlank before ∧ s = before ++ trimStart s :=
  ⟨s.takeWhile isBlank, fun _ hc => List.mem_takeWhile_imp hc,
    List.takeWhile_append_dropWhile.symm⟩

theorem trimStart_trimStart (s : List Char) : trimStart (trimStart s) = trimStart s := by
  cases h : trimStart s with
  | nil => rfl
  | cons c t => exact trimStart_cons (not_blank_of_trimStart_eq_cons h) t

theorem trimEnd_append {after : List Char} (ha : AllBlank after) (s : List Char) :
    trimEnd (s ++ after) = trimEnd s := by
  have hr : AllBlank after.reverse := fun c hc => ha c (List.mem_reverse.mp hc)
  rw [trimEnd, List.reverse_append, trimStart_append hr, trimEnd]

/-- Nothing before a character that is not blank is trimmed at the end. -/
theorem trimEnd_append_cons {c : Char} (hc : isBlank c = false) (s t : List Char) :
    trimEnd (s ++ c :: t) = s ++ c :: trimEnd t := by
  obtain ⟨before, hb, ht⟩ := exists_eq_append_trimStart t.reverse
  have hreverse : (s ++ c :: t).reverse = before ++ (trimStart t.reverse ++ c :: s.reverse) := by
    rw [← List.append_assoc, ← ht]
    simp
  have hstop : trimStart (trimStart t.reverse ++ c :: s.reverse) =
      trimStart t.reverse ++ c :: s.reverse := by
    cases hr : trimStart t.reverse with
    | nil => exact trimStart_cons hc _
    | cons d u => exact trimStart_cons (not_blank_of_trimStart_eq_cons hr) _
  rw [trimEnd, hreverse, trimStart_append hb, hstop, trimEnd]
  simp

theorem exists_eq_trimEnd_append (s : List Char) :
    ∃ after, AllBlank after ∧ s = trimEnd s ++ after := by
  obtain ⟨before, hb, hs⟩ := exists_eq_append_trimStart s.reverse
  refine ⟨before.reverse, fun c hc => hb c (List.mem_reverse.mp hc), ?_⟩
  rw [trimEnd, ← List.reverse_append, ← hs, List.reverse_reverse]

theorem not_blank_of_trim_eq_cons {s t : List Char} {c : Char} (h : trim s = c :: t) :
    isBlank c = false := by
  rw [trim] at h
  cases hs : trimStart s with
  | nil =>
    rw [hs] at h
    cases h
  | cons d u =>
    have hd := not_blank_of_trimStart_eq_cons hs
    have hend := trimEnd_append_cons hd [] u
    rw [List.nil_append, ← hs, h] at hend
    cases hend
    exact hd

/-- A text begins, when it is trimmed, with its first character that is not blank. -/
theorem head?_trim (s : List Char) : (trim s).head? = s.find? (!isBlank ·) := by
  rw [List.find?_eq_head?_dropWhile_not]
  simp only [Bool.not_not]
  change (trim s).head? = (trimStart s).head?
  rw [trim]
  cases h : trimStart s with
  | nil => rfl
  | cons c t =>
    have hend := trimEnd_append_cons (not_blank_of_trimStart_eq_cons h) [] t
    rw [List.nil_append] at hend
    rw [hend]
    rfl

theorem mem_of_mem_trim {s : List Char} {c : Char} (h : c ∈ trim s) : c ∈ s := by
  rw [trim, trimEnd, List.mem_reverse] at h
  have hreverse : c ∈ (trimStart s).reverse := (List.dropWhile_sublist _).mem h
  exact (List.dropWhile_sublist _).mem (List.mem_reverse.mp hreverse)

theorem trim_of_ends {s : List Char} (hhead : ∀ c ∈ s.head?, isBlank c = false)
    (hlast : ∀ c ∈ s.getLast?, isBlank c = false) : trim s = s := by
  have hstart : trimStart s = s := by
    cases s with
    | nil => rfl
    | cons c s => exact trimStart_cons (hhead c rfl) s
  rw [trim, hstart]
  rcases List.eq_nil_or_concat s with rfl | ⟨t, c, rfl⟩
  · rfl
  · rw [List.concat_eq_append, trimEnd_append_cons (hlast c (by simp))]
    rfl

theorem trim_of_not_blank {s : List Char} (hs : ∀ c ∈ s, isBlank c = false) : trim s = s :=
  trim_of_ends (fun c hc => hs c (List.mem_of_head? hc)) fun c hc => hs c (List.mem_of_getLast? hc)

theorem trim_of_allBlank {s : List Char} (hs : AllBlank s) : trim s = [] := by
  rw [trim, trimStart_eq_nil_iff.mpr hs]
  rfl

theorem trim_append {before after : List Char} (hb : AllBlank before) (s : List Char)
    (ha : AllBlank after) : trim (before ++ s ++ after) = trim s := by
  obtain ⟨blanks, hblanks, hs⟩ := exists_eq_append_trimStart s
  rw [trim, List.append_assoc, trimStart_append hb]
  cases ht : trimStart s with
  | nil =>
    have hall : AllBlank (s ++ after) := by
      intro c hc
      rcases List.mem_append.mp hc with hc | hc
      · exact trimStart_eq_nil_iff.mp ht c hc
      · exact ha c hc
    rw [trimStart_eq_nil_iff.mpr hall, trim_of_allBlank (trimStart_eq_nil_iff.mp ht)]
    rfl
  | cons c t =>
    have hc := not_blank_of_trimStart_eq_cons ht
    have hstart : trimStart (s ++ after) = c :: t ++ after := by
      rw [hs, List.append_assoc, trimStart_append hblanks, ht]
      exact trimStart_cons hc _
    rw [hstart, trimEnd_append ha, ← ht, trim]

theorem trimStart_append_cons {c : Char} (hc : isBlank c = false) (s t : List Char) :
    trimStart (s ++ c :: t) = trimStart s ++ c :: t := by
  unfold trimStart
  rw [List.dropWhile_append]
  split
  · next hnil =>
    rw [List.isEmpty_iff.mp hnil]
    exact trimStart_cons hc t
  · rfl

theorem trim_append_cons {c : Char} (hc : isBlank c = false) (s t : List Char) :
    trim (s ++ c :: t) = trimStart s ++ c :: trimEnd t := by
  rw [trim, trimStart_append_cons hc, trimEnd_append_cons hc]

theorem trim_trimStart (s : List Char) : trim (trimStart s) = trim s := by
  rw [trim, trimStart_trimStart, trim]

theorem trim_trimEnd (s : List Char) : trim (trimEnd s) = trim s := by
  obtain ⟨after, ha, hs⟩ := exists_eq_trimEnd_append s
  have h := trim_append allBlank_nil (trimEnd s) ha
  rw [List.nil_append, ← hs] at h
  exact h.symm

theorem trim_trim (s : List Char) : trim (trim s) = trim s :=
  (trim_trimEnd (trimStart s)).trans (trim_trimStart s)

theorem words_append_blank {before : List Char} (hb : AllBlank before) (s : List Char) :
    words (before ++ s) = words s := by
  induction before with
  | nil => rfl
  | cons c before ih =>
    have hc : isBlank c = true := hb c List.mem_cons_self
    rw [List.cons_append, words.eq_def]
    simp only [hc, if_true]
    exact ih fun d hd => hb d (List.mem_cons_of_mem c hd)

theorem words_append {w s : List Char} (hne : w ≠ []) (hw : ∀ c ∈ w, isBlank c = false)
    (hs : ∀ c ∈ s.head?, isBlank c = true) : words (w ++ s) = w :: words s := by
  induction w with
  | nil => exact absurd rfl hne
  | cons c w ih =>
    have hc : isBlank c = false := hw c List.mem_cons_self
    cases w with
    | nil =>
      cases s with
      | nil => simp [words, hc]
      | cons d s => simp [words, hc, hs d rfl]
    | cons d w =>
      have hd : isBlank d = false := hw d (by simp)
      have hrest := ih (List.cons_ne_nil d w) fun e he => hw e (List.mem_cons_of_mem c he)
      rw [List.cons_append] at hrest
      rw [List.cons_append, List.cons_append, words.eq_def]
      simp only [hc, hd, hrest, Bool.false_eq_true, if_false]

theorem words_of_allBlank {s : List Char} (hs : AllBlank s) : words s = [] := by
  have h := words_append_blank hs []
  rwa [List.append_nil] at h

/-- A text has words if anything in it is not blank. The first of them stands behind the blanks, and
before a blank or the end. -/
theorem words_cases (s : List Char) : AllBlank s ∨ ∃ before w rest, AllBlank before ∧ w ≠ [] ∧
    (∀ c ∈ w, isBlank c = false) ∧ (∀ c ∈ rest.head?, isBlank c = true) ∧
      s = before ++ (w ++ rest) ∧
    words s = w :: words rest := by
  obtain ⟨before, hb, hs⟩ := exists_eq_append_trimStart s
  cases ht : trimStart s with
  | nil => exact .inl (trimStart_eq_nil_iff.mp ht)
  | cons c t =>
    right
    have hc := not_blank_of_trimStart_eq_cons ht
    have hsplit : c :: t = (c :: t).takeWhile (!isBlank ·) ++ (c :: t).dropWhile (!isBlank ·) :=
      List.takeWhile_append_dropWhile.symm
    have hne : (c :: t).takeWhile (!isBlank ·) ≠ [] := by
      rw [List.takeWhile_cons_of_pos (by simp [hc])]
      exact List.cons_ne_nil _ _
    have hw : ∀ d ∈ (c :: t).takeWhile (!isBlank ·), isBlank d = false := by
      intro d hd
      simpa using List.mem_takeWhile_imp hd
    have hrest : ∀ d ∈ ((c :: t).dropWhile (!isBlank ·)).head?, isBlank d = true := by
      intro d hd
      have hhead := List.head?_dropWhile_not (!isBlank ·) (c :: t)
      rw [hd] at hhead
      simpa using hhead
    have hs' :
        s = before ++ ((c :: t).takeWhile (!isBlank ·) ++ (c :: t).dropWhile (!isBlank ·)) := by
      rw [← hsplit, ← ht]
      exact hs
    refine ⟨before, _, _, hb, hne, hw, hrest, hs', ?_⟩
    have hwords := words_append_blank hb (trimStart s)
    rwa [← hs, ht, hsplit, words_append hne hw hrest] at hwords

theorem words_eq_nil_iff {s : List Char} : words s = [] ↔ AllBlank s := by
  constructor
  · intro h
    rcases words_cases s with hblank | ⟨_, w, rest, -, -, -, -, -, hwords⟩
    · exact hblank
    · rw [h] at hwords
      cases hwords
  · exact words_of_allBlank

/-- A text with two words in it is these with blanks between them, and
perhaps blanks around them. -/
theorem trim_of_words_eq_pair {s v w : List Char} (h : words s = [v, w]) :
    ∃ gap, gap ≠ [] ∧ AllBlank gap ∧ trim s = v ++ gap ++ w := by
  rcases words_cases s with hblank | ⟨before, _, rest, hb, hv, hv', hrest, hs, hwords⟩
  · rw [words_of_allBlank hblank] at h
    cases h
  obtain ⟨rfl, hnext⟩ := List.cons.inj (h.symm.trans hwords)
  rcases words_cases rest with hblank | ⟨gap, _, after, hgap, hw, hw', hafter, rfl, hwords'⟩
  · rw [words_of_allBlank hblank] at hnext
    cases hnext
  obtain ⟨rfl, hend⟩ := List.cons.inj (hnext.trans hwords')
  refine ⟨gap, ?_, hgap, ?_⟩
  · -- without a gap the two words were one
    rintro rfl
    obtain ⟨c, t, rfl⟩ := List.exists_cons_of_ne_nil hw
    have hblank := hrest c rfl
    rw [hw' c List.mem_cons_self] at hblank
    cases hblank
  · have hs' : s = before ++ (v ++ gap ++ w) ++ after := by simp [hs]
    rw [hs', trim_append hb _ (words_eq_nil_iff.mp hend.symm)]
    apply trim_of_ends
    · intro c hc
      obtain ⟨d, t, rfl⟩ := List.exists_cons_of_ne_nil hv
      obtain rfl := Option.some.inj hc
      exact hv' _ List.mem_cons_self
    · intro c hc
      rw [List.getLast?_append, List.getLast?_eq_some_getLast hw, Option.some_or] at hc
      obtain rfl := Option.some.inj hc
      exact hw' _ (List.getLast_mem hw)

theorem words_pair {v gap w : List Char} (hv : v ≠ []) (hv' : ∀ c ∈ v, isBlank c = false)
    (hw : w ≠ []) (hw' : ∀ c ∈ w, isBlank c = false) (hgap : gap ≠ []) (hblank : AllBlank gap) :
    words (v ++ gap ++ w) = [v, w] := by
  obtain ⟨c, gap, rfl⟩ := List.exists_cons_of_ne_nil hgap
  have hnext : ∀ d ∈ (c :: gap ++ w).head?, isBlank d = true := by
    intro d hd
    cases hd
    exact hblank c List.mem_cons_self
  have hlast := words_append (s := []) hw hw' nofun
  rw [List.append_nil] at hlast
  rw [List.append_assoc, words_append hv hv' hnext, words_append_blank hblank, hlast]
  rfl

end ScriptedMap
