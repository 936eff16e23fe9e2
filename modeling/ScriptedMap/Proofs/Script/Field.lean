import Mathlib.Data.List.Forall2
import ScriptedMap.Proofs.Attempt
import ScriptedMap.Proofs.Text.Blank
import ScriptedMap.Script.Field

namespace ScriptedMap

namespace Field

/-- The segment writes the field. -/
inductive Segment : List Char → Field → Prop
  | quoted {before text after : List Char} (hb : AllBlank before) (ht : '"' ∉ text)
      (ha : AllBlank after) : Segment (before ++ '"' :: text ++ '"' :: after) (.quoted text)
  | bare {s : List Char} (hs : ',' ∉ s) (hfirst : s.find? (!isBlank ·) ≠ some '"') :
      Segment s (.bare (trim s))

/-- The text is segments that write the fields, with single commas between them. -/
def Writes (fs : List Field) (s : List Char) : Prop :=
  ∃ segments, segments ≠ [] ∧ List.Forall₂ Segment segments fs ∧ s = [','].intercalate segments

/-- The text does not begin with a segment that ends at a comma or at the end of the text. -/
def Malformed (s : List Char) : Prop :=
  ∀ segment f, Segment segment f → s ≠ segment ∧ ∀ rest, s ≠ segment ++ ',' :: rest

/-- The segments, each with the comma behind it. -/
def joined (segments : List (List Char)) : List Char := segments.flatMap (· ++ [','])

/-- The text begins with segments that write the fields, and no further segment stands behind the
comma after them. -/
def BreaksAfter (fs : List Field) (s : List Char) : Prop :=
  ∃ segments rest, List.Forall₂ Segment segments fs ∧ Malformed rest ∧ s = joined segments ++ rest

/-- The field that has been read where a segment may end. -/
def Place.field? : Place → Option Field
  | before => some (bare [])
  | inBare read => some (ofRead read)
  | inQuoted _ => none
  | closed text => some (quoted text)

theorem scan_end {place : Place} {f : Field} (h : place.field? = some f) :
    scan place [] = [.ok f] := by
  cases place with
  | inQuoted read => cases h
  | before => cases h; rfl
  | inBare read => cases h; rfl
  | closed text => cases h; rfl

theorem isBlank_comma : isBlank ',' = false := by decide

theorem scan_before_blank {c : Char} (hc : isBlank c = true) (s : List Char) :
    scan .before (c :: s) = scan .before s := if_pos hc

theorem scan_before_quote (s : List Char) :
    scan .before ('"' :: s) = scan (.inQuoted []) s := rfl

theorem scan_before_bare {c : Char} (hc : isBlank c = false) (hquote : c ≠ '"') (hcomma : c ≠ ',')
    (s : List Char) : scan .before (c :: s) = scan (.inBare [c]) s := by
  have hblank : ¬isBlank c = true := by
    rw [hc]
    exact Bool.false_ne_true
  exact (if_neg hblank).trans ((if_neg hquote).trans (if_neg hcomma))

theorem scan_inBare_cons {c : Char} (hc : c ≠ ',') (read s : List Char) :
    scan (.inBare read) (c :: s) = scan (.inBare (c :: read)) s := if_neg hc

theorem scan_inQuoted_cons {c : Char} (hc : c ≠ '"') (read s : List Char) :
    scan (.inQuoted read) (c :: s) = scan (.inQuoted (c :: read)) s := if_neg hc

theorem scan_inQuoted_quote (read s : List Char) :
    scan (.inQuoted read) ('"' :: s) = scan (.closed read.reverse) s := if_pos rfl

theorem scan_closed_blank {c : Char} (hc : isBlank c = true) (text s : List Char) :
    scan (.closed text) (c :: s) = scan (.closed text) s := if_pos hc

theorem scan_closed_stray {c : Char} (hc : isBlank c = false) (hcomma : c ≠ ',')
    (text s : List Char) : scan (.closed text) (c :: s) = [.error (.strayCharacter c)] := by
  have hblank : ¬isBlank c = true := by
    rw [hc]
    exact Bool.false_ne_true
  exact (if_neg hblank).trans (if_neg hcomma)

theorem scan_comma {place : Place} {f : Field} (h : place.field? = some f) (s : List Char) :
    scan place (',' :: s) = .ok f :: items s := by
  cases place with
  | inQuoted read => cases h
  | before => cases h; rfl
  | inBare read => cases h; rfl
  | closed text => cases h; rfl

theorem scan_before_append {before : List Char} (hb : AllBlank before) (s : List Char) :
    scan .before (before ++ s) = scan .before s := by
  induction before with
  | nil => rfl
  | cons c before ih =>
    have hc : isBlank c = true := hb c (by simp)
    rw [List.cons_append, scan_before_blank hc]
    exact ih fun d hd => hb d (by simp [hd])

theorem scan_closed_append {after : List Char} (ha : AllBlank after) (text s : List Char) :
    scan (.closed text) (after ++ s) = scan (.closed text) s := by
  induction after with
  | nil => rfl
  | cons c after ih =>
    have hc : isBlank c = true := ha c (by simp)
    rw [List.cons_append, scan_closed_blank hc]
    exact ih fun d hd => ha d (by simp [hd])

theorem scan_inBare_append {t : List Char} (ht : ',' ∉ t) (read s : List Char) :
    scan (.inBare read) (t ++ s) = scan (.inBare (t.reverse ++ read)) s := by
  induction t generalizing read with
  | nil => rfl
  | cons c t ih =>
    obtain ⟨hc, ht⟩ := not_or.mp (List.mem_cons.not.mp ht)
    rw [List.cons_append, scan_inBare_cons (Ne.symm hc), ih ht]
    simp

theorem scan_inQuoted_append {t : List Char} (ht : '"' ∉ t) (read s : List Char) :
    scan (.inQuoted read) (t ++ s) = scan (.inQuoted (t.reverse ++ read)) s := by
  induction t generalizing read with
  | nil => rfl
  | cons c t ih =>
    obtain ⟨hc, ht⟩ := not_or.mp (List.mem_cons.not.mp ht)
    rw [List.cons_append, scan_inQuoted_cons (Ne.symm hc), ih ht]
    simp

theorem ofRead_append {after : List Char} (ha : AllBlank after) (read : List Char) :
    ofRead (after ++ read) = ofRead read :=
  congrArg (fun t : List Char => bare t.reverse) (trimStart_append ha read)

theorem scan_blanks {after : List Char} (ha : AllBlank after) (place : Place) :
    scan place after = scan place [] := by
  have hcomma : ',' ∉ after := not_mem_of_allBlank ha isBlank_comma
  have hquote : '"' ∉ after := not_mem_of_allBlank ha (by decide)
  have hreverse : AllBlank after.reverse := fun c hc => ha c (List.mem_reverse.mp hc)
  rw [← List.append_nil after]
  cases place with
  | before => exact scan_before_append ha []
  | inBare read =>
    rw [scan_inBare_append hcomma]
    exact congrArg (fun f => [Except.ok f]) (ofRead_append hreverse read)
  | inQuoted read => exact scan_inQuoted_append hquote read []
  | closed text => exact scan_closed_append ha text []

/-- Blanks behind a text change none of its fields, also where a quote is still open. -/
theorem scan_append_blanks {after : List Char} (ha : AllBlank after) (place : Place)
    (s : List Char) : scan place (s ++ after) = scan place s := by
  induction s generalizing place with
  | nil => exact scan_blanks ha place
  | cons c s ih => cases place <;> simp only [List.cons_append, scan, ih]

theorem items_trimEnd (s : List Char) : items (trimEnd s) = items s := by
  obtain ⟨after, ha, hs⟩ := exists_eq_trimEnd_append s
  conv_rhs => rw [hs]
  exact (scan_append_blanks ha .before _).symm

theorem items_trim (s : List Char) : items (trim s) = items s := by
  obtain ⟨before, hb, hs⟩ := exists_eq_append_trimStart s
  rw [trim, items_trimEnd]
  conv_rhs => rw [hs]
  exact (scan_before_append hb _).symm

theorem items_quoted {before text after : List Char} (hb : AllBlank before) (ht : '"' ∉ text)
    (ha : AllBlank after) (s : List Char) :
    items (before ++ '"' :: text ++ '"' :: after ++ s) = scan (.closed text) s := by
  have hsplit : before ++ '"' :: text ++ '"' :: after ++ s =
      before ++ ('"' :: (text ++ '"' :: (after ++ s))) := by
    simp
  rw [hsplit, items, scan_before_append hb, scan_before_quote, scan_inQuoted_append ht,
    List.append_nil, scan_inQuoted_quote, List.reverse_reverse, scan_closed_append ha]

theorem items_bare {before t : List Char} {c : Char} (hb : AllBlank before)
    (hc : isBlank c = false) (hquote : c ≠ '"') (hcomma : ',' ∉ c :: t) (s : List Char) :
    items (before ++ c :: t ++ s) = scan (.inBare (c :: t).reverse) s := by
  obtain ⟨hne, ht⟩ := not_or.mp (List.mem_cons.not.mp hcomma)
  rw [items, List.append_assoc, scan_before_append hb, List.cons_append,
    scan_before_bare hc hquote (Ne.symm hne), scan_inBare_append ht, List.reverse_cons]

/-- A segment is read up to a place where its field ends. -/
theorem Segment.place {segment : List Char} {f : Field} (h : Segment segment f) :
    ∃ place : Place, place.field? = some f ∧ ∀ s, items (segment ++ s) = scan place s := by
  cases h with
  | @quoted before text after hb ht ha => exact ⟨.closed text, rfl, items_quoted hb ht ha⟩
  | bare hs hfirst =>
    obtain ⟨before, hb, hsplit⟩ := exists_eq_append_trimStart segment
    cases ht : trimStart segment with
    | nil =>
      have hblank : AllBlank segment := trimStart_eq_nil_iff.mp ht
      refine ⟨.before, ?_, scan_before_append hblank⟩
      rw [trim_of_allBlank hblank]
      rfl
    | cons c t =>
      rw [ht] at hsplit
      have hc := not_blank_of_trimStart_eq_cons ht
      have hcomma : ',' ∉ c :: t := fun hmem => hs (hsplit ▸ List.mem_append_right before hmem)
      have hquote : c ≠ '"' := by
        intro heq
        apply hfirst
        rw [List.find?_eq_head?_dropWhile_not]
        simp only [Bool.not_not]
        change (trimStart segment).head? = some '"'
        rw [ht, heq]
        rfl
      refine ⟨.inBare (c :: t).reverse, ?_, fun s => ?_⟩
      · rw [trim, ht]
        rfl
      · rw [hsplit, items_bare hb hc hquote hcomma]

theorem items_segment {segment : List Char} {f : Field} (h : Segment segment f) :
    items segment = [.ok f] := by
  obtain ⟨place, hplace, hread⟩ := h.place
  rw [← List.append_nil segment, hread, scan_end hplace]

theorem items_segment_comma {segment : List Char} {f : Field} (h : Segment segment f)
    (s : List Char) : items (segment ++ ',' :: s) = .ok f :: items s := by
  obtain ⟨place, hplace, hread⟩ := h.place
  rw [hread, scan_comma hplace]

/-- A text that begins with a double quote begins with a segment, or its first item is an error. -/
theorem segment_cases_of_quote {before : List Char} (hb : AllBlank before) (t : List Char) :
    let s := before ++ '"' :: t
    (∃ f, Segment s f) ∨ (∃ segment f rest, Segment segment f ∧ s = segment ++ ',' :: rest) ∨
      ∃ e, items s = [.error e] := by
  intro s
  have hopen : items s = scan (.inQuoted []) t := by
    rw [items, scan_before_append hb, scan_before_quote]
  by_cases hq : '"' ∈ t
  · obtain ⟨text, u, rfl, htext⟩ := List.eq_append_cons_of_mem hq
    obtain ⟨after, ha, hu⟩ := exists_eq_append_trimStart u
    have hsegment := Segment.quoted hb htext ha
    cases hrest : trimStart u with
    | nil =>
      left
      rw [hrest, List.append_nil] at hu
      refine ⟨.quoted text, ?_⟩
      rw [← hu] at hsegment
      simpa [s] using hsegment
    | cons c rest =>
      right
      rw [hrest] at hu
      have hc := not_blank_of_trimStart_eq_cons hrest
      by_cases hcomma : c = ','
      · left
        refine ⟨_, _, rest, hsegment, ?_⟩
        simp [s, hu, hcomma]
      · right
        have hs : s = before ++ '"' :: text ++ '"' :: after ++ c :: rest := by
          simp [s, hu]
        refine ⟨.strayCharacter c, ?_⟩
        rw [hs, items_quoted hb htext ha, scan_closed_stray hc hcomma]
  · right
    right
    refine ⟨.unclosedQuote, ?_⟩
    rw [hopen, ← List.append_nil t, scan_inQuoted_append hq]
    rfl

theorem segment_cases (s : List Char) :
    (∃ f, Segment s f) ∨ (∃ segment f rest, Segment segment f ∧ s = segment ++ ',' :: rest) ∨
      ∃ e, items s = [.error e] := by
  by_cases hfirst : s.find? (!isBlank ·) = some '"'
  · obtain ⟨-, before, t, rfl, hb⟩ := List.find?_eq_some_iff_append.mp hfirst
    apply segment_cases_of_quote
    intro c hc
    simpa using hb c hc
  · by_cases hcomma : ',' ∈ s
    · obtain ⟨segment, rest, rfl, hsegment⟩ := List.eq_append_cons_of_mem hcomma
      have hbare : segment.find? (!isBlank ·) ≠ some '"' := by
        intro h
        apply hfirst
        rw [List.find?_append, h]
        rfl
      exact .inr (.inl ⟨segment, _, rest, .bare hsegment hbare, rfl⟩)
    · exact .inl ⟨_, .bare hcomma hfirst⟩

theorem items_of_malformed {s : List Char} (h : Malformed s) : ∃ e, items s = [.error e] := by
  rcases segment_cases s with ⟨f, hf⟩ | ⟨segment, f, rest, hf, hs⟩ | herror
  · exact absurd rfl (h s f hf).1
  · exact absurd hs ((h segment f hf).2 rest)
  · exact herror

theorem malformed_of_items {s : List Char} {e : FieldError} (h : items s = [.error e]) :
    Malformed s := by
  intro segment f hf
  refine ⟨?_, ?_⟩
  · rintro rfl
    rw [items_segment hf] at h
    cases h
  · rintro rest rfl
    rw [items_segment_comma hf] at h
    cases h

theorem items_joined {segments : List (List Char)} {fs : List Field}
    (h : List.Forall₂ Segment segments fs) (s : List Char) :
    items (joined segments ++ s) = fs.map .ok ++ items s := by
  induction h with
  | nil => rfl
  | @cons segment f segments fs hf _ ih =>
    have hsplit : joined (segment :: segments) ++ s = segment ++ ',' :: (joined segments ++ s) := by
      simp [joined]
    rw [hsplit, items_segment_comma hf, ih]
    rfl

theorem intercalate_concat (segments : List (List Char)) (last : List Char) :
    [','].intercalate (segments ++ [last]) = joined segments ++ last := by
  induction segments with
  | nil => simp [joined, List.intercalate]
  | cons segment segments ih =>
    have hne : segments ++ [last] ≠ [] := by simp
    rw [List.cons_append, List.intercalate_cons_of_ne_nil hne, ih]
    simp [joined]

/-- Every text is segments and a rest, which is one more segment or is malformed. -/
theorem exists_segments (s : List Char) :
    ∃ segments fs rest, List.Forall₂ Segment segments fs ∧ s = joined segments ++ rest ∧
      ((∃ f, Segment rest f) ∨ Malformed rest) := by
  -- on the length: a segment is cut off, not a character
  induction hn : s.length using Nat.strongRecOn generalizing s with
  | _ n ih =>
    rcases segment_cases s with hf | ⟨segment, f, rest, hf, rfl⟩ | ⟨e, he⟩
    · exact ⟨[], [], s, .nil, rfl, .inl hf⟩
    · have hlt : rest.length < n := by
        rw [← hn]
        simp
        omega
      obtain ⟨segments, fs, last, hsegments, rfl, hlast⟩ := ih rest.length hlt rest rfl
      refine ⟨segment :: segments, f :: fs, last, .cons hf hsegments, ?_, hlast⟩
      simp [joined]
    · exact ⟨[], [], s, .nil, rfl, .inr (malformed_of_items he)⟩

theorem items_intercalate {segments : List (List Char)} {fs : List Field}
    (h : List.Forall₂ Segment segments fs) (hne : segments ≠ []) :
    items ([','].intercalate segments) = fs.map .ok := by
  induction h with
  | nil => exact absurd rfl hne
  | @cons segment f segments fs hf hrest ih =>
    cases hrest with
    | nil => simpa [List.intercalate] using items_segment hf
    | @cons next g segments fs hg hrest =>
      rw [List.intercalate_cons_cons, List.append_assoc]
      change items (segment ++ ',' :: [','].intercalate (next :: segments)) = _
      rw [items_segment_comma hf, ih (List.cons_ne_nil _ _)]
      rfl

theorem Writes.items_eq {fs : List Field} {s : List Char} (h : Writes fs s) :
    items s = fs.map .ok := by
  obtain ⟨segments, hne, hsegments, rfl⟩ := h
  exact items_intercalate hsegments hne

theorem BreaksAfter.items_eq {fs : List Field} {s : List Char} (h : BreaksAfter fs s) :
    ∃ e, items s = fs.map .ok ++ [.error e] := by
  obtain ⟨segments, rest, hsegments, hrest, rfl⟩ := h
  obtain ⟨e, he⟩ := items_of_malformed hrest
  exact ⟨e, by rw [items_joined hsegments, he]⟩

theorem writes_or_breaksAfter (s : List Char) :
    (∃ fs, Writes fs s) ∨ ∃ fs, BreaksAfter fs s := by
  obtain ⟨segments, fs, rest, hsegments, rfl, ⟨f, hf⟩ | hrest⟩ := exists_segments s
  · left
    refine ⟨fs ++ [f], segments ++ [rest], by simp, ?_, (intercalate_concat segments rest).symm⟩
    exact List.rel_append hsegments (.cons hf .nil)
  · right
    exact ⟨fs, segments, rest, hsegments, hrest, rfl⟩

theorem list_of_items_ok {s : List Char} {fs : List Field} (h : items s = fs.map .ok) :
    Field.list s = .ok fs := by
  rw [Field.list, h, mapM_id_eq_ok]

theorem list_of_items_error {s : List Char} {fs : List Field} {e : FieldError}
    (h : items s = fs.map .ok ++ [.error e]) : Field.list s = .error e := by
  rw [Field.list, h, List.mapM_append, mapM_id_eq_ok.mpr rfl]
  rfl

/-- Reading accepts exactly the texts that fields are written as, and gives back these fields. A
text that is no list of fields is read up to its first malformed segment, with one error there. -/
theorem list_eq_ok_iff_writes (s : List Char) :
    (∀ fs, Field.list s = .ok fs ↔ Writes fs s) ∧
    ((¬∃ fs, Writes fs s) → ∃ fs e, BreaksAfter fs s ∧
      items s = fs.map .ok ++ [.error e] ∧ Field.list s = .error e) ∧
    ∀ fs, BreaksAfter fs s → ∃ e, items s = fs.map .ok ++ [.error e] := by
  refine ⟨?_, ?_, fun fs h => h.items_eq⟩
  · intro fs
    constructor
    · intro h
      rcases writes_or_breaksAfter s with ⟨gs, hgs⟩ | ⟨gs, hgs⟩
      · have hlist := list_of_items_ok hgs.items_eq
        rw [h] at hlist
        cases hlist
        exact hgs
      · obtain ⟨e, he⟩ := hgs.items_eq
        rw [list_of_items_error he] at h
        cases h
    · intro h
      exact list_of_items_ok h.items_eq
  · intro hnone
    rcases writes_or_breaksAfter s with hwrites | ⟨fs, hfs⟩
    · exact absurd hwrites hnone
    · obtain ⟨e, he⟩ := hfs.items_eq
      exact ⟨fs, e, hfs, he, list_of_items_error he⟩

/-- A quote inside a bare field and a comma inside a quoted one are text, and a quote that is never
closed ends the reading. -/
theorem list_eq_ok_iff_writes_two_fields :
    let text := "a\"b, \"c,d\" ".toList
    Writes [.bare "a\"b".toList, .quoted "c,d".toList] text ∧
      ∃ fs, BreaksAfter fs (text ++ ",\"e".toList) ∧ fs.length = 2 := by
  intro text
  have hopen : Field.list (text ++ ",\"e".toList) = .error .unclosedQuote := by decide
  refine ⟨((list_eq_ok_iff_writes text).1 _).mp (by decide), ?_⟩
  obtain ⟨hread, hbreak, -⟩ := list_eq_ok_iff_writes (text ++ ",\"e".toList)
  have hnone : ¬∃ fs, Writes fs (text ++ ",\"e".toList) := by
    rintro ⟨fs, hfs⟩
    rw [(hread fs).mpr hfs] at hopen
    cases hopen
  obtain ⟨fs, e, hfs, hitems, -⟩ := hbreak hnone
  have hlength : (items (text ++ ",\"e".toList)).length = 3 := by decide
  rw [hitems] at hlength
  exact ⟨fs, hfs, by simpa using hlength⟩

end Field

end ScriptedMap
