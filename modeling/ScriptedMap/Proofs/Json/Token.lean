import ScriptedMap.Proofs.Json.Numeral

namespace ScriptedMap.Json

namespace Token

/-- A word that stands before these characters ends there. -/
def Ends (s : List Char) : Prop := ∀ c ∈ s.head?, delimits c = true

theorem scan?_mark {c : Char} {t : Token} (hspace : isSpace c = false) (h : punctuation? c = some t)
    (s : List Char) : scan? .between (c :: s) = (scan? .between s).map (t :: ·) := by
  have hstart : start c = ([t], .between) := by simp [start, hspace, h]
  rw [scan?, hstart]
  rfl

theorem scan?_space {c : Char} (h : isSpace c = true) (s : List Char) :
    scan? .between (c :: s) = scan? .between s := by
  have hstart : start c = ([], .between) := by simp [start, h]
  rw [scan?, hstart]
  exact Option.map_id_apply

theorem scan?_lineBreak (level : Option Nat) (s : List Char) :
    scan? .between (lineBreak level ++ s) = scan? .between s := by
  have hspaces (n : Nat) : scan? .between (List.replicate n ' ' ++ s) = scan? .between s := by
    induction n with
    | zero => rfl
    | succ n ih =>
      rw [List.replicate_succ, List.cons_append, scan?_space rfl]
      exact ih
  cases level with
  | none => rfl
  | some n =>
    rw [lineBreak, List.cons_append, scan?_space rfl]
    exact hspaces (2 * n)

theorem scan?_inWord {w s : List Char} (hw : ∀ c ∈ w, delimits c = false) (hs : Ends s)
    (read : List Char) :
    scan? (.word read) (w ++ s) = (scan? .between s).map (.word (read.reverse ++ w) :: ·) := by
  induction w generalizing read with
  | nil =>
    rw [List.nil_append, List.append_nil]
    cases s with
    | nil => rfl
    | cons c s =>
      have hends : scan? (.word read) (c :: s)
          = (scan? (start c).2 s).map (.word read.reverse :: (start c).1 ++ ·) := by
        rw [scan?, if_pos (hs c rfl)]
      rw [hends, scan?, Option.map_map]
      rfl
  | cons c w ih =>
    have hc : delimits c = false := hw c List.mem_cons_self
    have htail : ∀ d ∈ w, delimits d = false := fun d hd => hw d (List.mem_cons_of_mem c hd)
    rw [List.cons_append, scan?, if_neg (by simp [hc]), ih htail (c :: read), List.reverse_cons,
      List.append_assoc]
    rfl

theorem scan?_word {w s : List Char} (hw : IsWord w) (hs : Ends s) :
    scan? .between (w ++ s) = (scan? .between s).map (.word w :: ·) := by
  obtain ⟨c, u, rfl⟩ := List.exists_cons_of_ne_nil hw.ne_nil
  have hc : delimits c = false := hw.no_delimiter c List.mem_cons_self
  have hu : ∀ d ∈ u, delimits d = false := fun d hd => hw.no_delimiter d (List.mem_cons_of_mem c hd)
  have hstart : start c = ([], .word [c]) := by
    simp only [delimits, Bool.or_eq_false_iff, decide_eq_false_iff_not] at hc
    obtain ⟨⟨hspace, hmark⟩, hquote⟩ := hc
    have hnone : punctuation? c = none := Option.not_isSome_iff_eq_none.mp (by simp [hmark])
    simp [start, hspace, hnone, hquote]
  rw [List.cons_append, scan?, hstart]
  simp only [List.nil_append, Option.map_id']
  rw [scan?_inWord hu hs [c]]
  rfl

theorem hexDigit?_getD {d : Nat} (hd : d < 16) : hexDigit? (hexDigits.getD d '0') = some d := by
  revert d
  decide

theorem scan?_escape (c : Char) (codes : List Nat) (s : List Char) :
    scan? (.text codes) (escape c ++ s) = scan? (.text (c.toNat :: codes)) s := by
  rw [escape]
  split
  next h => rw [h]; rfl
  split
  next h => rw [h]; rfl
  split
  next h => rw [h]; rfl
  split
  next h => rw [h]; rfl
  split
  next h => rw [h]; rfl
  split
  next h => rw [h]; rfl
  split
  next h => rw [h]; rfl
  split
  next hquote hback _ _ _ _ _ hcontrol =>
    have hlt : c.toNat < 32 := hcontrol
    have hzero : hexDigit? '0' = some 0 := rfl
    have hhigh : hexDigit? (hexDigits.getD (c.toNat / 16) '0') = some (c.toNat / 16) :=
      hexDigit?_getD (by omega)
    have hlow : hexDigit? (hexDigits.getD (c.toNat % 16) '0') = some (c.toNat % 16) :=
      hexDigit?_getD (by omega)
    have hvalue : 16 * (c.toNat / 16) + c.toNat % 16 = c.toNat := by omega
    generalize hexDigits.getD (c.toNat / 16) '0' = high at hhigh
    generalize hexDigits.getD (c.toNat % 16) '0' = low at hlow
    simp [scan?, hzero, hhigh, hlow, hvalue]
  next hquote hback _ _ _ _ _ hcontrol =>
    rw [List.singleton_append, scan?, if_neg hquote, if_neg hback, if_neg hcontrol]

theorem scan?_escapes (t : List Char) (codes : List Nat) (s : List Char) :
    scan? (.text codes) (t.flatMap escape ++ s)
      = scan? (.text ((t.map Char.toNat).reverse ++ codes)) s := by
  induction t generalizing codes with
  | nil => rfl
  | cons c t ih =>
    rw [List.flatMap_cons, List.append_assoc, scan?_escape, ih]
    simp

theorem not_surrogate (c : Char) : ¬(0xD800 ≤ c.toNat ∧ c.toNat < 0xE000) := by
  have hvalid : c.toNat < 0xD800 ∨ (0xDFFF < c.toNat ∧ c.toNat < 0x110000) := c.valid
  omega

theorem decode?_toNat (t : List Char) : decode? (t.map Char.toNat) = some t := by
  induction t with
  | nil => rfl
  | cons c t ih =>
    have hc : ¬(0xD800 ≤ c.toNat ∧ c.toNat < 0xE000) := not_surrogate c
    have hhigh : ¬(0xD800 ≤ c.toNat ∧ c.toNat < 0xDC00) := by omega
    have hlow : ¬(0xDC00 ≤ c.toNat ∧ c.toNat < 0xE000) := by omega
    cases t with
    | nil => rw [List.map_cons, List.map_nil, decode?, if_neg hc, Char.ofNat_toNat]
    | cons d t =>
      rw [List.map_cons] at ih
      rw [List.map_cons, List.map_cons, decode?, if_neg hhigh, if_neg hlow, ih, Char.ofNat_toNat]
      rfl

theorem scan?_writeText (t : String) (s : List Char) :
    scan? .between (writeText t ++ s) = (scan? .between s).map (.text (some t) :: ·) := by
  have hcodes : ofCodes (t.toList.map Char.toNat) = .text (some t) := by
    rw [ofCodes, decode?_toNat, Option.map_some, String.ofList_toList]
  have hstart : start '"' = ([], .text []) := rfl
  rw [writeText, List.cons_append, List.cons_append, List.append_assoc, scan?, hstart]
  simp only [List.nil_append, Option.map_id']
  rw [scan?_escapes, List.append_nil, List.singleton_append, scan?, if_pos rfl,
    List.reverse_reverse, hcodes]

end Token

mutual

/-- The tokens of a value as it is written. -/
def tokens : Json → List Token
  | .null => [.word "null".toList]
  | .boolean b => [.word (if b then "true" else "false").toList]
  | .number n => [.word (writeNumber n)]
  | .text s => [.text (some s)]
  | .array [] => [.openArray, .closeArray]
  | .array (v :: vs) => .openArray :: (tokens v ++ (itemTokens vs ++ [.closeArray]))
  | .object [] => [.openObject, .closeObject]
  | .object ((name, v) :: fs) =>
    .openObject :: .text (some name) :: .colon :: (tokens v ++ (fieldTokens fs ++ [.closeObject]))
  | .unreadable => [.word "null".toList]

/-- The tokens of the parts of an array after the first. -/
def itemTokens : List Json → List Token
  | [] => []
  | v :: vs => .comma :: (tokens v ++ itemTokens vs)

/-- The tokens of the parts of an object after the first. -/
def fieldTokens : List (String × Json) → List Token
  | [] => []
  | (name, v) :: fs => .comma :: .text (some name) :: .colon :: (tokens v ++ fieldTokens fs)

end

open Token

theorem scan?_colon (level : Option Nat) (s : List Char) :
    scan? .between (colon level ++ s) = (scan? .between s).map (.colon :: ·) := by
  cases level with
  | none => exact scan?_mark rfl rfl s
  | some n =>
    have hmark : scan? .between (':' :: ' ' :: s) = (scan? .between (' ' :: s)).map (.colon :: ·) :=
      scan?_mark rfl rfl (' ' :: s)
    have hspace : scan? .between (' ' :: s) = scan? .between s := scan?_space rfl s
    rw [hspace] at hmark
    exact hmark

theorem ends_lineBreak (level : Option Nat) {s : List Char} (hs : Ends s) :
    Ends (lineBreak level ++ s) := by
  cases level with
  | none => exact hs
  | some n =>
    intro c hc
    cases hc
    rfl

theorem ends_cons {c : Char} (h : delimits c = true) (s : List Char) : Ends (c :: s) := by
  intro d hd
  cases hd
  exact h

theorem ends_writeItems (level : Option Nat) (vs : List Json) {s : List Char} (hs : Ends s) :
    Ends (writeItems level vs ++ s) := by
  cases vs with
  | nil => exact hs
  | cons v vs => exact ends_cons rfl _

theorem ends_writeFields (level : Option Nat) (fs : List (String × Json)) {s : List Char}
    (hs : Ends s) : Ends (writeFields level fs ++ s) := by
  cases fs with
  | nil => exact hs
  | cons f fs => exact ends_cons rfl _

mutual

/-- A written value is scanned into its tokens. -/
theorem scan?_write (level : Option Nat) (v : Json) {s : List Char} (hs : Ends s) :
    scan? .between (write level v ++ s) = (scan? .between s).map (tokens v ++ ·) :=
  match v with
  | .null => scan?_word isWord_null hs
  | .boolean b => scan?_word (isWord_boolean b) hs
  | .number n => scan?_word (isWord_writeNumber n) hs
  | .text t => scan?_writeText t s
  | .array [] => by
    rw [write, List.cons_append, List.singleton_append, scan?_mark (t := .openArray) rfl rfl,
      scan?_mark (t := .closeArray) rfl rfl, Option.map_map, tokens]
    rfl
  | .array (v :: vs) => by
    have hclose : Ends (lineBreak level ++ ']' :: s) := ends_lineBreak level (ends_cons rfl s)
    have hitems := ends_writeItems (deeper level) vs hclose
    rw [write]
    simp only [List.cons_append, List.append_assoc, List.nil_append]
    rw [scan?_mark (t := .openArray) rfl rfl, scan?_lineBreak, scan?_write (deeper level) v hitems,
      scan?_writeItems (deeper level) vs hclose, scan?_lineBreak,
      scan?_mark (t := .closeArray) rfl rfl]
    simp [tokens, Function.comp_def]
  | .object [] => by
    rw [write, List.cons_append, List.singleton_append, scan?_mark (t := .openObject) rfl rfl,
      scan?_mark (t := .closeObject) rfl rfl, Option.map_map, tokens]
    rfl
  | .object ((name, v) :: fs) => by
    have hclose : Ends (lineBreak level ++ '}' :: s) := ends_lineBreak level (ends_cons rfl s)
    have hfields := ends_writeFields (deeper level) fs hclose
    rw [write]
    simp only [List.cons_append, List.append_assoc, List.nil_append]
    rw [scan?_mark (t := .openObject) rfl rfl, scan?_lineBreak, scan?_writeText, scan?_colon,
      scan?_write (deeper level) v hfields, scan?_writeFields (deeper level) fs hclose,
      scan?_lineBreak, scan?_mark (t := .closeObject) rfl rfl]
    simp [tokens, Function.comp_def]
  | .unreadable => scan?_word isWord_null hs

theorem scan?_writeItems (level : Option Nat) (vs : List Json) {s : List Char} (hs : Ends s) :
    scan? .between (writeItems level vs ++ s) = (scan? .between s).map (itemTokens vs ++ ·) :=
  match vs with
  | [] => by
    rw [writeItems, itemTokens]
    exact Option.map_id_apply.symm
  | v :: vs => by
    rw [writeItems]
    simp only [List.cons_append, List.append_assoc]
    rw [scan?_mark (t := .comma) rfl rfl, scan?_lineBreak,
      scan?_write level v (ends_writeItems level vs hs), scan?_writeItems level vs hs]
    simp [itemTokens, Function.comp_def]

theorem scan?_writeFields (level : Option Nat) (fs : List (String × Json)) {s : List Char}
    (hs : Ends s) :
    scan? .between (writeFields level fs ++ s) = (scan? .between s).map (fieldTokens fs ++ ·) :=
  match fs with
  | [] => by
    rw [writeFields, fieldTokens]
    exact Option.map_id_apply.symm
  | (name, v) :: fs => by
    rw [writeFields]
    simp only [List.cons_append, List.append_assoc]
    rw [scan?_mark (t := .comma) rfl rfl, scan?_lineBreak, scan?_writeText, scan?_colon,
      scan?_write level v (ends_writeFields level fs hs), scan?_writeFields level fs hs]
    simp [fieldTokens, Function.comp_def]

end

/-- A written value alone is scanned into its tokens. -/
theorem ofText?_write (level : Option Nat) (v : Json) :
    ofText? (write level v) = some (tokens v) := by
  have hnil : Ends [] := fun _ hc => nomatch hc
  have hscan := scan?_write level v hnil
  rw [List.append_nil, scan?, Option.map_some, List.append_nil] at hscan
  exact hscan

end ScriptedMap.Json
