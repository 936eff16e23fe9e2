import ScriptedMap.Proofs.Json.Token

namespace ScriptedMap.Json

mutual

/-- The value that is read where `v` is written. -/
def reread : Json → Json
  | .null => .null
  | .boolean b => .boolean b
  | .number n => (ofWord? (writeNumber n)).getD .unreadable
  | .text s => .text s
  | .array items => .array (rereadItems items)
  | .object fields => .object (rereadFields fields)
  | .unreadable => .null

def rereadItems : List Json → List Json
  | [] => []
  | v :: vs => reread v :: rereadItems vs

def rereadFields : List (String × Json) → List (String × Json)
  | [] => []
  | (name, v) :: fs => (name, reread v) :: rereadFields fs

end

/-- The fields as they are collected, last field first. -/
def collected (fields : List (String × Json)) : List (Option String × Json) :=
  (fields.map fun f => (some f.1, f.2)).reverse

theorem ofFields_collected (fields : List (String × Json)) :
    ofFields (collected fields).reverse = .object fields := by
  have hnames : (fields.map fun f => (some f.1, f.2)).mapM
      (fun f : Option String × Json => f.1.map fun name => (name, f.2)) = some fields := by
    induction fields with
    | nil => rfl
    | cons f fs ih =>
      rw [List.map_cons, List.mapM_cons, ih]
      rfl
  rw [ofFields, collected, List.reverse_reverse, hnames]

theorem value?_word {w : List Char} {v : Json} (h : ofWord? w = some v) (frames : List Frame)
    (ts : List Token) : value? frames (.word w :: ts) = next? v frames ts := by
  rw [value?, h]

theorem value?_openArray (frames : List Frame) (v : Json) (ts : List Token) :
    value? frames (.openArray :: (tokens v ++ ts)) =
      value? (.array [] :: frames) (tokens v ++ ts) := by
  have hfirst : ∃ t rest, tokens v = t :: rest ∧ t ≠ .closeArray := by
    cases v with
    | array items =>
      cases items with
      | nil => exact ⟨_, _, rfl, by decide⟩
      | cons v vs => exact ⟨_, _, rfl, by decide⟩
    | object fields =>
      cases fields with
      | nil => exact ⟨_, _, rfl, by decide⟩
      | cons f fs => exact ⟨_, _, rfl, by decide⟩
    | null => exact ⟨_, _, rfl, by decide⟩
    | boolean b => exact ⟨_, _, rfl, nofun⟩
    | number n => exact ⟨_, _, rfl, nofun⟩
    | text s => exact ⟨_, _, rfl, nofun⟩
    | unreadable => exact ⟨_, _, rfl, by decide⟩
  obtain ⟨t, rest, htokens, ht⟩ := hfirst
  rw [htokens, List.cons_append, value?]
  intro _ heq
  exact ht (List.cons.inj heq).1

mutual

/-- The tokens of a written value are put together again. The induction is on the value; its items
or fields that have been read stand in the innermost frame. -/
theorem value?_tokens (frames : List Frame) (v : Json) (ts : List Token) :
    value? frames (tokens v ++ ts) = next? (reread v) frames ts :=
  match v with
  | .null => rfl
  | .boolean b => by
    cases b
    · rfl
    · rfl
  | .number n => by
    obtain ⟨v, hv⟩ := (isWord_writeNumber n).value
    rw [tokens, List.singleton_append, value?_word hv, reread, hv, Option.getD_some]
  | .text s => rfl
  | .array [] => rfl
  | .array (v :: vs) => by
    have hitems := next?_itemTokens frames [] (reread v) vs ts
    rw [tokens, List.cons_append, List.append_assoc, List.append_assoc, value?_openArray,
      value?_tokens]
    exact hitems
  | .object [] => rfl
  | .object ((name, v) :: fs) => by
    have hfields := next?_fieldTokens frames [] name (reread v) fs ts
    have hopen (rest : List Token) :
        value? frames (.openObject :: .text (some name) :: .colon :: rest)
          = value? (.object [] (some name) :: frames) rest := rfl
    rw [tokens, List.cons_append, List.cons_append, List.cons_append, List.append_assoc,
      List.append_assoc, hopen, value?_tokens]
    exact hfields
  | .unreadable => rfl

/-- So are those of the items after the ones that have been read. -/
theorem next?_itemTokens (frames : List Frame) (items : List Json) (v : Json) (vs : List Json)
    (ts : List Token) :
    next? v (.array items :: frames) (itemTokens vs ++ .closeArray :: ts)
      = next? (.array ((v :: items).reverse ++ rereadItems vs)) frames ts :=
  match vs with
  | [] => by
    rw [rereadItems, List.append_nil]
    rfl
  | w :: ws => by
    have hcomma (rest : List Token) : next? v (.array items :: frames) (.comma :: rest)
        = value? (.array (v :: items) :: frames) rest := rfl
    have hrest := next?_itemTokens frames (v :: items) (reread w) ws ts
    rw [itemTokens, List.cons_append, List.append_assoc, hcomma, value?_tokens, hrest, rereadItems,
      List.reverse_cons (a := reread w), List.append_assoc, List.singleton_append]

theorem next?_fieldTokens (frames : List Frame) (fields : List (String × Json)) (name : String)
    (v : Json) (fs : List (String × Json)) (ts : List Token) :
    next? v (.object (collected fields) (some name) :: frames)
      (fieldTokens fs ++ .closeObject :: ts)
      = next? (.object (fields ++ (name, v) :: rereadFields fs)) frames ts :=
  have hcollected : (some name, v) :: collected fields = collected (fields ++ [(name, v)]) := by
    simp [collected]
  match fs with
  | [] => by
    have hclose : next? v (.object (collected fields) (some name) :: frames) (.closeObject :: ts)
        = next? (ofFields ((some name, v) :: collected fields).reverse) frames ts := rfl
    rw [fieldTokens, List.nil_append, hclose, hcollected, ofFields_collected, rereadFields]
  | (name', w) :: fs => by
    have hcomma (rest : List Token) :
        next? v (.object (collected fields) (some name) :: frames)
            (.comma :: .text (some name') :: .colon :: rest)
          = value? (.object ((some name, v) :: collected fields) (some name') :: frames) rest := rfl
    have hrest := next?_fieldTokens frames (fields ++ [(name, v)]) name' (reread w) fs ts
    rw [fieldTokens, List.cons_append, List.cons_append, List.cons_append, List.append_assoc,
      hcomma, hcollected, value?_tokens, hrest, rereadFields, List.append_assoc,
      List.singleton_append]

end

/-- Every written value is read. -/
theorem read?_write (level : Option Nat) (v : Json) :
    read? (String.ofList (write level v)) = some (reread v) := by
  have hvalue := value?_tokens [] v []
  rw [List.append_nil] at hvalue
  rw [read?, String.toList_ofList, ofText?_write, Option.bind_some, hvalue]
  rfl

theorem rereadItems_eq_map (vs : List Json) : rereadItems vs = vs.map reread := by
  induction vs with
  | nil => rfl
  | cons v vs ih => rw [rereadItems, ih, List.map_cons]

theorem rereadFields_eq_map (fs : List (String × Json)) :
    rereadFields fs = fs.map fun f => (f.1, reread f.2) := by
  induction fs with
  | nil => rfl
  | cons f fs ih => rw [rereadFields, ih, List.map_cons]

theorem reread_ofNat {n : Nat} (hn : n < Nat.pow 2 64) : reread (ofNat n) = ofNat n := by
  rw [ofNat, reread, ofWord?_natural hn, Option.getD_some]

/-- The number is what is read of its own text. -/
def ReadsBack (x : Binary64) : Prop := (read? (ofReal x).compact).bind real? = some x

theorem ReadsBack.reread {x : Binary64} (h : ReadsBack x) :
    ∃ n : Number, reread (ofReal x) = .number n ∧ n.toReal = x := by
  rw [ReadsBack, compact, read?_write, Option.bind_some] at h
  cases hread : Json.reread (ofReal x) with
  | number n =>
    rw [hread] at h
    exact ⟨n, rfl, Option.some.inj h⟩
  | _ =>
    rw [hread] at h
    cases h

/-- A number that is not finite is written `null`. -/
theorem reread_ofReal {x : Binary64} (h : x.isFinite = true → ReadsBack x) :
    (x.isFinite = true ∧ ∃ n : Number, reread (ofReal x) = .number n ∧ n.toReal = x) ∨
    (x.isFinite = false ∧ reread (ofReal x) = .null) := by
  cases x with
  | finite negative n => exact .inl ⟨rfl, (h rfl).reread⟩
  | nan => exact .inr ⟨rfl, rfl⟩
  | infinity negative => exact .inr ⟨rfl, rfl⟩

end ScriptedMap.Json
