import Mathlib.Data.List.Nodup
import ScriptedMap.Table

namespace ScriptedMap.Table

variable {α : Type}

theorem get?_cons (name : String) (value : α) (rest : Table α) (key : String) :
    get? ((name, value) :: rest) key = if key = name then some value else get? rest key := by
  by_cases h : key = name
  · rw [if_pos h, h, get?, List.lookup_cons_self]
  · have hne : (key == name) = false := beq_eq_false_iff_ne.mpr h
    rw [if_neg h, get?, List.lookup_cons, hne]
    rfl

theorem get?_insert (table : Table α) (name : String) (value : α) (key : String) :
    (table.insert name value).get? key = if key = name then some value else table.get? key := by
  induction table with
  | nil => exact get?_cons name value [] key
  | cons entry rest ih =>
    obtain ⟨n, v⟩ := entry
    by_cases hn : n = name
    · rw [insert, if_pos hn, get?_cons, get?_cons, hn]
      split <;> rfl
    · rw [insert, if_neg hn, get?_cons, get?_cons, ih]
      by_cases hkey : key = n
      · rw [if_pos hkey, if_pos hkey, if_neg (hkey ▸ hn)]
      · rw [if_neg hkey, if_neg hkey]

theorem isSome_get?_iff (table : Table α) (key : String) :
    (table.get? key).isSome ↔ key ∈ table.names := by
  induction table with
  | nil => simp [get?, names]
  | cons entry rest ih =>
    obtain ⟨n, v⟩ := entry
    rw [get?_cons, names, List.map_cons, List.mem_cons, ← names, ← ih]
    by_cases h : key = n <;> simp [h]

theorem get?_eq_none_iff (table : Table α) (key : String) :
    table.get? key = none ↔ key ∉ table.names := by
  rw [← isSome_get?_iff, Option.not_isSome_iff_eq_none]

theorem mem_names_of_mem {table : Table α} {name : String} {value : α} (h : (name, value) ∈ table) :
    name ∈ table.names := List.mem_map_of_mem h

/-- Where no name is listed twice, a look-up finds what is listed. -/
theorem get?_eq_some_iff {table : Table α} (hnames : table.names.Nodup) {name : String}
    {value : α} :
    table.get? name = some value ↔ (name, value) ∈ table := by
  induction table with
  | nil => simp [get?]
  | cons entry rest ih =>
    obtain ⟨n, v⟩ := entry
    obtain ⟨hfirst, hrest⟩ := List.nodup_cons.mp hnames
    rw [get?_cons, List.mem_cons, Prod.mk.injEq, ← ih hrest]
    by_cases h : name = n
    · have hnone : get? rest n = none := (get?_eq_none_iff rest n).mpr hfirst
      simp [h, hnone, eq_comm]
    · simp [h]

/-- A name that is new comes last, and one that is not stays in its place. -/
theorem names_insert (table : Table α) (name : String) (value : α) :
    (table.insert name value).names =
      if name ∈ table.names then table.names else table.names ++ [name] := by
  induction table with
  | nil => rfl
  | cons entry rest ih =>
    obtain ⟨n, v⟩ := entry
    by_cases hn : n = name
    · rw [insert, if_pos hn, if_pos (hn ▸ List.mem_cons_self)]
      rfl
    · have hmem : name ∈ names ((n, v) :: rest) ↔ name ∈ names rest := by
        simp [names, Ne.symm hn]
      rw [insert, if_neg hn, names, List.map_cons, ← names, ih]
      simp only [hmem]
      split <;> rfl

theorem nodup_names_insert {table : Table α} (h : table.names.Nodup) (name : String) (value : α) :
    (table.insert name value).names.Nodup := by
  rw [names_insert]
  split
  · exact h
  · next hnew =>
    rw [← List.concat_eq_append]
    exact h.concat hnew

theorem nodup_names_ofEntries (entries : List (String × α)) : (ofEntries entries).names.Nodup := by
  have hgo (table : Table α) (h : table.names.Nodup) :
      (entries.foldl (fun t e => t.insert e.1 e.2) table).names.Nodup := by
    induction entries generalizing table with
    | nil => exact h
    | cons e es ih => exact ih _ (nodup_names_insert h e.1 e.2)
  exact hgo [] List.nodup_nil

end ScriptedMap.Table
