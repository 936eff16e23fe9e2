import ScriptedMap.Config.Reader
import ScriptedMap.Proofs.Json.Reader
import ScriptedMap.Proofs.Table

namespace ScriptedMap

theorem Json.part?_eq_some {α : Type} {position : Nat} {name : String} {read : Json → Option α}
    {absent : Option α} {v : Json} {a : α} (h : v.part? position name read absent = some a) :
    absent = some a ∨ ∃ part, read part = some a := by
  unfold part? at h
  split at h
  · split at h
    · exact .inl h
    · exact .inr ⟨_, h⟩
    · cases h
  · split at h
    · exact .inl h
    · exact .inr ⟨_, h⟩
  · cases h

namespace Config

variable {α : Type} {config : Config}

/-- A table that is read or standard. -/
theorem nodup_names_of_part? {read : Json → Option α} {absent : Table α}
    (habsent : absent.names.Nodup) {position : Nat} {name : String} {v : Json} {table : Table α}
    (h : v.part? position name (table? read) (some absent) = some table) : table.names.Nodup := by
  rcases Json.part?_eq_some h with hstandard | ⟨part, hpart⟩
  · cases hstandard
    exact habsent
  · obtain ⟨entries, -, rfl⟩ := Option.map_eq_some_iff.mp hpart
    exact Table.nodup_names_ofEntries entries

structure HasNodupNames (config : Config) : Prop where
  palette : config.palette.names.Nodup
  aliases : config.aliases.names.Nodup
  fixedCenters : config.fixedCenters.names.Nodup
  effects : config.effects.names.Nodup

theorem hasNodupNames_standard : standard.HasNodupNames := by
  constructor <;> decide

theorem hasNodupNames_of_ofJson? {v : Json} (h : ofJson? v = some config) :
    config.HasNodupNames := by
  have hstandard := hasNodupNames_standard
  unfold ofJson? at h
  split at h
  · simp only [Option.bind_eq_bind, Option.bind_eq_some_iff, Option.pure_def,
      Option.some.injEq] at h
    obtain ⟨_, hpalette, _, _, _, haliases, _, hcenters, _, heffects, _, _, _, _, rfl⟩ := h
    exact ⟨nodup_names_of_part? hstandard.palette hpalette,
      nodup_names_of_part? hstandard.aliases haliases,
      nodup_names_of_part? hstandard.fixedCenters hcenters,
      nodup_names_of_part? hstandard.effects heffects⟩
  · cases h

theorem hasNodupNames_of_ofText? {text : String} (h : ofText? text = some config) :
    config.HasNodupNames := by
  obtain ⟨v, -, hv⟩ := Option.bind_eq_some_iff.mp h
  exact hasNodupNames_of_ofJson? hv

/-- A value is read from its text as it would be without. -/
theorem ofText?_compact {v : Json} (h : v.reread = v) : ofText? v.compact = ofJson? v := by
  rw [ofText?, Json.compact, Json.read?_write, Option.bind_some, h]

end Config

end ScriptedMap
