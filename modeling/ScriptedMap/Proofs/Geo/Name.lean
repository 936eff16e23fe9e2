import Mathlib.Data.List.Basic
import ScriptedMap.Geo.Name

namespace ScriptedMap

theorem begins_iff {part whole : String} :
    begins part whole = true ↔ part.toList <+: whole.toList :=
  List.isPrefixOf_iff_prefix

theorem occurs_iff {part s : List Char} : occurs part s = true ↔ part <:+: s := by
  induction s with
  | nil => rw [occurs, List.isEmpty_iff, List.infix_nil]
  | cons c s ih =>
    rw [occurs, Bool.or_eq_true, List.isPrefixOf_iff_prefix, ih, List.infix_cons_iff]

theorem isWithin_iff {part whole : String} :
    isWithin part whole = true ↔ part.toList <:+: whole.toList := occurs_iff

end ScriptedMap
