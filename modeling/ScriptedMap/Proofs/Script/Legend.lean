import Mathlib.Data.List.Induction
import ScriptedMap.Config.Standard
import ScriptedMap.Proofs.Table
import ScriptedMap.Proofs.Text.Folding
import ScriptedMap.Script.Legend

namespace ScriptedMap

theorem eraseDupsBy_loop_append {α : Type} (r : α → α → Bool) (xs ys seen : List α) :
    List.eraseDupsBy.loop r (xs ++ ys) seen =
      List.eraseDupsBy.loop r ys (List.eraseDupsBy.loop r xs seen).reverse := by
  induction xs generalizing seen with
  | nil => rw [List.nil_append, List.eraseDupsBy.loop, List.reverse_reverse]
  | cons x xs ih =>
    rw [List.cons_append, List.eraseDupsBy.loop, List.eraseDupsBy.loop]
    cases seen.any (r x) with
    | true => exact ih seen
    | false => exact ih (x :: seen)

theorem eraseDupsBy_concat {α : Type} (r : α → α → Bool) (xs : List α) (x : α) :
    (xs ++ [x]).eraseDupsBy r =
      if (xs.eraseDupsBy r).any (r x) then xs.eraseDupsBy r else xs.eraseDupsBy r ++ [x] := by
  rw [List.eraseDupsBy, eraseDupsBy_loop_append, ← List.eraseDupsBy, List.eraseDupsBy.loop,
    List.any_reverse]
  cases h : (xs.eraseDupsBy r).any (r x) <;> simp [List.eraseDupsBy.loop]

theorem eraseDups_concat {α : Type} [BEq α] [LawfulBEq α] (xs : List α) (x : α) :
    (xs ++ [x]).eraseDups = if x ∈ xs then xs.eraseDups else xs.eraseDups ++ [x] := by
  rw [List.eraseDups, eraseDupsBy_concat, ← List.eraseDups]
  by_cases h : x ∈ xs <;> simp [h]

theorem nodup_eraseDups {α : Type} [BEq α] [LawfulBEq α] (xs : List α) : xs.eraseDups.Nodup := by
  induction xs using List.reverseRecOn with
  | nil => exact List.nodup_nil
  | append_singleton xs x ih =>
    rw [eraseDups_concat]
    split
    · exact ih
    · next hx =>
      have hnew : x ∉ xs.eraseDups := by rwa [List.mem_eraseDups]
      rw [← List.concat_eq_append]
      exact ih.concat hnew

/-- Where one key makes two things the same, those that are kept have different keys. -/
theorem map_eraseDupsBy {α β : Type} [BEq β] [LawfulBEq β] (key : α → β) (xs : List α) :
    (xs.eraseDupsBy fun x y => key x == key y).map key = (xs.map key).eraseDups := by
  induction xs using List.reverseRecOn with
  | nil => rfl
  | append_singleton xs x ih =>
    have hseen : (xs.eraseDupsBy fun x y => key x == key y).any (key x == key ·) = true ↔
        key x ∈ xs.map key := by
      rw [← List.mem_eraseDups, ← ih, List.any_eq_true, List.mem_map]
      simp only [beq_iff_eq, eq_comm (a := key x)]
    rw [eraseDupsBy_concat, List.map_append, List.map_singleton, eraseDups_concat, ← ih]
    simp only [hseen]
    split
    · rfl
    · rw [List.map_append, List.map_singleton]

/-- Of two members of a list without repetition, either one or both are counted. -/
theorem countP_pair {α : Type} [BEq α] [LawfulBEq α] {xs : List α} (hxs : xs.Nodup) {x y : α}
    (hx : x ∈ xs) (hy : y ∈ xs) :
    xs.countP (fun z => z == x || z == y) = if x == y then 1 else 2 := by
  have hperm (zs : List α) (hzs : zs.Nodup) (hmem : ∀ z, z ∈ zs ↔ z = x ∨ z = y) :
      xs.countP (fun z => z == x || z == y) = zs.length := by
    rw [List.countP_eq_length_filter]
    refine ((List.perm_ext_iff_of_nodup (hxs.filter _) hzs).mpr fun z => ?_).length_eq
    rw [List.mem_filter, Bool.or_eq_true, beq_iff_eq, beq_iff_eq, hmem z]
    constructor
    · exact And.right
    · intro h
      rcases h with rfl | rfl
      · exact ⟨hx, .inl rfl⟩
      · exact ⟨hy, .inr rfl⟩
  by_cases h : x = y
  · have hone : ∀ z, z ∈ [x] ↔ z = x ∨ z = y := fun z => by simp [h]
    rw [if_pos (beq_iff_eq.mpr h), hperm [x] (List.nodup_singleton x) hone]
    rfl
  · have htwo : [x, y].Nodup := by simp [h]
    rw [if_neg (mt beq_iff_eq.mp h), hperm [x, y] htwo fun z => by simp]
    rfl

namespace Legend

/-- The names that stand beside a color, in their order. -/
def named (fills : List (String × String)) (color : String) : List String :=
  (fills.filter (·.2 = color)).map (·.1)

theorem named_concat (fills : List (String × String)) (f : String × String) (color : String) :
    named (fills ++ [f]) color = named fills color ++ if f.2 = color then [f.1] else [] := by
  rw [named, List.filter_append, List.map_append, ← named]
  by_cases h : f.2 = color <;> simp [h]

theorem mem_named_iff {fills : List (String × String)} {name color : String} :
    name ∈ named fills color ↔ (name, color) ∈ fills := by
  simp [named]

/-- What is listed is the first of all names that differ in letter case only. -/
theorem foldl_addName (names : List String) :
    names.foldl addName [] = names.eraseDupsBy sameIgnoringCase := by
  induction names using List.reverseRecOn with
  | nil => rfl
  | append_singleton names name ih =>
    have hsame : (sameIgnoringCase · name) = sameIgnoringCase name :=
      funext fun n => Bool.beq_comm
    rw [List.foldl_append, ih, List.foldl_cons, List.foldl_nil, addName, hsame, eraseDupsBy_concat]

/-- The groups that fills make. -/
def groupsOf (fills : List (String × String)) : Table (List String) :=
  fills.foldl (fun groups f => addFill groups f.2 f.1) []

theorem groups_eq_groupsOf (config : Config) (commands : List Command) :
    groups config commands = groupsOf (fills config commands) := rfl

theorem groupsOf_concat (fills : List (String × String)) (f : String × String) :
    groupsOf (fills ++ [f]) = addFill (groupsOf fills) f.2 f.1 := by
  rw [groupsOf, List.foldl_append]
  rfl

theorem names_groupsOf (fills : List (String × String)) :
    (groupsOf fills).names = (fills.map (·.2)).eraseDups := by
  induction fills using List.reverseRecOn with
  | nil => rfl
  | append_singleton fills f ih =>
    rw [groupsOf_concat, addFill, Table.names_insert, ih, List.map_append, List.map_singleton,
      eraseDups_concat]
    simp only [List.mem_eraseDups]

theorem nodup_names_groupsOf (fills : List (String × String)) : (groupsOf fills).names.Nodup :=
  names_groupsOf fills ▸ nodup_eraseDups _

theorem get?_groupsOf (fills : List (String × String)) (color : String) :
    ((groupsOf fills).get? color).getD [] = (named fills color).eraseDupsBy sameIgnoringCase := by
  rw [← foldl_addName]
  induction fills using List.reverseRecOn with
  | nil => rfl
  | append_singleton fills f ih =>
    rw [groupsOf_concat, addFill, Table.get?_insert, named_concat, List.foldl_append, ← ih]
    by_cases h : f.2 = color
    · rw [if_pos h.symm, if_pos h, h]
      rfl
    · rw [if_neg (Ne.symm h), if_neg h]
      rfl

/-- The names listed for a color: of names that differ in letter case only, the first. -/
def listed (fills : List (String × String)) (color : String) : List String :=
  (named fills color).eraseDupsBy sameIgnoringCase

/-- Of two names that stand beside a color, as many are listed as `A` to `Z` tell apart. -/
theorem countP_listed {fills : List (String × String)} {color a b : String}
    (ha : a ∈ named fills color) (hb : b ∈ named fills color) :
    (listed fills color).countP (fun n => sameIgnoringCase n a || sameIgnoringCase n b) =
      if sameIgnoringCase a b then 1 else 2 := by
  let key (n : String) : List Char := asciiLower n.toList
  have hkeys : (listed fills color).map key = ((named fills color).map key).eraseDups :=
    map_eraseDupsBy key _
  have hmem {n : String} (hn : n ∈ named fills color) : key n ∈ (listed fills color).map key := by
    rw [hkeys, List.mem_eraseDups]
    exact List.mem_map_of_mem hn
  have hpair := countP_pair (hkeys ▸ nodup_eraseDups _) (hmem ha) (hmem hb)
  rw [List.countP_map] at hpair
  exact hpair

end Legend

namespace Script

open Legend

variable {config : Config} {script : Script}

/-- There is an entry for each color drawn, in the order in which the colors first come. -/
theorem legend_eq_map (config : Config) (script : Script) :
    script.legend config = (((fills config script.commands).map (·.2)).eraseDups).map fun color =>
      ⟨", ".intercalate (listed (fills config script.commands) color), color⟩ := by
  have hgroup {g : String × List String} (hg : g ∈ groupsOf (fills config script.commands)) :
      g.2 = listed (fills config script.commands) g.1 := by
    have hget := (Table.get?_eq_some_iff (nodup_names_groupsOf _)).mpr hg
    rw [listed, ← get?_groupsOf, hget, Option.getD_some]
  rw [legend, groups_eq_groupsOf, ← names_groupsOf, Table.names, List.map_map]
  refine List.map_congr_left fun g hg => ?_
  rw [Function.comp_apply, hgroup hg]

theorem map_color_legend (config : Config) (script : Script) :
    (script.legend config).map (·.color) =
      ((fills config script.commands).map (·.2)).eraseDups := by
  rw [legend_eq_map, List.map_map]
  exact List.map_id _

/-- A color that is drawn has one entry. -/
theorem filter_legend {name color : String} (h : (name, color) ∈ fills config script.commands) :
    (script.legend config).filter (·.color = color) =
      [⟨", ".intercalate (listed (fills config script.commands) color), color⟩] := by
  have hmem : color ∈ ((fills config script.commands).map (·.2)).eraseDups := by
    rw [List.mem_eraseDups]
    exact List.mem_map_of_mem h
  rw [legend_eq_map, List.filter_map]
  have hone :
      (((fills config script.commands).map (·.2)).eraseDups).filter (· = color) = [color] := by
    rw [List.filter_eq, List.count_eq_one_of_mem (nodup_eraseDups _) hmem]
    rfl
  exact congrArg _ hone

theorem mem_fills_of_mem_commands {c : Command} (hc : c ∈ script.commands) {name token : String}
    (hfill : c.fill? = some (name, token)) :
    (name, config.resolveColor (some token)) ∈ fills config script.commands :=
  List.mem_map_of_mem (List.mem_filterMap.mpr ⟨c, hc, hfill⟩)

/-- Two commands for one country, as the diagnostics see it, that are drawn in one color: the entry
of that color lists both spellings unless they differ in the case of `A` to `Z` only. -/
theorem legend_one_country (config : Config) (script : Script) {a b s t : String} {m n : Animation}
    (ha : .country a s m ∈ script.commands) (hb : .country b t n ∈ script.commands)
    (hcolor : config.resolveColor (some s) = config.resolveColor (some t))
    (hname : lowercase a = lowercase b) :
    let color := config.resolveColor (some s)
    let names := listed (fills config script.commands) color
    let spellings := names.countP fun n => sameIgnoringCase n a || sameIgnoringCase n b
    (script.legend config).filter (·.color = color) = [⟨", ".intercalate names, color⟩] ∧
      spellings = (if sameIgnoringCase a b then 1 else 2) ∧
      ((∀ c ∈ a.toList ++ b.toList, c.toNat < 0x80) → spellings = 1) := by
  intro color names spellings
  have hfirst : (a, color) ∈ fills config script.commands := mem_fills_of_mem_commands ha rfl
  have hsecond : (b, color) ∈ fills config script.commands := by
    rw [show color = _ from hcolor]
    exact mem_fills_of_mem_commands hb rfl
  have hcount : spellings = if sameIgnoringCase a b then 1 else 2 :=
    countP_listed (mem_named_iff.mpr hfirst) (mem_named_iff.mpr hsecond)
  refine ⟨filter_legend hfirst, hcount, fun hascii => ?_⟩
  have hsame : sameIgnoringCase a b = true :=
    sameIgnoringCase_of_ascii (fun c hc => hascii c (List.mem_append_left _ hc))
      (fun c hc => hascii c (List.mem_append_right _ hc)) hname
  rw [hcount, if_pos hsame]

/-- A script that names one country three times: the second time as the first but for the case of
`A` to `Z`, the third time not. -/
def threeSpellings : Script := ofText "Åland: red\nÅLAND: #ff4757\nåland: Red"

theorem legend_one_country_spellings :
    (threeSpellings.legend .standard).filter (·.color = "#ff4757") = [⟨"Åland, åland", "#ff4757"⟩] ∧
      (listed (fills .standard threeSpellings.commands) "#ff4757").countP
        (fun n => sameIgnoringCase n "Åland" || sameIgnoringCase n "ÅLAND") = 1 ∧
      (listed (fills .standard threeSpellings.commands) "#ff4757").countP
        (fun n => sameIgnoringCase n "Åland" || sameIgnoringCase n "åland") = 2 := by
  have hcommands : threeSpellings.commands = [.country "Åland" "red" .none,
      .country "ÅLAND" "#ff4757" .none, .country "åland" "Red" .none] := by decide +kernel
  have hlisted :
      listed (fills .standard threeSpellings.commands) "#ff4757" = ["Åland", "åland"] := by
    decide +kernel
  have hred : Config.standard.resolveColor (some "red") = "#ff4757" := by decide +kernel
  have hfirst : .country "Åland" "red" .none ∈ threeSpellings.commands := by simp [hcommands]
  have hsecond : .country "ÅLAND" "#ff4757" .none ∈ threeSpellings.commands := by simp [hcommands]
  have hthird : .country "åland" "Red" .none ∈ threeSpellings.commands := by simp [hcommands]
  obtain ⟨hentry, hone, -⟩ := legend_one_country .standard threeSpellings hfirst hsecond
    (by decide +kernel) (by decide +kernel)
  obtain ⟨-, htwo, -⟩ := legend_one_country .standard threeSpellings hfirst hthird
    (by decide +kernel) (by decide +kernel)
  rw [hred] at hentry hone htwo
  rw [hlisted] at hentry
  exact ⟨hentry, hone, htwo⟩

/-- What is one country to the diagnostics is not always listed under one name. -/
theorem not_legend_one_country :
    ¬ ∀ (config : Config) (script : Script) (a b s t : String) (m n : Animation),
      .country a s m ∈ script.commands → .country b t n ∈ script.commands →
        config.resolveColor (some s) = config.resolveColor (some t) →
        lowercase a = lowercase b →
        (listed (fills config script.commands) (config.resolveColor (some s))).countP
          (fun n => sameIgnoringCase n a || sameIgnoringCase n b) = 1 := by
  intro h
  have hone := h .standard (ofText "Åland: red\nåland: red") "Åland" "åland" "red" "red" .none .none
    (by decide +kernel) (by decide +kernel) rfl (by decide +kernel)
  revert hone
  decide +kernel

end Script

end ScriptedMap
