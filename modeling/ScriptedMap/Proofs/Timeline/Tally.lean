import ScriptedMap.CommandLine
import ScriptedMap.Proofs.Timeline.Mirror
import ScriptedMap.Proofs.Timeline.States

namespace ScriptedMap

/-- Commands with the keyword put something new on the map. -/
def Keyword.draws : Keyword → Bool
  | country => true
  | region => true
  | line => true
  | attack => true
  | bubble => true
  | label => true
  | arrow => true
  | effect => true
  | _ => false

/-- The event tells that the command of the given number was skipped. -/
def Event.skips (index : Nat) : Event → Bool
  | skipped i _ _ => i == index
  | _ => false

namespace Call

theorem isDraw_of_mem_keywords {Id : Type} {call : Call Id} {keyword : Keyword}
    (h : keyword ∈ call.keywords) : call.isDraw = keyword.draws := by
  cases call with
  | drawTerritory name color fill =>
    rcases List.mem_cons.mp h with rfl | h
    · rfl
    · rw [List.mem_singleton.mp h]
      rfl
  | drawArrow source target color style labels =>
    rcases List.mem_cons.mp h with rfl | h
    · rfl
    · rw [List.mem_singleton.mp h]
      rfl
  | placeMarker id marker place anchor =>
    rw [List.mem_singleton.mp h]
    cases marker <;> rfl
  | clearAll => cases h
  | _ =>
    rw [List.mem_singleton.mp h]
    rfl

theorem wait_not_mem_keywords {Id : Type} (call : Call Id) : Keyword.wait ∉ call.keywords := by
  cases call with
  | placeMarker id marker place anchor => cases marker <;> simp [keywords, Marker.keyword]
  | _ => simp [keywords]

@[simp] theorem isDraw_numbered (number : Nat) (r : Request) :
    (r.numbered number).isDraw = r.isDraw := by
  cases r <;> rfl

end Call

namespace Surface

theorem length_numberAll (next : Nat) (rs : List Request) :
    (numberAll next rs).length = rs.length := by
  induction rs generalizing next with
  | nil => rfl
  | cons r rs ih => simp [numberAll, ih]

theorem countP_isDraw_numberAll (next : Nat) (rs : List Request) :
    (numberAll next rs).countP Call.isDraw = rs.countP Call.isDraw := by
  induction rs generalizing next with
  | nil => rfl
  | cons r rs ih => simp [numberAll, List.countP_cons, ih]

end Surface

namespace Scene

variable (scene : Scene) (script : Script)

def isSkipped (c : Command) : Bool := (scene.skip? script c).isSome

/-- A command is a wait, or it is skipped, or it makes one call, which draws if the command does. -/
theorem requests_one (c : Command) :
    c.keyword = .wait ∧ scene.isSkipped script c = false ∧ scene.requests script [c] = [] ∨
    c.keyword ≠ .wait ∧ scene.isSkipped script c = true ∧ scene.requests script [c] = [] ∨
    c.keyword ≠ .wait ∧ scene.isSkipped script c = false ∧
      ∃ r, scene.requests script [c] = [r] ∧ r.isDraw = c.keyword.draws := by
  cases hr : scene.request? script c with
  | error skip =>
    have hwait : c.keyword ≠ .wait := by
      intro hc
      cases c <;> cases hc
      cases hr
    have hcall : scene.call? script c = none := by rw [call?, hr]
    exact .inr (.inl ⟨hwait, by simp [isSkipped, skip?, hr], by simp [requests, hcall]⟩)
  | ok request =>
    have hasks := asks_of_request? hr
    have hskip : scene.isSkipped script c = false := by simp [isSkipped, skip?, hr]
    have hcall : scene.call? script c = request := by rw [call?, hr]
    cases request with
    | none => exact .inl ⟨hasks, hskip, by simp [requests, hcall]⟩
    | some r =>
      have hwait : c.keyword ≠ .wait := fun hc => r.wait_not_mem_keywords (hc ▸ hasks)
      exact .inr (.inr ⟨hwait, hskip, r, by simp [requests, hcall], r.isDraw_of_mem_keywords hasks⟩)

theorem length_requests (cs : List Command) :
    (scene.requests script cs).length + cs.countP (scene.isSkipped script) +
      cs.countP (·.keyword = .wait) = cs.length := by
  induction cs with
  | nil => rfl
  | cons c cs ih =>
    have hsplit : c :: cs = [c] ++ cs := rfl
    have hone : (scene.requests script [c]).length + [c].countP (scene.isSkipped script) +
        [c].countP (·.keyword = .wait) = 1 := by
      rcases scene.requests_one script c with ⟨hw, hs, hr⟩ | ⟨hw, hs, hr⟩ | ⟨hw, hs, r, hr, -⟩ <;>
        simp [hw, hs, hr]
    rw [hsplit, requests_append, List.length_append, List.countP_append, List.countP_append,
      List.length_append, List.length_singleton]
    omega

theorem countP_isDraw_requests (cs : List Command) :
    (scene.requests script cs).countP Call.isDraw =
      cs.countP fun c => c.keyword.draws && !scene.isSkipped script c := by
  induction cs with
  | nil => rfl
  | cons c cs ih =>
    have hsplit : c :: cs = [c] ++ cs := rfl
    rw [hsplit, requests_append, List.countP_append, List.countP_append, ih]
    rcases scene.requests_one script c with ⟨hw, hs, hr⟩ | ⟨hw, hs, hr⟩ | ⟨hw, hs, r, hr, hd⟩
    · simp [hs, hr, hw, Keyword.draws]
    · simp [hs, hr]
    · simp [hs, hr, hd]

theorem filter_isSkipped_told {n : Nat} {e : Entry} (he : script.entries[n]? = some e) :
    (scene.told script n).filter Event.isSkipped = scene.skips script (e, n) := by
  rw [told, he, List.filter_append]
  cases hs : scene.skip? script e.command <;>
    simp [skips, hs, Script.progress, Event.isSkipped]

/-- What a script that is played tells of skipped commands, is told by its numbered entries. -/
theorem filter_isSkipped_tale {last : Nat} (hlast : last ≤ script.length) :
    (scene.tale script 0 last).filter Event.isSkipped =
      (script.entries.take last).zipIdx.flatMap (scene.skips script) := by
  induction last with
  | zero => rw [tale_self]; rfl
  | succ n ih =>
    have hn : n < script.entries.length := hlast
    have he : script.entries[n]? = some script.entries[n] := List.getElem?_eq_getElem hn
    rw [← tale_append scene script (Nat.zero_le n) (Nat.le_succ n), tale_one, List.filter_append,
      ih (Nat.le_of_lt hn), scene.filter_isSkipped_told script he, List.take_add_one, he,
      List.zipIdx_append, List.flatMap_append]
    simp [Nat.min_eq_left (Nat.le_of_lt hn)]

theorem length_skips (numbered : Entry × Nat) :
    (scene.skips script numbered).length =
      (scene.isSkipped script numbered.1.command).toNat := by
  rw [skips, List.length_map, isSkipped]
  cases scene.skip? script numbered.1.command <;> rfl

theorem length_flatMap_skips (numbered : List (Entry × Nat)) :
    (numbered.flatMap (scene.skips script)).length =
      numbered.countP fun p => scene.isSkipped script p.1.command := by
  induction numbered with
  | nil => rfl
  | cons p ps ih =>
    rw [List.flatMap_cons, List.length_append, length_skips, ih, List.countP_cons]
    cases scene.isSkipped script p.1.command <;> simp [Nat.add_comm]

/-- Counting entries by what their commands are. -/
theorem countP_zipIdx (f : Command → Bool) :
    script.entries.zipIdx.countP (fun p => f p.1.command) = script.commands.countP f := by
  have hfst : script.entries.zipIdx.map (fun p => p.1) = script.entries := List.zipIdx_map_fst 0 _
  have hcommands : script.commands = script.entries.zipIdx.map (fun p => p.1.command) := by
    rw [Script.commands, ← hfst, List.map_map, hfst]
    rfl
  rw [hcommands, List.countP_map]
  rfl

theorem filter_isSkipped_filter (events : List Event) :
    (events.filter Event.ofCommand).filter Event.isSkipped = events.filter Event.isSkipped := by
  rw [List.filter_filter]
  congr 1
  funext event
  cases event <;> rfl

section Told

variable {scene : Scene} {script : Script} {events : List Event}
  (htold : events.filter Event.isSkipped = script.entries.zipIdx.flatMap (scene.skips script))

include htold

theorem countP_isSkipped :
    events.countP Event.isSkipped = script.commands.countP (scene.isSkipped script) := by
  rw [List.countP_eq_length_filter, htold, length_flatMap_skips, countP_zipIdx]

/-- The events tell of a command by its number that it is skipped if it is, and only then. -/
theorem any_skips {n : Nat} {e : Entry} (he : script.entries[n]? = some e) :
    events.any (Event.skips n) = scene.isSkipped script e.command := by
  rw [Bool.eq_iff_iff, List.any_eq_true, isSkipped, Option.isSome_iff_exists]
  constructor
  · rintro ⟨event, hmem, hskips⟩
    have hfilter : event ∈ events.filter Event.isSkipped := by
      refine List.mem_filter.mpr ⟨hmem, ?_⟩
      cases event with
      | skipped index line skip => rfl
      | _ => cases hskips
    rw [htold] at hfilter
    obtain ⟨⟨e', m⟩, hnumbered, hskip⟩ := List.mem_flatMap.mp hfilter
    obtain ⟨skip, hsome, rfl⟩ := List.mem_map.mp hskip
    have hm : m = n := of_decide_eq_true hskips
    have he' : script.entries[m]? = some e' := List.mem_zipIdx_iff_getElem?.mp hnumbered
    rw [hm, he] at he'
    cases he'
    exact ⟨skip, Option.mem_toList.mp hsome⟩
  · rintro ⟨skip, hskip⟩
    have hmem : Event.skipped n e.line skip ∈ events.filter Event.isSkipped := by
      rw [htold]
      refine List.mem_flatMap.mpr ⟨(e, n), List.mem_zipIdx_iff_getElem?.mpr he, ?_⟩
      exact List.mem_map.mpr ⟨skip, Option.mem_toList.mpr hskip, rfl⟩
    exact ⟨_, (List.mem_filter.mp hmem).1, decide_eq_true rfl⟩

end Told

/-- A script that is played through has made one call for each command that is neither skipped nor a
wait, and one to clear the surface. The calls that draw are as many as the commands that draw and of
which the events do not tell that they were skipped. -/
theorem playThrough_counts (scene : Scene) (script : Script) :
    let o := Invocation.playThrough scene script
    let calls := o.next.surface.calls
    let skipped := o.events.countP Event.isSkipped
    let waits := script.commands.countP (·.keyword = .wait)
    (script.length = 0 → o.status = some .nothingToRun ∧ calls = []) ∧
    (script.length ≠ 0 → o.status = some .done ∧
      o.next.cursor = script.length ∧ o.next.length = script.length ∧
      calls.length + skipped + waits = 1 + script.length ∧
      calls.countP Call.isDraw = script.entries.zipIdx.countP fun numbered =>
        numbered.1.command.keyword.draws && !o.events.any (Event.skips numbered.2)) := by
  intro o calls skipped waits
  let loaded := (Playback.initial.load script).next
  have hgo : GoesOnTo scene loaded o script.length := scene.run_none_goesOnTo (Nat.zero_le _)
  have hends : RunEnds loaded o := scene.run_ends rfl (Nat.zero_le _)
  have hstatus : o.status = some (if script.length = 0 then .nothingToRun else .done) :=
    hends.status_of_end hgo.cursor
  have hcalls : calls = scene.callsTo script script.length :=
    (congrArg Surface.calls hgo.surface).trans (calls_surfaceAt rfl _)
  have htold : o.events.filter Event.isSkipped =
      script.entries.zipIdx.flatMap (scene.skips script) := by
    have htale : o.events.filter Event.ofCommand = scene.tale script 0 script.length := hgo.events
    rw [← filter_isSkipped_filter, htale, scene.filter_isSkipped_tale script (Nat.le_refl _),
      Script.length, List.take_length]
  constructor
  · intro hzero
    rw [if_pos hzero] at hstatus
    rw [callsTo, if_pos hzero] at hcalls
    exact ⟨hstatus, hcalls⟩
  · intro hpos
    rw [if_neg hpos] at hstatus
    have hpicture : (scene.picture script script.length).calls =
        Surface.numberAll 0 (scene.requests script script.commands) := by
      rw [calls_picture, ← Script.length_commands, List.take_length]
    have hlist : calls = .clearAll ::
        Surface.numberAll 0 (scene.requests script script.commands) := by
      rw [hcalls, callsTo, if_neg hpos, hpicture]
    refine ⟨hstatus, hgo.cursor, congrArg Script.length hgo.script, ?_, ?_⟩
    · have hcount := scene.length_requests script script.commands
      rw [Script.length_commands] at hcount
      have hskipped : skipped = script.commands.countP (scene.isSkipped script) :=
        countP_isSkipped htold
      rw [hlist, List.length_cons, Surface.length_numberAll, hskipped]
      omega
    · have hdraw : calls.countP Call.isDraw =
          (scene.requests script script.commands).countP Call.isDraw := by
        rw [hlist, List.countP_cons_of_neg (by decide), Surface.countP_isDraw_numberAll]
      rw [hdraw, countP_isDraw_requests, ← countP_zipIdx]
      apply List.countP_congr
      rintro ⟨e, n⟩ hnumbered
      have he : script.entries[n]? = some e := List.mem_zipIdx_iff_getElem?.mp hnumbered
      rw [any_skips htold he]

/-- Two commands are skipped, one of them would have drawn; one waits, and two make calls. -/
theorem playThrough_counts_five_commands :
    let script :=
      Script.ofText "Lydia: red\nzoom: Lydia\nwait: 5ms\nyear: \"1991\"\nbubble: 1, 2, \"x\""
    let o := Invocation.playThrough bare script
    script.length ≠ 0 ∧ script.length = 5 ∧ o.events.countP Event.isSkipped = 2 ∧
      o.status = some .done ∧ o.next.cursor = 5 ∧ o.next.surface.calls.length = 3 ∧
      o.next.surface.calls.countP Call.isDraw = 1 := by
  intro script o
  have hlength : script.length = 5 := by decide +kernel
  have hpos : script.length ≠ 0 := by rw [hlength]; decide
  have hskipped : o.events.countP Event.isSkipped = 2 := by decide +kernel
  have hwaits : script.commands.countP (·.keyword = .wait) = 1 := by decide +kernel
  obtain ⟨hstatus, hcursor, -, hcalls, hdraws⟩ := (bare.playThrough_counts script).2 hpos
  refine ⟨hpos, hlength, hskipped, hstatus, hcursor.trans hlength, ?_, ?_⟩
  · change o.next.surface.calls.length + _ + _ = _ at hcalls
    rw [hskipped, hwaits, hlength] at hcalls
    omega
  · rw [hdraws]
    decide +kernel

end Scene

end ScriptedMap
