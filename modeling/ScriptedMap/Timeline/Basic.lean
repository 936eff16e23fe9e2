import ScriptedMap.Timeline.Playback

namespace ScriptedMap

structure Receiver where
  isOpen : Bool
  /-- The events told and not yet taken, the oldest first. -/
  inbox : List Event
deriving DecidableEq, Repr

/-- The receiver after some more events. -/
def Receiver.tell (r : Receiver) (events : List Event) : Receiver :=
  if r.isOpen then { r with inbox := r.inbox ++ events } else r

/-- A playback and those who are told its events, numbered in the order in which they come. -/
structure Timeline where
  playback : Playback
  receivers : List Receiver
deriving DecidableEq, Repr

namespace Timeline

def initial : Timeline := ⟨.initial, []⟩

/-- Adds a receiver, which is told the events from now on. -/
def subscribe (t : Timeline) : Timeline := { t with receivers := t.receivers ++ [⟨true, []⟩] }

/-- Closes the receiver of the given number. -/
def unsubscribe (t : Timeline) (id : Nat) : Timeline :=
  { t with receivers := t.receivers.modify id fun _ => ⟨false, []⟩ }

def draw (t : Timeline) (request : Request) : Timeline :=
  { t with playback := t.playback.draw request }

/-- The timeline after an operation with the given outcome. -/
def after (t : Timeline) (o : Outcome) : Timeline :=
  ⟨o.next, t.receivers.map (·.tell o.events)⟩

def perform (scene : Scene) (t : Timeline) (operation : Operation) : Timeline :=
  t.after (scene.perform t.playback operation)

/-- What the receivers have been told, and nothing for a closed one. -/
def inboxes (t : Timeline) : List (Option (List Event)) :=
  t.receivers.map fun r => if r.isOpen then some r.inbox else none

/-- All events are taken from the receivers. -/
def taken (t : Timeline) : Timeline :=
  { t with receivers := t.receivers.map fun r => { r with inbox := [] } }

end Timeline

end ScriptedMap
