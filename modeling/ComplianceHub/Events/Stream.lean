import ComplianceHub.Lib.Run
import Mathlib

/-!
# The event streams of one instance

An instance sends its own events and those of the other instances to the streams it serves, and keeps the last thousand
of its own for clients that reconnect.

* `SseService`, `Input`, `handle` : the service, with everything it has seen on record (`seen`); `sse` : its runs;
* `Recorded` : the record, the ids and the kept events agree after every run;
* `Recorded.replayEvents_eq` : the replay as a part of the record;
* `reconnect_replays_iff` : when a stream that starts after an event delivers exactly what was seen after it.

The payload of an event is a parameter. A stream is subscribed as soon as it is returned.
-/

namespace ComplianceHub.Events
open Lib

variable {α : Type}

structure SseEvent (α : Type) where
  id : Option String := none
  type : String
  payload : Option α := none
  targetUserId : Option Nat := none
deriving DecidableEq, Repr

structure SseEnvelope (α : Type) where
  sourceId : String
  event : Option (SseEvent α)
deriving DecidableEq, Repr

/-- An event that the instance has seen. `serial` is its place among them and `own` tells that the instance emitted it;
the code has neither. They tell events with equal fields apart, as the identity of the objects does. -/
structure Seen (α : Type) extends SseEvent α where
  serial : Nat
  own : Bool
deriving DecidableEq, Repr

/-- A message on a stream; that of an event has the event's id, type and payload. -/
inductive Delivery (α : Type) where
  | event (event : Seen α)
  | heartbeat (timestamp : Int)
deriving DecidableEq, Repr

/-- A stream, with what it has delivered so far. -/
structure EventStream (α : Type) where
  userId : Nat
  connected : Bool := true
  delivered : List (Delivery α) := []
deriving DecidableEq, Repr

structure SseService (α : Type) where
  eventSequence : Nat := 0
  replayBuffer : List (Seen α) := []
  streams : List (EventStream α) := []
  /-- The events that went through `eventSubject`, in their order. -/
  seen : List (Seen α) := []
deriving DecidableEq, Repr

/-- The filter of both the replay and the live events. -/
def addressed (userId : Nat) (event : Seen α) : Bool :=
  event.targetUserId.all fun targetUserId => targetUserId = userId

def Delivery.event? : Delivery α → Option (Seen α)
  | .event e => some e
  | .heartbeat _ => none

def EventStream.events (stream : EventStream α) : List (Seen α) := stream.delivered.filterMap Delivery.event?

def EventStream.push (stream : EventStream α) (event : Seen α) : EventStream α :=
  if stream.connected && addressed stream.userId event then
    { stream with delivered := stream.delivered ++ [.event event] }
  else stream

/-! ## The service -/

namespace SseService

/-- `eventSubject.next` -/
def next (st : SseService α) (event : Seen α) : SseService α :=
  { st with streams := st.streams.map fun stream => stream.push event, seen := st.seen ++ [event] }

def emit (st : SseService α) (event : SseEvent α) : SseService α :=
  let eventSequence := st.eventSequence + 1
  let event : Seen α :=
    { toSseEvent := { event with id := some (Nat.repr eventSequence) }, serial := st.seen.length, own := true }
  let replayBuffer := st.replayBuffer ++ [event]
  { st with
    eventSequence
    replayBuffer := if 1000 < replayBuffer.length then replayBuffer.tail else replayBuffer }.next event

/-- The handler that `onModuleInit` subscribes. -/
def onMessage (instanceId : String) (st : SseService α) : Option (SseEnvelope α) → SseService α
  | none => st
  | some message =>
    if message.sourceId = instanceId then st
    else
      match message.event with
      | none => st
      | some event => st.next { toSseEvent := event, serial := st.seen.length, own := false }

def replayEvents (replayBuffer : List (Seen α)) (lastEventId : Option String) : List (Seen α) :=
  let replayStart := lastEventId.bind fun lastEventId =>
    if lastEventId = "" then none else replayBuffer.findIdx? fun event => event.id = some lastEventId
  match replayStart with
  | some replayStart => replayBuffer.drop (replayStart + 1)
  | none => []

def getEventStream (st : SseService α) (userId : Nat) (lastEventId : Option String) : EventStream α :=
  { userId, delivered := ((replayEvents st.replayBuffer lastEventId).filter (addressed userId)).map .event }

end SseService

/-- What happens at an instance, one after the other. -/
inductive Input (α : Type) where
  | emit (event : SseEvent α)
  | message (message : Option (SseEnvelope α))
  | connect (userId : Nat) (lastEventId : Option String)
  | heartbeat (stream : Nat) (timestamp : Int)
  | disconnect (stream : Nat)

def SseService.handle (instanceId : String) (st : SseService α) : Input α → SseService α
  | .emit event => st.emit event
  | .message message => st.onMessage instanceId message
  | .connect userId lastEventId => { st with streams := st.streams ++ [st.getEventStream userId lastEventId] }
  | .heartbeat stream timestamp =>
    { st with streams := st.streams.modify stream fun stream =>
        if stream.connected then { stream with delivered := stream.delivered ++ [.heartbeat timestamp] } else stream }
  | .disconnect stream =>
    { st with streams := st.streams.modify stream fun stream => { stream with connected := false } }

/-- The runs of an instance. -/
def sse (α : Type) (instanceId : String) : System (SseService α) (Input α) where
  init st := st = {}
  step st input st' := st' = st.handle instanceId input

def emitDutyUpdated : SseEvent α := { type := "DUTY_UPDATED" }

def emitNotificationCreated (targetUserId : Nat) : SseEvent α :=
  { type := "NOTIFICATION_CREATED", targetUserId := some targetUserId }

/-! ## Numbered lists -/

section
variable {β : Type} {number : β → Nat} {first later : List β} {e : β}

/-- What follows an element has the greater numbers. -/
theorem filter_after (h : (first ++ e :: later).Pairwise fun a b => number a < number b) :
    ((first ++ e :: later).filter fun f => number e < number f) = later := by
  obtain ⟨-, hrest, hfirst⟩ := List.pairwise_append.mp h
  obtain ⟨hlater, -⟩ := List.pairwise_cons.mp hrest
  have hnone : (first.filter fun f => number e < number f) = [] := by
    apply List.filter_eq_nil_iff.mpr
    intro f hf hlt
    exact absurd (hfirst f hf e List.mem_cons_self) (not_lt.mpr (decide_eq_true_eq.mp hlt).le)
  have hall : (later.filter fun f => number e < number f) = later :=
    List.filter_eq_self.mpr fun f hf => decide_eq_true (hlater f hf)
  rw [List.filter_append, hnone, List.filter_cons_of_neg (by simp), hall, List.nil_append]

/-- A buffer of the last `n` elements, after one more. -/
theorem keepLast_append (n : Nat) (l : List β) (a : β) :
    (if n < (l.drop (l.length - n) ++ [a]).length then (l.drop (l.length - n) ++ [a]).tail
      else l.drop (l.length - n) ++ [a]) = (l ++ [a]).drop ((l ++ [a]).length - n) := by
  rw [List.length_append, List.length_append, List.length_singleton, List.length_drop,
    ← List.drop_append_of_le_length (Nat.sub_le _ _)]
  split_ifs with hfull
  · rw [← List.drop_one, List.drop_drop]
    congr 1
    omega
  · congr 1
    omega

theorem filter_eq_filter_iff {p q : β → Bool} {l : List β} : l.filter p = l.filter q ↔ ∀ a ∈ l, p a = q a := by
  constructor
  · intro h a ha
    rw [Bool.eq_iff_iff]
    have hmem : a ∈ l.filter p ↔ a ∈ l.filter q := by rw [h]
    simpa only [List.mem_filter, ha, true_and] using hmem
  · exact List.filter_congr

end

/-! ## The record -/

/-- The events that the instance emitted. -/
def SseService.emitted (st : SseService α) : List (Seen α) := st.seen.filter Seen.own

/-- The record, the ids and the kept events agree. -/
structure Recorded (st : SseService α) : Prop where
  serials : st.seen.map Seen.serial = List.range st.seen.length
  ids : st.emitted.map (fun event => event.id) = (List.range st.emitted.length).map fun k => some (Nat.repr (k + 1))
  eventSequence : st.eventSequence = st.emitted.length
  replayBuffer : st.replayBuffer = st.emitted.drop (st.emitted.length - 1000)

/-- What the steps do to the record. -/
theorem SseService.emitted_next (st : SseService α) (event : Seen α) :
    (st.next event).emitted = st.emitted ++ if event.own then [event] else [] := by
  unfold emitted next
  rw [List.filter_append]
  by_cases hown : event.own = true
  · rw [List.filter_cons_of_pos hown, if_pos hown, List.filter_nil]
  · rw [List.filter_cons_of_neg hown, if_neg hown, List.filter_nil]

theorem serials_next {st : SseService α} {event : Seen α} (h : st.seen.map Seen.serial = List.range st.seen.length)
    (hserial : event.serial = st.seen.length) :
    (st.next event).seen.map Seen.serial = List.range (st.next event).seen.length := by
  show (st.seen ++ [event]).map Seen.serial = List.range (st.seen ++ [event]).length
  rw [List.map_append, h, List.length_append, List.length_singleton, List.range_succ, List.map_singleton, hserial]

theorem Recorded.emit {st : SseService α} (h : Recorded st) (event : SseEvent α) : Recorded (st.emit event) := by
  unfold SseService.emit
  constructor
  · exact serials_next h.serials rfl
  · rw [SseService.emitted_next, if_pos rfl]
    show (st.emitted ++ [_]).map _ = (List.range (st.emitted ++ [_]).length).map _
    rw [List.map_append, h.ids, List.length_append, List.length_singleton, List.range_succ, List.map_append,
      List.map_singleton, List.map_singleton, h.eventSequence]
  · rw [SseService.emitted_next, if_pos rfl, List.length_append, List.length_singleton]
    show st.eventSequence + 1 = st.emitted.length + 1
    rw [h.eventSequence]
  · rw [SseService.emitted_next, if_pos rfl]
    show (if 1000 < (st.replayBuffer ++ [_]).length then (st.replayBuffer ++ [_]).tail else st.replayBuffer ++ [_]) = _
    rw [h.replayBuffer]
    exact keepLast_append 1000 st.emitted _

theorem Recorded.receive {st : SseService α} (h : Recorded st) {event : Seen α} (hserial : event.serial = st.seen.length)
    (hown : event.own = false) : Recorded (st.next event) := by
  have hemitted : (st.next event).emitted = st.emitted := by
    rw [SseService.emitted_next, hown, if_neg Bool.false_ne_true, List.append_nil]
  constructor
  · exact serials_next h.serials hserial
  · rw [hemitted]
    exact h.ids
  · rw [hemitted]
    exact h.eventSequence
  · rw [hemitted]
    exact h.replayBuffer

/-- Only the events of the record matter to it. -/
theorem Recorded.streams {st : SseService α} (h : Recorded st) (streams : List (EventStream α)) :
    Recorded { st with streams } := ⟨h.serials, h.ids, h.eventSequence, h.replayBuffer⟩

theorem Recorded.handle {instanceId : String} {st : SseService α} (h : Recorded st) (input : Input α) :
    Recorded (st.handle instanceId input) := by
  cases input with
  | emit event => exact h.emit event
  | message message =>
    cases message with
    | none => exact h
    | some message =>
      show Recorded (if message.sourceId = instanceId then st else _)
      by_cases hsource : message.sourceId = instanceId
      · rw [if_pos hsource]
        exact h
      · rw [if_neg hsource]
        cases message.event with
        | none => exact h
        | some event => exact h.receive rfl rfl
  | connect userId lastEventId => exact h.streams _
  | heartbeat stream timestamp => exact h.streams _
  | disconnect stream => exact h.streams _

theorem run_recorded {instanceId : String} {history : List (Transition (SseService α) (Input α))} {st : SseService α}
    (h : Run (sse α instanceId) history st) : Recorded st := by
  refine h.always (P := fun _ => True) ?_ ?_ fun _ _ => trivial
  · rintro _ rfl
    exact ⟨rfl, rfl, rfl, List.drop_nil.symm⟩
  · rintro st input _ hst rfl -
    exact hst.handle input

section
variable {st : SseService α} (h : Recorded st)
include h

/-- The serials increase along the record. -/
theorem Recorded.pairwise : st.seen.Pairwise fun a b => a.serial < b.serial := by
  apply List.pairwise_map.mp
  rw [h.serials]
  exact List.pairwise_lt_range

theorem Recorded.pairwise_emitted : st.emitted.Pairwise fun a b => a.serial < b.serial :=
  h.pairwise.sublist List.filter_sublist

/-- The instance gives no id twice. -/
theorem Recorded.nodup_ids : (st.emitted.map fun event => event.id).Nodup := by
  rw [h.ids]
  refine (List.nodup_map_iff_inj_on List.nodup_range).mpr fun a _ b _ hab => ?_
  exact Nat.succ.inj (Nat.repr_inj.mp (Option.some.inj hab))

/-- The id names one of the kept events. -/
theorem Recorded.eq_of_id {a b : Seen α} (ha : a ∈ st.emitted) (hb : b ∈ st.emitted) (hid : a.id = b.id) : a = b :=
  List.inj_on_of_nodup_map h.nodup_ids ha hb hid

theorem Recorded.emitted_of_mem {event : Seen α} (hevent : event ∈ st.replayBuffer) : event ∈ st.emitted := by
  rw [h.replayBuffer] at hevent
  exact List.mem_of_mem_drop hevent

theorem Recorded.id_ne_empty {event : Seen α} (hevent : event ∈ st.emitted) : event.id ≠ some "" := by
  intro hempty
  have hid := List.mem_map_of_mem (f := fun event : Seen α => event.id) hevent
  rw [h.ids, hempty] at hid
  obtain ⟨k, -, hk⟩ := List.mem_map.mp hid
  exact Nat.repr_ne_empty (Option.some.inj hk)

/-- An event of the instance is kept until a thousand have followed. -/
theorem Recorded.kept {first later : List (Seen α)} {e : Seen α} (hseen : st.seen = first ++ e :: later)
    (hown : e.own = true) (hfew : later.length < 1000) : e ∈ st.replayBuffer := by
  have hemitted : st.emitted = first.filter Seen.own ++ e :: later.filter Seen.own := by
    unfold SseService.emitted
    rw [hseen, List.filter_append, List.filter_cons_of_pos hown]
  have hle : (later.filter Seen.own).length ≤ later.length := List.length_filter_le _ _
  rw [h.replayBuffer, hemitted, List.length_append, List.length_cons, List.drop_append_of_le_length (by omega)]
  exact List.mem_append_right _ List.mem_cons_self

/-- The replay is what the instance emitted after the kept event with the id. -/
theorem Recorded.replayEvents_eq (x : String) :
    SseService.replayEvents st.replayBuffer (some x) = st.seen.filter fun f =>
      f.own && st.replayBuffer.any fun kept => decide (kept.id = some x) && decide (kept.serial < f.serial) := by
  have hnone (hno : ∀ kept ∈ st.replayBuffer, kept.id ≠ some x) : (st.seen.filter fun f =>
      f.own && st.replayBuffer.any fun kept => decide (kept.id = some x) && decide (kept.serial < f.serial)) = [] := by
    apply List.filter_eq_nil_iff.mpr
    intro f _ hf
    obtain ⟨-, hany⟩ := Bool.and_eq_true_iff.mp hf
    obtain ⟨kept, hkept, hboth⟩ := List.any_eq_true.mp hany
    exact hno kept hkept (of_decide_eq_true (Bool.and_eq_true_iff.mp hboth).1)
  unfold SseService.replayEvents
  by_cases hx : x = ""
  · subst hx
    rw [hnone fun kept hkept => h.id_ne_empty (h.emitted_of_mem hkept)]
    rfl
  show (match (if x = "" then none else st.replayBuffer.findIdx? fun event => event.id = some x) with
    | some replayStart => st.replayBuffer.drop (replayStart + 1)
    | none => []) = _
  rw [if_neg hx]
  cases hfind : st.replayBuffer.findIdx? fun event => event.id = some x with
  | none =>
    rw [hnone fun kept hkept hid => by
      simpa [hid] using List.findIdx?_eq_none_iff.mp hfind kept hkept]
  | some i =>
    obtain ⟨hi, hid, -⟩ := List.findIdx?_eq_some_iff_getElem.mp hfind
    have hid : (st.replayBuffer[i]).id = some x := of_decide_eq_true hid
    have hmem : st.replayBuffer[i] ∈ st.replayBuffer := List.getElem_mem hi
    have hsplit : st.emitted = (st.emitted.take (st.emitted.length - 1000) ++ st.replayBuffer.take i) ++
        st.replayBuffer[i] :: st.replayBuffer.drop (i + 1) := by
      rw [List.append_assoc, ← List.drop_eq_getElem_cons hi, List.take_append_drop, h.replayBuffer,
        List.take_append_drop]
    have hafter : (st.emitted.filter fun f => (st.replayBuffer[i]).serial < f.serial) = st.replayBuffer.drop (i + 1) := by
      have hpairwise := h.pairwise_emitted
      rw [hsplit] at hpairwise
      conv_lhs => rw [hsplit]
      exact filter_after hpairwise
    show st.replayBuffer.drop (i + 1) = _
    rw [← hafter, SseService.emitted, List.filter_filter]
    refine List.filter_congr fun f _ => ?_
    rw [Bool.and_comm]
    congr 1
    rw [Bool.eq_iff_iff, decide_eq_true_iff, List.any_eq_true]
    constructor
    · exact fun hlt => ⟨_, hmem, by simp [hid, hlt]⟩
    · rintro ⟨kept, hkept, hboth⟩
      obtain ⟨hkeptId, hlt⟩ := Bool.and_eq_true_iff.mp hboth
      have hsame := h.eq_of_id (h.emitted_of_mem hkept) (h.emitted_of_mem hmem) ((of_decide_eq_true hkeptId).trans hid.symm)
      rw [← hsame]
      exact of_decide_eq_true hlt

end

/-! ## Live events -/

/-- The events of a stream with events that come after its start: `live` are those seen since. -/
def Follows (before : List (Seen α)) (replay : List (Seen α)) (userId k : Nat) (st : SseService α) : Prop :=
  ∃ live stream, st.seen = before ++ live ∧ st.streams[k]? = some stream ∧ stream.userId = userId ∧
    (stream.connected = true → stream.events = replay ++ live.filter (addressed userId))

section
variable {before replay : List (Seen α)} {userId k : Nat} {st : SseService α} (h : Follows before replay userId k st)
include h

theorem Follows.next (event : Seen α) : Follows before replay userId k (st.next event) := by
  obtain ⟨live, stream, hseen, hstream, huser, hevents⟩ := h
  refine ⟨live ++ [event], stream.push event, ?_, ?_, ?_, ?_⟩
  · show st.seen ++ [event] = _
    rw [hseen, List.append_assoc]
  · show (st.streams.map _)[k]? = _
    rw [List.getElem?_map, hstream, Option.map_some]
  · unfold EventStream.push
    split_ifs <;> exact huser
  · intro hconnected
    have hlive : stream.connected = true := by
      unfold EventStream.push at hconnected
      split_ifs at hconnected <;> exact hconnected
    unfold EventStream.push
    rw [hlive, Bool.true_and, huser, List.filter_append, ← List.append_assoc, ← hevents hlive]
    by_cases hto : addressed userId event = true
    · rw [if_pos hto, List.filter_cons_of_pos hto, List.filter_nil]
      show (stream.delivered ++ [Delivery.event event]).filterMap Delivery.event? = _
      rw [List.filterMap_append]
      rfl
    · rw [if_neg hto, List.filter_cons_of_neg hto, List.filter_nil, List.append_nil]

theorem Follows.modify {i : Nat} {f : EventStream α → EventStream α} (huser : ∀ stream, (f stream).userId = stream.userId)
    (hevents : ∀ stream, (f stream).connected = true → stream.connected = true ∧ (f stream).events = stream.events) :
    Follows before replay userId k { st with streams := st.streams.modify i f } := by
  obtain ⟨live, stream, hseen, hstream, hof, hold⟩ := h
  have hget : (st.streams.modify i f)[k]? = some (if i = k then f stream else stream) := by
    rw [List.getElem?_modify, hstream]
    rfl
  refine ⟨live, _, hseen, hget, ?_, ?_⟩
  · split_ifs
    · rw [huser, hof]
    · exact hof
  · split_ifs
    · intro hconnected
      obtain ⟨hlive, hsame⟩ := hevents stream hconnected
      rw [hsame, hold hlive]
    · exact hold

theorem Follows.handle {instanceId : String} (input : Input α) :
    Follows before replay userId k (st.handle instanceId input) := by
  cases input with
  | emit event =>
    have hkept (eventSequence : Nat) (replayBuffer : List (Seen α)) :
        Follows before replay userId k { st with eventSequence, replayBuffer } := h
    exact (hkept _ _).next _
  | message message =>
    cases message with
    | none => exact h
    | some message =>
      show Follows before replay userId k (if message.sourceId = instanceId then st else _)
      by_cases hsource : message.sourceId = instanceId
      · rw [if_pos hsource]
        exact h
      · rw [if_neg hsource]
        cases message.event with
        | none => exact h
        | some event => exact h.next _
  | connect userId' lastEventId =>
    obtain ⟨live, stream, hseen, hstream, hrest⟩ := h
    refine ⟨live, stream, hseen, ?_, hrest⟩
    show (st.streams ++ _)[k]? = _
    rw [List.getElem?_append_left (List.getElem?_eq_some_iff.mp hstream).1]
    exact hstream
  | heartbeat stream timestamp =>
    refine h.modify (fun stream => ?_) fun stream hconnected => ?_
    · split_ifs <;> rfl
    · split_ifs at hconnected ⊢ with hlive
      · refine ⟨hlive, ?_⟩
        show (stream.delivered ++ [Delivery.heartbeat timestamp]).filterMap Delivery.event? = _
        rw [List.filterMap_append]
        exact List.append_nil _
      · exact ⟨hconnected, rfl⟩
  | disconnect stream => exact h.modify (fun _ => rfl) fun _ hconnected => absurd hconnected Bool.false_ne_true

end

theorem events_getEventStream (st : SseService α) (userId : Nat) (lastEventId : Option String) :
    (st.getEventStream userId lastEventId).events =
      (SseService.replayEvents st.replayBuffer lastEventId).filter (addressed userId) := by
  show (List.map Delivery.event _).filterMap Delivery.event? = _
  rw [List.filterMap_map]
  exact List.filterMap_some

/-- A stream delivers its replay and then what is seen. -/
theorem segment_follows {instanceId : String} {st c : SseService α} {userId : Nat} {lastEventId : Option String}
    {steps : List (Transition (SseService α) (Input α))}
    (h : Segment (sse α instanceId) (st.handle instanceId (.connect userId lastEventId)) steps c) :
    Follows st.seen ((SseService.replayEvents st.replayBuffer lastEventId).filter (addressed userId)) userId
      st.streams.length c := by
  refine (h.always (P := fun _ => True) ?_ ?_ fun _ _ => trivial).1
  · rintro a input _ ha rfl -
    exact ha.handle input
  · refine ⟨[], st.getEventStream userId lastEventId, (List.append_nil _).symm, ?_, rfl, fun _ => ?_⟩
    · show (st.streams ++ [_])[st.streams.length]? = _
      rw [List.getElem?_append_right le_rfl, Nat.sub_self]
      rfl
    · rw [List.filter_nil, List.append_nil]
      exact events_getEventStream st userId lastEventId

/-! ## Reconnecting -/

/-- The instance, at the time of the reconnection, replays for the user what it emitted after `e`: `e` is its own, or the
kept event that carries the id of `e`, if any, has the same events for the user behind it. -/
def ReplaysFrom (st : SseService α) (userId : Nat) (e : Seen α) : Prop :=
  e.own = true ∨ ∀ f ∈ st.emitted, addressed userId f = true →
    (e.serial < f.serial ↔ ∃ kept ∈ st.replayBuffer, kept.id = e.id ∧ kept.serial < f.serial)

/-- An own event is still kept, so what was emitted after it is replayed. -/
theorem Recorded.replays_from_own {st : SseService α} (h : Recorded st) {first later : List (Seen α)} {e : Seen α}
    (hseen : st.seen = first ++ e :: later) (hown : e.own = true) (hfew : later.length < 1000) (f : Seen α) :
    e.serial < f.serial ↔ ∃ kept ∈ st.replayBuffer, kept.id = e.id ∧ kept.serial < f.serial := by
  have hkept := h.kept hseen hown hfew
  constructor
  · exact fun hlt => ⟨e, hkept, rfl, hlt⟩
  · rintro ⟨kept, hmem, hsame, hlt⟩
    rw [h.eq_of_id (h.emitted_of_mem hmem) (h.emitted_of_mem hkept) hsame] at hlt
    exact hlt

/-- The replayed events of a user are those seen after `e` exactly where the instance emitted all of these. -/
theorem Recorded.replay_eq_later_iff {st : SseService α} (h : Recorded st) {userId : Nat} {first later : List (Seen α)}
    {e : Seen α} {x : String} (hseen : st.seen = first ++ e :: later) (hid : e.id = some x) (hfew : later.length < 1000) :
    (SseService.replayEvents st.replayBuffer (some x)).filter (addressed userId) = later.filter (addressed userId) ↔
      (∀ f ∈ later, addressed userId f = true → f.own = true) ∧ ReplaysFrom st userId e := by
  have hafter : (st.seen.filter fun f => e.serial < f.serial) = later := by
    have hpairwise := h.pairwise
    rw [hseen] at hpairwise
    rw [hseen]
    exact filter_after hpairwise
  have hlater (f : Seen α) : f ∈ later ↔ f ∈ st.seen ∧ e.serial < f.serial := by
    rw [← hafter, List.mem_filter, decide_eq_true_iff]
  have hreplay (f : Seen α) : (st.replayBuffer.any fun kept => decide (kept.id = some x) && decide (kept.serial < f.serial))
      = true ↔ ∃ kept ∈ st.replayBuffer, kept.id = e.id ∧ kept.serial < f.serial := by
    rw [List.any_eq_true, hid]
    simp only [Bool.and_eq_true, decide_eq_true_iff]
  rw [h.replayEvents_eq, ← hafter, List.filter_filter, List.filter_filter, filter_eq_filter_iff, hafter]
  constructor
  · intro hsame
    have hiff (f : Seen α) (hf : f ∈ st.seen) (hto : addressed userId f = true) : (f.own = true ∧
        ∃ kept ∈ st.replayBuffer, kept.id = e.id ∧ kept.serial < f.serial) ↔ e.serial < f.serial := by
      have := hsame f hf
      rw [hto, Bool.true_and, Bool.true_and, Bool.eq_iff_iff, Bool.and_eq_true, hreplay, decide_eq_true_iff] at this
      exact this
    refine ⟨fun f hf hto => ?_, .inr fun f hf hto => ?_⟩
    · obtain ⟨hmem, hlt⟩ := (hlater f).mp hf
      exact ((hiff f hmem hto).mpr hlt).1
    · obtain ⟨hmem, hfown⟩ := List.mem_filter.mp hf
      rw [← hiff f hmem hto]
      exact and_iff_right hfown
  · rintro ⟨hall, hfrom⟩ f hf
    by_cases hto : addressed userId f = true
    · rw [hto, Bool.true_and, Bool.true_and, Bool.eq_iff_iff, Bool.and_eq_true, hreplay, decide_eq_true_iff]
      by_cases hfown : f.own = true
      · rw [and_iff_right hfown]
        rcases hfrom with heown | hfrom
        · exact (h.replays_from_own hseen heown hfew f).symm
        · exact (hfrom f (List.mem_filter.mpr ⟨hf, hfown⟩) hto).symm
      · refine ⟨fun hboth => absurd hboth.1 hfown, fun hlt => ?_⟩
        exact absurd (hall f ((hlater f).mpr ⟨hf, hlt⟩) hto) hfown
    · rw [Bool.eq_false_iff.mpr hto, Bool.false_and, Bool.false_and]

/-- A stream that a user opens with the id of `e` delivers every event for the user that the instance sees after `e`,
each once and in that order, exactly where the instance itself emitted those it saw before the reconnection, and it
replays them from `e`. -/
theorem reconnect_replays_iff {instanceId : String} {history steps : List (Transition (SseService α) (Input α))}
    {st c : SseService α} (hrun : Run (sse α instanceId) history st) {userId : Nat} {first later : List (Seen α)}
    {e : Seen α} {x : String} (hseen : st.seen = first ++ e :: later) (hid : e.id = some x) (hfew : later.length < 1000)
    (hlive : Segment (sse α instanceId) (st.handle instanceId (.connect userId (some x))) steps c)
    {stream : EventStream α} (hstream : c.streams[st.streams.length]? = some stream)
    (hconnected : stream.connected = true) :
    stream.events = (c.seen.drop (first.length + 1)).filter (addressed userId) ↔
      (∀ f ∈ later, addressed userId f = true → f.own = true) ∧ ReplaysFrom st userId e := by
  obtain ⟨live, stream', hseen', hstream', -, hevents⟩ := segment_follows hlive
  obtain rfl := Option.some.inj (hstream.symm.trans hstream')
  have hdrop : c.seen.drop (first.length + 1) = later ++ live := by
    rw [hseen', hseen, List.append_assoc, List.cons_append, ← List.drop_drop, List.drop_left, List.drop_one]
    rfl
  rw [hevents hconnected, hdrop, List.filter_append, List.append_cancel_right_eq]
  exact (run_recorded hrun).replay_eq_later_iff hseen hid hfew

/-- An instance after some inputs. -/
def runInputs (instanceId : String) (inputs : List (Input α)) : SseService α :=
  inputs.foldl (SseService.handle instanceId) {}

theorem run_runInputs (instanceId : String) (inputs : List (Input α)) :
    ∃ history, Run (sse α instanceId) history (runInputs instanceId inputs) := by
  induction inputs using List.reverseRecOn with
  | nil => exact ⟨[], .init rfl⟩
  | append_singleton inputs input ih =>
    obtain ⟨history, hrun⟩ := ih
    refine ⟨_, hrun.step (l := input) (b := runInputs instanceId (inputs ++ [input])) ?_⟩
    exact List.foldl_append.trans rfl

/-- A user reads event 1 and leaves; another instance notifies the user; the instance emits event 2. -/
def missedNotification : SseService Unit :=
  runInputs "a" [.connect 2 none, .emit emitDutyUpdated, .disconnect 0,
    .message (some ⟨"b", some { emitNotificationCreated 2 with id := some "1" }⟩), .emit emitDutyUpdated]

/-- The user, back with the id of event 1, never gets the notification. -/
theorem reconnection_misses_remote_event :
    (∃ history, Run (sse Unit "a") history missedNotification) ∧
      missedNotification.streams.map EventStream.events = [missedNotification.seen.take 1] ∧
      (missedNotification.seen.take 1).map (fun event => event.id) = [some "1"] ∧
      (missedNotification.seen.drop 1).length < 1000 ∧
      (missedNotification.getEventStream 2 (some "1")).events ≠
        (missedNotification.seen.drop 1).filter (addressed 2) :=
  ⟨run_runInputs "a" _, by decide +kernel, by decide +kernel, by decide +kernel, by decide +kernel⟩

/-- An instance with two events of its own. -/
def twoUpdates : SseService Unit := runInputs "a" [.emit emitDutyUpdated, .emit emitDutyUpdated]

theorem reconnection_replays_own_event :
    (twoUpdates.getEventStream 2 (some "1")).events = (twoUpdates.seen.drop 1).filter (addressed 2) := by
  obtain ⟨history, hrun⟩ := run_runInputs "a" [.emit (emitDutyUpdated : SseEvent Unit), .emit emitDutyUpdated]
  have hstream : (twoUpdates.handle "a" (.connect 2 (some "1"))).streams[twoUpdates.streams.length]? =
      some (twoUpdates.getEventStream 2 (some "1")) := rfl
  have hiff := reconnect_replays_iff hrun (show twoUpdates.seen = [] ++ _ :: _ from rfl) rfl (by decide)
    (.nil (twoUpdates.handle "a" (.connect 2 (some "1")))) hstream rfl
  refine hiff.mpr ⟨?_, .inl rfl⟩
  intro f hf _
  obtain rfl := List.mem_singleton.mp hf
  rfl

end ComplianceHub.Events
