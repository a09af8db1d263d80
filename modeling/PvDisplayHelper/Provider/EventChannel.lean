import Mathlib.Data.List.Basic
import Mathlib.Tactic.SplitIfs
import PvDisplayHelper.Provider.Operations
import PvDisplayHelper.Objects.Backend

/-!
# PV display helper — a display's event connection, end to end

A provider's display talks to its backend over the event connection:
`pv_display_change_resolution`, the three cursor operations, `pv_display_load_cursor_image`
(through `copy_image`) and `pv_display_blank_display` each send one packet on it, and the
backend's `__handle_event_channel_event` decodes what arrives and calls its handlers through
`__handle_event_packet_receipt`. An `EventChannel` is that connection seen whole: the
provider's `DisplaySession`, whose `events` link carries the bytes and holds the backend's
receiving state; the messages sent on it so far; and the calls the backend has made. A run
interleaves display operations with the arrival of chunks of the stream, each followed by one
data event, whichever sends and allocations fail.

The operations are the faithful ones of `Operations.lean`. `DisplayOp.packet` says which
packet each sends once its own checks pass, and `DisplaySession.step_events` ties the two. The
backend's handlers are those registered before the first packet arrives (re-registration and
`disconnect_display` are `BackendWorld`'s), and the display's `reconnect` keeps the link, as
`DisplaySession.step` has it.

Results:

* `EventChannel.step_inv` / `EventChannel.run_inv` — the backend has made the calls for the
  first messages sent, in order, and its decoder is in step with the rest of the stream.
* `EventChannel.run_backend_calls` — over every run, the backend's handler calls are, in order, a call
  of the handler registered for each of the first messages sent, with the values the display
  operation sent; after a data event none of whose allocations failed that leaves nothing in
  flight, every message sent has been handled.
-/

namespace PvDisplayHelper

/-! ## The packet each operation sends -/

/-- The packet a display operation sends on the event connection once its own checks pass: its
message, with the transport's answer. The cursor operations send the cursor state they leave
behind. -/
def DisplayOp.packet (s : DisplaySession) : DisplayOp → Option (Message × SendEnv)
  | .changeResolution env w h st => some (.changeResolution w h st, env)
  | .setCursorHotspot env x y =>
    if !s.display.HasCursor then none
    else if x.toNat > pvDriverCursorWidth then none
    else if y.toNat > pvDriverCursorHeight then none
    else some (.cursorUpdate x y s.display.cursor.visible, env)
  | .setCursorVisibility env v =>
    if !s.display.HasCursor then none
    else some (.cursorUpdate s.display.cursor.hotspotX s.display.cursor.hotspotY v, env)
  | .moveCursor env x y => if !s.display.HasCursor then none else some (.moveCursor x y, env)
  | .loadCursorImage env image w h =>
    if pvDriverCursorWidth < w.toNat ∨ pvDriverCursorHeight < h.toNat then none
    else if image.isNone then none
    else if s.display.cursor.image.isNone then none
    else some (.cursorUpdate s.display.cursor.hotspotX s.display.cursor.hotspotY
      s.display.cursor.visible, env)
  | .blankDisplay env dpms blank => some (.blankDisplay dpms blank, env)
  | .invalidateRegion .. | .supportsCursor | .reconnect .. | .setDriverData
  | .registerFatalErrorHandler | .disconnectEvent => none

/-- The messages an operation adds to the stream: its packet, if the send succeeded. -/
def DisplayOp.sent (s : DisplaySession) (op : DisplayOp) : List Message :=
  match op.packet s with
  | some (m, env) => if (m.send env s.events).1 = 0 then [m] else []
  | none => []

/-- What an operation does to the event connection is to send its packet. -/
theorem DisplaySession.step_events (s : DisplaySession) (op : DisplayOp) :
    (s.step op).events = match op.packet s with
      | some (m, env) => (m.send env s.events).2
      | none => s.events := by
  cases op with
  | setCursorHotspot env x y =>
    simp only [DisplaySession.step, DisplayOp.packet, pvDisplaySetCursorHotspot]
    split_ifs <;> rfl
  | setCursorVisibility env v =>
    simp only [DisplaySession.step, DisplayOp.packet, pvDisplaySetCursorVisibility]
    split_ifs <;> rfl
  | moveCursor env x y =>
    simp only [DisplaySession.step, DisplayOp.packet, pvDisplayMoveCursor]
    split_ifs <;> rfl
  | loadCursorImage env image w h =>
    cases image <;> simp only [DisplaySession.step, DisplayOp.packet, pvDisplayLoadCursorImage,
      Option.isNone_none, Option.isNone_some, Bool.false_eq_true, if_false] <;> split_ifs <;> rfl
  | _ => rfl

/-- Every packet a display operation sends goes to the backend's event receiver. -/
theorem DisplayOp.packet_receiver {s : DisplaySession} {op : DisplayOp} {m : Message}
    {env : SendEnv} (hp : op.packet s = some (m, env)) : m.receiver = .backendEvent := by
  cases op <;> simp only [DisplayOp.packet] at hp <;> (try split_ifs at hp) <;> cases hp <;> rfl

/-- What an operation has sent is the packet it makes. -/
theorem DisplayOp.mem_sent {s : DisplaySession} {op : DisplayOp} {m : Message}
    (h : m ∈ op.sent s) : ∃ env, op.packet s = some (m, env) := by
  cases hp : op.packet s with
  | none => simp [DisplayOp.sent, hp] at h
  | some p =>
    obtain ⟨m', env⟩ := p
    simp only [DisplayOp.sent, hp] at h
    split_ifs at h
    · exact ⟨env, by rw [List.mem_singleton.mp h]⟩
    · cases h

/-! ## Event messages on the wire and at the backend -/

/-- An event message's data is the `length` bytes it declares, and a valid payload. -/
theorem Message.fits_of_backend {m : Message} (hm : m.receiver = .backendEvent) :
    m.Fits ∧ ValidPayload m.frame.2 := by
  cases m <;> simp_all [Message.receiver, Message.Fits, Message.frame, Message.sendArgs,
    ValidPayload, DhSetDisplay.bytes, DhUpdateCursor.bytes, DhMoveCursor.bytes, DhBlanking.bytes,
    pvDriverMaxPayloadSize, pvDriverMaxPacketSize, dhHeaderSize, dhFooterSize, UInt32.size]

/-- A message that fits is sent as the `__send_packet` of its frame. -/
theorem Message.send_eq_sendPacket {m : Message} (hm : m.Fits) (env : SendEnv) (l : Link) :
    m.send env l = sendPacket env l m.frame.1 m.frame.2 (UInt32.ofNat m.frame.2.length) := by
  rw [Message.frame_of_fits hm, Message.send, ← hm,
    UInt32.toNat.inj (UInt32.toNat_ofNat_of_lt (UInt32.toNat_lt_size _))]

/-- The backend calls the handler registered for an event message's kind, with the values
sent. -/
theorem Message.handleEventPacketReceipt_frame (peers : Peers) {m : Message}
    (hm : m.receiver = .backendEvent) :
    (handleEventPacketReceipt peers.backend (sentHeader m.frame)
        (frameTail (sentHeader m.frame) m.frame.2)).call =
      (m.registered peers).map (·, m.expected) := by
  rw [Message.frame_of_fits (Message.fits_of_backend hm).1]
  cases m <;> simp only [Message.receiver, reduceCtorEq] at hm <;>
  simp [Message.sendArgs, sentHeader, packetHeader, handleEventPacketReceipt, frameTail,
    Message.registered, Message.expected, packetTypeEventSetDisplay, packetTypeEventBlankDisplay,
    packetTypeEventUpdateCursor, packetTypeEventMoveCursor, handleSetDisplayRequest,
    handleUpdateCursorRequest, handleMoveCursorRequest, handleBlankDisplayRequest,
    DhSetDisplay.bytes, DhUpdateCursor.bytes, DhMoveCursor.bytes, DhBlanking.bytes]

/-- The backend's dispatch of the frames of its own display's operations calls each registered handler with the values sent. -/
theorem backendCalls_frames (peers : Peers) {ms : List Message}
    (hms : ∀ m ∈ ms, m.receiver = .backendEvent) :
    backendCalls peers.backend (ms.map fun m => receiptOf m.frame) =
      ms.filterMap fun m => (m.registered peers).map (·, m.expected) := by
  rw [backendCalls, List.filterMap_map]
  exact List.filterMap_congr fun m hm => Message.handleEventPacketReceipt_frame peers (hms m hm)

/-! ## The connection -/

/-- One display's event connection: the provider's display, whose `events` link ends in the
backend's decoder; the messages sent on it; and the handler calls the backend made. -/
structure EventChannel where
  session : DisplaySession
  sent : List Message
  calls : List (HandlerId × HandlerCall)

/-- One step of a run. -/
inductive EventStep where
  /-- An operation on the provider's display. -/
  | op (op : DisplayOp)
  /-- The next `n` bytes in flight reach the backend's event connection, which then gets a data
  event; `allocs` are the outcomes of its `pv_helper_malloc` calls. -/
  | deliver (n : Nat) (allocs : List Bool)

/-- A fresh connection: nothing sent or in flight, and the backend's decoder as
`consumer_create_pv_display_backend` leaves it. -/
def EventChannel.init (display : PvDisplay) (cursorBuffer : Nat → UInt8) (capacity : Nat) :
    EventChannel :=
  ⟨⟨display, (Session.init capacity).link, cursorBuffer⟩, [], []⟩

/-- One step, the backend's handlers being `hs`. -/
def EventChannel.step (arch : Arch) (hs : BackendHandlers) (c : EventChannel) :
    EventStep → EventChannel
  | .op op => ⟨c.session.step op, c.sent ++ op.sent c.session, c.calls⟩
  | .deliver n allocs =>
    let l := c.session.events
    let res := handleEventChannelEvent arch false (l.arrive n) allocs
    ⟨{ c.session with events := { l with inFlight := l.inFlight.drop n, rx := res.1 } }, c.sent,
      c.calls ++ backendCalls hs res.2⟩

/-- A whole run. -/
def EventChannel.run (arch : Arch) (hs : BackendHandlers) (c : EventChannel)
    (steps : List EventStep) : EventChannel :=
  steps.foldl (EventChannel.step arch hs) c

/-- The connection as a round trip of frames whose receiver has handed on `events`. -/
def EventChannel.toSession (c : EventChannel) (events : List RxEvent) : Session :=
  ⟨c.session.events, c.sent.map Message.frame, events⟩

/-- The run invariant: every message sent goes to the backend, and for what its decoder has
handed on, the round trip's invariant holds and the backend made exactly those calls. -/
structure EventChannel.Inv (hs : BackendHandlers) (c : EventChannel) : Prop where
  backend : ∀ m ∈ c.sent, m.receiver = .backendEvent
  decoded : ∃ events, (c.toSession events).Inv ∧ c.calls = backendCalls hs events

/-! ## One step, then a whole run -/

section Run

variable (arch : Arch) (hs : BackendHandlers)

/-- A fresh event channel keeps the invariant. -/
theorem EventChannel.init_inv (display : PvDisplay) (cursorBuffer : Nat → UInt8)
    (capacity : Nat) : (EventChannel.init display cursorBuffer capacity).Inv hs :=
  ⟨fun _ h => absurd h (List.not_mem_nil _), [], Session.init_inv capacity, rfl⟩

/-- An operation that sends nothing leaves the stream as it is. -/
theorem EventChannel.toSession_op_none {c : EventChannel} {op : DisplayOp}
    (hp : op.packet c.session = none) (events : List RxEvent) :
    (c.step arch hs (.op op)).toSession events = c.toSession events := by
  simp [EventChannel.step, EventChannel.toSession, DisplaySession.step_events, hp, DisplayOp.sent]

/-- An operation that sends is the `__send_packet` of its message's frame. -/
theorem EventChannel.toSession_op_some {c : EventChannel} {op : DisplayOp} {m : Message}
    {env : SendEnv} (hp : op.packet c.session = some (m, env)) (hm : m.Fits)
    (events : List RxEvent) :
    (c.step arch hs (.op op)).toSession events =
      (c.toSession events).step arch .backendEvent (.send m.frame.1 m.frame.2 env) := by
  simp only [EventChannel.step, EventChannel.toSession, Session.step, DisplaySession.step_events,
    hp, DisplayOp.sent, ← Message.send_eq_sendPacket hm]
  split <;> simp

/-- A data event is the round trip's delivery, and the backend calls its handlers for what the
decoder hands on. -/
theorem EventChannel.toSession_deliver (c : EventChannel) (n : Nat) (allocs : List Bool)
    (events : List RxEvent) :
    (c.step arch hs (.deliver n allocs)).toSession
        (events ++ (handleEventChannelEvent arch false (c.session.events.arrive n) allocs).2) =
      (c.toSession events).step arch .backendEvent (.deliver n allocs) :=
  rfl

/-- A delivery adds the calls for what the data event hands on. -/
theorem EventChannel.deliver_calls {c : EventChannel} {events : List RxEvent} (n : Nat)
    (allocs : List Bool) (hc : c.calls = backendCalls hs events) :
    (c.step arch hs (.deliver n allocs)).calls = backendCalls hs
      (events ++ (handleEventChannelEvent arch false (c.session.events.arrive n) allocs).2) := by
  simp only [EventChannel.step, hc, backendCalls, List.filterMap_append]

/-- Every display operation keeps the invariant. -/
theorem EventChannel.op_inv {c : EventChannel} (op : DisplayOp) (hi : c.Inv hs) :
    (c.step arch hs (.op op)).Inv hs := by
  obtain ⟨hb, events, hse, hc⟩ := hi
  refine ⟨fun m hm => ?_, events, ?_, hc⟩
  · rcases List.mem_append.mp hm with hm | hm
    · exact hb m hm
    · obtain ⟨_, hp⟩ := DisplayOp.mem_sent hm
      exact DisplayOp.packet_receiver hp
  · cases hp : op.packet c.session with
    | none => rw [EventChannel.toSession_op_none arch hs hp]; exact hse
    | some p =>
      obtain ⟨hm, hv⟩ := Message.fits_of_backend (DisplayOp.packet_receiver hp)
      rw [EventChannel.toSession_op_some arch hs hp hm]
      exact Session.send_inv arch .backendEvent hse hv

/-- Every delivery keeps the invariant. -/
theorem EventChannel.deliver_inv {c : EventChannel} (n : Nat) (allocs : List Bool)
    (hi : c.Inv hs) : (c.step arch hs (.deliver n allocs)).Inv hs := by
  obtain ⟨hb, events, hse, hc⟩ := hi
  refine ⟨hb, _, ?_, EventChannel.deliver_calls arch hs n allocs hc⟩
  rw [EventChannel.toSession_deliver]
  exact Session.step_inv arch .backendEvent hse trivial

/-- Every step keeps the invariant. -/
theorem EventChannel.step_inv {c : EventChannel} (step : EventStep) (hi : c.Inv hs) :
    (c.step arch hs step).Inv hs := by
  cases step with
  | op op => exact EventChannel.op_inv arch hs op hi
  | deliver n allocs => exact EventChannel.deliver_inv arch hs n allocs hi

/-- Every run keeps the invariant. -/
theorem EventChannel.run_inv {c : EventChannel} (steps : List EventStep) (hi : c.Inv hs) :
    (c.run arch hs steps).Inv hs := by
  induction steps generalizing c with
  | nil => exact hi
  | cons step steps ih => exact ih (EventChannel.step_inv arch hs step hi)

end Run

/-- What the backend called for a prefix of the messages handed on. -/
theorem EventChannel.calls_of_handedOn {c : EventChannel} {peers : Peers} {events : List RxEvent}
    {k : Nat} (hb : ∀ m ∈ c.sent, m.receiver = .backendEvent)
    (hc : c.calls = backendCalls peers.backend events)
    (he : events = ((c.sent.map Message.frame).take k).map receiptOf) :
    c.calls = (c.sent.take k).filterMap fun m => (m.registered peers).map (·, m.expected) := by
  rw [hc, he, ← List.map_take, List.map_map]
  exact backendCalls_frames peers fun m hm => hb m (List.mem_of_mem_take hm)

/-- **The event connection, end to end.** Whatever the interleaving of display operations and
deliveries, the chunking, and whichever sends and allocations fail, the backend's handler calls
are, in order, a call of the handler registered for each of the first messages the display
sent, with the values sent: none is lost inside the prefix, duplicated, reordered or made up.
After a data event none of whose allocations failed that leaves nothing in flight, every
message sent has been handled. -/
theorem EventChannel.run_backend_calls (arch : Arch) (peers : Peers) (display : PvDisplay)
    (cursorBuffer : Nat → UInt8) (capacity : Nat) (steps : List EventStep) :
    let c := (EventChannel.init display cursorBuffer capacity).run arch peers.backend steps
    (∃ k ≤ c.sent.length,
        c.calls = (c.sent.take k).filterMap fun m => (m.registered peers).map (·, m.expected)) ∧
      ∀ n allocs, allocs.all id = true →
        let c' := c.step arch peers.backend (.deliver n allocs)
        c'.session.events.inFlight = [] →
          c'.calls = c'.sent.filterMap fun m => (m.registered peers).map (·, m.expected) := by
  intro c
  obtain ⟨hb, events, hse, hc⟩ := EventChannel.run_inv arch peers.backend steps
    (EventChannel.init_inv peers.backend display cursorBuffer capacity)
  obtain ⟨k, hk, he, -⟩ := id hse
  refine ⟨⟨k, by simpa [EventChannel.toSession] using hk, EventChannel.calls_of_handedOn hb hc he⟩,
    fun n allocs ha hnil => ?_⟩
  obtain ⟨k', he', hk'⟩ := Session.handedOnDelivered_of_deliver arch .backendEvent (n := n) hse ha
  have h0 : ((c.toSession events).step arch .backendEvent (.deliver n allocs)).link.inFlight = [] :=
    hnil
  have hlen : c.sent.length ≤ k' := Nat.not_lt.1 fun hlt => Nat.not_lt_zero _ (by
    simpa only [h0] using hk' (by simpa [EventChannel.toSession, Session.step] using hlt))
  rw [EventChannel.calls_of_handedOn (c := c.step arch peers.backend (.deliver n allocs)) hb
    (EventChannel.deliver_calls arch peers.backend n allocs hc) he']
  exact congrArg _ (List.take_of_length_le hlen)

end PvDisplayHelper
