import PvDisplayHelper.Dispatch.Receipt
import PvDisplayHelper.Receiver.Sync

/-!
# PV display helper — a display backend's connections over its lifetime

`consumer_create_pv_display_backend` makes a `pv_display_backend` with
`disconnected = false`. `disconnect_display` (`pv_display_backend_display_disconnect`) tears
down its four connections, clears the handlers their packets reach, and sets `disconnected`.
`finish_event_connection` binds a new event connection and registers
`__handle_event_channel_event` on it; the `register_*_handler` calls set the handlers again.
`__handle_event_channel_event` returns at once on a disconnected display, and nothing but the
constructor writes `disconnected = false`: the flag latches.

* `BackendWorld.run_disconnected` — once a run has disconnected the display, it stays
  disconnected whatever follows.
* `BackendWorld.run_dataEvent_after_disconnect` — after a disconnect, a data event on any
  connection, one bound later included, reads nothing and calls no handler.
* `BackendWorld.run_dataEvent_of_connected` — on a run that never disconnects, a data event
  runs the framed receiver of the round trip over the event connection.
* `BackendWorld.rebound_display_drops_set_display` — a display disconnected and re-bound to a
  new event connection, with its `set_display` handler registered again, drops a complete
  `SET_DISPLAY` frame that the same display, never disconnected, dispatches.
-/

namespace PvDisplayHelper

/-! ## Model -/

/-- A live `struct libivc_client *`. -/
abbrev ClientId := Nat

/-- The handlers the backend's `register_*_handler` calls set. -/
inductive BackendHandlerKind where
  | dirtyRectangle
  | setDisplay
  | updateCursor
  | moveCursor
  | blankDisplay
  deriving DecidableEq, Repr

/-- The handler table with one handler replaced. -/
def BackendHandlers.set (hs : BackendHandlers) (h : Option HandlerId) :
    BackendHandlerKind → BackendHandlers
  | .dirtyRectangle => { hs with dirtyRectangle := h }
  | .setDisplay => { hs with setDisplay := h }
  | .updateCursor => { hs with updateCursor := h }
  | .moveCursor => { hs with moveCursor := h }
  | .blankDisplay => { hs with blankDisplay := h }

/-- The fields of a `pv_display_backend` that its connection lifecycle reads and writes. -/
structure Backend where
  disconnected : Bool
  eventConnection : Option ClientId
  framebufferConnection : Option ClientId
  framebufferSize : Nat
  dirtyRectanglesConnection : Option ClientId
  cursorImageConnection : Option ClientId
  handlers : BackendHandlers
  currentPacketHeader : DhHeader
  deriving DecidableEq, Repr

/-- A backend and the IVC state around it: the clients on which `__handle_event_channel_event`
is registered with events enabled, the bytes waiting on each client, and the handler calls
made so far. -/
structure BackendWorld where
  display : Backend
  listeners : List ClientId
  rings : ClientId → List UInt8
  calls : List (HandlerId × HandlerCall)

/-- A backend as `consumer_create_pv_display_backend` leaves it: zeroed by `pv_helper_malloc`,
with `disconnected = false`. -/
def BackendWorld.init : BackendWorld :=
  ⟨⟨false, none, none, 0, none, none, ⟨none, none, none, none, none⟩, ⟨0, 0, 0, 0, 0⟩⟩, [],
    fun _ => [], []⟩

/-! ## Operations -/

/-- `pv_display_backend_display_disconnect`: each connection that is set is disabled,
disconnected and cleared, with the handlers its packets reach; then `disconnected = true`. -/
def pvDisplayBackendDisplayDisconnect (w : BackendWorld) : BackendWorld :=
  let d := w.display
  let hs := if d.eventConnection.isSome then
      { d.handlers with setDisplay := none, blankDisplay := none, moveCursor := none,
                        updateCursor := none }
    else d.handlers
  { w with
    display := { d with
      eventConnection := none
      framebufferConnection := none
      framebufferSize := if d.framebufferConnection.isSome then 0 else d.framebufferSize
      dirtyRectanglesConnection := none
      cursorImageConnection := none
      handlers := if d.dirtyRectanglesConnection.isSome then { hs with dirtyRectangle := none }
        else hs
      disconnected := true }
    listeners := match d.eventConnection with
      | some c => w.listeners.filter (· != c)
      | none => w.listeners }

/-- `finish_event_connection(display, client)`: a non-`NULL` client gets
`__handle_event_channel_event` registered and its events enabled. -/
def finishEventConnection (w : BackendWorld) (client : Option ClientId) : BackendWorld :=
  { w with
    display := { w.display with eventConnection := client }
    listeners := match client with
      | some c => c :: w.listeners
      | none => w.listeners }

/-- `finish_framebuffer_connection(display, client)`; `bufferSize` is what
`libivc_getLocalBufferSize` reports. -/
def finishFramebufferConnection (d : Backend) (client : Option ClientId) (bufferSize : Nat) :
    Backend :=
  { d with
    framebufferConnection := client
    framebufferSize := if client.isSome then bufferSize else d.framebufferSize }

/-- `finish_dirty_rect_connection(display, client)`. -/
def finishDirtyRectConnection (d : Backend) (client : Option ClientId) : Backend :=
  { d with dirtyRectanglesConnection := client }

/-- `finish_cursor_connection(display, client)`. -/
def finishCursorConnection (d : Backend) (client : Option ClientId) : Backend :=
  { d with cursorImageConnection := client }

/-- The body of every `display_register_*_handler`: one handler, set under the display lock. -/
def displayRegisterHandler (kind : BackendHandlerKind) (d : Backend) (h : Option HandlerId) :
    Backend :=
  { d with handlers := d.handlers.set h kind }

/-- `display_register_dirty_rectangle_handler`. -/
def displayRegisterDirtyRectangleHandler := displayRegisterHandler .dirtyRectangle

/-- `display_register_move_cursor_handler`. -/
def displayRegisterMoveCursorHandler := displayRegisterHandler .moveCursor

/-- `display_register_update_cursor_handler`. -/
def displayRegisterUpdateCursorHandler := displayRegisterHandler .updateCursor

/-- `display_register_set_display_handler`. -/
def displayRegisterSetDisplayHandler := displayRegisterHandler .setDisplay

/-- `display_register_blank_display_handler`. -/
def displayRegisterBlankDisplayHandler := displayRegisterHandler .blankDisplay

/-- The channel `__handle_event_channel_event` reads: `display->event_connection`, whichever
client the event came on. On a `NULL` connection every `libivc` query fails. -/
def BackendWorld.eventRx (w : BackendWorld) (queryFails : Bool) : RxState :=
  match w.display.eventConnection with
  | some c => ⟨w.display.currentPacketHeader, w.rings c, queryFails⟩
  | none => ⟨w.display.currentPacketHeader, [], true⟩

/-- The handler calls `__handle_event_packet_receipt` makes for what the decoder hands on. -/
def backendCalls (hs : BackendHandlers) (events : List RxEvent) :
    List (HandlerId × HandlerCall) :=
  events.filterMap fun
    | .receipt h b => (handleEventPacketReceipt hs h b).call
    | .fatal | .overread => none

/-- What the handler leaves: `current_packet_header`, and the bytes still waiting on
`display->event_connection`. -/
def BackendWorld.withEventRx (w : BackendWorld) (s : RxState) : BackendWorld :=
  { w with
    display := { w.display with currentPacketHeader := s.currentPacketHeader }
    rings := match w.display.eventConnection with
      | some c => fun c' => if c' = c then s.queue else w.rings c'
      | none => w.rings }

/-- A data event on `client`: `libivc` calls `__handle_event_channel_event(display, client)` if
it is registered there. -/
def BackendWorld.dataEvent (arch : Arch) (w : BackendWorld) (client : ClientId)
    (queryFails : Bool) (allocs : List Bool) : BackendWorld :=
  if client ∈ w.listeners then
    let r := handleEventChannelEvent arch w.display.disconnected (w.eventRx queryFails) allocs
    { w.withEventRx r.1 with calls := w.calls ++ backendCalls w.display.handlers r.2 }
  else w

/-- The operations on a backend and the IVC events that reach it. -/
inductive BackendOp where
  /-- `disconnect_display(display)`. -/
  | disconnectDisplay
  /-- `finish_event_connection(display, client)`. -/
  | finishEventConnection (client : Option ClientId)
  /-- `finish_framebuffer_connection(display, client)`. -/
  | finishFramebufferConnection (client : Option ClientId) (bufferSize : Nat)
  /-- `finish_dirty_rect_connection(display, client)`. -/
  | finishDirtyRectConnection (client : Option ClientId)
  /-- `finish_cursor_connection(display, client)`. -/
  | finishCursorConnection (client : Option ClientId)
  /-- `register_*_handler(display, handler)`. -/
  | registerHandler (kind : BackendHandlerKind) (handler : Option HandlerId)
  /-- Bytes the peer sent reach `client`'s ring. -/
  | arrive (client : ClientId) (bytes : List UInt8)
  /-- A data event on `client`. -/
  | dataEvent (client : ClientId) (queryFails : Bool) (allocs : List Bool)
  deriving DecidableEq, Repr

/-- One operation. -/
def BackendWorld.step (arch : Arch) (w : BackendWorld) : BackendOp → BackendWorld
  | .disconnectDisplay => pvDisplayBackendDisplayDisconnect w
  | .finishEventConnection c => finishEventConnection w c
  | .finishFramebufferConnection c n => { w with display := finishFramebufferConnection w.display c n }
  | .finishDirtyRectConnection c => { w with display := finishDirtyRectConnection w.display c }
  | .finishCursorConnection c => { w with display := finishCursorConnection w.display c }
  | .registerHandler kind h => { w with display := displayRegisterHandler kind w.display h }
  | .arrive c bytes => { w with rings := fun c' => if c' = c then w.rings c ++ bytes else w.rings c' }
  | .dataEvent c q allocs => w.dataEvent arch c q allocs

/-- A run of operations. -/
def BackendWorld.run (arch : Arch) (w : BackendWorld) (ops : List BackendOp) : BackendWorld :=
  ops.foldl (BackendWorld.step arch) w

/-- The empty run changes nothing. -/
@[simp] theorem BackendWorld.run_nil (arch : Arch) (w : BackendWorld) : w.run arch [] = w := rfl

/-- A run is its first step, then the rest. -/
@[simp] theorem BackendWorld.run_cons (arch : Arch) (w : BackendWorld) (op : BackendOp)
    (ops : List BackendOp) : w.run arch (op :: ops) = (w.step arch op).run arch ops := rfl

/-- Two runs in a row are one run. -/
theorem BackendWorld.run_append (arch : Arch) (w : BackendWorld) (ops₁ ops₂ : List BackendOp) :
    w.run arch (ops₁ ++ ops₂) = (w.run arch ops₁).run arch ops₂ :=
  List.foldl_append _ _ _ _

/-! ## The latch -/

/-- A data event leaves the `disconnected` flag as it was. -/
theorem BackendWorld.dataEvent_disconnected (arch : Arch) (w : BackendWorld) (client : ClientId)
    (queryFails : Bool) (allocs : List Bool) :
    (w.dataEvent arch client queryFails allocs).display.disconnected = w.display.disconnected := by
  unfold dataEvent
  split <;> rfl

/-- No operation clears `disconnected`. -/
theorem BackendWorld.step_disconnected {arch : Arch} {w : BackendWorld} (op : BackendOp)
    (h : w.display.disconnected = true) : (w.step arch op).display.disconnected = true := by
  cases op with
  | disconnectDisplay => rfl
  | dataEvent c q allocs => exact (dataEvent_disconnected arch w c q allocs).trans h
  | _ => exact h

/-- Once set, `disconnected` stays set over every run: nothing but the constructor clears it. -/
theorem BackendWorld.run_disconnected_of {arch : Arch} (ops : List BackendOp) :
    ∀ w : BackendWorld, w.display.disconnected = true →
      (w.run arch ops).display.disconnected = true := by
  induction ops with
  | nil => exact fun _ h => h
  | cons op ops ih => exact fun w h => ih _ (step_disconnected op h)

/-- Once a run has disconnected the display, it stays disconnected. -/
theorem BackendWorld.run_disconnected (arch : Arch) (w : BackendWorld)
    (ops₁ ops₂ : List BackendOp) :
    (w.run arch (ops₁ ++ .disconnectDisplay :: ops₂)).display.disconnected = true := by
  rw [run_append, run_cons]
  exact run_disconnected_of ops₂ _ rfl

/-- Only `disconnect_display` sets `disconnected`. -/
theorem BackendWorld.run_connected {arch : Arch} (ops : List BackendOp) :
    ∀ w : BackendWorld, w.display.disconnected = false → .disconnectDisplay ∉ ops →
      (w.run arch ops).display.disconnected = false := by
  induction ops with
  | nil => exact fun _ h _ => h
  | cons op ops ih =>
    intro w h hops
    refine ih _ ?_ fun hm => hops (List.mem_cons_of_mem _ hm)
    cases op with
    | disconnectDisplay => exact absurd (List.mem_cons_self _ _) hops
    | dataEvent c q allocs => exact (dataEvent_disconnected arch w c q allocs).trans h
    | _ => exact h

/-- Writing back what the handler read changes nothing. -/
theorem BackendWorld.withEventRx_eventRx (w : BackendWorld) (queryFails : Bool) :
    w.withEventRx (w.eventRx queryFails) = w := by
  unfold withEventRx eventRx
  cases hc : w.display.eventConnection with
  | none => rfl
  | some c =>
    have hr : (fun c' => if c' = c then w.rings c else w.rings c') = w.rings := by
      funext c'
      split <;> simp_all
    simp only [hr]

/-- A data event on a disconnected display changes nothing. -/
theorem BackendWorld.dataEvent_of_disconnected {arch : Arch} {w : BackendWorld} (client : ClientId)
    (queryFails : Bool) (allocs : List Bool) (h : w.display.disconnected = true) :
    w.dataEvent arch client queryFails allocs = w := by
  unfold dataEvent
  split
  · simp only [h, handleEventChannelEvent, if_true, backendCalls, List.filterMap_nil,
      List.append_nil, withEventRx_eventRx]
  · rfl

/-- After a disconnect, a data event on any client, one bound later included, reads nothing
and calls no handler. -/
theorem BackendWorld.run_dataEvent_after_disconnect (arch : Arch) (w : BackendWorld)
    (ops₁ ops₂ : List BackendOp) (client : ClientId) (queryFails : Bool) (allocs : List Bool) :
    w.run arch (ops₁ ++ .disconnectDisplay :: ops₂ ++ [.dataEvent client queryFails allocs]) =
      w.run arch (ops₁ ++ .disconnectDisplay :: ops₂) := by
  rw [run_append, run_cons, run_nil]
  exact dataEvent_of_disconnected client queryFails allocs (run_disconnected arch w ops₁ ops₂)

/-- On a display that is not disconnected, a data event on a client it listens on runs the
event channel's framed receiver (`Receiver.handle`, the receiver of the round trip) over
`display->event_connection`, and each frame handed on goes to `__handle_event_packet_receipt`. -/
theorem BackendWorld.dataEvent_of_connected {arch : Arch} {w : BackendWorld} {client : ClientId}
    (queryFails : Bool) (allocs : List Bool) (h : w.display.disconnected = false)
    (hl : client ∈ w.listeners) :
    w.dataEvent arch client queryFails allocs =
      let r := Receiver.backendEvent.handle arch (w.eventRx queryFails) allocs
      { w.withEventRx r.1 with calls := w.calls ++ backendCalls w.display.handlers r.2 } := by
  simp only [dataEvent, hl, if_true, h]
  rfl

/-- On a run that never disconnects, a data event on a client the display listens on runs the
framed receiver over its event connection and hands each frame received to the handlers. -/
theorem BackendWorld.run_dataEvent_of_connected (arch : Arch) (w : BackendWorld)
    (ops : List BackendOp) (client : ClientId) (queryFails : Bool) (allocs : List Bool)
    (h : w.display.disconnected = false) (hops : .disconnectDisplay ∉ ops)
    (hl : client ∈ (w.run arch ops).listeners) :
    w.run arch (ops ++ [.dataEvent client queryFails allocs]) =
      let w' := w.run arch ops
      let r := Receiver.backendEvent.handle arch (w'.eventRx queryFails) allocs
      { w'.withEventRx r.1 with calls := w'.calls ++ backendCalls w'.display.handlers r.2 } := by
  rw [run_append, run_cons, run_nil]
  exact dataEvent_of_connected queryFails allocs (run_connected ops w h hops) hl

/-- A display bound to event connection `0`, disconnected, then re-bound to connection `1`
with its `set_display` handler registered again, drops a complete `SET_DISPLAY` frame on `1`
and leaves it unread; the same re-binding on a display never disconnected dispatches it. -/
theorem BackendWorld.rebound_display_drops_set_display (arch : Arch) :
    let frame := frameBytes (packetTypeEventSetDisplay, DhSetDisplay.bytes ⟨1024, 768, 4096⟩)
    let rebind : List BackendOp := [.finishEventConnection (some 1),
      .registerHandler .setDisplay (some 0), .arrive 1 frame, .dataEvent 1 false []]
    let history : List BackendOp := [.finishEventConnection (some 0),
      .registerHandler .setDisplay (some 0), .disconnectDisplay]
    (BackendWorld.init.run arch rebind).calls = [(0, .setDisplay 1024 768 4096)] ∧
      (BackendWorld.init.run arch (history ++ rebind)).calls = [] ∧
      (BackendWorld.init.run arch (history ++ rebind)).rings 1 = frame := by
  set_option maxRecDepth 20000 in
  cases arch <;> decide

end PvDisplayHelper
