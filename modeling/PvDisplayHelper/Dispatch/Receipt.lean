import PvDisplayHelper.Receiver.Decoder
import PvDisplayHelper.Wire.Payloads

/-!
# PV display helper — dispatching a received packet

`__handle_control_packet_receipt` (provider and consumer) and `__handle_event_packet_receipt`
(backend) switch on the header's type and pass the buffer to the `__handle_*` function of
that type. Each of those drops the packet when no handler is registered and otherwise calls
the handler (`handleRequest`).

A handler is named by what was registered (`HandlerId`, with `none` for NULL), and a call
records the handler and the values it is given. A dispatch also returns the byte ranges of
the buffer that its path reads (`Dispatch.reads`). These are the library's own reads, and a
handler's reads of the struct it is passed.
-/

namespace PvDisplayHelper

/-! ## Handlers and calls -/

/-- A registered handler (a function pointer). -/
abbrev HandlerId := Nat

/-- The handlers of a `pv_display_provider` that its control packets reach. -/
structure ProviderHandlers where
  hostDisplayChange : Option HandlerId
  addDisplay : Option HandlerId
  removeDisplay : Option HandlerId
  deriving DecidableEq, Repr

/-- The handlers of a `pv_display_consumer` that its control packets reach. -/
structure ConsumerHandlers where
  driverCapabilities : Option HandlerId
  advertisedList : Option HandlerId
  displayNoLongerAvailable : Option HandlerId
  textMode : Option HandlerId
  deriving DecidableEq, Repr

/-- The handlers of a `pv_display_backend` that its event packets and dirty rectangles
reach. -/
structure BackendHandlers where
  dirtyRectangle : Option HandlerId
  setDisplay : Option HandlerId
  updateCursor : Option HandlerId
  moveCursor : Option HandlerId
  blankDisplay : Option HandlerId
  deriving DecidableEq, Repr

/-- The values a handler is called with. A handler passed a struct pointer is given the
struct as read from the buffer. -/
inductive HandlerCall where
  | hostDisplayChange (displays : List DhDisplayInfo) (numDisplays : UInt32)
  | addDisplay (request : DhAddDisplay)
  | removeDisplay (key : UInt32)
  | driverCapabilities (request : DhDriverCapabilities)
  | advertisedList (displays : List DhDisplayInfo) (numDisplays : UInt32)
  | displayNoLongerAvailable (key : UInt32)
  | textMode (force : Bool)
  | setDisplay (width height stride : UInt32)
  | updateCursor (xhot yhot show' : UInt32)
  | moveCursor (x y : UInt32)
  | blankDisplay (reason : UInt32)
  | dirtyRectangle (x y width height : UInt32)
  deriving DecidableEq, Repr

/-- What one dispatch does: the handler called and its values, and the buffer ranges
`(offset, size)` read on the way. -/
structure Dispatch where
  call : Option (HandlerId × HandlerCall)
  reads : List (Nat × Nat)
  deriving DecidableEq, Repr

/-- Nothing called, nothing read. -/
def Dispatch.none : Dispatch := ⟨Option.none, []⟩

/-- Every range a dispatch reads lies in the first `n` bytes. -/
def Dispatch.ReadsInside (d : Dispatch) (n : Nat) : Prop := ∀ r ∈ d.reads, r.1 + r.2 ≤ n

instance (d : Dispatch) (n : Nat) : Decidable (d.ReadsInside n) :=
  inferInstanceAs (Decidable (∀ r ∈ d.reads, r.1 + r.2 ≤ n))

/-- The body shared by every `__handle_*` function: `if(!handler) return;` and then the call,
which makes the reads. -/
def handleRequest (handler : Option HandlerId) (call : HandlerCall) (reads : List (Nat × Nat)) :
    Dispatch :=
  match handler with
  | none => .none
  | some id => ⟨some (id, call), reads⟩

/-- A `__handle_*` function calls the registered handler, if any, with the request. -/
@[simp] theorem handleRequest_call (handler : Option HandlerId) (call : HandlerCall)
    (reads : List (Nat × Nat)) : (handleRequest handler call reads).call = handler.map (·, call) := by
  cases handler <;> rfl

/-- A `__handle_*` function reads inside `n` bytes when each of its reads does. -/
theorem handleRequest_readsInside {handler : Option HandlerId} {call : HandlerCall}
    {reads : List (Nat × Nat)} {n : Nat} (h : ∀ r ∈ reads, r.1 + r.2 ≤ n) :
    (handleRequest handler call reads).ReadsInside n := by
  cases handler
  · exact fun _ h => absurd h (List.not_mem_nil _)
  · exact h

/-! ## Display lists -/

/-- The `n` display infos of a buffer cast to a display list. -/
def displaysAt (buf : List UInt8) (n : UInt32) : List DhDisplayInfo :=
  (List.range n.toNat).map (displayAt buf)

/-- What reading a display list of `n` entries touches: `num_displays`, then `displays[]`. -/
def displayListReads (n : UInt32) : List (Nat × Nat) := [(0, 4), (4, 24 * n.toNat)]

/-! ## The provider's control packets -/

/-- `__handle_host_display_changed_event`. -/
def handleHostDisplayChangedEvent (hs : ProviderHandlers) (payload : List UInt8) : Dispatch :=
  let n := u32Field payload 0
  handleRequest hs.hostDisplayChange (.hostDisplayChange (displaysAt payload n) n)
    (displayListReads n)

/-- `__handle_add_display_request`. -/
def handleAddDisplayRequest (hs : ProviderHandlers) (request : List UInt8) : Dispatch :=
  handleRequest hs.addDisplay (.addDisplay (DhAddDisplay.ofBytes request)) [(0, 20)]

/-- `__handle_remove_display_request`. -/
def handleRemoveDisplayRequest (hs : ProviderHandlers) (request : List UInt8) : Dispatch :=
  handleRequest hs.removeDisplay (.removeDisplay (u32Field request 0)) [(0, 4)]

/-- `__handle_control_packet_receipt` of `pv_display_helper.c`. -/
def providerHandleControlPacketReceipt (hs : ProviderHandlers) (header : DhHeader)
    (buffer : List UInt8) : Dispatch :=
  if header.type = packetTypeControlHostDisplayList then handleHostDisplayChangedEvent hs buffer
  else if header.type = packetTypeControlAddDisplay then handleAddDisplayRequest hs buffer
  else if header.type = packetTypeControlRemoveDisplay then handleRemoveDisplayRequest hs buffer
  else .none

/-! ## The consumer's control packets -/

/-- `__handle_guest_driver_capabilities_event`. -/
def handleGuestDriverCapabilitiesEvent (cs : ConsumerHandlers) (request : List UInt8) :
    Dispatch :=
  handleRequest cs.driverCapabilities (.driverCapabilities (DhDriverCapabilities.ofBytes request))
    [(0, 16)]

/-- `__handle_advertised_display_list_request`: the handler is passed the list. -/
def handleAdvertisedDisplayListRequest (cs : ConsumerHandlers) (request : List UInt8) :
    Dispatch :=
  let n := u32Field request 0
  handleRequest cs.advertisedList (.advertisedList (displaysAt request n) n) (displayListReads n)

/-- `__handle_display_no_longer_available_request`. -/
def handleDisplayNoLongerAvailableRequest (cs : ConsumerHandlers) (request : List UInt8) :
    Dispatch :=
  handleRequest cs.displayNoLongerAvailable (.displayNoLongerAvailable (u32Field request 0))
    [(0, 4)]

/-- `__handle_text_mode_request`: `text_mode_handler(consumer, request)` passes the
`struct dh_text_mode *` where the handler takes `bool force`. The pointer converts to
`true`, since the receive buffer was allocated, and `mode` is never read. -/
def handleTextModeRequest (cs : ConsumerHandlers) (_request : List UInt8) : Dispatch :=
  handleRequest cs.textMode (.textMode true) []

/-- `__handle_control_packet_receipt` of `pv_display_backend_helper.c`. -/
def consumerHandleControlPacketReceipt (cs : ConsumerHandlers) (header : DhHeader)
    (buffer : List UInt8) : Dispatch :=
  if header.type = packetTypeControlDriverCapabilities then
    handleGuestDriverCapabilitiesEvent cs buffer
  else if header.type = packetTypeControlAdvertisedDisplayList then
    handleAdvertisedDisplayListRequest cs buffer
  else if header.type = packetTypeControlDisplayNoLongerAvailable then
    handleDisplayNoLongerAvailableRequest cs buffer
  else if header.type = packetTypeControlTextMode then handleTextModeRequest cs buffer
  else .none

/-! ## The backend's event packets -/

/-- `__handle_set_display_request`. -/
def handleSetDisplayRequest (bs : BackendHandlers) (request : List UInt8) : Dispatch :=
  handleRequest bs.setDisplay
    (.setDisplay (u32Field request 0) (u32Field request 1) (u32Field request 2)) [(0, 12)]

/-- `__handle_update_cursor_request`. -/
def handleUpdateCursorRequest (bs : BackendHandlers) (request : List UInt8) : Dispatch :=
  handleRequest bs.updateCursor
    (.updateCursor (u32Field request 0) (u32Field request 1) (u32Field request 2)) [(0, 12)]

/-- `__handle_move_cursor_request`. -/
def handleMoveCursorRequest (bs : BackendHandlers) (request : List UInt8) : Dispatch :=
  handleRequest bs.moveCursor (.moveCursor (u32Field request 0) (u32Field request 1)) [(0, 8)]

/-- `__handle_blank_display_request`: only `reason` is read. -/
def handleBlankDisplayRequest (bs : BackendHandlers) (request : List UInt8) : Dispatch :=
  handleRequest bs.blankDisplay (.blankDisplay (u32Field request 1)) [(4, 4)]

/-- `__handle_event_packet_receipt`. -/
def handleEventPacketReceipt (bs : BackendHandlers) (header : DhHeader) (buffer : List UInt8) :
    Dispatch :=
  if header.type = packetTypeEventSetDisplay then handleSetDisplayRequest bs buffer
  else if header.type = packetTypeEventBlankDisplay then handleBlankDisplayRequest bs buffer
  else if header.type = packetTypeEventUpdateCursor then handleUpdateCursorRequest bs buffer
  else if header.type = packetTypeEventMoveCursor then handleMoveCursorRequest bs buffer
  else .none

/-! ## The three receivers -/

/-- The handler tables of the three receiving objects. -/
structure Peers where
  provider : ProviderHandlers
  consumer : ConsumerHandlers
  backend : BackendHandlers
  deriving DecidableEq, Repr

/-- What a receiver does with an event its decoder hands on; a fatal error and an
out-of-bounds read dispatch nothing. -/
def Receiver.dispatch (peers : Peers) : Receiver → RxEvent → Dispatch
  | .providerControl, .receipt h b => providerHandleControlPacketReceipt peers.provider h b
  | .consumerControl, .receipt h b => consumerHandleControlPacketReceipt peers.consumer h b
  | .backendEvent, .receipt h b => handleEventPacketReceipt peers.backend h b
  | _, .fatal | _, .overread => .none

end PvDisplayHelper
