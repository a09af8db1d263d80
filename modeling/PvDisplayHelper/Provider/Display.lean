import PvDisplayHelper.Receiver.Decoder
import PvDisplayHelper.Wire.Payloads

/-!
# PV display helper — creating a provider's display

`provider_create_display` validates the add-display request, allocates the `pv_display`,
shares a framebuffer of `stride * height` bytes over IVC (`__create_shared_framebuffer`), and
opens the event, dirty-rectangle and cursor connections
(`__create_pv_display_support_connections`). The transport is outside the repository: each
`libivc_connect_with_id`, `libivc_register_event_callbacks` and `libivc_getLocalBuffer` of a
channel answers with a return code of the environment's choosing, and the model records
every call in order.

* `providerCreateDisplay_cases` — the six ways a call ends.
* `providerCreateDisplay_spec` — the return code is 0 exactly when the framebuffer and event
  connections were established; a display returned is `Usable`; on failure every connection
  opened was disconnected once and the allocation freed.
* `framebufferClient_pages_of_le` — up to `PAGE_SIZE * 65534` bytes, `framebuffer_size` is
  `stride * height` and the framebuffer gets the pages it needs, and one more.
* `providerCreateDisplay_framebuffer_wraps` — above that, the size and the page count are
  computed in `uint32_t` and `uint16_t`, and wrap.
-/

namespace PvDisplayHelper

/-! ## Model -/

/-- The four IVC channels of a display. -/
inductive Channel where
  | framebuffer
  | event
  | dirtyRectangles
  | cursorImage
  deriving DecidableEq, Repr

/-- A `struct libivc_client *` of a display: the client of one channel, with the port and the
page count it was connected with. -/
structure IvcClient where
  channel : Channel
  port : UInt16
  pages : Nat
  deriving DecidableEq, Repr

/-- `struct pv_cursor`; `image` points into the local buffer of a client. -/
structure PvCursor where
  image : Option IvcClient
  hotspotX : UInt32
  hotspotY : UInt32
  visible : Bool
  deriving DecidableEq, Repr

/-- The fields of a `struct pv_display` that its operations read and write; `framebuffer`
points into the local buffer of a client. -/
structure PvDisplay where
  key : UInt32
  width : UInt32
  height : UInt32
  stride : UInt32
  framebuffer : Option IvcClient
  framebufferSize : Nat
  cursor : PvCursor
  framebufferConnection : Option IvcClient
  eventConnection : Option IvcClient
  dirtyRectanglesConnection : Option IvcClient
  cursorImageConnection : Option IvcClient
  deriving DecidableEq, Repr

/-- A usable display: live framebuffer and event connections and a framebuffer, and a cursor
image exactly when a cursor connection. -/
structure PvDisplay.Usable (d : PvDisplay) : Prop where
  framebufferConnection_isSome : d.framebufferConnection.isSome
  eventConnection_isSome : d.eventConnection.isSome
  framebuffer_isSome : d.framebuffer.isSome
  cursorImage_iff : d.cursor.image.isSome ↔ d.cursorImageConnection.isSome

/-- What the transport answers on one channel: the return codes of
`libivc_connect_with_id`, `libivc_register_event_callbacks` and `libivc_getLocalBuffer`. -/
structure ChannelEnv where
  connectRc : Int
  registerRc : Int
  localBufferRc : Int
  deriving DecidableEq, Repr

/-- What the environment answers during one `provider_create_display`: whether
`pv_helper_malloc` finds memory for the display, and each channel's transport. -/
structure CreateEnv where
  mallocOk : Bool
  channel : Channel → ChannelEnv

/-- The calls `provider_create_display` makes on the allocator and the transport, with their
results. -/
inductive CreateCall where
  | malloc (ok : Bool)
  | connect (client : IvcClient) (rc : Int)
  | registerEventCallbacks (client : IvcClient) (rc : Int)
  | getLocalBuffer (client : IvcClient) (rc : Int)
  | disconnect (client : IvcClient)
  | free
  deriving DecidableEq, Repr

/-! ## Sizes -/

/-- `PAGE_SIZE`. -/
def pageSize : Nat := 4096

/-- `PAGE_SHIFT`. -/
def pageShift : Nat := 12

/-- `event_ring_pages`. -/
def eventRingPages : Nat := 4

/-- `dirty_rectangles_pages`. -/
def dirtyRectanglesPages : Nat := 32

/-- `CURSOR_IMAGE_SIZE`: a 64 by 64 image of `bits_per_pixel / 8 = 4` bytes a pixel. -/
def cursorImageSize : Nat := 64 * 64 * (32 / 8)

/-- `align_to_next_page(address)`: `address + ~PAGE_MASK`, then `& PAGE_MASK`, in a
`uintptr_t` as wide as `size_t`. Clearing the low twelve bits rounds down to a multiple of
`PAGE_SIZE`. -/
def alignToNextPage (arch : Arch) (address : Nat) : Nat :=
  (address + (pageSize - 1)) % 2 ^ arch.sizeBits / pageSize * pageSize

/-- The page count of `__create_shared_framebuffer`: `pages_for_framebuffer =
(uint16_t)(align_to_next_page(display_size) >> PAGE_SHIFT)`, and one more page for IVC's
metadata, both `uint16_t`. -/
def sharedFramebufferPages (arch : Arch) (displaySize : UInt32) : UInt16 :=
  let pagesForFramebuffer : UInt16 :=
    UInt16.ofNat (alignToNextPage arch displaySize.toNat >>> pageShift)
  pagesForFramebuffer + 1

/-- The page count of `__open_cursor_image_connection`:
`(align_to_next_page(CURSOR_IMAGE_SIZE) >> PAGE_SHIFT) + 1`. -/
def cursorImagePages (arch : Arch) : Nat :=
  (alignToNextPage arch cursorImageSize >>> pageShift) + 1

/-! ## Creation -/

/-- `__open_outgoing_connection`: `*client` is the new client, or `NULL` when the connect
fails; the disconnect callback is registered and its return code not read. -/
def openOutgoingConnection (env : ChannelEnv) (client : IvcClient) :
    Int × Option IvcClient × List CreateCall :=
  if env.connectRc ≠ 0 then (env.connectRc, none, [.connect client env.connectRc])
  else (0, some client, [.connect client 0, .registerEventCallbacks client env.registerRc])

/-- `__open_cursor_image_connection`: the connection, then its local buffer as `cursor.image`;
a failed lookup disconnects the client again. -/
def openCursorImageConnection (arch : Arch) (env : ChannelEnv) (d : PvDisplay) (port : UInt16) :
    Int × PvDisplay × List CreateCall :=
  let client : IvcClient := ⟨.cursorImage, port, cursorImagePages arch⟩
  let r := openOutgoingConnection env client
  let d := { d with cursorImageConnection := r.2.1 }
  if r.1 ≠ 0 then (r.1, d, r.2.2)
  else if env.localBufferRc ≠ 0 then
    (env.localBufferRc, { d with cursorImageConnection := none },
      r.2.2 ++ [.getLocalBuffer client env.localBufferRc, .disconnect client])
  else (0, { d with cursor := { d.cursor with image := some client } },
    r.2.2 ++ [.getLocalBuffer client 0])

/-- `__create_pv_display_support_connections`: the event connection or an error; then a
dirty-rectangle and a cursor connection for each port offered, whose failures are only
logged. -/
def createPvDisplaySupportConnections (arch : Arch) (env : Channel → ChannelEnv)
    (request : DhAddDisplay) (d : PvDisplay) : Int × PvDisplay × List CreateCall :=
  let ev := openOutgoingConnection (env .event)
    ⟨.event, request.eventPort.toUInt16, eventRingPages⟩
  let d := { d with eventConnection := ev.2.1 }
  if ev.1 ≠ 0 then (ev.1, d, ev.2.2)
  else
    let dr : PvDisplay × List CreateCall :=
      if request.dirtyRectanglesPort ≠ 0 then
        let r := openOutgoingConnection (env .dirtyRectangles)
          ⟨.dirtyRectangles, request.dirtyRectanglesPort.toUInt16, dirtyRectanglesPages⟩
        ({ d with dirtyRectanglesConnection := r.2.1 }, r.2.2)
      else (d, [])
    let cu : PvDisplay × List CreateCall :=
      if request.cursorBitmapPort ≠ 0 then
        let r := openCursorImageConnection arch (env .cursorImage) dr.1
          request.cursorBitmapPort.toUInt16
        (r.2.1, r.2.2)
      else (dr.1, [])
    (0, cu.1, ev.2.2 ++ dr.2 ++ cu.2)

/-- `__create_shared_framebuffer`: the framebuffer pointer, `*client`, and the calls. A failed
buffer lookup disconnects the client again. -/
def createSharedFramebuffer (arch : Arch) (env : ChannelEnv) (port : UInt16)
    (displaySize : UInt32) : Option IvcClient × Option IvcClient × List CreateCall :=
  let client : IvcClient := ⟨.framebuffer, port, (sharedFramebufferPages arch displaySize).toNat⟩
  if env.connectRc ≠ 0 then (none, none, [.connect client env.connectRc])
  else if env.localBufferRc ≠ 0 then
    (none, none, [.connect client 0, .registerEventCallbacks client env.registerRc,
      .getLocalBuffer client env.localBufferRc, .disconnect client])
  else (some client, some client, [.connect client 0,
    .registerEventCallbacks client env.registerRc, .getLocalBuffer client 0])

/-- `pv_display_destroy`: each connection that is set is disconnected, then the display is
freed. -/
def pvDisplayDestroy (d : PvDisplay) : List CreateCall :=
  (d.eventConnection.toList ++ d.framebufferConnection.toList ++
    d.dirtyRectanglesConnection.toList ++ d.cursorImageConnection.toList).map .disconnect ++
    [.free]

/-- `__validate_add_display_request`: a framebuffer port and an event port. -/
def validateAddDisplayRequest (request : DhAddDisplay) : Bool :=
  request.framebufferPort != 0 && request.eventPort != 0

/-- The display `provider_create_display` fills in before it opens any connection:
`framebuffer_size = stride * height` in `uint32_t`, every pointer `NULL`, and the cursor
zeroed by `pv_helper_malloc`. -/
def newDisplay (request : DhAddDisplay) (width height stride : UInt32) : PvDisplay :=
  { key := request.key, width, height, stride, framebuffer := none,
    framebufferSize := (stride * height).toNat, cursor := ⟨none, 0, 0, false⟩,
    framebufferConnection := none, eventConnection := none, dirtyRectanglesConnection := none,
    cursorImageConnection := none }

/-- `provider_create_display(provider, new_display, request, width, height, stride,
initial_contents)`: the return code, the new display (none when the call fails), and the
calls made. On a failed framebuffer or support-connection setup the C stores NULL to
`*new_display`; on an invalid request or a failed allocation it returns before touching
`*new_display`, which keeps whatever the caller left there. -/
def providerCreateDisplay (arch : Arch) (env : CreateEnv) (request : DhAddDisplay)
    (width height stride : UInt32) : Int × Option PvDisplay × List CreateCall :=
  if !validateAddDisplayRequest request then (-einval, none, [])
  else if !env.mallocOk then (-enomem, none, [.malloc false])
  else
    let d := newDisplay request width height stride
    let fb := createSharedFramebuffer arch (env.channel .framebuffer)
      request.framebufferPort.toUInt16 (UInt32.ofNat d.framebufferSize)
    let d := { d with framebuffer := fb.1, framebufferConnection := fb.2.1 }
    if fb.1.isNone then (-enomem, none, .malloc true :: fb.2.2 ++ pvDisplayDestroy d)
    else
      let sc := createPvDisplaySupportConnections arch env.channel request d
      if sc.1 ≠ 0 then (sc.1, none, .malloc true :: fb.2.2 ++ sc.2.2 ++ pvDisplayDestroy sc.2.1)
      else (0, some sc.2.1, .malloc true :: fb.2.2 ++ sc.2.2)

/-! ## What each step of a create call does -/

/-- The client a call is made on. -/
def CreateCall.client? : CreateCall → Option IvcClient
  | .connect c _ | .registerEventCallbacks c _ | .getLocalBuffer c _ | .disconnect c => some c
  | .malloc _ | .free => none

/-- The call is made on the dirty-rectangle or the cursor channel. -/
def CreateCall.OnOptionalChannel (call : CreateCall) : Prop :=
  ∃ c, call.client? = some c ∧ (c.channel = .dirtyRectangles ∨ c.channel = .cursorImage)

/-- A connect that returned 0 is not disconnected later in the calls. -/
def Established (calls : List CreateCall) (ch : Channel) : Prop :=
  ∃ c : IvcClient, c.channel = ch ∧ .connect c 0 ∈ calls ∧ .disconnect c ∉ calls

/-- The framebuffer client a create call connects. -/
def framebufferClient (arch : Arch) (request : DhAddDisplay) (height stride : UInt32) :
    IvcClient :=
  ⟨.framebuffer, request.framebufferPort.toUInt16,
    (sharedFramebufferPages arch (UInt32.ofNat (stride * height).toNat)).toNat⟩

/-- The event client a create call connects. -/
def eventClient (request : DhAddDisplay) : IvcClient :=
  ⟨.event, request.eventPort.toUInt16, eventRingPages⟩

/-- A connect that succeeds is followed by the callback registration, whatever it returns. -/
theorem openOutgoingConnection_of_ok {env : ChannelEnv} (h : env.connectRc = 0)
    (client : IvcClient) : openOutgoingConnection env client =
      (0, some client, [.connect client 0, .registerEventCallbacks client env.registerRc]) := by
  simp [openOutgoingConnection, h]

/-- `__open_outgoing_connection` makes its calls on the client it is given only. -/
theorem openOutgoingConnection_calls (env : ChannelEnv) (client : IvcClient) :
    ∀ call ∈ (openOutgoingConnection env client).2.2, call.client? = some client := by
  unfold openOutgoingConnection
  split <;> simp [CreateCall.client?]

/-- The cursor connection touches only the cursor fields, and leaves `cursor.image` set exactly
when `cursor_image_connection` is, from a display with neither. -/
theorem openCursorImageConnection_spec (arch : Arch) (env : ChannelEnv) (d : PvDisplay)
    (port : UInt16) (hi : d.cursor.image = none) :
    let r := openCursorImageConnection arch env d port
    r.2.1.framebuffer = d.framebuffer ∧ r.2.1.framebufferConnection = d.framebufferConnection ∧
      r.2.1.eventConnection = d.eventConnection ∧
      (r.2.1.cursor.image.isSome ↔ r.2.1.cursorImageConnection.isSome) ∧
      ∀ call ∈ r.2.2, call.OnOptionalChannel := by
  have hcalls := openOutgoingConnection_calls env ⟨.cursorImage, port, cursorImagePages arch⟩
  unfold openCursorImageConnection openOutgoingConnection at *
  by_cases hc : env.connectRc = 0
  · by_cases hl : env.localBufferRc = 0
    · simp [hc, hl, CreateCall.OnOptionalChannel, CreateCall.client?]
    · simp [hc, hl, hi, CreateCall.OnOptionalChannel, CreateCall.client?]
  · simp [hc, hi, CreateCall.OnOptionalChannel, CreateCall.client?]

/-- With the event connection made, the support connections succeed; they set the event
connection, and the dirty-rectangle and cursor connections make only calls on their own
channels. -/
theorem createPvDisplaySupportConnections_ok (arch : Arch) (env : Channel → ChannelEnv)
    (request : DhAddDisplay) (d : PvDisplay) (hev : (env .event).connectRc = 0)
    (hi : d.cursor.image = none) (hc : d.cursorImageConnection = none) :
    ∃ d' rest, createPvDisplaySupportConnections arch env request d =
        (0, d', [.connect (eventClient request) 0,
          .registerEventCallbacks (eventClient request) (env .event).registerRc] ++ rest) ∧
      d'.framebuffer = d.framebuffer ∧ d'.framebufferConnection = d.framebufferConnection ∧
      d'.eventConnection = some (eventClient request) ∧
      (d'.cursor.image.isSome ↔ d'.cursorImageConnection.isSome) ∧
      ∀ call ∈ rest, call.OnOptionalChannel := by
  have hdr : ∀ call ∈ (openOutgoingConnection (env .dirtyRectangles)
      ⟨.dirtyRectangles, request.dirtyRectanglesPort.toUInt16, dirtyRectanglesPages⟩).2.2,
      call.OnOptionalChannel := fun call hcall =>
    ⟨_, openOutgoingConnection_calls _ _ call hcall, .inl rfl⟩
  simp only [createPvDisplaySupportConnections, openOutgoingConnection_of_ok hev, ne_eq,
    not_true_eq_false, if_false, List.append_assoc]
  refine ⟨_, _, rfl, ?_⟩
  by_cases hdp : request.dirtyRectanglesPort = 0 <;> by_cases hcp : request.cursorBitmapPort = 0 <;>
    simp only [hdp, hcp, not_true_eq_false, not_false_eq_true, if_true, if_false]
  · simp [hi, hc, eventClient]
  · obtain ⟨h1, h2, h3, h4, h5⟩ := openCursorImageConnection_spec arch (env .cursorImage)
      { d with eventConnection := some (eventClient request) } request.cursorBitmapPort.toUInt16 hi
    exact ⟨h1, h2, h3, h4, by simpa using h5⟩
  · simpa [hi, hc, eventClient] using hdr
  · obtain ⟨h1, h2, h3, h4, h5⟩ := openCursorImageConnection_spec arch (env .cursorImage)
      { d with eventConnection := some (eventClient request),
               dirtyRectanglesConnection := (openOutgoingConnection (env .dirtyRectangles)
                 ⟨.dirtyRectangles, request.dirtyRectanglesPort.toUInt16, dirtyRectanglesPages⟩).2.1 }
      request.cursorBitmapPort.toUInt16 hi
    exact ⟨h1, h2, h3, h4, fun call hcall => (List.mem_append.1 hcall).elim (hdr call) (h5 call)⟩

/-- The three ways `__create_shared_framebuffer` ends. -/
theorem createSharedFramebuffer_cases (arch : Arch) (env : ChannelEnv) (port : UInt16)
    (displaySize : UInt32) :
    let c : IvcClient := ⟨.framebuffer, port, (sharedFramebufferPages arch displaySize).toNat⟩
    let r := createSharedFramebuffer arch env port displaySize
    (env.connectRc ≠ 0 ∧ r = (none, none, [.connect c env.connectRc])) ∨
    (env.connectRc = 0 ∧ env.localBufferRc ≠ 0 ∧ r = (none, none, [.connect c 0,
      .registerEventCallbacks c env.registerRc, .getLocalBuffer c env.localBufferRc,
      .disconnect c])) ∨
    (env.connectRc = 0 ∧ env.localBufferRc = 0 ∧ r = (some c, some c, [.connect c 0,
      .registerEventCallbacks c env.registerRc, .getLocalBuffer c 0])) := by
  dsimp only
  unfold createSharedFramebuffer
  by_cases hc : env.connectRc = 0
  · by_cases hl : env.localBufferRc = 0
    · exact .inr (.inr ⟨hc, hl, by simp [hc, hl]⟩)
    · exact .inr (.inl ⟨hc, hl, by simp [hc, hl]⟩)
  · exact .inl ⟨hc, by simp [hc]⟩

/-- A failed event connect ends `__create_pv_display_support_connections` at once. -/
theorem createPvDisplaySupportConnections_of_event_fails (arch : Arch)
    (env : Channel → ChannelEnv) (request : DhAddDisplay) (d : PvDisplay)
    (hev : (env .event).connectRc ≠ 0) :
    createPvDisplaySupportConnections arch env request d =
      ((env .event).connectRc, { d with eventConnection := none },
        [.connect (eventClient request) (env .event).connectRc]) := by
  simp [createPvDisplaySupportConnections, openOutgoingConnection, hev, eventClient]

/-- The six ways `provider_create_display` ends: an invalid request, no memory for the display,
a failed framebuffer connect, a failed framebuffer buffer lookup, a failed event connect, or a
usable display. -/
theorem providerCreateDisplay_cases (arch : Arch) (env : CreateEnv) (request : DhAddDisplay)
    (width height stride : UInt32) :
    let r := providerCreateDisplay arch env request width height stride
    let fbE := env.channel .framebuffer
    let evE := env.channel .event
    let fbc := framebufferClient arch request height stride
    let evc := eventClient request
    (r = (-einval, none, [])) ∨
    (r = (-enomem, none, [.malloc false])) ∨
    (fbE.connectRc ≠ 0 ∧ r = (-enomem, none, [.malloc true, .connect fbc fbE.connectRc, .free])) ∨
    (fbE.localBufferRc ≠ 0 ∧ r = (-enomem, none, [.malloc true, .connect fbc 0,
      .registerEventCallbacks fbc fbE.registerRc, .getLocalBuffer fbc fbE.localBufferRc,
      .disconnect fbc, .free])) ∨
    (evE.connectRc ≠ 0 ∧ r = (evE.connectRc, none, [.malloc true, .connect fbc 0,
      .registerEventCallbacks fbc fbE.registerRc, .getLocalBuffer fbc 0,
      .connect evc evE.connectRc, .disconnect fbc, .free])) ∨
    (∃ d rest, r = (0, some d, [.malloc true, .connect fbc 0,
      .registerEventCallbacks fbc fbE.registerRc, .getLocalBuffer fbc 0, .connect evc 0,
      .registerEventCallbacks evc evE.registerRc] ++ rest) ∧
      d.Usable ∧ ∀ call ∈ rest, call.OnOptionalChannel) := by
  dsimp only
  unfold providerCreateDisplay
  cases validateAddDisplayRequest request
  · exact .inl rfl
  cases env.mallocOk
  · exact .inr (.inl rfl)
  simp only [Bool.not_true, Bool.false_eq_true, if_false]
  rcases createSharedFramebuffer_cases arch (env.channel .framebuffer)
      request.framebufferPort.toUInt16 (UInt32.ofNat (newDisplay request width height stride).framebufferSize)
    with ⟨hc, hfb⟩ | ⟨-, hl, hfb⟩ | ⟨hc, hl, hfb⟩ <;> rw [hfb]
  · exact .inr (.inr (.inl ⟨hc, by simp [pvDisplayDestroy, newDisplay]; rfl⟩))
  · exact .inr (.inr (.inr (.inl ⟨hl, by simp [pvDisplayDestroy, newDisplay]; rfl⟩)))
  · simp only [Option.isNone_some, Bool.false_eq_true, if_false]
    by_cases hev : (env.channel .event).connectRc = 0
    · obtain ⟨d, rest, hsc, hf, hfc, he, hcur, hrest⟩ := createPvDisplaySupportConnections_ok arch
        env.channel request { newDisplay request width height stride with
          framebuffer := some (framebufferClient arch request height stride),
          framebufferConnection := some (framebufferClient arch request height stride) } hev rfl rfl
      refine .inr (.inr (.inr (.inr (.inr ⟨d, rest, ?_, ⟨?_, ?_, ?_, hcur⟩, hrest⟩))))
      · erw [hsc]; rfl
      · rw [hfc]; rfl
      · rw [he]; rfl
      · rw [hf]; rfl
    · rw [createPvDisplaySupportConnections_of_event_fails arch env.channel request _ hev]
      exact .inr (.inr (.inr (.inr (.inl ⟨hev, by simp [hev, pvDisplayDestroy, newDisplay]; rfl⟩))))

/-- `provider_create_display` returns 0 exactly when the request is valid, the display is
allocated, the framebuffer connect and its buffer lookup succeed, and the event connect
succeeds: the optional channels never make it fail. -/
theorem providerCreateDisplay_eq_zero_iff (arch : Arch) (env : CreateEnv) (request : DhAddDisplay)
    (width height stride : UInt32) :
    (providerCreateDisplay arch env request width height stride).1 = 0 ↔
      validateAddDisplayRequest request = true ∧ env.mallocOk = true ∧
        (env.channel .framebuffer).connectRc = 0 ∧ (env.channel .framebuffer).localBufferRc = 0 ∧
        (env.channel .event).connectRc = 0 := by
  unfold providerCreateDisplay
  cases validateAddDisplayRequest request
  · simp [einval]
  cases env.mallocOk
  · simp [enomem]
  simp only [Bool.not_true, Bool.false_eq_true, if_false, true_and]
  rcases createSharedFramebuffer_cases arch (env.channel .framebuffer)
      request.framebufferPort.toUInt16 (UInt32.ofNat (newDisplay request width height stride).framebufferSize)
    with ⟨hc, hfb⟩ | ⟨-, hl, hfb⟩ | ⟨hc, hl, hfb⟩ <;> rw [hfb]
  · simp [hc, enomem]
  · simp [hl, enomem]
  · simp only [Option.isNone_some, Bool.false_eq_true, if_false, hc, hl, true_and]
    by_cases hev : (env.channel .event).connectRc = 0
    · obtain ⟨d, rest, hsc, -⟩ := createPvDisplaySupportConnections_ok arch env.channel request
        { newDisplay request width height stride with
          framebuffer := some (framebufferClient arch request height stride),
          framebufferConnection := some (framebufferClient arch request height stride) } hev rfl rfl
      erw [hsc]
      simp [hev]
    · rw [createPvDisplaySupportConnections_of_event_fails arch env.channel request _ hev]
      simp [hev]

/-- The optional connections never disconnect a framebuffer or an event client. -/
theorem disconnect_not_mem_of_optional {rest : List CreateCall}
    (hrest : ∀ call ∈ rest, call.OnOptionalChannel) {c : IvcClient}
    (hc : c.channel = .framebuffer ∨ c.channel = .event) : .disconnect c ∉ rest := by
  intro hm
  obtain ⟨c', hc', hch⟩ := hrest _ hm
  cases hc'
  rcases hc with hc | hc <;> rcases hch with hch | hch <;> rw [hc] at hch <;> cases hch

/-- **Creating a display.** For every request and every answer of the allocator and the
transport, `provider_create_display` returns 0 exactly when the framebuffer and event
connections were established; it then returns a usable display. On any other return it
returns no display, has disconnected every connection it opened exactly once, and has freed
the display it allocated. -/
theorem providerCreateDisplay_spec (arch : Arch) (env : CreateEnv) (request : DhAddDisplay)
    (width height stride : UInt32) :
    let r := providerCreateDisplay arch env request width height stride
    (r.1 = 0 ↔ Established r.2.2 .framebuffer ∧ Established r.2.2 .event) ∧
      (r.1 = 0 → ∃ d, r.2.1 = some d ∧ d.Usable) ∧
      (r.1 ≠ 0 → r.2.1 = none ∧
        (∀ c, .connect c 0 ∈ r.2.2 → r.2.2.count (.disconnect c) = 1) ∧
        r.2.2.count (.malloc true) = r.2.2.count .free) := by
  dsimp only
  rcases providerCreateDisplay_cases arch env request width height stride with
    h | h | ⟨hc, h⟩ | ⟨hl, h⟩ | ⟨he, h⟩ | ⟨d, rest, h, hu, hrest⟩ <;> rw [h]
  · simp [Established, einval]
  · simp [Established, enomem]
  · simp [Established, enomem, Ne.symm hc, List.count_cons]
  · simp [Established, enomem, hl, List.count_cons]
  · simp [Established, he, Ne.symm he, List.count_cons]
  · refine ⟨⟨fun _ => ⟨⟨framebufferClient arch request height stride, rfl, by simp, ?_⟩,
      ⟨eventClient request, rfl, by simp, ?_⟩⟩, fun _ => rfl⟩,
      fun _ => ⟨d, rfl, hu⟩, fun h => absurd rfl h⟩ <;>
    · intro hm
      rcases List.mem_append.1 hm with hm | hm
      · simp at hm
      · exact disconnect_not_mem_of_optional hrest (by simp [framebufferClient, eventClient]) hm

/-! ## Sizes, exact and wrapped -/

/-- `framebuffer_size` is the `uint32_t` product `stride * height`, wrapped. -/
theorem framebufferSize_newDisplay (request : DhAddDisplay) (width height stride : UInt32) :
    (newDisplay request width height stride).framebufferSize =
      stride.toNat * height.toNat % 2 ^ 32 := by
  show (stride.toBitVec * height.toBitVec).toNat = _
  rw [BitVec.toNat_mul]
  rfl

/-- Below `PAGE_SIZE * 65534` bytes nothing wraps: the page count is the number of pages the
size rounds up to, and one more. -/
theorem sharedFramebufferPages_of_le (arch : Arch) (n : UInt32) (h : n.toNat ≤ 4096 * 65534) :
    (sharedFramebufferPages arch n).toNat = (n.toNat + 4095) / 4096 + 1 := by
  have hw : 2 ^ 32 ≤ 2 ^ arch.sizeBits := Nat.pow_le_pow_right (by decide) (by cases arch <;> decide)
  have hmod : (n.toNat + (pageSize - 1)) % 2 ^ arch.sizeBits = n.toNat + 4095 :=
    Nat.mod_eq_of_lt (by simp only [pageSize]; omega)
  have hpages : (n.toNat + 4095) / 4096 < 65535 := by omega
  unfold sharedFramebufferPages alignToNextPage
  rw [hmod, pageShift, Nat.shiftRight_eq_div_pow, pageSize, show (2 : Nat) ^ 12 = 4096 from rfl,
    Nat.mul_div_cancel _ (by decide)]
  show (BitVec.ofNat 16 ((n.toNat + 4095) / 4096) + 1#16).toNat = _
  rw [BitVec.toNat_add, BitVec.toNat_ofNat]
  simp only [BitVec.toNat_ofNat]
  omega

/-- Where a framebuffer of at most `PAGE_SIZE * 65534` bytes is shared: `framebuffer_size` is
the product `stride * height`, and the framebuffer client is connected with one page more than
the size rounds up to. -/
theorem framebufferClient_pages_of_le (arch : Arch) (request : DhAddDisplay)
    (width height stride : UInt32) (h : stride.toNat * height.toNat ≤ 4096 * 65534) :
    (newDisplay request width height stride).framebufferSize = stride.toNat * height.toNat ∧
      (framebufferClient arch request height stride).pages =
        (stride.toNat * height.toNat + 4095) / 4096 + 1 := by
  have hsize := framebufferSize_newDisplay request width height stride
  rw [Nat.mod_eq_of_lt (by omega)] at hsize
  have hn : (UInt32.ofNat (newDisplay request width height stride).framebufferSize).toNat =
      stride.toNat * height.toNat := by
    rw [hsize]; exact UInt32.toNat_ofNat_of_lt (by show _ < 4294967296; omega)
  refine ⟨hsize, ?_⟩
  show (sharedFramebufferPages arch
    (UInt32.ofNat (newDisplay request width height stride).framebufferSize)).toNat = _
  rw [sharedFramebufferPages_of_le arch _ (by omega), hn]

/-- A 1920 by 1080 display with a 7680-byte stride: 2025 pages of pixels and one more, 2026. -/
theorem framebufferClient_pages_full_hd :
    (7680 : UInt32).toNat * (1080 : UInt32).toNat ≤ 4096 * 65534 ∧
      (newDisplay ⟨0, 1, 2, 0, 0⟩ 1920 1080 7680).framebufferSize = 7680 * 1080 ∧
      (framebufferClient .lp64 ⟨0, 1, 2, 0, 0⟩ 1080 7680).pages = (7680 * 1080 + 4095) / 4096 + 1 :=
  ⟨by decide, framebufferClient_pages_of_le .lp64 ⟨0, 1, 2, 0, 0⟩ 1920 1080 7680 (by decide)⟩

/-- With every call succeeding, a display of stride 4096 and height 65536 gets
`framebuffer_size = 2^28` and a framebuffer client of one page, where the size needs 65537:
`pages_for_framebuffer` wraps to 0. With stride and height 65536 the `uint32_t` product
`stride * height` wraps to 0. -/
theorem providerCreateDisplay_framebuffer_wraps (arch : Arch) :
    let env : CreateEnv := ⟨true, fun _ => ⟨0, 0, 0⟩⟩
    let request : DhAddDisplay := ⟨0, 1, 2, 0, 0⟩
    (providerCreateDisplay arch env request 1024 65536 4096).2.1.map
        (fun d => (d.framebufferSize, d.framebufferConnection)) =
      some (4096 * 65536, some ⟨.framebuffer, 2, 1⟩) ∧
    (providerCreateDisplay arch env request 16384 65536 65536).2.1.map
        (fun d => (d.framebufferSize, d.framebufferConnection)) =
      some (0, some ⟨.framebuffer, 2, 1⟩) := by
  cases arch <;> decide

end PvDisplayHelper
