import PvDisplayHelper.Provider.Cursor
import PvDisplayHelper.Dispatch.Agreement

/-!
# PV display helper — the operations that send, and a display's later life

Each operation here sends one packet with `__send_packet` (`Message.send`) on the
channel it talks over: the provider's and the consumer's control channels, or a display's
event connection. Most return what `__send_packet` returned. Three do not:
`consumer_add_display` and `consumer_remove_display` log a failed send and return 0, and
`pv_display_load_cursor_image` drops the return code of the update-cursor packet
`copy_image` sends.

After `provider_create_display`, every display operation but `destroy` writes only the
geometry and the cursor's hot spot and visibility: the connections, the framebuffer and the
cursor image stay as creation left them.

* `SendOp.outcome_of_propagates` — the ten operations that propagate the send's return code
  return 0 exactly when their packet was appended, and change nothing on the channel otherwise.
* `SendOp.closed_channel_returns_zero` — the other three return 0 on a closed channel.
* `providerCreateDisplay_usable_run` — creation's contract, and a display created stays usable
  over every run of later operations but `destroy`.
-/

namespace PvDisplayHelper

/-! ## The operations that send -/

/-- The one `__send_packet` an operation makes, on the link it sends on. -/
def Message.send (m : Message) (env : SendEnv) (l : Link) : Int × Link :=
  sendPacket env l m.sendArgs.1 m.sendArgs.2.1 m.sendArgs.2.2

/-- The bytes an operation's packet puts on its link. -/
def Message.bytes (m : Message) : List UInt8 :=
  packetBytes m.sendArgs.1 m.sendArgs.2.1 m.sendArgs.2.2

/-- `provider_advertise_capabilities(provider, max_displays)`. -/
def providerAdvertiseCapabilities (env : SendEnv) (l : Link) (maxDisplays : UInt32) : Int × Link :=
  (Message.advertiseCapabilities maxDisplays).send env l

/-- `provider_advertise_displays(provider, displays, display_count)`; `allocOk` is whether
`pv_helper_malloc` finds memory for the list. -/
def providerAdvertiseDisplays (allocOk : Bool) (env : SendEnv) (l : Link)
    (displays : List DhDisplayInfo) : Int × Link :=
  if !allocOk then (-enomem, l) else (Message.advertiseDisplays displays).send env l

/-- `provider_force_text_mode(provider, force_text_mode)`. -/
def providerForceTextMode (env : SendEnv) (l : Link) (force : Bool) : Int × Link :=
  (Message.forceTextMode force).send env l

/-- `provider_destroy_display(provider, display)`: the notification, whose return code is
returned once `display->destroy` has run. -/
def providerDestroyDisplay (env : SendEnv) (l : Link) (d : PvDisplay) :
    Int × Link × List CreateCall :=
  let r := (Message.destroyDisplay d.key).send env l
  (r.1, r.2, pvDisplayDestroy d)

/-- `consumer_display_list(consumer, displays, display_count)`; `allocOk` is whether
`pv_helper_malloc` finds memory for the list. -/
def consumerDisplayList (allocOk : Bool) (env : SendEnv) (l : Link)
    (displays : List DhDisplayInfo) : Int × Link :=
  if !allocOk then (-enomem, l) else (Message.displayList displays).send env l

/-- `consumer_add_display(consumer, key, event_port, framebuffer_port, dirty_rectangles_port,
cursor_bitmap_port)`: a failed send is logged, and 0 returned. -/
def consumerAddDisplay (env : SendEnv) (l : Link)
    (key eventPort framebufferPort dirtyRectanglesPort cursorBitmapPort : UInt32) : Int × Link :=
  let r := (Message.addDisplay key eventPort framebufferPort dirtyRectanglesPort
    cursorBitmapPort).send env l
  (0, r.2)

/-- `consumer_remove_display(consumer, key)`: a failed send is logged, and 0 returned. -/
def consumerRemoveDisplay (env : SendEnv) (l : Link) (key : UInt32) : Int × Link :=
  let r := (Message.removeDisplay key).send env l
  (0, r.2)

/-- `pv_display_change_resolution(display, width, height, stride)`. -/
def pvDisplayChangeResolution (env : SendEnv) (s : DisplaySession) (width height stride : UInt32) :
    Int × DisplaySession :=
  let r := (Message.changeResolution width height stride).send env s.events
  (r.1, { s with display := { s.display with width, height, stride }, events := r.2 })

/-- The cursor checks of `set_cursor_hotspot`, `set_cursor_visibility` and `move_cursor`:
`cursor.image` and `cursor_image_connection` are set. -/
def PvDisplay.HasCursor (d : PvDisplay) : Bool :=
  d.cursor.image.isSome && d.cursorImageConnection.isSome

/-- `pv_display_set_cursor_hotspot(display, hotspot_x, hotspot_y)`. -/
def pvDisplaySetCursorHotspot (env : SendEnv) (s : DisplaySession) (hotspotX hotspotY : UInt32) :
    Int × DisplaySession :=
  if !s.display.HasCursor then (-einval, s)
  else if hotspotX.toNat > pvDriverCursorWidth then (-einval, s)
  else if hotspotY.toNat > pvDriverCursorHeight then (-einval, s)
  else
    let s := { s with display := { s.display with
      cursor := { s.display.cursor with hotspotX, hotspotY } } }
    let r := sendCursorUpdateUnsynchronized env s
    (r.1, { s with events := r.2 })

/-- `pv_display_set_cursor_visibility(display, visible)`. -/
def pvDisplaySetCursorVisibility (env : SendEnv) (s : DisplaySession) (visible : Bool) :
    Int × DisplaySession :=
  if !s.display.HasCursor then (-einval, s)
  else
    let s := { s with display := { s.display with cursor := { s.display.cursor with visible } } }
    let r := sendCursorUpdateUnsynchronized env s
    (r.1, { s with events := r.2 })

/-- `pv_display_move_cursor(display, x, y)`. -/
def pvDisplayMoveCursor (env : SendEnv) (s : DisplaySession) (x y : UInt32) :
    Int × DisplaySession :=
  if !s.display.HasCursor then (-einval, s)
  else
    let r := (Message.moveCursor x y).send env s.events
    (r.1, { s with events := r.2 })

/-- `pv_display_blank_display(display, dpms, blank)`. -/
def pvDisplayBlankDisplay (env : SendEnv) (s : DisplaySession) (dpms blank : Bool) :
    Int × DisplaySession :=
  let r := (Message.blankDisplay dpms blank).send env s.events
  (r.1, { s with events := r.2 })

/-- The thirteen operations that send one packet and return a code, with their arguments. -/
inductive SendOp where
  | advertiseCapabilities (maxDisplays : UInt32)
  | advertiseDisplays (allocOk : Bool) (displays : List DhDisplayInfo)
  | forceTextMode (force : Bool)
  | destroyDisplay (d : PvDisplay)
  | changeResolution (width height stride : UInt32)
  | setCursorHotspot (hotspotX hotspotY : UInt32)
  | setCursorVisibility (visible : Bool)
  | moveCursor (x y : UInt32)
  | loadCursorImage (image : Option (Nat → UInt8)) (sourceWidth sourceHeight : UInt8)
  | blankDisplay (dpms blank : Bool)
  | displayList (allocOk : Bool) (displays : List DhDisplayInfo)
  | addDisplay (key eventPort framebufferPort dirtyRectanglesPort cursorBitmapPort : UInt32)
  | removeDisplay (key : UInt32)

/-- The return code of an operation and its channel after it: the control channel `l` for
the provider's and the consumer's operations, the display's event connection for its own. -/
def SendOp.outcome (env : SendEnv) (s : DisplaySession) (l : Link) : SendOp → Int × Link
  | .advertiseCapabilities n => providerAdvertiseCapabilities env l n
  | .advertiseDisplays a ds => providerAdvertiseDisplays a env l ds
  | .forceTextMode b => providerForceTextMode env l b
  | .destroyDisplay d => ((providerDestroyDisplay env l d).1, (providerDestroyDisplay env l d).2.1)
  | .changeResolution w h st =>
    ((pvDisplayChangeResolution env s w h st).1, (pvDisplayChangeResolution env s w h st).2.events)
  | .setCursorHotspot x y =>
    ((pvDisplaySetCursorHotspot env s x y).1, (pvDisplaySetCursorHotspot env s x y).2.events)
  | .setCursorVisibility v =>
    ((pvDisplaySetCursorVisibility env s v).1, (pvDisplaySetCursorVisibility env s v).2.events)
  | .moveCursor x y => ((pvDisplayMoveCursor env s x y).1, (pvDisplayMoveCursor env s x y).2.events)
  | .loadCursorImage image w h =>
    ((pvDisplayLoadCursorImage env s image w h).1,
      (pvDisplayLoadCursorImage env s image w h).2.events)
  | .blankDisplay dpms blank =>
    ((pvDisplayBlankDisplay env s dpms blank).1, (pvDisplayBlankDisplay env s dpms blank).2.events)
  | .displayList a ds => consumerDisplayList a env l ds
  | .addDisplay k e f d c => consumerAddDisplay env l k e f d c
  | .removeDisplay k => consumerRemoveDisplay env l k

/-- The channel an operation sends on. -/
def SendOp.channel (s : DisplaySession) (l : Link) : SendOp → Link
  | .advertiseCapabilities .. | .advertiseDisplays .. | .forceTextMode .. | .destroyDisplay ..
  | .displayList .. | .addDisplay .. | .removeDisplay .. => l
  | _ => s.events

/-- The packet an operation is to send, with the values it sends. -/
def SendOp.message (s : DisplaySession) : SendOp → Message
  | .advertiseCapabilities n => .advertiseCapabilities n
  | .advertiseDisplays _ ds => .advertiseDisplays ds
  | .forceTextMode b => .forceTextMode b
  | .destroyDisplay d => .destroyDisplay d.key
  | .changeResolution w h st => .changeResolution w h st
  | .setCursorHotspot x y => .cursorUpdate x y s.display.cursor.visible
  | .setCursorVisibility v => .cursorUpdate s.display.cursor.hotspotX s.display.cursor.hotspotY v
  | .moveCursor x y => .moveCursor x y
  | .loadCursorImage .. =>
    .cursorUpdate s.display.cursor.hotspotX s.display.cursor.hotspotY s.display.cursor.visible
  | .blankDisplay dpms blank => .blankDisplay dpms blank
  | .displayList _ ds => .displayList ds
  | .addDisplay k e f d c => .addDisplay k e f d c
  | .removeDisplay k => .removeDisplay k

/-- The operations that return what their send returned. -/
def SendOp.Propagates : SendOp → Prop
  | .loadCursorImage .. | .addDisplay .. | .removeDisplay .. => False
  | _ => True

/-! ## Return codes -/

/-- A send returns 0 and appends its packet, or returns an error and appends nothing. -/
theorem Message.send_outcome (m : Message) (env : SendEnv) (l : Link) :
    ((m.send env l).1 = 0 ∧ (m.send env l).2 = l.send m.bytes) ∨
      ((m.send env l).1 ≠ 0 ∧ (m.send env l).2 = l) := by
  rcases sendPacket_cases env l m.sendArgs.1 m.sendArgs.2.1 m.sendArgs.2.2 with h | ⟨rc, hrc, h⟩
  · exact .inl ⟨congrArg Prod.fst h, congrArg Prod.snd h⟩
  · exact .inr ⟨by rw [Message.send, h]; exact hrc, congrArg Prod.snd h⟩

/-- A check that fails returns an error and sends nothing. -/
theorem rejected_outcome (l : Link) (e : Int) (he : e ≠ 0) (m : Message) :
    ((e, l).1 = 0 ∧ (e, l).2 = l.send m.bytes) ∨ ((e, l).1 ≠ 0 ∧ (e, l).2 = l) :=
  .inr ⟨he, rfl⟩

/-- **Return codes.** Each operation that returns what its `__send_packet` returned — all but
`load_cursor_image`, `add_display` and `remove_display` — returns 0 exactly when the packet it
is to send was appended to its channel, and otherwise returns an error with the channel as it
was, whatever the channel, the allocator and the transport answer. -/
theorem SendOp.outcome_of_propagates (op : SendOp) (hop : op.Propagates) (env : SendEnv)
    (s : DisplaySession) (l : Link) :
    ((op.outcome env s l).1 = 0 ∧
        (op.outcome env s l).2 = (op.channel s l).send (op.message s).bytes) ∨
      ((op.outcome env s l).1 ≠ 0 ∧ (op.outcome env s l).2 = op.channel s l) := by
  have hinval : -einval ≠ 0 := by decide
  have hnomem : -enomem ≠ 0 := by decide
  cases op with
  | advertiseCapabilities n => exact Message.send_outcome (.advertiseCapabilities n) env l
  | forceTextMode b => exact Message.send_outcome (.forceTextMode b) env l
  | destroyDisplay d => exact Message.send_outcome (.destroyDisplay d.key) env l
  | changeResolution w h st => exact Message.send_outcome (.changeResolution w h st) env s.events
  | blankDisplay dpms blank => exact Message.send_outcome (.blankDisplay dpms blank) env s.events
  | loadCursorImage | addDisplay | removeDisplay => exact hop.elim
  | advertiseDisplays a ds =>
    cases a
    · exact rejected_outcome l _ hnomem _
    · exact Message.send_outcome (.advertiseDisplays ds) env l
  | displayList a ds =>
    cases a
    · exact rejected_outcome l _ hnomem _
    · exact Message.send_outcome (.displayList ds) env l
  | setCursorVisibility v =>
    unfold outcome pvDisplaySetCursorVisibility
    cases h : s.display.HasCursor
    · exact rejected_outcome s.events _ hinval _
    · exact Message.send_outcome
        (.cursorUpdate s.display.cursor.hotspotX s.display.cursor.hotspotY v) env s.events
  | moveCursor x y =>
    unfold outcome pvDisplayMoveCursor
    cases h : s.display.HasCursor
    · exact rejected_outcome s.events _ hinval _
    · exact Message.send_outcome (.moveCursor x y) env s.events
  | setCursorHotspot x y =>
    unfold outcome pvDisplaySetCursorHotspot
    cases h : s.display.HasCursor
    · exact rejected_outcome s.events _ hinval _
    simp only [Bool.not_true, Bool.false_eq_true, if_false]
    by_cases hx : x.toNat > pvDriverCursorWidth
    · rw [if_pos hx]; exact rejected_outcome s.events _ hinval _
    by_cases hy : y.toNat > pvDriverCursorHeight
    · rw [if_neg hx, if_pos hy]; exact rejected_outcome s.events _ hinval _
    rw [if_neg hx, if_neg hy]
    exact Message.send_outcome (.cursorUpdate x y s.display.cursor.visible) env s.events

/-- `provider_force_text_mode` on an open channel with room: the packet goes out. -/
theorem SendOp.outcome_of_propagates_forceTextMode :
    let env : SendEnv := ⟨true, true, 0, 0⟩
    let l : Link := ⟨4096, [], ⟨⟨0, 0, 0, 0, 0⟩, [], false⟩⟩
    let s : DisplaySession :=
      ⟨⟨0, 0, 0, 0, none, 0, ⟨none, 0, 0, false⟩, none, none, none, none⟩, l, fun _ => 0⟩
    let op := SendOp.forceTextMode true
    op.Propagates ∧
      (((op.outcome env s l).1 = 0 ∧
          (op.outcome env s l).2 = (op.channel s l).send (op.message s).bytes) ∨
        ((op.outcome env s l).1 ≠ 0 ∧ (op.outcome env s l).2 = op.channel s l)) :=
  ⟨trivial, SendOp.outcome_of_propagates (.forceTextMode true) trivial _ _ _⟩

/-- On a closed channel, `consumer_add_display`, `consumer_remove_display` and
`load_cursor_image` (on a display with a cursor buffer and a 2 by 3 image) send nothing and
return 0. -/
theorem SendOp.closed_channel_returns_zero :
    let env : SendEnv := ⟨false, true, 0, 0⟩
    let l : Link := ⟨4096, [], ⟨⟨0, 0, 0, 0, 0⟩, [], false⟩⟩
    let s : DisplaySession :=
      ⟨⟨0, 0, 0, 0, none, 0, ⟨some ⟨.cursorImage, 0, 5⟩, 0, 0, false⟩, none, none, none,
        some ⟨.cursorImage, 0, 5⟩⟩, l, fun _ => 0⟩
    (SendOp.addDisplay 1 2 3 4 5).outcome env s l = (0, l) ∧
      (SendOp.removeDisplay 1).outcome env s l = (0, l) ∧
      (SendOp.loadCursorImage (some fun _ => 0xff) 2 3).outcome env s l = (0, s.events) :=
  ⟨rfl, rfl, rfl⟩

/-! ## A display's later life -/

/-- `pv_display_reconnect(display, request, rx_domain)`; `reconnectRc` is what
`libivc_reconnect` answers on each channel. The return code, the display (no field of which
is written), and the clients reconnected with their new ports. -/
def pvDisplayReconnect (reconnectRc : Channel → Int) (d : PvDisplay) (request : DhAddDisplay) :
    Int × PvDisplay × List (IvcClient × UInt16) :=
  match d.framebufferConnection, d.eventConnection with
  | some fb, some ev =>
    if request.framebufferPort = 0 ∨ request.eventPort = 0 then (-einval, d, [])
    else if reconnectRc .framebuffer ≠ 0 then (-enxio, d, [(fb, request.framebufferPort.toUInt16)])
    else if reconnectRc .event ≠ 0 then
      (-enxio, d, [(fb, request.framebufferPort.toUInt16), (ev, request.eventPort.toUInt16)])
    else
      let dr := match d.dirtyRectanglesConnection with
        | some c => if request.dirtyRectanglesPort ≠ 0 then
            [(c, request.dirtyRectanglesPort.toUInt16)] else []
        | none => []
      let cu := match d.cursorImageConnection with
        | some c => if request.cursorBitmapPort ≠ 0 then
            [(c, request.cursorBitmapPort.toUInt16)] else []
        | none => []
      (0, d, [(fb, request.framebufferPort.toUInt16), (ev, request.eventPort.toUInt16)] ++
        dr ++ cu)
  | _, _ => (-einval, d, [])

/-- The operations on a display after its creation, `destroy` apart. -/
inductive DisplayOp where
  | changeResolution (env : SendEnv) (width height stride : UInt32)
  /-- `invalidate_region`, which writes only the dirty-rectangle ring. -/
  | invalidateRegion (x y width height : UInt32)
  /-- `supports_cursor`, which only reads. -/
  | supportsCursor
  | setCursorHotspot (env : SendEnv) (hotspotX hotspotY : UInt32)
  | setCursorVisibility (env : SendEnv) (visible : Bool)
  | moveCursor (env : SendEnv) (x y : UInt32)
  | loadCursorImage (env : SendEnv) (image : Option (Nat → UInt8)) (sourceWidth sourceHeight : UInt8)
  | reconnect (reconnectRc : Channel → Int) (request : DhAddDisplay)
  | blankDisplay (env : SendEnv) (dpms blank : Bool)
  /-- `set_driver_data`, which writes only `driver_data`. -/
  | setDriverData
  /-- `register_fatal_error_handler`, which writes only `fatal_error_handler`. -/
  | registerFatalErrorHandler
  /-- A disconnect callback on one of the display's channels, which only calls the fatal-error
  handler. -/
  | disconnectEvent

/-- One operation. -/
def DisplaySession.step (s : DisplaySession) : DisplayOp → DisplaySession
  | .changeResolution env w h st => (pvDisplayChangeResolution env s w h st).2
  | .setCursorHotspot env x y => (pvDisplaySetCursorHotspot env s x y).2
  | .setCursorVisibility env v => (pvDisplaySetCursorVisibility env s v).2
  | .moveCursor env x y => (pvDisplayMoveCursor env s x y).2
  | .loadCursorImage env image w h => (pvDisplayLoadCursorImage env s image w h).2
  | .reconnect rcs request => { s with display := (pvDisplayReconnect rcs s.display request).2.1 }
  | .blankDisplay env dpms blank => (pvDisplayBlankDisplay env s dpms blank).2
  | .invalidateRegion .. | .supportsCursor | .setDriverData | .registerFatalErrorHandler
  | .disconnectEvent => s

/-- A run of operations. -/
def DisplaySession.run (s : DisplaySession) (ops : List DisplayOp) : DisplaySession :=
  ops.foldl DisplaySession.step s

/-- What usability reads: the connections, the framebuffer and the cursor image. -/
def PvDisplay.links (d : PvDisplay) :
    Option IvcClient × Option IvcClient × Option IvcClient × Option IvcClient × Option IvcClient :=
  (d.framebufferConnection, d.eventConnection, d.framebuffer, d.cursor.image,
    d.cursorImageConnection)

/-- Usability depends only on the display's links. -/
theorem PvDisplay.Usable.of_links {d d' : PvDisplay} (h : d'.links = d.links) (hu : d.Usable) :
    d'.Usable := by
  simp only [PvDisplay.links, Prod.mk.injEq] at h
  obtain ⟨h1, h2, h3, h4, h5⟩ := h
  exact ⟨h1 ▸ hu.1, h2 ▸ hu.2, h3 ▸ hu.3, h4 ▸ h5 ▸ hu.4⟩

/-- `reconnect` leaves the display's fields as they were. -/
theorem pvDisplayReconnect_display (reconnectRc : Channel → Int) (d : PvDisplay)
    (request : DhAddDisplay) : (pvDisplayReconnect reconnectRc d request).2.1 = d := by
  unfold pvDisplayReconnect
  split
  · split
    · rfl
    split
    · rfl
    split <;> rfl
  · rfl

/-- No operation but `destroy` touches the connections, the framebuffer or the cursor image. -/
theorem DisplaySession.step_links (s : DisplaySession) (op : DisplayOp) :
    (s.step op).display.links = s.display.links := by
  cases op with
  | setCursorHotspot env x y =>
    simp only [step, pvDisplaySetCursorHotspot]
    split
    · rfl
    split
    · rfl
    split <;> rfl
  | setCursorVisibility env v =>
    simp only [step, pvDisplaySetCursorVisibility]
    split <;> rfl
  | moveCursor env x y =>
    simp only [step, pvDisplayMoveCursor]
    split <;> rfl
  | loadCursorImage env image w h =>
    simp only [step, pvDisplayLoadCursorImage]
    split
    · rfl
    split
    · rfl
    split <;> rfl
  | reconnect rcs request => simp only [step, pvDisplayReconnect_display]
  | _ => rfl

/-- A usable display stays usable over every run of operations. -/
theorem DisplaySession.run_usable (ops : List DisplayOp) :
    ∀ s : DisplaySession, s.display.Usable → (s.run ops).display.Usable := by
  induction ops with
  | nil => exact fun _ h => h
  | cons op ops ih => exact fun s h => ih _ (h.of_links (s.step_links op))

/-- **A display's representation invariant.** For every request and every answer of the
allocator and the transport, `provider_create_display` returns 0 exactly when the framebuffer
and event connections were established, that is, exactly when the request is valid, the
display is allocated, and the framebuffer connect, its buffer lookup and the event connect
succeed. On any other return it returns no display, has
disconnected every connection it opened exactly once, and has freed the display it allocated.
On success the display it returns is usable — framebuffer and event connections, a
framebuffer, and a cursor image exactly when a cursor connection — and stays usable over
every run of the operations that follow, `reconnect` with any request included and `destroy`
apart. -/
theorem providerCreateDisplay_usable_run (arch : Arch) (env : CreateEnv) (request : DhAddDisplay)
    (width height stride : UInt32) :
    let r := providerCreateDisplay arch env request width height stride
    (r.1 = 0 ↔ Established r.2.2 .framebuffer ∧ Established r.2.2 .event) ∧
      (r.1 = 0 ↔ validateAddDisplayRequest request = true ∧ env.mallocOk = true ∧
        (env.channel .framebuffer).connectRc = 0 ∧ (env.channel .framebuffer).localBufferRc = 0 ∧
        (env.channel .event).connectRc = 0) ∧
      (r.1 ≠ 0 → r.2.1 = none ∧
        (∀ c, .connect c 0 ∈ r.2.2 → r.2.2.count (.disconnect c) = 1) ∧
        r.2.2.count (.malloc true) = r.2.2.count .free) ∧
      (r.1 = 0 → ∃ d, r.2.1 = some d ∧
        ∀ (events : Link) (cursorBuffer : Nat → UInt8) (ops : List DisplayOp),
          ((⟨d, events, cursorBuffer⟩ : DisplaySession).run ops).display.Usable) := by
  obtain ⟨hiff, hok, hfail⟩ := providerCreateDisplay_spec arch env request width height stride
  refine ⟨hiff, providerCreateDisplay_eq_zero_iff arch env request width height stride, hfail,
    fun h0 => ?_⟩
  obtain ⟨d, hd, hu⟩ := hok h0
  exact ⟨d, hd, fun events cursorBuffer ops => DisplaySession.run_usable ops _ hu⟩

end PvDisplayHelper
