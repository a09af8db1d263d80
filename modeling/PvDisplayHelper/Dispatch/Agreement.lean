import PvDisplayHelper.Dispatch.Receipt
import PvDisplayHelper.Receiver.RoundTrip

/-!
# PV display helper — what a sender's operation makes its peer's handler see

Each operation that talks to the peer fills a payload struct and calls `__send_packet` with
a packet type (`Message.sendArgs`). The round trip of `RoundTrip.lean` hands the frame to the
peer as `receiptOf`. Here the peer's dispatcher takes it from there.

* `Message.dispatch_call` — every operation but `force_text_mode` makes the peer call the
  handler registered for its kind with exactly the sender's values;
* `Message.dispatch_readsInside` — the dispatch of every frame the library's own senders
  build reads only inside the received packet;
* `unchecked_length_reads_past_packet` — the frames of a peer that does not fill the payload
  its length and type promise are read past their end.
-/

namespace PvDisplayHelper

/-! ## Senders -/

/-- The operations that send a packet, with their arguments. -/
inductive Message where
  /-- `consumer_display_list(consumer, displays, display_count)`. -/
  | displayList (displays : List DhDisplayInfo)
  /-- `consumer_add_display(consumer, key, event_port, framebuffer_port,
  dirty_rectangles_port, cursor_bitmap_port)`. -/
  | addDisplay (key eventPort framebufferPort dirtyRectanglesPort cursorBitmapPort : UInt32)
  /-- `consumer_remove_display(consumer, key)`. -/
  | removeDisplay (key : UInt32)
  /-- `provider_advertise_capabilities(provider, max_displays)`. -/
  | advertiseCapabilities (maxDisplays : UInt32)
  /-- `provider_advertise_displays(provider, displays, display_count)`. -/
  | advertiseDisplays (displays : List DhDisplayInfo)
  /-- `provider_destroy_display(provider, display)`, which sends `display->key`. -/
  | destroyDisplay (key : UInt32)
  /-- `provider_force_text_mode(provider, force_text_mode)`. -/
  | forceTextMode (force : Bool)
  /-- `pv_display_change_resolution(display, width, height, stride)`. -/
  | changeResolution (width height stride : UInt32)
  /-- `__send_cursor_update_unsynchronized`, as `set_cursor_hotspot` and
  `set_cursor_visibility` call it, with the display's cursor state. -/
  | cursorUpdate (hotspotX hotspotY : UInt32) (visible : Bool)
  /-- `pv_display_move_cursor(display, x, y)`. -/
  | moveCursor (x y : UInt32)
  /-- `pv_display_blank_display(display, dpms, blank)`. -/
  | blankDisplay (dpms blank : Bool)
  deriving DecidableEq, Repr

/-- The payload of a display list: `num_displays`, then the entries. -/
def displayListPayload (displays : List DhDisplayInfo) : List UInt8 :=
  DhDisplayList.bytes ⟨UInt32.ofNat displays.length, displays⟩

/-- `payload.reason` of `pv_display_blank_display`: `PACKET_BLANKING_DPMS_SLEEP`,
`PACKET_BLANKING_MODESETTING_FILL_ENABLE`, `PACKET_BLANKING_DPMS_WAKE` or
`PACKET_BLANKING_MODESETTING_FILL_DISABLE`. -/
def blankingReason (dpms blank : Bool) : UInt32 :=
  if blank then (if dpms then 0 else 2) else (if dpms then 1 else 3)

/-- The `__send_packet(channel, type, data, length)` call each operation makes. -/
def Message.sendArgs : Message → UInt32 × List UInt8 × UInt32
  | .displayList ds =>
    (packetTypeControlHostDisplayList, displayListPayload ds, UInt32.ofNat (4 + 24 * ds.length))
  | .addDisplay k e f d c => (packetTypeControlAddDisplay, DhAddDisplay.bytes ⟨k, e, f, d, c⟩, 20)
  | .removeDisplay k => (packetTypeControlRemoveDisplay, u32Bytes k, 4)
  | .advertiseCapabilities n =>
    (packetTypeControlDriverCapabilities,
      DhDriverCapabilities.bytes ⟨n, pvDriverInterfaceVersion, 0, 0⟩, 16)
  | .advertiseDisplays ds =>
    (packetTypeControlAdvertisedDisplayList, displayListPayload ds,
      UInt32.ofNat (4 + 24 * ds.length))
  | .destroyDisplay k => (packetTypeControlDisplayNoLongerAvailable, u32Bytes k, 4)
  | .forceTextMode b => (packetTypeControlTextMode, u32Bytes (if b then 1 else 0), 4)
  | .changeResolution w h s => (packetTypeEventSetDisplay, DhSetDisplay.bytes ⟨w, h, s⟩, 12)
  | .cursorUpdate hx hy v =>
    (packetTypeEventUpdateCursor, DhUpdateCursor.bytes ⟨hx, hy, if v then 1 else 0⟩, 12)
  | .moveCursor x y => (packetTypeEventMoveCursor, DhMoveCursor.bytes ⟨x, y⟩, 8)
  | .blankDisplay dpms blank =>
    (packetTypeEventBlankDisplay, DhBlanking.bytes ⟨0, blankingReason dpms blank⟩, 8)

/-- The frame an operation puts on the wire: its type and the `length` bytes of data sent. -/
def Message.frame (m : Message) : Frame :=
  (m.sendArgs.1, m.sendArgs.2.1.take m.sendArgs.2.2.toNat)

/-- The `length` an operation passes is the size of its data: a display list's `size_t
payload_size` fits the `uint32_t` parameter. -/
def Message.Fits (m : Message) : Prop := m.sendArgs.2.2.toNat = m.sendArgs.2.1.length

instance (m : Message) : Decidable m.Fits :=
  inferInstanceAs (Decidable (m.sendArgs.2.2.toNat = m.sendArgs.2.1.length))

/-- The receiver each operation's packet goes to. -/
def Message.receiver : Message → Receiver
  | .displayList _ | .addDisplay .. | .removeDisplay _ => .providerControl
  | .advertiseCapabilities _ | .advertiseDisplays _ | .destroyDisplay _ | .forceTextMode _ =>
    .consumerControl
  | .changeResolution .. | .cursorUpdate .. | .moveCursor .. | .blankDisplay .. => .backendEvent

/-- The peer's handler registered for each operation's kind. -/
def Message.registered (peers : Peers) : Message → Option HandlerId
  | .displayList _ => peers.provider.hostDisplayChange
  | .addDisplay .. => peers.provider.addDisplay
  | .removeDisplay _ => peers.provider.removeDisplay
  | .advertiseCapabilities _ => peers.consumer.driverCapabilities
  | .advertiseDisplays _ => peers.consumer.advertisedList
  | .destroyDisplay _ => peers.consumer.displayNoLongerAvailable
  | .forceTextMode _ => peers.consumer.textMode
  | .changeResolution .. => peers.backend.setDisplay
  | .cursorUpdate .. => peers.backend.updateCursor
  | .moveCursor .. => peers.backend.moveCursor
  | .blankDisplay .. => peers.backend.blankDisplay

/-- The call message agreement asks for: the sender's own values. -/
def Message.expected : Message → HandlerCall
  | .displayList ds => .hostDisplayChange ds (UInt32.ofNat ds.length)
  | .addDisplay k e f d c => .addDisplay ⟨k, e, f, d, c⟩
  | .removeDisplay k => .removeDisplay k
  | .advertiseCapabilities n => .driverCapabilities ⟨n, pvDriverInterfaceVersion, 0, 0⟩
  | .advertiseDisplays ds => .advertisedList ds (UInt32.ofNat ds.length)
  | .destroyDisplay k => .displayNoLongerAvailable k
  | .forceTextMode b => .textMode b
  | .changeResolution w h s => .setDisplay w h s
  | .cursorUpdate hx hy v => .updateCursor hx hy (if v then 1 else 0)
  | .moveCursor x y => .moveCursor x y
  | .blankDisplay dpms blank => .blankDisplay (blankingReason dpms blank)

/-- What the peer does with an operation's frame once its decoder hands it on. -/
def Message.dispatch (peers : Peers) (m : Message) : Dispatch :=
  m.receiver.dispatch peers (receiptOf m.frame)

/-! ## Display lists -/

/-- Dropping `i` entries' worth of bytes from a list of display entries leaves the others. -/
theorem drop_displayBytes (ds : List DhDisplayInfo) (rest : List UInt8) (i : Nat)
    (hi : i ≤ ds.length) :
    ((ds.map DhDisplayInfo.bytes).flatten ++ rest).drop (24 * i) =
      ((ds.drop i).map DhDisplayInfo.bytes).flatten ++ rest := by
  induction ds generalizing i with
  | nil => rw [Nat.le_zero.mp hi]; rfl
  | cons d ds ih =>
    cases i with
    | zero => rfl
    | succ i =>
      rw [show 24 * (i + 1) = d.bytes.length + 24 * i by simp; omega, List.map_cons,
        List.flatten_cons, List.append_assoc, List.drop_append, List.drop_succ_cons]
      exact ih i (Nat.le_of_succ_le_succ hi)

/-- Entry `i` of a display list payload is the `i`-th display sent. -/
theorem displayAt_displayListPayload (ds : List DhDisplayInfo) (rest : List UInt8) (i : Nat)
    (hi : i < ds.length) : displayAt (displayListPayload ds ++ rest) i = ds[i] := by
  rw [displayAt, displayListPayload, DhDisplayList.bytes, List.append_assoc,
    show 4 + 24 * i = (u32Bytes (UInt32.ofNat ds.length)).length + 24 * i by simp,
    List.drop_append, drop_displayBytes ds rest i (Nat.le_of_lt hi), List.drop_eq_getElem_cons hi]
  simp only [List.map_cons, List.flatten_cons, List.append_assoc, DhDisplayInfo.ofBytes_bytes]

/-- The entries read from a display list payload are the displays sent. -/
theorem displaysAt_displayListPayload (ds : List DhDisplayInfo) (rest : List UInt8)
    (h : ds.length < 2 ^ 32) :
    displaysAt (displayListPayload ds ++ rest) (UInt32.ofNat ds.length) = ds := by
  have hn : (UInt32.ofNat ds.length).toNat = ds.length := UInt32.toNat_ofNat_of_lt h
  refine List.ext_getElem (by simp [displaysAt, hn]) fun i h₁ h₂ => ?_
  simp only [displaysAt, List.getElem_map, List.getElem_range]
  exact displayAt_displayListPayload ds rest i h₂

/-- `num_displays` of a display list payload is the number of displays sent. -/
@[simp] theorem u32Field_displayListPayload (ds : List DhDisplayInfo) (rest : List UInt8) :
    u32Field (displayListPayload ds ++ rest) 0 = UInt32.ofNat ds.length := by
  simp [u32Field, displayListPayload, DhDisplayList.bytes]

/-- Each display entry takes 24 bytes. -/
theorem length_displayBytes (ds : List DhDisplayInfo) :
    (ds.map DhDisplayInfo.bytes).flatten.length = 24 * ds.length := by
  induction ds with
  | nil => rfl
  | cons d ds ih => simp only [List.map_cons, List.flatten_cons, List.length_append, ih,
      DhDisplayInfo.length_bytes, List.length_cons]; omega

/-- A display list payload is `num_displays` and 24 bytes per entry. -/
@[simp] theorem length_displayListPayload (ds : List DhDisplayInfo) :
    (displayListPayload ds).length = 4 + 24 * ds.length := by
  simp only [displayListPayload, DhDisplayList.bytes, List.length_append, length_u32Bytes,
    length_displayBytes]

/-! ## Agreement -/

/-- When the length passed fits the data, the frame sent is the whole of it. -/
theorem Message.frame_of_fits {m : Message} (hm : m.Fits) :
    m.frame = (m.sendArgs.1, m.sendArgs.2.1) := by
  rw [Message.frame, List.take_of_length_le (Nat.le_of_eq hm.symm)]

/-- A host display list whose length fits has fewer than `2^32` entries. -/
theorem Message.fits_displayList {ds : List DhDisplayInfo} (hm : (Message.displayList ds).Fits) :
    ds.length < 2 ^ 32 := by
  have := UInt32.toNat_lt_size (UInt32.ofNat (4 + 24 * ds.length))
  simp only [Message.Fits, Message.sendArgs, length_displayListPayload] at hm
  simp only [UInt32.size] at this
  omega

/-- An advertised display list whose length fits has fewer than `2^32` entries. -/
theorem Message.fits_advertiseDisplays {ds : List DhDisplayInfo}
    (hm : (Message.advertiseDisplays ds).Fits) : ds.length < 2 ^ 32 := by
  have := UInt32.toNat_lt_size (UInt32.ofNat (4 + 24 * ds.length))
  simp only [Message.Fits, Message.sendArgs, length_displayListPayload] at hm
  simp only [UInt32.size] at this
  omega

/-- Every operation but `force_text_mode` makes the peer call the handler registered for its
kind with the sender's values. -/
theorem Message.dispatch_call (peers : Peers) (m : Message) (hm : m.Fits)
    (ht : ∀ b, m ≠ .forceTextMode b) :
    (m.dispatch peers).call = (m.registered peers).map (·, m.expected) := by
  rw [Message.dispatch, Message.frame_of_fits hm]
  cases m with
  | displayList ds =>
    simp [Message.sendArgs, Message.receiver, receiptOf, sentHeader, packetHeader,
      Receiver.dispatch, providerHandleControlPacketReceipt, handleHostDisplayChangedEvent,
      frameTail, displaysAt_displayListPayload _ _ (Message.fits_displayList hm),
      Message.registered, Message.expected]
  | advertiseDisplays ds =>
    simp [Message.sendArgs, Message.receiver, receiptOf, sentHeader, packetHeader,
      Receiver.dispatch, consumerHandleControlPacketReceipt, handleAdvertisedDisplayListRequest,
      frameTail, displaysAt_displayListPayload _ _ (Message.fits_advertiseDisplays hm),
      Message.registered, Message.expected, packetTypeControlAdvertisedDisplayList,
      packetTypeControlDriverCapabilities]
  | forceTextMode b => exact absurd rfl (ht b)
  | _ =>
    simp [Message.sendArgs, Message.receiver, receiptOf, sentHeader, packetHeader,
      Receiver.dispatch, providerHandleControlPacketReceipt, consumerHandleControlPacketReceipt,
      handleEventPacketReceipt, frameTail, Message.registered, Message.expected,
      packetTypeControlHostDisplayList, packetTypeControlAddDisplay, packetTypeControlRemoveDisplay,
      packetTypeControlDriverCapabilities, packetTypeControlAdvertisedDisplayList,
      packetTypeControlDisplayNoLongerAvailable, packetTypeControlTextMode,
      packetTypeEventSetDisplay, packetTypeEventBlankDisplay, packetTypeEventUpdateCursor,
      packetTypeEventMoveCursor, handleAddDisplayRequest, handleRemoveDisplayRequest,
      handleGuestDriverCapabilitiesEvent, handleAdvertisedDisplayListRequest,
      handleDisplayNoLongerAvailableRequest, handleSetDisplayRequest, handleUpdateCursorRequest,
      handleMoveCursorRequest, handleBlankDisplayRequest, DhSetDisplay.bytes,
      DhUpdateCursor.bytes, DhMoveCursor.bytes, DhBlanking.bytes]

/-- `force_text_mode(b)` reaches the consumer's text-mode handler as `true`, whatever `b`. -/
theorem Message.force_text_mode_handled_as_true (peers : Peers) (force : Bool) :
    ((Message.forceTextMode force).dispatch peers).call =
      peers.consumer.textMode.map (·, .textMode true) := by
  simp [Message.dispatch, Message.frame, Message.sendArgs, Message.receiver, receiptOf,
    sentHeader, packetHeader, Receiver.dispatch, consumerHandleControlPacketReceipt,
    handleTextModeRequest, packetTypeControlDriverCapabilities,
    packetTypeControlAdvertisedDisplayList, packetTypeControlDisplayNoLongerAvailable,
    packetTypeControlTextMode]

/-! ## Reads -/

/-- On a 64-bit `size_t` the footer at `buffer + length` always lies inside the
`length_with_footer` bytes received; on a 32-bit one exactly when `length + 8` does not
wrap. Otherwise the packet read is an `.overread`. -/
theorem footer_inside_iff (arch : Arch) (h : DhHeader) :
    h.length.toNat + dhFooterSize ≤ lengthWithFooter arch h ↔
      arch = .lp64 ∨ h.length.toNat + dhFooterSize < 2 ^ 32 := by
  have hl := h.length.toNat_lt_size
  unfold lengthWithFooter dhFooterSize
  cases arch with
  | ilp32 =>
    simp only [Arch.sizeBits, reduceCtorEq, false_or, Nat.reducePow, UInt32.size] at hl ⊢
    omega
  | lp64 =>
    simp only [Arch.sizeBits, true_or, iff_true, Nat.reducePow, UInt32.size] at hl ⊢
    omega

/-- Converting to `uint32_t` never increases a number. -/
theorem toNat_ofNat_le (n : Nat) : (UInt32.ofNat n).toNat ≤ n := by
  show (BitVec.ofNat 32 n).toNat ≤ n
  rw [BitVec.toNat_ofNat]
  exact Nat.mod_le _ _

/-- The reads of a display list stay inside a packet with room for its entries. -/
theorem displayListReads_inside (n : UInt32) (k : Nat) (h : n.toNat ≤ k) :
    ∀ r ∈ displayListReads n, r.1 + r.2 ≤ 4 + 24 * k + dhFooterSize := by
  simp only [displayListReads, List.mem_cons, List.mem_singleton, List.not_mem_nil, or_false,
    dhFooterSize]
  rintro r (rfl | rfl) <;> omega

/-- The reads of every operation's frame stay inside the received packet. -/
theorem Message.dispatch_readsInside (peers : Peers) (m : Message) (hm : m.Fits) :
    (m.dispatch peers).ReadsInside (frameTail (sentHeader m.frame) m.frame.2).length := by
  rw [Message.dispatch, Message.frame_of_fits hm, length_frameTail]
  cases m <;>
  simp only [Message.sendArgs, Message.receiver, receiptOf, sentHeader, packetHeader,
      Receiver.dispatch, providerHandleControlPacketReceipt, consumerHandleControlPacketReceipt,
      handleEventPacketReceipt, packetTypeControlHostDisplayList, packetTypeControlAddDisplay,
      packetTypeControlRemoveDisplay, packetTypeControlDriverCapabilities,
      packetTypeControlAdvertisedDisplayList, packetTypeControlDisplayNoLongerAvailable,
      packetTypeControlTextMode, packetTypeEventSetDisplay, packetTypeEventBlankDisplay,
      packetTypeEventUpdateCursor, packetTypeEventMoveCursor, handleHostDisplayChangedEvent,
      handleAddDisplayRequest, handleRemoveDisplayRequest, handleGuestDriverCapabilitiesEvent,
      handleAdvertisedDisplayListRequest, handleDisplayNoLongerAvailableRequest,
      handleTextModeRequest, handleSetDisplayRequest, handleUpdateCursorRequest,
      handleMoveCursorRequest, handleBlankDisplayRequest, frameTail, List.append_assoc,
      u32Field_displayListPayload, length_displayListPayload, if_true, if_false] <;>
  refine handleRequest_readsInside ?_
  all_goals first
    | exact displayListReads_inside _ _ (toNat_ofNat_le _)
    | simp [dhFooterSize, DhAddDisplay.bytes, DhDriverCapabilities.bytes, DhSetDisplay.bytes,
        DhUpdateCursor.bytes, DhMoveCursor.bytes, DhBlanking.bytes]

/-- No receiver compares `header.length` with the payload struct of the header's type, nor
guards `length + 8` against wrapping. A peer's `ADD_DISPLAY` frame of 4 bytes with a matching
CRC is handed on, and the add-display handler is passed a 20-byte struct in a 12-byte buffer.
On a 32-bit `size_t`, a header of length `2^32 - 4` followed by four bytes has the receiver
take those four bytes as the whole frame and then read the checksummed payload and the footer
outside them. -/
theorem unchecked_length_reads_past_packet :
    ((Session.init 4096).run .lp64 .providerControl
        [.send packetTypeControlAddDisplay [1, 2, 3, 4] ⟨true, true, 0, 0⟩, .deliver 100 []]).events =
      [receiptOf (packetTypeControlAddDisplay, [1, 2, 3, 4])] ∧
    ¬ (Receiver.providerControl.dispatch
        ⟨⟨none, some 0, none⟩, ⟨none, none, none, none⟩, ⟨none, none, none, none, none⟩⟩
        (receiptOf (packetTypeControlAddDisplay, [1, 2, 3, 4]))).ReadsInside
      (frameTail (sentHeader (packetTypeControlAddDisplay, [1, 2, 3, 4])) [1, 2, 3, 4]).length ∧
    (Receiver.providerControl.handle .ilp32
        ⟨⟨0, 0, 0, 0, 0⟩, DhHeader.bytes ⟨pvDriverMagic1, pvDriverMagic2,
          packetTypeControlAddDisplay, 0xFFFFFFFC, 0⟩ ++ [0, 0, 0, 0], false⟩ []).2 =
      [.overread] := by
  set_option maxRecDepth 20000 in decide

theorem Message.dispatch_call_addDisplay :
    (Message.addDisplay 1 2 3 4 5).Fits ∧ (∀ b, Message.addDisplay 1 2 3 4 5 ≠ .forceTextMode b) ∧
      ((Message.addDisplay 1 2 3 4 5).dispatch
          ⟨⟨none, some 0, none⟩, ⟨none, none, none, none⟩, ⟨none, none, none, none, none⟩⟩).call =
        ((Message.addDisplay 1 2 3 4 5).registered
          ⟨⟨none, some 0, none⟩, ⟨none, none, none, none⟩, ⟨none, none, none, none, none⟩⟩).map
          (·, (Message.addDisplay 1 2 3 4 5).expected) :=
  ⟨by decide, fun _ h => Message.noConfusion h, Message.dispatch_call _ _ (by decide)
    fun _ h => Message.noConfusion h⟩

end PvDisplayHelper
