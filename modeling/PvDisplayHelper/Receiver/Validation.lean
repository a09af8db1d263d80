import PvDisplayHelper.Receiver.RoundTrip

/-!
# PV display helper — what the receivers check of a frame

A receiver reads any sixteen bytes as a header and checks one thing of the frame behind it:
that the CRC in the footer matches `__pv_helper_packet_checksum` of the header and payload.
Neither the magics nor the bound `PV_DRIVER_MAX_PAYLOAD_SIZE` on the length is looked at,
although `pv_driver_interface.h` says lengths are checked "for security reasons".

* `eventLoop_header_waits` / `_overreads` / `_rejects` / `_accepts` — the four things a data
  event can do with a header at the front of an idle receiver's queue, whatever its magics
  and length;
* `Receiver.handle_checks_only_crc` — the same for each of the three receivers;
* `Session.Stuck.run` — a receiver waiting for a frame longer than its ring can hold hands
  nothing on again, whatever is sent and delivered; `oversized_header_stalls_receiver` —
  one header of length `0x10000000` puts every receiver in that state.
-/

namespace PvDisplayHelper

section Header

variable {rd : RxState → RxState × Bool} (fatal : Bool) (arch : Arch) {s : RxState}
  {h : DhHeader} {q : List UInt8} (allocs : List Bool) (n : Nat)
  (hq : s.queryFails = false) (h0 : s.currentPacketHeader.length = 0)
  (hrd : rd s = tryToReadHeader s) (hs : s.queue = h.bytes ++ q) (hne : h.length ≠ 0)
include hq h0 hrd hs hne

omit hq in
/-- An idle receiver with a header at the front of its queue reads it and tries to receive
its frame. -/
theorem eventLoop_header :
    eventLoop rd (tryToReceivePacket fatal arch) (n + 1) s allocs =
      let r₂ := tryToReceivePacket fatal arch { s with currentPacketHeader := h, queue := q } allocs
      if r₂.2.2.1 then
        let r₃ := eventLoop rd (tryToReceivePacket fatal arch) n r₂.1 r₂.2.1
        (r₃.1, r₂.2.2.2 ++ r₃.2)
      else (r₂.1, r₂.2.2.2) := by
  rw [eventLoop_succ, hrd, tryToReadHeader_frame hs]
  simp only [h0, if_true, hne, if_false]

/-- Until `length + 8` bytes are queued, it waits, with the header in progress. -/
theorem eventLoop_header_waits (hlt : q.length < lengthWithFooter arch h) :
    eventLoop rd (tryToReceivePacket fatal arch) (n + 1) s allocs =
      ({ s with currentPacketHeader := h, queue := q }, []) := by
  rw [eventLoop_header fatal arch allocs n h0 hrd hs hne,
    @tryToReceivePacket_of_lt fatal arch { s with currentPacketHeader := h, queue := q } allocs hq hlt]
  rfl

variable {buf rest : List UInt8} (hq' : q = buf ++ rest)
  (hlen : buf.length = lengthWithFooter arch h) (ha : (nextAlloc allocs).1 = true)
include hq' hlen ha

omit h0 hrd hs hne in
/-- With the frame's bytes queued behind a header in progress, a packet read whose length
wraps takes the bytes off the channel and reads out of bounds. -/
theorem tryToReceivePacket_header_overread
    (hw : lengthWithFooter arch h < h.length.toNat + dhFooterSize) :
    tryToReceivePacket fatal arch { s with currentPacketHeader := h, queue := q } allocs =
      ({ s with currentPacketHeader := h, queue := rest }, (nextAlloc allocs).2, false,
        [.overread]) := by
  have hle : lengthWithFooter arch h ≤ q.length := by simp [hq', hlen]
  rw [@tryToReceivePacket_of_overread fatal arch { s with currentPacketHeader := h, queue := q }
    allocs hq hle ha hw]
  simp only [hq', ← hlen, List.drop_left]

omit h0 hrd hs hne in
/-- ... and otherwise it checks the CRC. -/
theorem tryToReceivePacket_header (hw : h.length.toNat + dhFooterSize ≤ lengthWithFooter arch h) :
    tryToReceivePacket fatal arch { s with currentPacketHeader := h, queue := q } allocs =
      let s' := { s with currentPacketHeader := { h with length := 0 }, queue := rest }
      if pvHelperPacketChecksum h buf h.length.toNat ≠
          (DhFooter.ofBytes (buf.drop h.length.toNat)).crc then
        (s', (nextAlloc allocs).2, false, if fatal then [.fatal] else [])
      else (s', (nextAlloc allocs).2, true, [.receipt h buf]) := by
  have hle : lengthWithFooter arch h ≤ q.length := by simp [hq', hlen]
  rw [@tryToReceivePacket_of_le fatal arch { s with currentPacketHeader := h, queue := q } allocs hq
    hle ha hw]
  simp only [hq', ← hlen, List.take_left, List.drop_left]

/-- A frame whose length wraps is read out of bounds, and nothing is handed on. -/
theorem eventLoop_header_overreads
    (hw : lengthWithFooter arch h < h.length.toNat + dhFooterSize) :
    (eventLoop rd (tryToReceivePacket fatal arch) (n + 1) s allocs).2 = [.overread] := by
  rw [eventLoop_header fatal arch allocs n h0 hrd hs hne,
    tryToReceivePacket_header_overread fatal arch allocs hq hq' hlen ha hw]
  rfl

/-- A frame whose CRC does not match is dropped, its length reset, and the control copies
report a fatal error. -/
theorem eventLoop_header_rejects (hw : h.length.toNat + dhFooterSize ≤ lengthWithFooter arch h)
    (hcrc : pvHelperPacketChecksum h buf h.length.toNat ≠
      (DhFooter.ofBytes (buf.drop h.length.toNat)).crc) :
    eventLoop rd (tryToReceivePacket fatal arch) (n + 1) s allocs =
      ({ s with currentPacketHeader := { h with length := 0 }, queue := rest },
        if fatal then [.fatal] else []) := by
  rw [eventLoop_header fatal arch allocs n h0 hrd hs hne,
    tryToReceivePacket_header fatal arch allocs hq hq' hlen ha hw]
  simp only [hcrc, ne_eq, not_false_eq_true, if_true, Bool.false_eq_true, if_false]

/-- A frame whose CRC matches is handed on first, whatever its header says. -/
theorem eventLoop_header_accepts (hw : h.length.toNat + dhFooterSize ≤ lengthWithFooter arch h)
    (hcrc : pvHelperPacketChecksum h buf h.length.toNat =
      (DhFooter.ofBytes (buf.drop h.length.toNat)).crc) :
    ∃ evs, (eventLoop rd (tryToReceivePacket fatal arch) (n + 1) s allocs).2 =
      .receipt h buf :: evs := by
  rw [eventLoop_header fatal arch allocs n h0 hrd hs hne,
    tryToReceivePacket_header fatal arch allocs hq hq' hlen ha hw]
  simp only [hcrc, ne_eq, not_true_eq_false, if_false, if_true, List.singleton_append]
  exact ⟨_, rfl⟩

end Header

/-- With a working data query every receiver reads headers as the control copies do. -/
theorem Receiver.readHeader_eq (r : Receiver) {s : RxState} (hq : s.queryFails = false) :
    r.readHeader s = tryToReadHeader s := by
  cases r
  · rfl
  · rfl
  · exact tryToReadEventHeader_eq hq

/-- **What a receiver checks.** Given any header at the front of an idle receiver's queue, a
data event waits for `length + 8` bytes. Then, if that sum wrapped, it reads out of bounds;
otherwise, if the CRC does not match, it hands nothing on and resets the length, the control
receivers reporting a fatal error; and if it matches, it hands the frame on, whatever the
magics and the length. -/
theorem Receiver.handle_checks_only_crc (arch : Arch) (r : Receiver) (s : RxState) (h : DhHeader)
    (q : List UInt8) (allocs : List Bool) (hq : s.queryFails = false)
    (h0 : s.currentPacketHeader.length = 0) (hs : s.queue = h.bytes ++ q) (hne : h.length ≠ 0) :
    (q.length < lengthWithFooter arch h →
      r.handle arch s allocs = ({ s with currentPacketHeader := h, queue := q }, [])) ∧
    ∀ buf rest, q = buf ++ rest → buf.length = lengthWithFooter arch h →
      (nextAlloc allocs).1 = true →
      (lengthWithFooter arch h < h.length.toNat + dhFooterSize →
        (r.handle arch s allocs).2 = [.overread]) ∧
      (h.length.toNat + dhFooterSize ≤ lengthWithFooter arch h →
        (pvHelperPacketChecksum h buf h.length.toNat ≠
            (DhFooter.ofBytes (buf.drop h.length.toNat)).crc →
          r.handle arch s allocs =
            ({ s with currentPacketHeader := { h with length := 0 }, queue := rest },
              if r = .backendEvent then [] else [.fatal])) ∧
        (pvHelperPacketChecksum h buf h.length.toNat =
            (DhFooter.ofBytes (buf.drop h.length.toNat)).crc →
          ∃ evs, (r.handle arch s allocs).2 = .receipt h buf :: evs)) := by
  have hrd := r.readHeader_eq hq
  rw [Receiver.handle_eq_eventLoop arch r s allocs 0,
    show loopFuel s + 0 = (2 * s.queue.length + 1) + 1 from rfl]
  refine ⟨eventLoop_header_waits _ arch allocs _ hq h0 hrd hs hne, fun buf rest hq' hlen ha =>
    ⟨eventLoop_header_overreads _ arch allocs _ hq h0 hrd hs hne hq' hlen ha, fun hw =>
      ⟨fun hcrc => ?_, eventLoop_header_accepts _ arch allocs _ hq h0 hrd hs hne hq' hlen ha hw⟩⟩⟩
  rw [eventLoop_header_rejects _ arch allocs _ hq h0 hrd hs hne hq' hlen ha hw hcrc]
  cases r <;> rfl

set_option maxRecDepth 20000 in
/-- Both magics 0 and a matching CRC: the consumer hands the frame on all the same. -/
example : ∃ evs, (Receiver.consumerControl.handle .lp64
    ⟨⟨0, 0, 0, 0, 0⟩, DhHeader.bytes ⟨0, 0, 1, 1, 0⟩ ++ frameTail ⟨0, 0, 1, 1, 0⟩ [7], false⟩
      []).2 = .receipt ⟨0, 0, 1, 1, 0⟩ (frameTail ⟨0, 0, 1, 1, 0⟩ [7]) :: evs :=
  (((Receiver.handle_checks_only_crc .lp64 .consumerControl _ ⟨0, 0, 1, 1, 0⟩ _ [] rfl rfl rfl
    (by decide)).2 _ [] (List.append_nil _).symm (by decide) rfl).2 (by decide)).2 (by decide)

/-! ## A length larger than the ring -/

/-- A receiver waiting for more bytes than its ring can hold: a header is in progress, the
data query works, and what is queued and in flight fits the ring but not the frame. -/
def Session.Stuck (arch : Arch) (st : Session) : Prop :=
  st.link.rx.currentPacketHeader.length ≠ 0 ∧ st.link.rx.queryFails = false ∧
    st.link.capacity < lengthWithFooter arch st.link.rx.currentPacketHeader ∧
    st.link.rx.queue.length + st.link.inFlight.length ≤ st.link.capacity

/-- A receiver with a header in progress and too little queued waits, changing nothing. -/
theorem Receiver.handle_of_lt (arch : Arch) (r : Receiver) {s : RxState} (allocs : List Bool)
    (h0 : s.currentPacketHeader.length ≠ 0) (hq : s.queryFails = false)
    (hlt : s.queue.length < lengthWithFooter arch s.currentPacketHeader) :
    r.handle arch s allocs = (s, []) := by
  rw [Receiver.handle_eq_eventLoop arch r s allocs 0,
    show loopFuel s + 0 = (2 * s.queue.length + 1) + 1 from rfl, eventLoop_succ]
  simp only [h0, if_false, tryToReceivePacket_of_lt _ arch allocs hq hlt, Bool.false_eq_true]

/-- One step keeps a stuck receiver stuck and hands nothing on. -/
theorem Session.Stuck.step {arch : Arch} {st : Session} (hst : st.Stuck arch) (r : Receiver)
    (step : LinkStep) :
    (st.step arch r step).Stuck arch ∧ (st.step arch r step).events = st.events := by
  obtain ⟨h0, hq, hcap, hfit⟩ := hst
  cases step with
  | send type payload env =>
    obtain ⟨hrx, hc, hfit'⟩ := sendPacket_fits env st.link type payload
      (UInt32.ofNat payload.length) hfit
    simp only [Session.step, Session.Stuck, hrx, hc, and_true]
    exact ⟨h0, hq, hcap, hfit'⟩
  | deliver n allocs =>
    have hlen : (st.link.arrive n).queue.length + (st.link.inFlight.drop n).length =
        st.link.rx.queue.length + st.link.inFlight.length := by
      simp only [Link.arrive, List.length_append, List.length_take, List.length_drop]
      omega
    have hle : (st.link.arrive n).queue.length ≤ st.link.capacity := by omega
    simp only [Session.step, Receiver.handle_of_lt arch r (s := st.link.arrive n) allocs h0 hq
      (Nat.lt_of_le_of_lt hle hcap), List.append_nil, and_true]
    exact ⟨h0, hq, hcap, by rw [hlen]; exact hfit⟩

/-- A stuck receiver hands nothing on again, whatever is sent and delivered. -/
theorem Session.Stuck.run {arch : Arch} {st : Session} (hst : st.Stuck arch) (r : Receiver)
    (steps : List LinkStep) : (st.run arch r steps).events = st.events := by
  induction steps generalizing st with
  | nil => rfl
  | cons step steps ih =>
    obtain ⟨hst', hev⟩ := hst.step r step
    exact (ih hst').trans hev

/-- A peer writes the header `{PV_DRIVER_MAGIC1, PV_DRIVER_MAGIC2, DRIVER_CAPABILITIES,
0x10000000}` on a control channel's one-page ring: any of the three receivers reads it and then
waits for `0x10000008` bytes, more than the ring can ever hold. Whatever the peer sends after,
and however often the data event runs, no frame is handed on again. -/
theorem oversized_header_stalls_receiver (arch : Arch) (r : Receiver) (steps : List LinkStep) :
    (Session.run arch r
      ⟨⟨4096, DhHeader.bytes ⟨pvDriverMagic1, pvDriverMagic2,
        packetTypeControlDriverCapabilities, 0x10000000, 0⟩, ⟨⟨0, 0, 0, 0, 0⟩, [], false⟩⟩, [], []⟩
      (.deliver 16 [] :: steps)).events = [] := by
  have hlwf : lengthWithFooter arch
      ⟨pvDriverMagic1, pvDriverMagic2, packetTypeControlDriverCapabilities, 0x10000000, 0⟩ =
      0x10000008 := by
    cases arch <;> rfl
  have hread := (Receiver.handle_checks_only_crc arch r
    ⟨⟨0, 0, 0, 0, 0⟩, [] ++ (DhHeader.bytes ⟨pvDriverMagic1, pvDriverMagic2,
      packetTypeControlDriverCapabilities, 0x10000000, 0⟩).take 16, false⟩
    ⟨pvDriverMagic1, pvDriverMagic2, packetTypeControlDriverCapabilities, 0x10000000, 0⟩ [] []
    rfl rfl (by decide) (by decide)).1 (by rw [hlwf]; decide)
  simp only [Session.run, List.foldl_cons, Session.step, Link.arrive, hread]
  exact Session.Stuck.run ⟨by decide, rfl, by rw [hlwf]; decide, by decide⟩ r steps

end PvDisplayHelper
