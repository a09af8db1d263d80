import PvDisplayHelper.Receiver.Frames

/-!
# PV display helper — a receiver stays in step with the sender

The frames `__send_packet` has written and the receiver has not yet handed on are its
*pending* frames. `Synced` says where the receiver stands in them: either between two
frames, with the queue followed by the bytes in flight being exactly their encoding, or
inside the first one, with its header in `current_packet_header` and the rest of its
bytes ahead.

* `eventLoop_synced` — from a synced state, one data event hands on some leading pending
  frames, in order and each whole, and stays synced with the others; when none of its
  allocations fails it stops only for lack of data (`Stalled`).

This holds for every payload of 1 to `PV_DRIVER_MAX_PAYLOAD_SIZE` bytes: a header whose
length is 0 is the decoder's "no frame in progress", so an empty payload is excluded here
(see `RoundTrip.lean` for what happens to one).
-/

namespace PvDisplayHelper

/-! ## Sent frames -/

/-- A frame as the round-trip law takes it: a packet type and its payload. -/
abbrev Frame := UInt32 × List UInt8

/-- At least one byte and at most `PV_DRIVER_MAX_PAYLOAD_SIZE`. -/
def ValidPayload (p : List UInt8) : Prop := 1 ≤ p.length ∧ p.length ≤ pvDriverMaxPayloadSize

instance : DecidablePred ValidPayload := fun p =>
  inferInstanceAs (Decidable (1 ≤ p.length ∧ p.length ≤ pvDriverMaxPayloadSize))

/-- The header `__send_packet(channel, type, payload, length)` writes for a frame. -/
def sentHeader (f : Frame) : DhHeader := packetHeader f.1 (UInt32.ofNat f.2.length)

/-- The bytes `__send_packet` writes for a frame. -/
def frameBytes (f : Frame) : List UInt8 := packetBytes f.1 f.2 (UInt32.ofNat f.2.length)

/-- A frame is sent with its payload's length. -/
theorem frameBytes_mk (type : UInt32) (payload : List UInt8) :
    frameBytes (type, payload) = packetBytes type payload (UInt32.ofNat payload.length) := rfl

/-- The bytes of a list of frames, back to back. -/
def stream (fs : List Frame) : List UInt8 := (fs.map frameBytes).flatten

/-- What a receiver hands on for a frame. -/
def receiptOf (f : Frame) : RxEvent := .receipt (sentHeader f) (frameTail (sentHeader f) f.2)

/-- No frames, no bytes. -/
@[simp] theorem stream_nil : stream [] = [] := rfl

/-- A valid payload's length fits the header's `length` field. -/
theorem sentHeader_length {f : Frame} (hv : ValidPayload f.2) :
    (sentHeader f).length.toNat = f.2.length := by
  have : f.2.length < UInt32.size := by
    unfold ValidPayload pvDriverMaxPayloadSize pvDriverMaxPacketSize at hv
    simp only [UInt32.size]; omega
  exact UInt32.toNat_ofNat_of_lt this

/-- A valid payload's header has a nonzero length. -/
theorem sentHeader_length_ne {f : Frame} (hv : ValidPayload f.2) :
    (sentHeader f).length ≠ 0 := by
  intro h
  have := sentHeader_length hv
  rw [h] at this
  unfold ValidPayload at hv
  simp at this
  omega

/-- The stream of frames is the first frame's header, payload and footer, then the rest. -/
theorem stream_cons {f : Frame} (fs : List Frame) (hv : ValidPayload f.2) :
    stream (f :: fs) = (sentHeader f).bytes ++ (frameTail (sentHeader f) f.2 ++ stream fs) := by
  have hl : (UInt32.ofNat f.2.length).toNat = f.2.length := sentHeader_length hv
  simp only [stream, List.map_cons, List.flatten_cons, frameBytes, packetBytes_eq_frameBytes,
    List.append_assoc, hl, List.take_length]
  rfl

/-- A valid payload plus its footer does not wrap a 32-bit `size_t`. -/
theorem payload_small {f : Frame} (hv : ValidPayload f.2) :
    f.2.length + dhFooterSize < 2 ^ 32 := by
  unfold ValidPayload pvDriverMaxPayloadSize pvDriverMaxPacketSize dhHeaderSize at hv
  unfold dhFooterSize
  omega

/-! ## The invariant -/

/-- Where the receiver stands in the pending frames. -/
structure Synced (s : RxState) (inFlight : List UInt8) (pending : List Frame) : Prop where
  query : s.queryFails = false
  valid : ∀ f ∈ pending, ValidPayload f.2
  position : (s.currentPacketHeader.length = 0 ∧ s.queue ++ inFlight = stream pending) ∨
    ∃ f rest, pending = f :: rest ∧ s.currentPacketHeader = sentHeader f ∧
      s.queue ++ inFlight = frameTail (sentHeader f) f.2 ++ stream rest

/-- The loop stopped for lack of data: no whole header queued, or not the rest of the
frame in progress. -/
def Stalled (arch : Arch) (s : RxState) : Prop :=
  (s.currentPacketHeader.length = 0 ∧ s.queue.length < dhHeaderSize) ∨
    (s.currentPacketHeader.length ≠ 0 ∧
      s.queue.length < lengthWithFooter arch s.currentPacketHeader)

/-- What one data event does from a synced state. -/
def Decodes (arch : Arch) (inFlight : List UInt8) (pending : List Frame) (allocs : List Bool)
    (r : RxState × List RxEvent) : Prop :=
  ∃ k ≤ pending.length, r.2 = (pending.take k).map receiptOf ∧
    Synced r.1 inFlight (pending.drop k) ∧ (allocs.all id = true → Stalled arch r.1)

/-- When every allocation succeeds, the next does, and so do those after it. -/
theorem nextAlloc_of_all {allocs : List Bool} (h : allocs.all id = true) :
    (nextAlloc allocs).1 = true ∧ (nextAlloc allocs).2.all id = true := by
  cases allocs with
  | nil => exact ⟨rfl, rfl⟩
  | cons b bs => simpa [nextAlloc] using h

/-- Standing still is one way to decode: nothing handed on, still synced. -/
theorem Decodes.stay {arch : Arch} {F : List UInt8} {pending : List Frame} {allocs : List Bool}
    {s : RxState} (hs : Synced s F pending) (hstall : allocs.all id = true → Stalled arch s) :
    Decodes arch F pending allocs (s, []) :=
  ⟨0, Nat.zero_le _, by simp, by simpa using hs, hstall⟩

/-- Handing on the first pending frame, then decoding the rest. -/
theorem Decodes.cons {arch : Arch} {F : List UInt8} {f : Frame} {rest : List Frame}
    {allocs allocs' : List Bool} {r : RxState × List RxEvent}
    (h : Decodes arch F rest allocs' r) (hall : allocs.all id = true → allocs'.all id = true) :
    Decodes arch F (f :: rest) allocs (r.1, receiptOf f :: r.2) := by
  obtain ⟨k, hle, hk, hsk, hstall⟩ := h
  exact ⟨k + 1, by simpa using hle, by simp [hk], by simpa using hsk, fun ha => hstall (hall ha)⟩

/-! ## One data event -/

section Event

variable {rd : RxState → RxState × Bool} (hrd : ∀ s, s.queryFails = false → rd s = tryToReadHeader s)
  (fatal : Bool) (arch : Arch) (F : List UInt8)
include hrd

omit hrd in
/-- The receive step of the loop lemma: with the first pending frame's header in progress, a
data event waits for the rest of the frame, or hands it on whole and goes on decoding. -/
theorem receive_synced (n : Nat)
    (ih : ∀ s allocs pending, Synced s F pending → loopMeasure s < n →
      Decodes arch F pending allocs (eventLoop rd (tryToReceivePacket fatal arch) n s allocs))
    {s : RxState} {f : Frame} {rest : List Frame} (allocs : List Bool)
    (hs : Synced s F (f :: rest)) (hh : s.currentPacketHeader = sentHeader f)
    (hq : s.queue ++ F = frameTail (sentHeader f) f.2 ++ stream rest)
    (hμ : 2 * s.queue.length < n + 1) :
    Decodes arch F (f :: rest) allocs
      (let r₂ := tryToReceivePacket fatal arch s allocs
       if r₂.2.2.1 then
         let r₃ := eventLoop rd (tryToReceivePacket fatal arch) n r₂.1 r₂.2.1
         (r₃.1, r₂.2.2.2 ++ r₃.2)
       else (r₂.1, r₂.2.2.2)) := by
  have hv : ValidPayload f.2 := hs.valid f (by simp)
  have hlwf : lengthWithFooter arch s.currentPacketHeader =
      (frameTail (sentHeader f) f.2).length := by
    rw [hh, lengthWithFooter_of_lt arch (by rw [sentHeader_length hv]; exact payload_small hv),
      sentHeader_length hv, length_frameTail]
  by_cases hl : (frameTail (sentHeader f) f.2).length ≤ s.queue.length
  · obtain ⟨hsplit, hrest⟩ := append_split hq hl
    cases ha : (nextAlloc allocs).1 with
    | false =>
      rw [tryToReceivePacket_of_allocFails fatal arch allocs hs.query (hlwf ▸ hl) ha]
      refine Decodes.stay hs fun hall => ?_
      rw [(nextAlloc_of_all hall).1] at ha
      cases ha
    | true =>
      rw [tryToReceivePacket_frame fatal arch allocs hs.query hh (sentHeader_length hv)
        (payload_small hv) hsplit ha]
      dsimp only [if_true]
      refine Decodes.cons (ih _ _ rest
        ⟨hs.query, fun g hg => hs.valid g (by simp [hg]), .inl ⟨rfl, hrest⟩⟩ ?_)
        fun hall => (nextAlloc_of_all hall).2
      have := hv.1
      simp only [loopMeasure, if_true, List.length_drop, length_frameTail] at hμ hl ⊢
      omega
  · have hlt : s.queue.length < lengthWithFooter arch s.currentPacketHeader := by
      rw [hlwf]; omega
    rw [tryToReceivePacket_of_lt fatal arch allocs hs.query hlt]
    exact Decodes.stay hs fun _ => .inr ⟨by rw [hh]; exact sentHeader_length_ne hv, hlt⟩

/-- **The loop lemma**: a data event from a synced state hands on the leading pending frames,
each whole, and stays synced with the rest (by induction on the fuel). -/
theorem eventLoop_synced (n : Nat) : ∀ s allocs pending, Synced s F pending →
    loopMeasure s < n →
    Decodes arch F pending allocs (eventLoop rd (tryToReceivePacket fatal arch) n s allocs) := by
  induction n with
  | zero => intro s a pending _ h; exact absurd h (Nat.not_lt_zero _)
  | succ n ih =>
    intro s allocs pending hs hμ
    rw [eventLoop_succ]
    rcases hs.position with ⟨h0, hq⟩ | ⟨f, rest, rfl, hh, hq⟩
    · -- between frames: read the next header, if a whole one is queued
      simp only [h0, if_true]
      by_cases hl : dhHeaderSize ≤ s.queue.length
      · cases pending with
        | nil =>
          have : s.queue = [] := (List.append_eq_nil.mp hq).1
          simp [this, dhHeaderSize] at hl
        | cons f rest =>
          have hv : ValidPayload f.2 := hs.valid f (by simp)
          rw [stream_cons rest hv] at hq
          obtain ⟨hsplit, hrest⟩ := append_split hq (by simpa using hl)
          rw [hrd s hs.query, tryToReadHeader_frame hsplit]
          simp only [sentHeader_length_ne hv, if_false]
          refine receive_synced fatal arch F n ih allocs
            ⟨hs.query, hs.valid, .inr ⟨f, rest, rfl, rfl, by simpa using hrest⟩⟩ rfl
            (by simpa using hrest) ?_
          simp only [loopMeasure, h0, if_true, List.length_drop, DhHeader.length_bytes,
            dhHeaderSize] at hμ hl ⊢
          omega
      · rw [hrd s hs.query, tryToReadHeader_of_lt (by omega)]
        simp only [h0, if_true, Bool.false_eq_true, if_false]
        exact Decodes.stay hs fun _ => .inl ⟨h0, by omega⟩
    · -- inside a frame: try to receive the rest of it
      have hne : s.currentPacketHeader.length ≠ 0 := by
        rw [hh]; exact sentHeader_length_ne (hs.valid f (by simp))
      simp only [hne, if_false]
      exact receive_synced fatal arch F n ih allocs hs hh hq
        (by simp only [loopMeasure, hne, if_false] at hμ; omega)

end Event

/-- Each receiver's data event, from a synced state, decodes. -/
theorem Receiver.handle_decodes (arch : Arch) (r : Receiver) {s : RxState} {F : List UInt8}
    {pending : List Frame} (allocs : List Bool) (hs : Synced s F pending) :
    Decodes arch F pending allocs (r.handle arch s allocs) := by
  have hμ := loopMeasure_lt_loopFuel s
  cases r with
  | providerControl => exact eventLoop_synced (fun _ _ => rfl) true arch F _ s allocs pending hs hμ
  | consumerControl => exact eventLoop_synced (fun _ _ => rfl) true arch F _ s allocs pending hs hμ
  | backendEvent =>
    exact eventLoop_synced (fun _ h => tryToReadEventHeader_eq h) false arch F _ s allocs pending
      hs hμ

end PvDisplayHelper
