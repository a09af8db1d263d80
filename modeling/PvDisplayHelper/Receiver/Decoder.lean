import PvDisplayHelper.Ivc.Link

/-!
# PV display helper — the streaming decoders

The three framed receivers: the provider's control channel and the consumer's control
channel (`__handle_control_channel_event`, `__try_to_read_header` and
`__try_to_receive_control_packet`, one copy in each of `pv_display_helper.c` and
`pv_display_backend_helper.c`), and the backend's event channel
(`__handle_event_channel_event`, `__try_to_read_event_header`,
`__try_to_receive_event_packet`).

Each data event runs the same `do { ... } while(continue_to_read)` loop (`eventLoop`):
read a header when none is in progress (`current_packet_header.length == 0`), then try
to receive the `length + sizeof(struct dh_footer)` bytes that complete it. The copies
differ in two places, kept as they are: the event copy asks for the available data
before reading a header, and it never triggers a fatal error. That sum is a `size_t`: on a
32-bit target it can wrap, and the read that follows goes out of bounds (`RxEvent.overread`).

The loop is written with fuel; `Receiver.handle_eq_eventLoop` shows that the fuel the
handlers give it is never what stops it, so the handlers compute what the unbounded C loop
computes.
-/

namespace PvDisplayHelper

/-! ## Targets and results -/

/-- The targets the code is built for; `size_t` is 32 bits wide on one, 64 on the other. -/
inductive Arch where
  | ilp32
  | lp64
  deriving DecidableEq, Repr

/-- The width of `size_t`. -/
def Arch.sizeBits : Arch → Nat
  | .ilp32 => 32
  | .lp64 => 64

/-- `length_with_footer = current_packet_header.length + sizeof(struct dh_footer)`, a
`size_t`. -/
def lengthWithFooter (arch : Arch) (h : DhHeader) : Nat :=
  (h.length.toNat + dhFooterSize) % 2 ^ arch.sizeBits

/-- What a receiver hands on while it decodes. -/
inductive RxEvent where
  /-- `__handle_*_packet_receipt(header, buffer)` for a frame whose CRC matched: the header
  as read and the `length_with_footer` bytes received after it. (The code zeroes the
  header's length just before the call; the dispatchers read only its type.) -/
  | receipt (header : DhHeader) (buffer : List UInt8)
  /-- `__trigger_fatal_error_on_provider` / `__trigger_fatal_error_on_consumer`. -/
  | fatal
  /-- Undefined behaviour: `length_with_footer` wrapped below `length + 8` (a 32-bit `size_t`),
  so the checksum and the footer are read past the end of the buffer received. The model
  stops decoding there. -/
  | overread
  deriving DecidableEq, Repr

/-- The next `pv_helper_malloc` outcome; past the end of the list every allocation succeeds. -/
def nextAlloc : List Bool → Bool × List Bool
  | [] => (true, [])
  | b :: bs => (b, bs)

/-! ## One header, one packet -/

/-- `__try_to_read_header`: one `libivc_recv` of a whole header into
`current_packet_header`. -/
def tryToReadHeader (s : RxState) : RxState × Bool :=
  match ivcRecv s.queue dhHeaderSize with
  | some (bytes, rest) =>
    ({ s with currentPacketHeader := DhHeader.ofBytes bytes, queue := rest }, true)
  | none => (s, false)

/-- `__try_to_read_event_header`: the backend first asks how much data is available (a
failed query leaves `available_data` at 0) and reads only a whole header. -/
def tryToReadEventHeader (s : RxState) : RxState × Bool :=
  let availableData := if s.queryFails then 0 else s.queue.length
  if dhHeaderSize ≤ availableData then
    match ivcRecv s.queue dhHeaderSize with
    | some (bytes, rest) =>
      ({ s with currentPacketHeader := DhHeader.ofBytes bytes, queue := rest }, true)
    | none => (s, false)
  else (s, false)

/-- `__try_to_receive_control_packet` / `__try_to_receive_event_packet`. `fatal` says whether
the copy triggers the fatal-error handler when the data query fails or the CRC does not
match (the control copies do, the event copy does not). Returns the state, the unused
allocation outcomes, whether a packet was read, and what was handed on. When
`length_with_footer` has wrapped, the checksum over `length` bytes and the footer at
`buffer + length` lie outside the buffer: the read is an `.overread`. -/
def tryToReceivePacket (fatal : Bool) (arch : Arch) (s : RxState) (allocs : List Bool) :
    RxState × List Bool × Bool × List RxEvent :=
  let lwf := lengthWithFooter arch s.currentPacketHeader
  if s.queryFails then (s, allocs, false, if fatal then [.fatal] else [])
  else if s.queue.length < lwf then (s, allocs, false, [])
  else if !(nextAlloc allocs).1 then (s, (nextAlloc allocs).2, false, [])
  else match ivcRecv s.queue lwf with
    | none => (s, (nextAlloc allocs).2, false, [])
    | some (buffer, rest) =>
      let length := s.currentPacketHeader.length.toNat
      if lwf < length + dhFooterSize then
        ({ s with queue := rest }, (nextAlloc allocs).2, false, [.overread])
      else
      let footer := DhFooter.ofBytes (buffer.drop length)
      let s' := { s with currentPacketHeader := { s.currentPacketHeader with length := 0 },
                         queue := rest }
      if pvHelperPacketChecksum s.currentPacketHeader buffer length ≠ footer.crc then
        (s', (nextAlloc allocs).2, false, if fatal then [.fatal] else [])
      else (s', (nextAlloc allocs).2, true, [.receipt s.currentPacketHeader buffer])

/-- `__try_to_receive_control_packet`, in both control receivers. -/
def tryToReceiveControlPacket (arch : Arch) := tryToReceivePacket true arch

/-- `__try_to_receive_event_packet`. -/
def tryToReceiveEventPacket (arch : Arch) := tryToReceivePacket false arch

/-! ## The data-event loop -/

/-- The `do { ... } while(continue_to_read)` loop of a data event, with fuel. -/
def eventLoop (readHeader : RxState → RxState × Bool)
    (receive : RxState → List Bool → RxState × List Bool × Bool × List RxEvent) :
    Nat → RxState → List Bool → RxState × List RxEvent
  | 0, s, _ => (s, [])
  | fuel + 1, s, allocs =>
    let r₁ := if s.currentPacketHeader.length = 0 then readHeader s else (s, false)
    if r₁.1.currentPacketHeader.length = 0 then
      if r₁.2 then eventLoop readHeader receive fuel r₁.1 allocs else (r₁.1, [])
    else
      let r₂ := receive r₁.1 allocs
      if r₂.2.2.1 then
        let r₃ := eventLoop readHeader receive fuel r₂.1 r₂.2.1
        (r₃.1, r₂.2.2.2 ++ r₃.2)
      else (r₂.1, r₂.2.2.2)

/-- The fuel the handlers give the loop: more than it can ever use
(`Receiver.handle_eq_eventLoop`). -/
def loopFuel (s : RxState) : Nat := 2 * s.queue.length + 2

/-- `__handle_control_channel_event` of `pv_display_helper.c`. -/
def providerHandleControlChannelEvent (arch : Arch) (s : RxState) (allocs : List Bool) :
    RxState × List RxEvent :=
  eventLoop tryToReadHeader (tryToReceiveControlPacket arch) (loopFuel s) s allocs

/-- `__handle_control_channel_event` of `pv_display_backend_helper.c`. -/
def consumerHandleControlChannelEvent (arch : Arch) (s : RxState) (allocs : List Bool) :
    RxState × List RxEvent :=
  eventLoop tryToReadHeader (tryToReceiveControlPacket arch) (loopFuel s) s allocs

/-- `__handle_event_channel_event`: nothing at all once the display was disconnected. -/
def handleEventChannelEvent (arch : Arch) (disconnected : Bool) (s : RxState)
    (allocs : List Bool) : RxState × List RxEvent :=
  if disconnected then (s, [])
  else eventLoop tryToReadEventHeader (tryToReceiveEventPacket arch) (loopFuel s) s allocs

/-- The three framed receivers. -/
inductive Receiver where
  | providerControl
  | consumerControl
  | backendEvent
  deriving DecidableEq, Repr

/-- The header read of each receiver: the backend's asks for the available data first. -/
def Receiver.readHeader : Receiver → RxState → RxState × Bool
  | .providerControl | .consumerControl => tryToReadHeader
  | .backendEvent => tryToReadEventHeader

/-- The data-event handler of each receiver, the backend's while its display is connected. -/
def Receiver.handle (arch : Arch) : Receiver → RxState → List Bool → RxState × List RxEvent
  | .providerControl => providerHandleControlChannelEvent arch
  | .consumerControl => consumerHandleControlChannelEvent arch
  | .backendEvent => handleEventChannelEvent arch false

/-! ## One lemma per branch -/

/-- With a whole header queued, it is read into `current_packet_header`. -/
theorem tryToReadHeader_of_le {s : RxState} (h : dhHeaderSize ≤ s.queue.length) :
    tryToReadHeader s = ({ s with currentPacketHeader := DhHeader.ofBytes (s.queue.take dhHeaderSize),
                                  queue := s.queue.drop dhHeaderSize }, true) := by
  simp [tryToReadHeader, ivcRecv_of_le h]

/-- With less than a header queued, nothing is read. -/
theorem tryToReadHeader_of_lt {s : RxState} (h : s.queue.length < dhHeaderSize) :
    tryToReadHeader s = (s, false) := by
  simp [tryToReadHeader, ivcRecv_of_lt h]

/-- With a working data query the event copy reads headers exactly as the control copies. -/
theorem tryToReadEventHeader_eq {s : RxState} (h : s.queryFails = false) :
    tryToReadEventHeader s = tryToReadHeader s := by
  unfold tryToReadEventHeader tryToReadHeader
  by_cases hl : dhHeaderSize ≤ s.queue.length
  · simp [h, hl]
  · simp [h, hl, ivcRecv_of_lt (Nat.lt_of_not_le hl)]

/-- When the data query fails, the event copy reads nothing. -/
theorem tryToReadEventHeader_of_queryFails {s : RxState} (h : s.queryFails = true) :
    tryToReadEventHeader s = (s, false) := by
  simp [tryToReadEventHeader, h, dhHeaderSize]

section Receive

variable (fatal : Bool) (arch : Arch) {s : RxState} (allocs : List Bool)

/-- A failed data query: nothing is read, and the control copies report a fatal error. -/
theorem tryToReceivePacket_of_queryFails (h : s.queryFails = true) :
    tryToReceivePacket fatal arch s allocs = (s, allocs, false, if fatal then [.fatal] else []) := by
  simp [tryToReceivePacket, h]

/-- Too little data: wait for the next event, changing nothing. -/
theorem tryToReceivePacket_of_lt (hq : s.queryFails = false)
    (h : s.queue.length < lengthWithFooter arch s.currentPacketHeader) :
    tryToReceivePacket fatal arch s allocs = (s, allocs, false, []) := by
  simp [tryToReceivePacket, hq, h]

/-- A failed receive-buffer allocation: try again on a later event, changing nothing. -/
theorem tryToReceivePacket_of_allocFails (hq : s.queryFails = false)
    (h : lengthWithFooter arch s.currentPacketHeader ≤ s.queue.length)
    (ha : (nextAlloc allocs).1 = false) :
    tryToReceivePacket fatal arch s allocs = (s, (nextAlloc allocs).2, false, []) := by
  simp [tryToReceivePacket, hq, Nat.not_lt.mpr h, ha]

/-- The whole packet is there and its buffer was allocated, but `length_with_footer` wrapped:
the bytes are taken off the channel and then read out of bounds. -/
theorem tryToReceivePacket_of_overread (hq : s.queryFails = false)
    (h : lengthWithFooter arch s.currentPacketHeader ≤ s.queue.length)
    (ha : (nextAlloc allocs).1 = true)
    (hw : lengthWithFooter arch s.currentPacketHeader <
      s.currentPacketHeader.length.toNat + dhFooterSize) :
    tryToReceivePacket fatal arch s allocs =
      ({ s with queue := s.queue.drop (lengthWithFooter arch s.currentPacketHeader) },
        (nextAlloc allocs).2, false, [.overread]) := by
  simp only [tryToReceivePacket, hq, Nat.not_lt.mpr h, ha, ivcRecv_of_le h, hw]
  rfl

/-- The whole packet is there, its buffer was allocated and its length did not wrap: it is
read, the header is cleared, and the packet is handed on exactly when its CRC matches. -/
theorem tryToReceivePacket_of_le (hq : s.queryFails = false)
    (h : lengthWithFooter arch s.currentPacketHeader ≤ s.queue.length)
    (ha : (nextAlloc allocs).1 = true)
    (hw : s.currentPacketHeader.length.toNat + dhFooterSize ≤
      lengthWithFooter arch s.currentPacketHeader) :
    tryToReceivePacket fatal arch s allocs =
      let lwf := lengthWithFooter arch s.currentPacketHeader
      let buffer := s.queue.take lwf
      let length := s.currentPacketHeader.length.toNat
      let s' := { s with currentPacketHeader := { s.currentPacketHeader with length := 0 },
                         queue := s.queue.drop lwf }
      if pvHelperPacketChecksum s.currentPacketHeader buffer length ≠
          (DhFooter.ofBytes (buffer.drop length)).crc then
        (s', (nextAlloc allocs).2, false, if fatal then [.fatal] else [])
      else (s', (nextAlloc allocs).2, true, [.receipt s.currentPacketHeader buffer]) := by
  simp only [tryToReceivePacket, hq, Nat.not_lt.mpr h, ha, ivcRecv_of_le h, Nat.not_lt.mpr hw]
  rfl

end Receive

/-! ## The fuel is never what stops the loop -/

/-- What the loop can still do: every iteration that goes on either consumes a header or
leaves no header in progress. -/
def loopMeasure (s : RxState) : Nat :=
  2 * s.queue.length + if s.currentPacketHeader.length = 0 then 0 else 1

/-- A header read consumes a whole header, or fails and changes nothing. -/
structure HeaderReader (rd : RxState → RxState × Bool) : Prop where
  consumes : ∀ s, (rd s).2 = true → (rd s).1.queue.length + dhHeaderSize ≤ s.queue.length
  unchanged : ∀ s, (rd s).2 = false → (rd s).1 = s

/-- A packet read that reports success leaves no header in progress and does not grow the
queue. -/
def PacketReceiver (rv : RxState → List Bool → RxState × List Bool × Bool × List RxEvent) :
    Prop :=
  ∀ s a, (rv s a).2.2.1 = true →
    (rv s a).1.currentPacketHeader.length = 0 ∧ (rv s a).1.queue.length ≤ s.queue.length

/-- The control copies' header read consumes a header or changes nothing. -/
theorem tryToReadHeader_reader : HeaderReader tryToReadHeader := by
  constructor <;> intro s <;> by_cases h : dhHeaderSize ≤ s.queue.length
  · simp [tryToReadHeader_of_le h]; omega
  · simp [tryToReadHeader_of_lt (Nat.lt_of_not_le h)]
  · simp [tryToReadHeader_of_le h]
  · simp [tryToReadHeader_of_lt (Nat.lt_of_not_le h)]

/-- So does the event copy's. -/
theorem tryToReadEventHeader_reader : HeaderReader tryToReadEventHeader := by
  constructor <;> intro s <;> cases hq : s.queryFails
  · rw [tryToReadEventHeader_eq hq]; exact tryToReadHeader_reader.consumes s
  · simp [tryToReadEventHeader_of_queryFails hq]
  · rw [tryToReadEventHeader_eq hq]; exact tryToReadHeader_reader.unchanged s
  · simp [tryToReadEventHeader_of_queryFails hq]

/-- Each way a packet read can go, by the conditions the code tests in turn. -/
theorem tryToReceivePacket_cases (fatal : Bool) (arch : Arch) (s : RxState) (allocs : List Bool) :
    (s.queryFails = true ∧ tryToReceivePacket fatal arch s allocs =
        (s, allocs, false, if fatal then [.fatal] else [])) ∨
      (s.queryFails = false ∧ s.queue.length < lengthWithFooter arch s.currentPacketHeader ∧
        tryToReceivePacket fatal arch s allocs = (s, allocs, false, [])) ∨
      (s.queryFails = false ∧ lengthWithFooter arch s.currentPacketHeader ≤ s.queue.length ∧
        (nextAlloc allocs).1 = false ∧
        tryToReceivePacket fatal arch s allocs = (s, (nextAlloc allocs).2, false, [])) ∨
      (s.queryFails = false ∧ lengthWithFooter arch s.currentPacketHeader ≤ s.queue.length ∧
        (nextAlloc allocs).1 = true ∧ lengthWithFooter arch s.currentPacketHeader <
          s.currentPacketHeader.length.toNat + dhFooterSize ∧
        tryToReceivePacket fatal arch s allocs =
          ({ s with queue := s.queue.drop (lengthWithFooter arch s.currentPacketHeader) },
            (nextAlloc allocs).2, false, [.overread])) ∨
      (s.queryFails = false ∧ lengthWithFooter arch s.currentPacketHeader ≤ s.queue.length ∧
        (nextAlloc allocs).1 = true ∧ s.currentPacketHeader.length.toNat + dhFooterSize ≤
          lengthWithFooter arch s.currentPacketHeader ∧
        tryToReceivePacket fatal arch s allocs =
          let lwf := lengthWithFooter arch s.currentPacketHeader
          let buffer := s.queue.take lwf
          let length := s.currentPacketHeader.length.toNat
          let s' := { s with currentPacketHeader := { s.currentPacketHeader with length := 0 },
                             queue := s.queue.drop lwf }
          if pvHelperPacketChecksum s.currentPacketHeader buffer length ≠
              (DhFooter.ofBytes (buffer.drop length)).crc then
            (s', (nextAlloc allocs).2, false, if fatal then [.fatal] else [])
          else (s', (nextAlloc allocs).2, true, [.receipt s.currentPacketHeader buffer])) := by
  rcases Bool.eq_false_or_eq_true s.queryFails with hq | hq
  · exact .inl ⟨hq, tryToReceivePacket_of_queryFails fatal arch allocs hq⟩
  · by_cases hl : lengthWithFooter arch s.currentPacketHeader ≤ s.queue.length
    · cases ha : (nextAlloc allocs).1
      · exact .inr (.inr (.inl ⟨hq, hl, rfl, tryToReceivePacket_of_allocFails fatal arch allocs hq hl ha⟩))
      · by_cases hw : lengthWithFooter arch s.currentPacketHeader <
            s.currentPacketHeader.length.toNat + dhFooterSize
        · exact .inr (.inr (.inr (.inl ⟨hq, hl, rfl, hw,
            tryToReceivePacket_of_overread fatal arch allocs hq hl ha hw⟩)))
        · exact .inr (.inr (.inr (.inr ⟨hq, hl, rfl, Nat.le_of_not_lt hw,
            tryToReceivePacket_of_le fatal arch allocs hq hl ha (Nat.le_of_not_lt hw)⟩)))
    · exact .inr (.inl ⟨hq, Nat.lt_of_not_le hl,
        tryToReceivePacket_of_lt fatal arch allocs hq (Nat.lt_of_not_le hl)⟩)

/-- A packet read that reports success has cleared the header and not grown the queue. -/
theorem tryToReceivePacket_receiver (fatal : Bool) (arch : Arch) :
    PacketReceiver (tryToReceivePacket fatal arch) := by
  intro s a hc
  rcases tryToReceivePacket_cases fatal arch s a with
    ⟨-, h⟩ | ⟨-, -, h⟩ | ⟨-, -, -, h⟩ | ⟨-, -, -, -, h⟩ | ⟨-, -, -, -, h⟩ <;>
    rw [h] at hc ⊢ <;> try exact absurd hc Bool.false_ne_true
  -- only a frame whose CRC matched is a success
  dsimp only at hc ⊢
  split at hc
  · exact absurd hc Bool.false_ne_true
  · simp [*]

/-- A packet read hands on only the frame whose header is in progress. -/
theorem tryToReceivePacket_receipt {fatal : Bool} {arch : Arch} {s : RxState}
    {allocs : List Bool} {h : DhHeader} {b : List UInt8}
    (he : RxEvent.receipt h b ∈ (tryToReceivePacket fatal arch s allocs).2.2.2) :
    h = s.currentPacketHeader := by
  rcases tryToReceivePacket_cases fatal arch s allocs with
    ⟨-, hr⟩ | ⟨-, -, hr⟩ | ⟨-, -, -, hr⟩ | ⟨-, -, -, -, hr⟩ | ⟨-, -, -, -, hr⟩ <;>
    rw [hr] at he
  · cases fatal <;> simp at he
  · simp at he
  · simp at he
  · simp at he
  · dsimp only at he
    split at he
    · cases fatal <;> simp at he
    · exact (RxEvent.receipt.inj (List.mem_singleton.mp he)).1

/-- One iteration of the loop, unfolded. -/
theorem eventLoop_succ (rd : RxState → RxState × Bool)
    (rv : RxState → List Bool → RxState × List Bool × Bool × List RxEvent) (n : Nat)
    (s : RxState) (a : List Bool) :
    eventLoop rd rv (n + 1) s a =
      let r₁ := if s.currentPacketHeader.length = 0 then rd s else (s, false)
      if r₁.1.currentPacketHeader.length = 0 then
        if r₁.2 then eventLoop rd rv n r₁.1 a else (r₁.1, [])
      else
        let r₂ := rv r₁.1 a
        if r₂.2.2.1 then
          let r₃ := eventLoop rd rv n r₂.1 r₂.2.1
          (r₃.1, r₂.2.2.2 ++ r₃.2)
        else (r₂.1, r₂.2.2.2) := rfl

variable {rd : RxState → RxState × Bool}
  {rv : RxState → List Bool → RxState × List Bool × Bool × List RxEvent}

/-- Once the fuel exceeds `loopMeasure`, one more unit of it changes nothing. -/
theorem eventLoop_fuel (hrd : HeaderReader rd) (hrv : PacketReceiver rv) (n : Nat) :
    ∀ s a, loopMeasure s < n → eventLoop rd rv (n + 1) s a = eventLoop rd rv n s a := by
  induction n with
  | zero => intro s a h; exact absurd h (Nat.not_lt_zero _)
  | succ n ih =>
    intro s a h
    -- after a successful packet read the measure is below the one the iteration began with
    have hrecv : ∀ s₁, s₁.queue.length + (if s.currentPacketHeader.length = 0 then 1 else 0)
        ≤ s.queue.length → (rv s₁ a).2.2.1 = true → loopMeasure (rv s₁ a).1 < n := by
      intro s₁ hle hc
      obtain ⟨hz, hq⟩ := hrv s₁ a hc
      simp only [loopMeasure, hz, if_true] at h ⊢
      by_cases h0 : s.currentPacketHeader.length = 0 <;>
        simp only [h0, if_true, if_false] at hle h <;> omega
    rw [eventLoop_succ rd rv (n + 1) s a, eventLoop_succ rd rv n s a]
    by_cases h0 : s.currentPacketHeader.length = 0
    · cases hr : rd s with
      | mk s₁ c₁ =>
        cases c₁ with
        | false =>
          have : s₁ = s := by simpa [hr] using hrd.unchanged s (by simp [hr])
          subst this
          simp [h0]
        | true =>
          have hq : s₁.queue.length + dhHeaderSize ≤ s.queue.length := by
            simpa [hr] using hrd.consumes s (by simp [hr])
          simp only [h0, if_true]
          split
          · refine ih s₁ a ?_
            simp only [loopMeasure, h0, ‹s₁.currentPacketHeader.length = 0›, if_true] at h ⊢
            simp only [dhHeaderSize] at hq
            omega
          · split
            · rw [ih _ _ (hrecv s₁ (by simp only [h0, if_true, dhHeaderSize] at hq ⊢; omega)
                ‹_›)]
            · rfl
    · simp only [h0, if_false]
      split
      · rw [ih _ _ (hrecv s (by simp [h0]) ‹_›)]
      · rfl

/-- The handlers' fuel exceeds the measure of the state they start from. -/
theorem loopMeasure_lt_loopFuel (s : RxState) : loopMeasure s < loopFuel s := by
  unfold loopMeasure loopFuel
  split <;> omega

/-- Fuel beyond `loopFuel` computes the same. -/
theorem eventLoop_loopFuel_add (hrd : HeaderReader rd) (hrv : PacketReceiver rv) (s : RxState)
    (a : List Bool) (k : Nat) :
    eventLoop rd rv (loopFuel s + k) s a = eventLoop rd rv (loopFuel s) s a := by
  induction k with
  | zero => rfl
  | succ k ih =>
    have hlt : loopMeasure s < loopFuel s + k :=
      Nat.lt_of_lt_of_le (loopMeasure_lt_loopFuel s) (Nat.le_add_right _ k)
    rw [← Nat.add_assoc, eventLoop_fuel hrd hrv _ s a hlt, ih]

/-- The header read of each receiver's loop. -/
theorem Receiver.readHeader_reader (r : Receiver) : HeaderReader r.readHeader := by
  cases r
  · exact tryToReadHeader_reader
  · exact tryToReadHeader_reader
  · exact tryToReadEventHeader_reader

/-- **The fuel is never what stops a data event.** With any fuel from `loopFuel` on, each
receiver's loop computes what its handler computes; so the handlers compute what the C loop,
which has no fuel, computes. -/
theorem Receiver.handle_eq_eventLoop (arch : Arch) (r : Receiver) (s : RxState)
    (allocs : List Bool) (k : Nat) :
    r.handle arch s allocs =
      eventLoop r.readHeader (tryToReceivePacket (r != .backendEvent) arch) (loopFuel s + k) s
        allocs := by
  rw [eventLoop_loopFuel_add r.readHeader_reader (tryToReceivePacket_receiver _ arch)]
  cases r <;> rfl

end PvDisplayHelper
