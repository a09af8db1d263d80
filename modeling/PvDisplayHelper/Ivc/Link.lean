import PvDisplayHelper.Wire.Checksum

/-!
# PV display helper — IVC links and `__send_packet`

The IVC transport is outside the repository; the code relies on its contract. One
direction of a connection is a `Link`: a FIFO of bytes with a fixed capacity. Bytes a
sender has written but the receiver cannot see yet are `inFlight` (so that a stream can be
cut into chunks anywhere); the receiver reads from `queue`, which lives in its `RxState`
with the object's `current_packet_header`.

* `ivcRecv` — `libivc_recv`: exactly `n` bytes when at least `n` are queued, else nothing.
* `packetBytes` / `sendPacket` — `__send_packet`: header, payload and CRC footer, appended
  in one piece or not at all (`sendPacket_cases`).
-/

namespace PvDisplayHelper

/-! ## Error codes -/

/-- `ENOENT`. -/
def enoent : Int := 2
/-- `ENXIO`. -/
def enxio : Int := 6
/-- `EAGAIN`. -/
def eagain : Int := 11
/-- `ENOMEM`. -/
def enomem : Int := 12
/-- `EINVAL`. -/
def einval : Int := 22

/-! ## The receive side -/

/-- What a framed receiver works on: the object's `current_packet_header` and the bytes its
channel holds. `queryFails` is a channel whose `libivc_getAvailableData` reports an error. -/
structure RxState where
  currentPacketHeader : DhHeader
  queue : List UInt8
  queryFails : Bool
  deriving DecidableEq, Repr

/-- `libivc_recv`: removes exactly `n` bytes when at least `n` are queued; otherwise fails and
removes nothing. -/
def ivcRecv (q : List UInt8) (n : Nat) : Option (List UInt8 × List UInt8) :=
  if n ≤ q.length then some (q.take n, q.drop n) else none

/-- With enough bytes queued, `libivc_recv` takes exactly the first `n`. -/
theorem ivcRecv_of_le {q : List UInt8} {n : Nat} (h : n ≤ q.length) :
    ivcRecv q n = some (q.take n, q.drop n) := if_pos h

/-- With too few bytes queued, `libivc_recv` fails. -/
theorem ivcRecv_of_lt {q : List UInt8} {n : Nat} (h : q.length < n) : ivcRecv q n = none :=
  if_neg (Nat.not_le.mpr h)

/-! ## Links -/

/-- One direction of an IVC connection, from the sender to a receiving object. -/
structure Link where
  capacity : Nat
  inFlight : List UInt8
  rx : RxState

/-- `libivc_getAvailableSpace`: what the ring can still take. -/
def Link.availableSpace (l : Link) : Nat := l.capacity - (l.inFlight.length + l.rx.queue.length)

/-- `libivc_send` of bytes that fit: they join the stream behind everything already sent. -/
def Link.send (l : Link) (bytes : List UInt8) : Link := { l with inFlight := l.inFlight ++ bytes }

/-- The header `__send_packet` fills in front of a payload. -/
def packetHeader (type : UInt32) (length : UInt32) : DhHeader :=
  ⟨pvDriverMagic1, pvDriverMagic2, type, length, 0⟩

/-- The bytes `__send_packet` transmits for `(type, data, length)`: the header, the first
`length` bytes of `data`, and a footer holding the CRC of the two. The transmit buffer
comes from `pv_helper_malloc`, which zeroes it, so the reserved fields are zero. -/
def packetBytes (type : UInt32) (data : List UInt8) (length : UInt32) : List UInt8 :=
  let header := packetHeader type length
  let payload := data.take length.toNat
  header.bytes ++ payload ++
    DhFooter.bytes ⟨pvHelperBlobChecksum (header.bytes ++ payload), 0, 0⟩

/-- **Sections.** The checksum of a list of sections is the checksum of their concatenation. So
the receiver's checksum of a header and the first `len` bytes of a payload is the blob checksum
of the two back to back, and on a sent packet it is the value `__send_packet` wrote into the
footer. -/
theorem pvHelperChecksum_sections :
    (∀ sections : List (List UInt8),
      pvHelperChecksum sections = pvHelperChecksum [sections.flatten]) ∧
    (∀ (header : DhHeader) (payload : List UInt8) (len : Nat),
      pvHelperPacketChecksum header payload len =
        pvHelperBlobChecksum (header.bytes ++ payload.take len)) ∧
    ∀ (type : UInt32) (data : List UInt8) (length : UInt32),
      packetBytes type data length =
        (packetHeader type length).bytes ++ data.take length.toNat ++
          DhFooter.bytes ⟨pvHelperPacketChecksum (packetHeader type length) data length.toNat, 0, 0⟩ := by
  have hflat : ∀ sections : List (List UInt8),
      pvHelperChecksum sections = pvHelperChecksum [sections.flatten] := fun sections => by
    unfold pvHelperChecksum
    rw [crcSections_eq_flatten]
  have hpacket : ∀ (header : DhHeader) (payload : List UInt8) (len : Nat),
      pvHelperPacketChecksum header payload len =
        pvHelperBlobChecksum (header.bytes ++ payload.take len) := fun header payload len => by
    rw [pvHelperPacketChecksum, hflat]
    simp [pvHelperBlobChecksum]
  exact ⟨hflat, hpacket, fun type data length => by rw [hpacket]; rfl⟩

/-- What the environment answers during one `__send_packet`: `libivc_isOpen`, whether
`pv_helper_malloc` finds memory, the return code of `libivc_getAvailableSpace`, and that of
`libivc_send`, which appends nothing when it fails. -/
structure SendEnv where
  isOpen : Bool
  allocOk : Bool
  spaceRc : Int
  sendRc : Int
  deriving DecidableEq, Repr

/-- `__send_packet`: the return code and the link after. -/
def sendPacket (env : SendEnv) (l : Link) (type : UInt32) (data : List UInt8) (length : UInt32) :
    Int × Link :=
  let packetLength := dhHeaderSize + length.toNat + dhFooterSize
  if !env.isOpen then (-enoent, l)
  else if !env.allocOk then (-enomem, l)
  else if env.spaceRc ≠ 0 then (env.spaceRc, l)
  else if l.availableSpace < packetLength then (-enomem, l)
  else if env.sendRc ≠ 0 then (env.sendRc, l)
  else (0, l.send (packetBytes type data length))

/-- A send either appends its whole packet and returns 0, or changes nothing and returns an
error. -/
theorem sendPacket_cases (env : SendEnv) (l : Link) (type : UInt32) (data : List UInt8)
    (length : UInt32) :
    (sendPacket env l type data length = (0, l.send (packetBytes type data length))) ∨
      (∃ rc, rc ≠ 0 ∧ sendPacket env l type data length = (rc, l)) := by
  unfold sendPacket
  dsimp only
  split
  · exact .inr ⟨_, by decide, rfl⟩
  split
  · exact .inr ⟨_, by decide, rfl⟩
  split
  · exact .inr ⟨_, ‹_›, rfl⟩
  split
  · exact .inr ⟨_, by decide, rfl⟩
  split
  · exact .inr ⟨_, ‹_›, rfl⟩
  · exact .inl rfl

/-- A packet is a header, at most `length` bytes of payload, and a footer. -/
theorem length_packetBytes_le (type : UInt32) (data : List UInt8) (length : UInt32) :
    (packetBytes type data length).length ≤ dhHeaderSize + length.toNat + dhFooterSize := by
  have := List.length_take_le length.toNat data
  simp only [packetBytes, List.length_append, DhHeader.length_bytes, DhFooter.length_bytes]
  omega

/-- A send never overfills the ring: the receiving side is untouched, and what is queued and
in flight still fits the capacity. -/
theorem sendPacket_fits (env : SendEnv) (l : Link) (type : UInt32) (data : List UInt8)
    (length : UInt32) (hl : l.rx.queue.length + l.inFlight.length ≤ l.capacity) :
    (sendPacket env l type data length).2.rx = l.rx ∧
      (sendPacket env l type data length).2.capacity = l.capacity ∧
      l.rx.queue.length + (sendPacket env l type data length).2.inFlight.length ≤ l.capacity := by
  unfold sendPacket
  dsimp only
  split
  · exact ⟨rfl, rfl, hl⟩
  split
  · exact ⟨rfl, rfl, hl⟩
  split
  · exact ⟨rfl, rfl, hl⟩
  split
  · exact ⟨rfl, rfl, hl⟩
  split
  · exact ⟨rfl, rfl, hl⟩
  · rename_i hroom _
    refine ⟨rfl, rfl, ?_⟩
    have := length_packetBytes_le type data length
    simp only [Link.send, Link.availableSpace, List.length_append] at hroom ⊢
    omega

end PvDisplayHelper
