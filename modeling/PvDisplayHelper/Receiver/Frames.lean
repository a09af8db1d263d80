import PvDisplayHelper.Receiver.Decoder

/-!
# PV display helper — how one frame is decoded

A frame is a header, a payload and a footer carrying the CRC of the two; `__send_packet`
writes exactly such frames (`packetBytes_eq_frameBytes`). This module takes one frame
through the decoder, whatever its header says:

* `tryToReadHeader_frame` — a header at the front of the queue becomes
  `current_packet_header`;
* `tryToReceivePacket_frame` — once `length + 8` bytes are queued and the buffer is
  allocated, a frame whose length field is its payload length is handed on whole and the
  header is cleared. Neither step looks at the magics.
-/

namespace PvDisplayHelper

/-! ## Frames -/

/-- The footer `__send_packet` writes after a header and payload. -/
def footerFor (h : DhHeader) (p : List UInt8) : List UInt8 :=
  DhFooter.bytes ⟨pvHelperBlobChecksum (h.bytes ++ p), 0, 0⟩

/-- What follows a frame's header: the payload and the footer. -/
def frameTail (h : DhHeader) (p : List UInt8) : List UInt8 := p ++ footerFor h p

/-- A footer is `sizeof(struct dh_footer)` bytes. -/
@[simp] theorem length_footerFor (h : DhHeader) (p : List UInt8) :
    (footerFor h p).length = dhFooterSize := by
  simp [footerFor]

/-- What follows a header is the payload and the footer. -/
@[simp] theorem length_frameTail (h : DhHeader) (p : List UInt8) :
    (frameTail h p).length = p.length + dhFooterSize := by
  simp [frameTail]

/-- `__send_packet` writes a frame: its header, then the payload and the footer. -/
theorem packetBytes_eq_frameBytes (type : UInt32) (data : List UInt8) (length : UInt32) :
    packetBytes type data length =
      (packetHeader type length).bytes ++
        frameTail (packetHeader type length) (data.take length.toNat) := by
  simp [packetBytes, frameTail, footerFor]

/-- Below `2 ^ 32 - 8`, `length + sizeof(struct dh_footer)` does not wrap on either target. -/
theorem lengthWithFooter_of_lt (arch : Arch) {h : DhHeader}
    (hl : h.length.toNat + dhFooterSize < 2 ^ 32) :
    lengthWithFooter arch h = h.length.toNat + dhFooterSize := by
  unfold lengthWithFooter
  cases arch
  · exact Nat.mod_eq_of_lt hl
  · exact Nat.mod_eq_of_lt (Nat.lt_of_lt_of_le hl (Nat.pow_le_pow_right (by decide) (by decide)))

/-- A queue and the bytes behind it start with `a`, and the queue is at least as long as
`a`: then the queue itself starts with `a`. -/
theorem append_split {q F a b : List UInt8} (h : q ++ F = a ++ b) (hl : a.length ≤ q.length) :
    q = a ++ q.drop a.length ∧ q.drop a.length ++ F = b := by
  have htake : q.take a.length = a := by
    have := congrArg (List.take a.length) h
    rwa [List.take_append_of_le_length hl, List.take_left] at this
  refine ⟨?_, ?_⟩
  · calc q = q.take a.length ++ q.drop a.length := (List.take_append_drop _ _).symm
      _ = a ++ q.drop a.length := by rw [htake]
  · have := congrArg (List.drop a.length) h
    rwa [List.drop_append_of_le_length hl, List.drop_left] at this

/-! ## Decoding one frame -/

/-- A header at the front of the queue is read into `current_packet_header`. -/
theorem tryToReadHeader_frame {s : RxState} {h : DhHeader} {rest : List UInt8}
    (hq : s.queue = h.bytes ++ rest) :
    tryToReadHeader s = ({ s with currentPacketHeader := h, queue := rest }, true) := by
  have hl : dhHeaderSize ≤ s.queue.length := by simp [hq]
  have hh : DhHeader.ofBytes h.bytes = h := by simpa using DhHeader.ofBytes_bytes h []
  rw [tryToReadHeader_of_le hl, hq, ← DhHeader.length_bytes h, List.take_left, List.drop_left, hh]

/-- With the header of a frame in progress and the rest of the frame queued, a packet read
with a successful allocation hands the frame on and clears the header. -/
theorem tryToReceivePacket_frame (fatal : Bool) (arch : Arch) {s : RxState} {h : DhHeader}
    {p rest : List UInt8} (allocs : List Bool) (hf : s.queryFails = false)
    (hh : s.currentPacketHeader = h) (hlen : h.length.toNat = p.length)
    (hsmall : p.length + dhFooterSize < 2 ^ 32) (hq : s.queue = frameTail h p ++ rest)
    (ha : (nextAlloc allocs).1 = true) :
    tryToReceivePacket fatal arch s allocs =
      ({ s with currentPacketHeader := { h with length := 0 }, queue := rest },
        (nextAlloc allocs).2, true, [.receipt h (frameTail h p)]) := by
  have hlwf : lengthWithFooter arch h = (frameTail h p).length := by
    rw [lengthWithFooter_of_lt arch (by omega), hlen, length_frameTail]
  have hle : lengthWithFooter arch s.currentPacketHeader ≤ s.queue.length := by
    simp [hh, hlwf, hq]
  have hfoot : DhFooter.ofBytes ((frameTail h p).drop p.length) =
      ⟨pvHelperBlobChecksum (h.bytes ++ p), 0, 0⟩ := by
    rw [frameTail, List.drop_left, footerFor, ← List.append_nil (DhFooter.bytes _),
      DhFooter.ofBytes_bytes]
  have hcrc : pvHelperPacketChecksum h (frameTail h p) p.length =
      pvHelperBlobChecksum (h.bytes ++ p) := by
    rw [← packetChecksum_eq_blobChecksum, pvHelperPacketChecksum, pvHelperPacketChecksum,
      frameTail, List.take_left, List.take_length]
  rw [tryToReceivePacket_of_le fatal arch allocs hf hle ha
    (Nat.le_of_eq (by rw [hh, hlwf, hlen, length_frameTail]))]
  simp only [hlwf, hq, List.take_left, List.drop_left, hh, hlen, hfoot, hcrc, ne_eq,
    not_true_eq_false, if_false]

end PvDisplayHelper
