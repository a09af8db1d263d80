import PvDisplayHelper.Wire.Interface

/-!
# PV display helper — the packet checksum

`__pv_helper_checksum` in `common.h`: the nibble-table CRC-16/CCITT over a list of data
sections, started at `0xffff` and complemented at the end. The sender computes it over
one section, the packed header followed by the payload (`__pv_helper_blob_checksum`);
the receivers over two, the header they read and the payload they received
(`__pv_helper_packet_checksum`).

* `crcSections_eq_flatten` — the CRC state after a list of sections is the state after
  their concatenation, so `packetChecksum_eq_blobChecksum`: the receiver's two-section
  checksum is the value the sender wrote into the footer.
-/

namespace PvDisplayHelper

/-- `crc_tbl`: the CRC of each nibble value. -/
def crcTbl : List UInt16 :=
  [0x0000, 0x1081, 0x2102, 0x3183, 0x4204, 0x5285, 0x6306, 0x7387,
   0x8408, 0x9489, 0xa50a, 0xb58b, 0xc60c, 0xd68d, 0xe70e, 0xf78f]

/-- `crc = ((crc >> 4) & 0x0fff) ^ crc_tbl[((crc ^ c) & 15)]`: folds the low nibble of `c`
into the CRC. -/
def crcNibble (crc : UInt16) (c : UInt8) : UInt16 :=
  ((crc >>> 4) &&& 0x0fff) ^^^ crcTbl.getD ((crc ^^^ c.toUInt16) &&& 15).toNat 0

/-- The body of the `while(len--)` loop: the low nibble, then `c >>= 4` and the high one. -/
def crcByte (crc : UInt16) (c : UInt8) : UInt16 := crcNibble (crcNibble crc c) (c >>> 4)

/-- The CRC state after the sections, section by section and byte by byte. -/
def crcSections (crc : UInt16) (sections : List (List UInt8)) : UInt16 :=
  sections.foldl (fun crc s => s.foldl crcByte crc) crc

/-- `__pv_helper_checksum`: the CRC of the given data sections, `~crc & 0xffff`. -/
def pvHelperChecksum (sections : List (List UInt8)) : UInt16 :=
  ~~~(crcSections 0xffff sections) &&& 0xffff

/-- `__pv_helper_packet_checksum`: the checksum of a header and `payload_length` bytes of
payload. -/
def pvHelperPacketChecksum (header : DhHeader) (payload : List UInt8) (payloadLength : Nat) :
    UInt16 :=
  pvHelperChecksum [header.bytes, payload.take payloadLength]

/-- `__pv_helper_blob_checksum`: the checksum of one binary blob. -/
def pvHelperBlobChecksum (data : List UInt8) : UInt16 := pvHelperChecksum [data]

/-- The CRC state after a list of sections is the state after their concatenation. -/
theorem crcSections_eq_flatten (crc : UInt16) (sections : List (List UInt8)) :
    crcSections crc sections = crcSections crc [sections.flatten] := by
  induction sections generalizing crc with
  | nil => rfl
  | cons s ss ih =>
    simp only [crcSections, List.foldl_cons, List.flatten_cons, List.foldl_append,
      List.foldl_nil] at ih ⊢
    exact ih _

/-- The receiver's checksum of a header and its payload is the sender's checksum of the
two written back to back. -/
theorem packetChecksum_eq_blobChecksum (header : DhHeader) (payload : List UInt8) :
    pvHelperPacketChecksum header payload payload.length =
      pvHelperBlobChecksum (header.bytes ++ payload) := by
  simp only [pvHelperPacketChecksum, pvHelperBlobChecksum, pvHelperChecksum, List.take_length]
  rw [crcSections_eq_flatten]
  simp

end PvDisplayHelper
