import PvDisplayHelper.Wire.Bytes

/-!
# PV display helper — the wire interface

The constants and packed structs of `pv_driver_interface.h`. A struct that is only
`uint32_t` fields is its list of fields (`u32Fields`), read back by `u32sAt`; the two
framing structs, `DhHeader` and `DhFooter`, also carry `uint16_t` fields.

* `DhHeader.ofBytes_bytes`, `DhFooter.ofBytes_bytes` — a header or footer written into
  a buffer is what the receiver reads back from it.
* `u32sAt_u32Fields` — the same round trip for every all-`uint32_t` payload struct.
-/

namespace PvDisplayHelper

/-! ## Constants -/

/-- `PV_DRIVER_MAGIC1`. -/
def pvDriverMagic1 : UInt16 := 0xC0DE

/-- `PV_DRIVER_MAGIC2`. -/
def pvDriverMagic2 : UInt16 := 0x5AFE

/-- `sizeof(struct dh_header)`. -/
def dhHeaderSize : Nat := 16

/-- `sizeof(struct dh_footer)`. -/
def dhFooterSize : Nat := 8

/-- `PV_DRIVER_MAX_PACKET_SIZE`. -/
def pvDriverMaxPacketSize : Nat := 4096

/-- `PV_DRIVER_MAX_PAYLOAD_SIZE`: 4096 - (16 + 8) = 4072 bytes. -/
def pvDriverMaxPayloadSize : Nat := pvDriverMaxPacketSize - (dhHeaderSize + dhFooterSize)

/-- `PV_DRIVER_INTERFACE_VERSION`. -/
def pvDriverInterfaceVersion : UInt32 := 0x00000001

/-- `PACKET_TYPE_CONTROL_DRIVER_CAPABILITIES`. -/
def packetTypeControlDriverCapabilities : UInt32 := 1
/-- `PACKET_TYPE_CONTROL_HOST_DISPLAY_LIST`. -/
def packetTypeControlHostDisplayList : UInt32 := 2
/-- `PACKET_TYPE_CONTROL_ADVERTISED_DISPLAY_LIST`. -/
def packetTypeControlAdvertisedDisplayList : UInt32 := 3
/-- `PACKET_TYPE_CONTROL_ADD_DISPLAY`. -/
def packetTypeControlAddDisplay : UInt32 := 4
/-- `PACKET_TYPE_CONTROL_REMOVE_DISPLAY`. -/
def packetTypeControlRemoveDisplay : UInt32 := 5
/-- `PACKET_TYPE_CONTROL_DISPLAY_NO_LONGER_AVAILABLE`. -/
def packetTypeControlDisplayNoLongerAvailable : UInt32 := 6
/-- `PACKET_TYPE_CONTROL_TEXT_MODE`. -/
def packetTypeControlTextMode : UInt32 := 7
/-- `PACKET_TYPE_EVENT_SET_DISPLAY`. -/
def packetTypeEventSetDisplay : UInt32 := 101
/-- `PACKET_TYPE_EVENT_UPDATE_CURSOR`. -/
def packetTypeEventUpdateCursor : UInt32 := 102
/-- `PACKET_TYPE_EVENT_MOVE_CURSOR`. -/
def packetTypeEventMoveCursor : UInt32 := 103
/-- `PACKET_TYPE_EVENT_BLANK_DISPLAY`. -/
def packetTypeEventBlankDisplay : UInt32 := 104

/-! ## Runs of `uint32_t` fields -/

/-- The packed bytes of consecutive `uint32_t` fields. -/
def u32Fields (xs : List UInt32) : List UInt8 := (xs.map u32Bytes).flatten

/-- `n` consecutive `uint32_t` fields read from the start of a buffer. -/
def u32sAt (buf : List UInt8) : Nat → List UInt32
  | 0 => []
  | n + 1 => u32At buf 0 :: u32sAt (buf.drop 4) n

/-- No fields, no bytes. -/
@[simp] theorem u32Fields_nil : u32Fields [] = [] := rfl

/-- Fields are written in order, four bytes each. -/
@[simp] theorem u32Fields_cons (x : UInt32) (xs : List UInt32) :
    u32Fields (x :: xs) = u32Bytes x ++ u32Fields xs := rfl

/-- A record of `uint32_t` fields is four bytes a field. -/
@[simp] theorem length_u32Fields (xs : List UInt32) : (u32Fields xs).length = 4 * xs.length := by
  induction xs with
  | nil => rfl
  | cons x xs ih => simp [ih, Nat.mul_succ, Nat.add_comm]

/-- Fields written back to back are read back unchanged. -/
theorem u32sAt_u32Fields (xs : List UInt32) (rest : List UInt8) (n : Nat)
    (hn : xs.length = n) : u32sAt (u32Fields xs ++ rest) n = xs := by
  subst hn
  induction xs with
  | nil => rfl
  | cons x xs ih =>
    have hdrop : (u32Bytes x ++ (u32Fields xs ++ rest)).drop 4 = u32Fields xs ++ rest :=
      List.drop_left' (length_u32Bytes x)
    simp only [u32Fields_cons, List.append_assoc, List.length_cons, u32sAt, hdrop, ih,
      u32At_u32Bytes]

/-! ## Framing -/

/-- `struct dh_header`: 16 bytes in front of every control and event packet. -/
structure DhHeader where
  magic1 : UInt16
  magic2 : UInt16
  type : UInt32
  length : UInt32
  dhReservedWord : UInt32
  deriving DecidableEq, Repr

/-- The packed bytes of a header. -/
def DhHeader.bytes (h : DhHeader) : List UInt8 :=
  u16Bytes h.magic1 ++ u16Bytes h.magic2 ++ u32Fields [h.type, h.length, h.dhReservedWord]

/-- The header a receiver reads from the first 16 bytes of a buffer. -/
def DhHeader.ofBytes (buf : List UInt8) : DhHeader :=
  match u32sAt (buf.drop 4) 3 with
  | [type, length, reserved] => ⟨u16At buf 0, u16At buf 2, type, length, reserved⟩
  | _ => ⟨u16At buf 0, u16At buf 2, 0, 0, 0⟩

/-- A `struct dh_header` is `sizeof(struct dh_header)` bytes. -/
@[simp] theorem DhHeader.length_bytes (h : DhHeader) : h.bytes.length = dhHeaderSize := by
  simp [DhHeader.bytes, dhHeaderSize]

/-- A header written into a buffer reads back unchanged. -/
@[simp] theorem DhHeader.ofBytes_bytes (h : DhHeader) (rest : List UInt8) :
    DhHeader.ofBytes (h.bytes ++ rest) = h := by
  have h2 : u16At (u16Bytes h.magic1 ++ (u16Bytes h.magic2 ++
      (u32Fields [h.type, h.length, h.dhReservedWord] ++ rest))) 2 = h.magic2 := by
    rw [show 2 = (u16Bytes h.magic1).length + 0 from rfl, u16At_append, u16At_u16Bytes]
  have hd : (u16Bytes h.magic1 ++ (u16Bytes h.magic2 ++
      (u32Fields [h.type, h.length, h.dhReservedWord] ++ rest))).drop 4 =
      u32Fields [h.type, h.length, h.dhReservedWord] ++ rest := by
    rw [show 4 = (u16Bytes h.magic1).length + (u16Bytes h.magic2).length from rfl,
      ← List.drop_drop, List.drop_left, List.drop_left]
  simp only [DhHeader.ofBytes, DhHeader.bytes, List.append_assoc, hd, h2, u16At_u16Bytes,
    u32sAt_u32Fields [h.type, h.length, h.dhReservedWord] rest 3 rfl]

/-- `struct dh_footer`: 8 bytes after the payload, led by the CRC. -/
structure DhFooter where
  crc : UInt16
  dhReservedHalfword : UInt16
  dhReservedWord : UInt32
  deriving DecidableEq, Repr

/-- The packed bytes of a footer. -/
def DhFooter.bytes (f : DhFooter) : List UInt8 :=
  u16Bytes f.crc ++ u16Bytes f.dhReservedHalfword ++ u32Bytes f.dhReservedWord

/-- The footer a receiver reads from the first 8 bytes of a buffer. -/
def DhFooter.ofBytes (buf : List UInt8) : DhFooter :=
  ⟨u16At buf 0, u16At buf 2, u32At buf 4⟩

/-- A `struct dh_footer` is `sizeof(struct dh_footer)` bytes. -/
@[simp] theorem DhFooter.length_bytes (f : DhFooter) : f.bytes.length = dhFooterSize := by
  simp [DhFooter.bytes, dhFooterSize]

/-- A footer written into a buffer reads back unchanged. -/
@[simp] theorem DhFooter.ofBytes_bytes (f : DhFooter) (rest : List UInt8) :
    DhFooter.ofBytes (f.bytes ++ rest) = f := by
  have h2 : u16At (u16Bytes f.crc ++ (u16Bytes f.dhReservedHalfword ++
      (u32Bytes f.dhReservedWord ++ rest))) 2 = f.dhReservedHalfword := by
    rw [show 2 = (u16Bytes f.crc).length + 0 from rfl, u16At_append, u16At_u16Bytes]
  have h4 : u32At (u16Bytes f.crc ++ (u16Bytes f.dhReservedHalfword ++
      (u32Bytes f.dhReservedWord ++ rest))) 4 = f.dhReservedWord := by
    rw [show 4 = (u16Bytes f.crc ++ u16Bytes f.dhReservedHalfword).length + 0 from rfl,
      ← List.append_assoc, u32At_append, u32At_u32Bytes]
  simp only [DhFooter.ofBytes, DhFooter.bytes, List.append_assoc, h2, h4, u16At_u16Bytes]

end PvDisplayHelper
