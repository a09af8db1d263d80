import PvDisplayHelper.Wire.Interface

/-!
# PV display helper — payload structs

The payload structs of `pv_driver_interface.h`, each a run of `uint32_t` fields. A
sender fills the struct and hands its bytes to `__send_packet`; a receiver casts the
received buffer to the struct and reads field `i` at byte offset `4 * i` (`u32Field`).

* `u32Field_zero` / `u32Field_succ` — reading the fields of a written run, as simp lemmas;
  every `ofBytes_bytes` round trip below is closed by them.
* `DhDisplayList` is the variable-length `num_displays` + `displays[]` layout shared by
  `struct dh_display_list` and `struct dh_display_advertised_list`.
-/

namespace PvDisplayHelper

/-! ## Field access -/

/-- The `i`-th field of a buffer cast to a struct of `uint32_t` fields. -/
def u32Field (buf : List UInt8) (i : Nat) : UInt32 := u32At buf (4 * i)

/-- The first field of a record is the `uint32_t` written first. -/
@[simp] theorem u32Field_zero (x : UInt32) (rest : List UInt8) :
    u32Field (u32Bytes x ++ rest) 0 = x := by
  simp [u32Field]

/-- Field `i + 1` of a record is field `i` of what follows its first field. -/
@[simp] theorem u32Field_succ (x : UInt32) (rest : List UInt8) (i : Nat) :
    u32Field (u32Bytes x ++ rest) (i + 1) = u32Field rest i := by
  rw [u32Field, u32Field, show 4 * (i + 1) = (u32Bytes x).length + 4 * i by simp; omega,
    u32At_append]

/-! ## Payloads -/

/-- `struct dh_display_info`: one display of a host or advertised list. -/
structure DhDisplayInfo where
  key : UInt32
  x : UInt32
  y : UInt32
  width : UInt32
  height : UInt32
  dhReservedWord : UInt32
  deriving DecidableEq, Repr

/-- The packed bytes of a display info. -/
def DhDisplayInfo.bytes (d : DhDisplayInfo) : List UInt8 :=
  u32Fields [d.key, d.x, d.y, d.width, d.height, d.dhReservedWord]

/-- The display info at the start of a buffer. -/
def DhDisplayInfo.ofBytes (buf : List UInt8) : DhDisplayInfo :=
  ⟨u32Field buf 0, u32Field buf 1, u32Field buf 2, u32Field buf 3, u32Field buf 4,
    u32Field buf 5⟩

/-- A `struct dh_display_info` is 24 bytes. -/
@[simp] theorem DhDisplayInfo.length_bytes (d : DhDisplayInfo) : d.bytes.length = 24 := by
  simp [DhDisplayInfo.bytes]

/-- Reading a `struct dh_display_info` back from its bytes gives it back, whatever follows. -/
@[simp] theorem DhDisplayInfo.ofBytes_bytes (d : DhDisplayInfo) (rest : List UInt8) :
    DhDisplayInfo.ofBytes (d.bytes ++ rest) = d := by
  simp only [DhDisplayInfo.ofBytes, DhDisplayInfo.bytes, u32Fields_cons, u32Fields_nil,
    List.append_assoc, u32Field_zero, u32Field_succ]

/-- `struct dh_display_list` and `struct dh_display_advertised_list`: a count followed by
that many display infos. -/
structure DhDisplayList where
  numDisplays : UInt32
  displays : List DhDisplayInfo
  deriving DecidableEq, Repr

/-- The packed bytes of a display list. -/
def DhDisplayList.bytes (l : DhDisplayList) : List UInt8 :=
  u32Bytes l.numDisplays ++ (l.displays.map DhDisplayInfo.bytes).flatten

/-- `displays[i]` of a buffer cast to a display list. -/
def displayAt (buf : List UInt8) (i : Nat) : DhDisplayInfo :=
  DhDisplayInfo.ofBytes (buf.drop (4 + 24 * i))

/-- `struct dh_driver_capabilities`. -/
structure DhDriverCapabilities where
  maxDisplays : UInt32
  version : UInt32
  flags : UInt32
  dhReservedWord : UInt32
  deriving DecidableEq, Repr

/-- The packed bytes of a capabilities payload. -/
def DhDriverCapabilities.bytes (c : DhDriverCapabilities) : List UInt8 :=
  u32Fields [c.maxDisplays, c.version, c.flags, c.dhReservedWord]

/-- A buffer cast to `struct dh_driver_capabilities`. -/
def DhDriverCapabilities.ofBytes (buf : List UInt8) : DhDriverCapabilities :=
  ⟨u32Field buf 0, u32Field buf 1, u32Field buf 2, u32Field buf 3⟩

/-- Reading a `struct dh_driver_capabilities` back from its bytes gives it back. -/
@[simp] theorem DhDriverCapabilities.ofBytes_bytes (c : DhDriverCapabilities) (rest : List UInt8) :
    DhDriverCapabilities.ofBytes (c.bytes ++ rest) = c := by
  simp only [DhDriverCapabilities.ofBytes, DhDriverCapabilities.bytes, u32Fields_cons,
    u32Fields_nil, List.append_assoc, u32Field_zero, u32Field_succ]

/-- `struct dh_add_display`. -/
structure DhAddDisplay where
  key : UInt32
  eventPort : UInt32
  framebufferPort : UInt32
  dirtyRectanglesPort : UInt32
  cursorBitmapPort : UInt32
  deriving DecidableEq, Repr

/-- The packed bytes of an add-display request. -/
def DhAddDisplay.bytes (r : DhAddDisplay) : List UInt8 :=
  u32Fields [r.key, r.eventPort, r.framebufferPort, r.dirtyRectanglesPort, r.cursorBitmapPort]

/-- A buffer cast to `struct dh_add_display`. -/
def DhAddDisplay.ofBytes (buf : List UInt8) : DhAddDisplay :=
  ⟨u32Field buf 0, u32Field buf 1, u32Field buf 2, u32Field buf 3, u32Field buf 4⟩

/-- Reading a `struct dh_add_display` back from its bytes gives it back. -/
@[simp] theorem DhAddDisplay.ofBytes_bytes (r : DhAddDisplay) (rest : List UInt8) :
    DhAddDisplay.ofBytes (r.bytes ++ rest) = r := by
  simp only [DhAddDisplay.ofBytes, DhAddDisplay.bytes, u32Fields_cons, u32Fields_nil,
    List.append_assoc, u32Field_zero, u32Field_succ]

/-- `struct dh_blanking`. -/
structure DhBlanking where
  color : UInt32
  reason : UInt32
  deriving DecidableEq, Repr

/-- The packed bytes of a blanking payload. -/
def DhBlanking.bytes (b : DhBlanking) : List UInt8 := u32Fields [b.color, b.reason]

/-- `struct dh_dirty_rectangle`: the raw record of the dirty-rectangles channel. -/
structure DhDirtyRectangle where
  x : UInt32
  y : UInt32
  width : UInt32
  height : UInt32
  deriving DecidableEq, Repr

/-- The packed bytes of a dirty rectangle. -/
def DhDirtyRectangle.bytes (r : DhDirtyRectangle) : List UInt8 :=
  u32Fields [r.x, r.y, r.width, r.height]

/-- A buffer cast to `struct dh_dirty_rectangle`. -/
def DhDirtyRectangle.ofBytes (buf : List UInt8) : DhDirtyRectangle :=
  ⟨u32Field buf 0, u32Field buf 1, u32Field buf 2, u32Field buf 3⟩

/-- A `struct dh_dirty_rectangle` is 16 bytes. -/
@[simp] theorem DhDirtyRectangle.length_bytes (r : DhDirtyRectangle) : r.bytes.length = 16 := by
  simp [DhDirtyRectangle.bytes]

/-- Reading a `struct dh_dirty_rectangle` back from its bytes gives it back. -/
@[simp] theorem DhDirtyRectangle.ofBytes_bytes (r : DhDirtyRectangle) (rest : List UInt8) :
    DhDirtyRectangle.ofBytes (r.bytes ++ rest) = r := by
  simp only [DhDirtyRectangle.ofBytes, DhDirtyRectangle.bytes, u32Fields_cons, u32Fields_nil,
    List.append_assoc, u32Field_zero, u32Field_succ]

/-- `struct dh_set_display`. -/
structure DhSetDisplay where
  width : UInt32
  height : UInt32
  stride : UInt32
  deriving DecidableEq, Repr

/-- The packed bytes of a set-display event. -/
def DhSetDisplay.bytes (r : DhSetDisplay) : List UInt8 := u32Fields [r.width, r.height, r.stride]

/-- `struct dh_update_cursor`. -/
structure DhUpdateCursor where
  xhot : UInt32
  yhot : UInt32
  show' : UInt32
  deriving DecidableEq, Repr

/-- The packed bytes of an update-cursor event. -/
def DhUpdateCursor.bytes (r : DhUpdateCursor) : List UInt8 := u32Fields [r.xhot, r.yhot, r.show']

/-- `struct dh_move_cursor`. -/
structure DhMoveCursor where
  x : UInt32
  y : UInt32
  deriving DecidableEq, Repr

/-- The packed bytes of a move-cursor event. -/
def DhMoveCursor.bytes (r : DhMoveCursor) : List UInt8 := u32Fields [r.x, r.y]

end PvDisplayHelper
