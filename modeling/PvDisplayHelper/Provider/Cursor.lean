import PvDisplayHelper.Provider.Display
import PvDisplayHelper.Ivc.Link

/-!
# PV display helper — loading a cursor image

`pv_display_load_cursor_image` rejects an image wider or taller than 64 pixels, then
`copy_image` copies it into the 64 by 64 cursor buffer shared with the display handler, one
row of `PV_DRIVER_CURSOR_HEIGHT` at a time: a `memcpy` of the row and a `memset` of the rest of
the 256-byte destination row, or a `memset` of the whole row below the image. It then sends
an update-cursor packet.

The row loop is a list of memory operations (`copyImageRows`) at byte offsets from the start
of the destination and of the source, run over the buffer by `runMemOps`.

* `runMemOps_copyImageRows_frame` / `runMemOps_copyImageRows_row` — the loop leaves every byte
  outside its rows alone, and fills byte `k` of row `j` from the image or with 0.
* `pvDisplayLoadCursorImage_spec` — the buffer after the call, the bounds of every operation,
  and the rejected sizes.
-/

namespace PvDisplayHelper

/-! ## Model -/

/-- `PV_DRIVER_CURSOR_WIDTH`. -/
def pvDriverCursorWidth : Nat := 64

/-- `PV_DRIVER_CURSOR_HEIGHT`. -/
def pvDriverCursorHeight : Nat := 64

/-- `pixels_to_bytes(pixels)`: `bits_per_pixel / 8 = 4` bytes a pixel. -/
def pixelsToBytes (pixels : Nat) : Nat := pixels * (32 / 8)

/-- A memory operation of `copy_image`, at byte offsets from the start of the destination
and of the source. -/
inductive MemOp where
  /-- `memset(destination + dst, 0, len)`. -/
  | memset (dst len : Nat)
  /-- `memcpy(destination + dst, source + src, len)`. -/
  | memcpy (dst src len : Nat)
  deriving DecidableEq, Repr

/-- The first destination byte an operation writes. -/
def MemOp.dst : MemOp → Nat
  | .memset dst _ | .memcpy dst _ _ => dst

/-- The number of bytes an operation writes. -/
def MemOp.len : MemOp → Nat
  | .memset _ len | .memcpy _ _ len => len

/-- An operation reads no source byte at or past `bound`. -/
def MemOp.ReadsBelow (bound : Nat) : MemOp → Prop
  | .memset .. => True
  | .memcpy _ src len => src + len ≤ bound

/-- What an operation leaves in the destination, reading `source`. -/
def MemOp.apply (source buf : Nat → UInt8) : MemOp → Nat → UInt8
  | .memset dst len => fun i => if dst ≤ i ∧ i < dst + len then 0 else buf i
  | .memcpy dst src len => fun i =>
    if dst ≤ i ∧ i < dst + len then source (src + (i - dst)) else buf i

/-- Operations one after the other. -/
def runMemOps (source buf : Nat → UInt8) (ops : List MemOp) : Nat → UInt8 :=
  ops.foldl (fun buf op => op.apply source buf) buf

/-- The `for` loop of `copy_image` from row `y` on, `n` rows left, with `source` and
`destination` at the given offsets. -/
def copyImageRows (sourceHeight sourceStride strideDifference destinationStride : Nat) :
    Nat → Nat → Nat → Nat → List MemOp
  | 0, _, _, _ => []
  | n + 1, y, source, destination =>
    if sourceHeight ≤ y then
      .memset destination destinationStride ::
        copyImageRows sourceHeight sourceStride strideDifference destinationStride n (y + 1)
          source (destination + destinationStride)
    else
      .memcpy destination source sourceStride ::
        ((if strideDifference ≠ 0 then [.memset (destination + sourceStride) strideDifference]
          else []) ++
        copyImageRows sourceHeight sourceStride strideDifference destinationStride n (y + 1)
          (source + sourceStride) (destination + destinationStride))

/-- The memory operations of `copy_image`: `PV_DRIVER_CURSOR_HEIGHT` rows from the start of
both buffers. -/
def copyImageOps (sourceHeight : UInt8) (sourceStride strideDifference destinationStride : Nat) :
    List MemOp :=
  copyImageRows sourceHeight.toNat sourceStride strideDifference destinationStride
    pvDriverCursorHeight 0 0 0

/-- A display with what its operations touch outside the `pv_display`: the link of its event
connection and the bytes of the cursor buffer `cursor.image` points to. -/
structure DisplaySession where
  display : PvDisplay
  events : Link
  cursorBuffer : Nat → UInt8

/-- `__send_cursor_update_unsynchronized`: the hot spot and visibility, sent on the event
connection. -/
def sendCursorUpdateUnsynchronized (env : SendEnv) (s : DisplaySession) : Int × Link :=
  sendPacket env s.events packetTypeEventUpdateCursor
    (DhUpdateCursor.bytes ⟨s.display.cursor.hotspotX, s.display.cursor.hotspotY,
      if s.display.cursor.visible then 1 else 0⟩) 12

/-- `copy_image`: the row loop over the cursor buffer, then the update-cursor packet, whose
return code is dropped. -/
def copyImage (env : SendEnv) (s : DisplaySession) (source : Nat → UInt8) (sourceHeight : UInt8)
    (sourceStride strideDifference destinationStride : Nat) : DisplaySession :=
  let ops := copyImageOps sourceHeight sourceStride strideDifference destinationStride
  let s := { s with cursorBuffer := runMemOps source s.cursorBuffer ops }
  { s with events := (sendCursorUpdateUnsynchronized env s).2 }

/-- `pv_display_load_cursor_image(display, image, source_width, source_height)`; `image` is
`none` for a `NULL` pointer. The stride difference cannot wrap, the width having been
checked. -/
def pvDisplayLoadCursorImage (env : SendEnv) (s : DisplaySession) (image : Option (Nat → UInt8))
    (sourceWidth sourceHeight : UInt8) : Int × DisplaySession :=
  if pvDriverCursorWidth < sourceWidth.toNat ∨ pvDriverCursorHeight < sourceHeight.toNat then
    (-einval, s)
  else
    let sourceStride := pixelsToBytes sourceWidth.toNat
    let destinationStride := pixelsToBytes pvDriverCursorWidth
    let strideDifference := destinationStride - sourceStride
    match image with
    | none => (-einval, s)
    | some source =>
      if s.display.cursor.image.isNone then (-einval, s)
      else (0, copyImage env s source sourceHeight sourceStride strideDifference destinationStride)

/-! ## Memory operations -/

/-- A `memset` zeroes its range and leaves every other byte. -/
@[simp] theorem MemOp.apply_memset (source buf : Nat → UInt8) (dst len i : Nat) :
    (MemOp.memset dst len).apply source buf i = if dst ≤ i ∧ i < dst + len then 0 else buf i :=
  rfl

/-- A `memcpy` copies the source into its range and leaves every other byte. -/
@[simp] theorem MemOp.apply_memcpy (source buf : Nat → UInt8) (dst src len i : Nat) :
    (MemOp.memcpy dst src len).apply source buf i =
      if dst ≤ i ∧ i < dst + len then source (src + (i - dst)) else buf i :=
  rfl

/-- No operations, no change. -/
@[simp] theorem runMemOps_nil (source buf : Nat → UInt8) : runMemOps source buf [] = buf := rfl

/-- Operations run in order, the first one first. -/
@[simp] theorem runMemOps_cons (source buf : Nat → UInt8) (op : MemOp) (ops : List MemOp) :
    runMemOps source buf (op :: ops) = runMemOps source (op.apply source buf) ops := rfl

/-- Two lists of operations in a row are one list. -/
@[simp] theorem runMemOps_append (source buf : Nat → UInt8) (ops ops' : List MemOp) :
    runMemOps source buf (ops ++ ops') = runMemOps source (runMemOps source buf ops) ops' :=
  List.foldl_append _ _ _ _

/-! ## The row loop -/

section Rows

variable (source : Nat → UInt8) (sourceHeight sourceStride strideDifference : Nat)

/-- The loop writes only inside its own rows. -/
theorem runMemOps_copyImageRows_frame (hsd : sourceStride + strideDifference ≤ 256) (n : Nat) :
    ∀ y src dst buf i, (i < dst ∨ dst + n * 256 ≤ i) →
      runMemOps source buf
        (copyImageRows sourceHeight sourceStride strideDifference 256 n y src dst) i = buf i := by
  induction n with
  | zero => intros; rfl
  | succ n ih =>
    intro y src dst buf i hi
    unfold copyImageRows
    split
    · rw [runMemOps_cons, ih _ _ _ _ _ (by omega), MemOp.apply_memset, if_neg (by omega)]
    · rw [runMemOps_cons, runMemOps_append, ih _ _ _ _ _ (by omega)]
      split
      · simp only [runMemOps_cons, runMemOps_nil, MemOp.apply_memset, MemOp.apply_memcpy]
        rw [if_neg (by omega), if_neg (by omega)]
      · simp only [runMemOps_nil, MemOp.apply_memcpy]
        rw [if_neg (by omega)]

/-- Byte `k` of row `j` of the loop's rows: the image's byte when the row is inside the image
and the byte inside its row, and 0 otherwise. -/
theorem runMemOps_copyImageRows_row (hsd : sourceStride + strideDifference = 256) (n : Nat) :
    ∀ y src dst buf j k, j < n → k < 256 →
      runMemOps source buf
          (copyImageRows sourceHeight sourceStride strideDifference 256 n y src dst)
          (dst + j * 256 + k) =
        if y + j < sourceHeight ∧ k < sourceStride then source (src + j * sourceStride + k)
        else 0 := by
  induction n with
  | zero => intros; omega
  | succ n ih =>
    intro y src dst buf j k hj hk
    cases j with
    | zero =>
      unfold copyImageRows
      split
      · rw [runMemOps_cons, runMemOps_copyImageRows_frame _ _ _ _ (by omega) _ _ _ _ _ _
          (.inl (by omega)), MemOp.apply_memset, if_pos (by omega), if_neg (by omega)]
      · rw [runMemOps_cons, runMemOps_append, runMemOps_copyImageRows_frame _ _ _ _ (by omega)
          _ _ _ _ _ _ (.inl (by omega))]
        have hcopy : (MemOp.memcpy dst src sourceStride).apply source buf (dst + 0 * 256 + k) =
            if k < sourceStride then source (src + 0 * sourceStride + k) else buf (dst + k) := by
          rw [MemOp.apply_memcpy]
          by_cases hk' : k < sourceStride
          · rw [if_pos (by omega), if_pos hk']; congr 1; omega
          · rw [if_neg (by omega), if_neg hk']; congr 1
        split
        · rw [runMemOps_cons, runMemOps_nil, MemOp.apply_memset, hcopy]
          by_cases hk' : k < sourceStride
          · rw [if_neg (by omega), if_pos hk', if_pos ⟨by omega, hk'⟩]
          · rw [if_pos (by omega), if_neg (by omega)]
        · rw [runMemOps_nil, hcopy, if_pos (by omega), if_pos ⟨by omega, by omega⟩]
    | succ j =>
      have hidx : dst + (j + 1) * 256 + k = (dst + 256) + j * 256 + k := by omega
      unfold copyImageRows
      split
      · rw [runMemOps_cons, hidx, ih _ _ _ _ _ _ (by omega) hk, if_neg (by omega),
          if_neg (by omega)]
      · rw [runMemOps_cons, runMemOps_append, hidx, ih _ _ _ _ _ _ (by omega) hk,
          show y + 1 + j = y + (j + 1) by omega, Nat.succ_mul, Nat.add_assoc src,
          Nat.add_comm sourceStride]

/-- Every operation of the loop writes inside the loop's rows. -/
theorem copyImageRows_writes (hsd : sourceStride + strideDifference ≤ 256) (n : Nat) :
    ∀ y src dst, ∀ op ∈ copyImageRows sourceHeight sourceStride strideDifference 256 n y src dst,
      dst ≤ op.dst ∧ op.dst + op.len ≤ dst + n * 256 := by
  induction n with
  | zero => intros; contradiction
  | succ n ih =>
    intro y src dst op hop
    unfold copyImageRows at hop
    split at hop
    · rcases List.mem_cons.1 hop with rfl | hop
      · exact ⟨Nat.le_refl _, by simp only [MemOp.dst, MemOp.len]; omega⟩
      · have := ih _ _ _ op hop; omega
    · rcases List.mem_cons.1 hop with rfl | hop
      · exact ⟨Nat.le_refl _, by simp only [MemOp.dst, MemOp.len]; omega⟩
      rcases List.mem_append.1 hop with hop | hop
      · split at hop
        · rw [List.mem_singleton.1 hop]; simp only [MemOp.dst, MemOp.len]; omega
        · cases hop
      · have := ih _ _ _ op hop; omega

/-- Every `memcpy` of the loop reads inside the rows of the image still to be copied. -/
theorem copyImageRows_reads (n : Nat) :
    ∀ y src dst, ∀ op ∈ copyImageRows sourceHeight sourceStride strideDifference 256 n y src dst,
      op.ReadsBelow (src + (sourceHeight - y) * sourceStride) := by
  induction n with
  | zero => intros; contradiction
  | succ n ih =>
    intro y src dst op hop
    unfold copyImageRows at hop
    split at hop
    · rcases List.mem_cons.1 hop with rfl | hop
      · trivial
      · have := ih _ _ _ op hop
        rwa [show sourceHeight - (y + 1) = sourceHeight - y by omega] at this
    · have hrows : (sourceHeight - y) * sourceStride =
          sourceStride + (sourceHeight - (y + 1)) * sourceStride := by
        rw [show sourceHeight - y = sourceHeight - (y + 1) + 1 by omega, Nat.succ_mul,
          Nat.add_comm]
      rcases List.mem_cons.1 hop with rfl | hop
      · show src + sourceStride ≤ _; omega
      rcases List.mem_append.1 hop with hop | hop
      · split at hop
        · rw [List.mem_singleton.1 hop]; trivial
        · cases hop
      · have := ih _ _ _ op hop
        rw [hrows, ← Nat.add_assoc]
        exact this

end Rows

/-! ## Loading a cursor image -/

/-- `pixels_to_bytes` is four bytes a pixel. -/
theorem pixelsToBytes_eq (pixels : Nat) : pixelsToBytes pixels = 4 * pixels := by
  unfold pixelsToBytes; omega

/-- An accepted image on a display with a cursor buffer: the call returns 0, changes no field
of the display, and leaves the buffer as the row loop does. -/
theorem pvDisplayLoadCursorImage_of_le (env : SendEnv) (s : DisplaySession)
    (source : Nat → UInt8) (sourceWidth sourceHeight : UInt8) (hw : sourceWidth.toNat ≤ 64)
    (hh : sourceHeight.toNat ≤ 64) (hi : s.display.cursor.image.isSome) :
    let r := pvDisplayLoadCursorImage env s (some source) sourceWidth sourceHeight
    r.1 = 0 ∧ r.2.display = s.display ∧
      r.2.cursorBuffer = runMemOps source s.cursorBuffer
        (copyImageOps sourceHeight (4 * sourceWidth.toNat) (256 - 4 * sourceWidth.toNat) 256) := by
  have hn : ¬ (pvDriverCursorWidth < sourceWidth.toNat ∨
      pvDriverCursorHeight < sourceHeight.toNat) := by
    simp only [pvDriverCursorWidth, pvDriverCursorHeight]; omega
  have hi' : s.display.cursor.image.isNone = false := by
    cases h : s.display.cursor.image <;> simp_all
  simp only [pvDisplayLoadCursorImage, hn, if_false, hi', Bool.false_eq_true]
  exact ⟨trivial, rfl, by simp only [copyImage, pixelsToBytes_eq, pvDriverCursorWidth]⟩

/-- **Loading a cursor image.** On a display with a cursor buffer, an image of at most 64 by
64 pixels loads with return code 0: byte `k` of row `r` of the 256-byte rows becomes the
image's byte `r * 4w + k` inside the image and 0 outside it, and no byte past the 16384 of
the buffer changes. Every `memcpy` and `memset` of the copy writes inside the buffer, and
every `memcpy` reads inside the `h` rows of `4w` bytes of the image. A wider or taller image
is rejected with `-EINVAL`, changing nothing and sending nothing. -/
theorem pvDisplayLoadCursorImage_spec (env : SendEnv) (s : DisplaySession)
    (source : Nat → UInt8) (sourceWidth sourceHeight : UInt8) :
    (sourceWidth.toNat ≤ 64 → sourceHeight.toNat ≤ 64 → s.display.cursor.image.isSome →
      let r := pvDisplayLoadCursorImage env s (some source) sourceWidth sourceHeight
      r.1 = 0 ∧
        (∀ row k, row < 64 → k < 256 → r.2.cursorBuffer (row * 256 + k) =
          if row < sourceHeight.toNat ∧ k < 4 * sourceWidth.toNat then
            source (row * (4 * sourceWidth.toNat) + k)
          else 0) ∧
        (∀ i, 16384 ≤ i → r.2.cursorBuffer i = s.cursorBuffer i) ∧
        ∀ op ∈ copyImageOps sourceHeight (4 * sourceWidth.toNat) (256 - 4 * sourceWidth.toNat) 256,
          op.dst + op.len ≤ 16384 ∧ op.ReadsBelow (sourceHeight.toNat * (4 * sourceWidth.toNat))) ∧
    ∀ image, (64 < sourceWidth.toNat ∨ 64 < sourceHeight.toNat) →
      pvDisplayLoadCursorImage env s image sourceWidth sourceHeight = (-einval, s) := by
  refine ⟨fun hw hh hi => ?_, fun image h => ?_⟩
  · obtain ⟨h0, -, hbuf⟩ := pvDisplayLoadCursorImage_of_le env s source sourceWidth sourceHeight
      hw hh hi
    have hsd : 4 * sourceWidth.toNat + (256 - 4 * sourceWidth.toNat) = 256 := by omega
    refine ⟨h0, fun row k hr hk => ?_, fun i hi => ?_, fun op hop => ?_⟩
    · rw [hbuf]
      simpa using runMemOps_copyImageRows_row source sourceHeight.toNat _ _ hsd 64 0 0 0
        s.cursorBuffer row k hr hk
    · rw [hbuf]
      exact runMemOps_copyImageRows_frame source _ _ _ (Nat.le_of_eq hsd) 64 0 0 0 _ i
        (.inr (by omega))
    · have hw' := copyImageRows_writes sourceHeight.toNat _ _ (Nat.le_of_eq hsd) 64 0 0 0 op hop
      have hr' := copyImageRows_reads sourceHeight.toNat (4 * sourceWidth.toNat)
        (256 - 4 * sourceWidth.toNat) 64 0 0 0 op hop
      simp only [Nat.zero_add, Nat.sub_zero] at hw' hr'
      exact ⟨by omega, hr'⟩
  · rw [pvDisplayLoadCursorImage, if_pos (by simpa only [pvDriverCursorWidth,
      pvDriverCursorHeight] using h)]

/-- A 2 by 3 image loads on a display with a cursor buffer. -/
theorem pvDisplayLoadCursorImage_two_by_three :
    let s : DisplaySession :=
      ⟨⟨0, 0, 0, 0, none, 0, ⟨some ⟨.cursorImage, 0, 5⟩, 0, 0, false⟩, none, none, none,
        some ⟨.cursorImage, 0, 5⟩⟩, ⟨4096, [], ⟨⟨0, 0, 0, 0, 0⟩, [], false⟩⟩, fun _ => 0xff⟩
    ((2 : UInt8).toNat ≤ 64 ∧ (3 : UInt8).toNat ≤ 64 ∧ s.display.cursor.image.isSome) ∧
      (pvDisplayLoadCursorImage ⟨true, true, 0, 0⟩ s (some UInt8.ofNat) 2 3).1 = 0 := by
  intro s
  exact ⟨⟨by decide, by decide, rfl⟩,
    ((pvDisplayLoadCursorImage_spec ⟨true, true, 0, 0⟩ s UInt8.ofNat 2 3).1 (by decide) (by decide)
      rfl).1⟩

end PvDisplayHelper
