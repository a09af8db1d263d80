import PvDisplayHelper.Wire.Checksum

/-!
# PV display helper — the checksum against the bitwise CRC-16/X-25

`__pv_helper_checksum` folds a byte into the CRC a nibble at a time, from the sixteen entries
of `crc_tbl`. The reference it stands for is the bitwise reflected CRC-16 with polynomial
`0x8408`: xor the byte into the low bits, then shift right eight times, xoring in the
polynomial whenever a one is shifted out.

A shift is linear in exclusive or (`x25Step_xor`). A CRC whose low nibble is clear only moves
down through four shifts (`x25Steps_of_low_clear`), and `crc_tbl` is four shifts of each nibble
(`crcTbl_eq`), so one table step is four shifts (`crcNibble_eq`) and two of them a byte
(`crcByte_eq`).

* `pvHelperChecksum_eq_crc16X25` — on every byte sequence the table checksum is the bitwise
  one.
-/

namespace PvDisplayHelper

/-! ## The bitwise reference -/

/-- One bit: `crc := (crc >> 1) xor (0x8408 if crc is odd else 0)`. -/
def x25Step (crc : BitVec 16) : BitVec 16 :=
  (crc >>> 1) ^^^ (if crc.getLsbD 0 then 0x8408#16 else 0#16)

/-- `n` bits. -/
def x25Steps : Nat → BitVec 16 → BitVec 16
  | 0, crc => crc
  | n + 1, crc => x25Steps n (x25Step crc)

/-- One byte: `crc := crc xor b`, then eight bits. -/
def x25Byte (crc : BitVec 16) (b : UInt8) : BitVec 16 :=
  x25Steps 8 (crc ^^^ b.toBitVec.setWidth 16)

/-- CRC-16/X-25: from `0xFFFF`, byte by byte, and `~crc & 0xFFFF` at the end. -/
def crc16X25 (data : List UInt8) : BitVec 16 :=
  ~~~(data.foldl x25Byte 0xFFFF#16) &&& 0xFFFF#16

/-! ## Linearity -/

/-- Xoring both sides with the same value cancels it. -/
theorem xor_xor_cancel (a b p : BitVec 16) : (a ^^^ p) ^^^ (b ^^^ p) = a ^^^ b := by
  rw [BitVec.xor_assoc, ← BitVec.xor_assoc p, BitVec.xor_comm p b, BitVec.xor_assoc b,
    BitVec.xor_self, BitVec.xor_zero]

/-- One shift of the reflected CRC is linear. -/
theorem x25Step_xor (a b : BitVec 16) : x25Step (a ^^^ b) = x25Step a ^^^ x25Step b := by
  unfold x25Step
  rw [BitVec.getLsbD_xor, BitVec.ushiftRight_xor_distrib]
  cases a.getLsbD 0 <;> cases b.getLsbD 0 <;> simp <;>
    first | ac_rfl | exact (xor_xor_cancel _ _ _).symm

/-- So are `n` shifts. -/
theorem x25Steps_xor (n : Nat) (a b : BitVec 16) :
    x25Steps n (a ^^^ b) = x25Steps n a ^^^ x25Steps n b := by
  induction n generalizing a b with
  | zero => rfl
  | succ n ih => simp only [x25Steps, x25Step_xor, ih]

/-- `m + n` shifts are `m` shifts, then `n`. -/
theorem x25Steps_add (m n : Nat) (crc : BitVec 16) :
    x25Steps (m + n) crc = x25Steps n (x25Steps m crc) := by
  induction m generalizing crc with
  | zero => simp [x25Steps]
  | succ m ih => rw [Nat.add_right_comm, x25Steps, x25Steps, ih]

/-- A CRC whose low `4` bits are clear only moves down through four shifts. -/
theorem x25Steps_of_low_clear (y : BitVec 16) (hy : ∀ i, i < 4 → y.getLsbD i = false) :
    ∀ k, k ≤ 4 → x25Steps k y = y >>> k
  | 0, _ => by simp [x25Steps]
  | k + 1, hk => by
    have hlow : (y >>> k).getLsbD 0 = false := by simpa using hy k (by omega)
    rw [x25Steps_add k 1, x25Steps_of_low_clear y hy k (by omega)]
    simp only [x25Steps, x25Step, hlow, Bool.false_eq_true, if_false, BitVec.xor_zero,
      BitVec.shiftRight_add]


/-! ## Masks -/

/-- The bits of `2^k - 1` are the `k` low ones. -/
theorem getLsbD_lowMask (k i : Nat) (hk : k ≤ 16) :
    (BitVec.ofNat 16 (2 ^ k - 1)).getLsbD i = decide (i < k) := by
  rw [BitVec.getLsbD_ofNat, Nat.testBit_two_pow_sub_one]
  by_cases h : i < k
  · simp [h, show i < 16 by omega]
  · simp [h]

/-- `0xF` is the low nibble. -/
@[simp] theorem getLsbD_15 (i : Nat) : (15#16).getLsbD i = decide (i < 4) :=
  getLsbD_lowMask 4 i (by omega)

/-- `0xFFF` is the low twelve bits. -/
@[simp] theorem getLsbD_4095 (i : Nat) : (4095#16).getLsbD i = decide (i < 12) :=
  getLsbD_lowMask 12 i (by omega)

/-- A CRC is its low nibble and the rest. -/
theorem split_lowNibble (y : BitVec 16) : y = (y &&& 15#16) ^^^ (y &&& ~~~15#16) := by
  ext i
  simp only [BitVec.getLsbD_xor, BitVec.getLsbD_and, BitVec.getLsbD_not]
  cases y.getLsbD i <;> cases (15#16).getLsbD i <;> simp

/-- Masking with `~0xF` clears the low nibble. -/
theorem high_low_clear (y : BitVec 16) : ∀ i, i < 4 → (y &&& ~~~15#16).getLsbD i = false := by
  intro i hi
  simp only [BitVec.getLsbD_and, BitVec.getLsbD_not, getLsbD_15, hi, decide_True, Bool.not_true,
    Bool.and_false]

/-- Four shifts of a CRC: those of its low nibble, and the rest moved down four places. -/
theorem x25Steps_four (y : BitVec 16) :
    x25Steps 4 y = x25Steps 4 (y &&& 15#16) ^^^ ((y &&& ~~~15#16) >>> 4) := by
  conv => lhs; rw [split_lowNibble y]
  rw [x25Steps_xor, x25Steps_of_low_clear _ (high_low_clear y) 4 (Nat.le_refl _)]

/-! ## The table -/

/-- `crc_tbl` holds four shifts of each nibble. -/
theorem crcTbl_eq :
    ∀ n : Fin 16, (crcTbl.getD n 0).toBitVec = x25Steps 4 (BitVec.ofNat 16 n) := by
  decide

/-- Widening a byte to `uint16_t` pads it with zeros. -/
theorem toBitVec_toUInt16 (c : UInt8) : c.toUInt16.toBitVec = c.toBitVec.setWidth 16 := by
  apply BitVec.eq_of_toNat_eq
  have := c.toBitVec.isLt
  simp only [BitVec.toNat_setWidth]
  exact (Nat.mod_eq_of_lt (by omega)).symm

/-- One step of the table loop is four shifts of the CRC with the nibble xored in. -/
theorem crcNibble_eq (crc : UInt16) (c : UInt8) :
    (crcNibble crc c).toBitVec =
      x25Steps 4 (crc.toBitVec ^^^ (c.toBitVec.setWidth 16 &&& 15#16)) := by
  have hidx : ((crc ^^^ c.toUInt16) &&& 15).toNat < 16 :=
    Nat.lt_of_le_of_lt (Nat.and_le_right) (by decide)
  have htbl := crcTbl_eq ⟨_, hidx⟩
  have hof : BitVec.ofNat 16 ((crc ^^^ c.toUInt16) &&& 15).toNat =
      (crc.toBitVec ^^^ c.toBitVec.setWidth 16) &&& 15#16 := by
    rw [← toBitVec_toUInt16]; exact BitVec.ofNat_toNat 16 _ ▸ BitVec.setWidth_eq _
  rw [hof] at htbl
  rw [x25Steps_four]
  show ((crc.toBitVec >>> 4) &&& 4095#16) ^^^ (crcTbl.getD _ 0).toBitVec = _
  rw [htbl, BitVec.xor_comm]
  congr 1
  · congr 1
    ext i
    simp only [BitVec.getLsbD_and, BitVec.getLsbD_xor, getLsbD_15]
    by_cases h : (i : Nat) < 4 <;> simp [h]
  · ext i
    simp only [BitVec.getLsbD_and, BitVec.getLsbD_xor, BitVec.getLsbD_ushiftRight,
      BitVec.getLsbD_not, getLsbD_15, getLsbD_4095]
    by_cases h : (i : Nat) < 12
    · simp [h, show ¬ 4 + (i : Nat) < 4 by omega, show 4 + (i : Nat) < 16 by omega]
    · simp [h, BitVec.getLsbD_ge crc.toBitVec (4 + i) (by omega),
        show ¬ 4 + (i : Nat) < 4 by omega]

/-- Two steps of the table loop, the low nibble and then the high one, are a byte. -/
theorem crcByte_eq (crc : UInt16) (c : UInt8) :
    (crcByte crc c).toBitVec = x25Byte crc.toBitVec c := by
  have hsplit : crc.toBitVec ^^^ c.toBitVec.setWidth 16 =
      (crc.toBitVec ^^^ (c.toBitVec.setWidth 16 &&& 15#16)) ^^^
        (c.toBitVec.setWidth 16 &&& ~~~15#16) := by
    rw [BitVec.xor_assoc, ← split_lowNibble]
  have hhigh : (c.toBitVec.setWidth 16 &&& ~~~15#16) >>> 4 =
      (c >>> 4).toBitVec.setWidth 16 &&& 15#16 := by
    show _ = (c.toBitVec >>> 4).setWidth 16 &&& 15#16
    ext i
    simp only [BitVec.getLsbD_and, BitVec.getLsbD_ushiftRight, BitVec.getLsbD_not,
      BitVec.getLsbD_setWidth, getLsbD_15]
    by_cases h : (i : Nat) < 4
    · simp [h, show ¬ 4 + (i : Nat) < 4 by omega, show 4 + (i : Nat) < 16 by omega]
    · simp [h, BitVec.getLsbD_ge c.toBitVec (4 + i) (by omega)]
  have h8 : ∀ y, x25Steps 8 y = x25Steps 4 (x25Steps 4 y) := x25Steps_add 4 4
  unfold crcByte x25Byte
  rw [crcNibble_eq, crcNibble_eq, h8, hsplit,
    x25Steps_xor 4 (crc.toBitVec ^^^ (c.toBitVec.setWidth 16 &&& 15#16)),
    x25Steps_of_low_clear _ (high_low_clear _) 4 (Nat.le_refl _), hhigh]

/-- The table-driven byte loop computes the bitwise CRC on the same bytes. -/
theorem foldl_crcByte (data : List UInt8) (crc : UInt16) :
    (data.foldl crcByte crc).toBitVec = data.foldl x25Byte crc.toBitVec := by
  induction data generalizing crc with
  | nil => rfl
  | cons c data ih => rw [List.foldl_cons, List.foldl_cons, ih, crcByte_eq]

/-- The checksum of one section is the complement of the bitwise CRC. -/
theorem pvHelperChecksum_single (d : List UInt8) :
    (pvHelperChecksum [d]).toBitVec = ~~~(d.foldl x25Byte 0xFFFF#16) &&& 0xFFFF#16 := by
  show ~~~(d.foldl crcByte 0xffff).toBitVec &&& 0xFFFF#16 = _
  rw [foldl_crcByte]
  rfl

/-- **The table checksum is CRC-16/X-25.** On every byte sequence, `__pv_helper_checksum` of one
section is the bitwise reflected CRC-16 with polynomial `0x8408`. -/
theorem pvHelperChecksum_eq_crc16X25 (data : List UInt8) :
    (pvHelperChecksum [data]).toBitVec = crc16X25 data :=
  pvHelperChecksum_single data

end PvDisplayHelper
