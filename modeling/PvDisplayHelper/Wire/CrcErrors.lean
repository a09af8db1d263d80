import PvDisplayHelper.Wire.CrcReference

/-!
# PV display helper — the errors the checksum detects

The bitwise CRC is linear, so the checksums of `m` and of `m xor e` differ exactly when the CRC
register run from zero over the error pattern `e` ends nonzero. Two invariants of the register
decide that. The parity of its bits flips with every one bit fed in and survives every shift,
since the polynomial `0x8408` has an odd number of ones: an odd number of errors ends on odd
parity. A register holding a one at bit `15 - k` or above keeps one at `15 - (k + 1)` or above
over the next bit, and a shift never sends a nonzero register to zero: a burst of at most 16
bits ends nonzero.

* `pvHelperChecksum_detects` — every nonzero error pattern of odd weight, or whose ones lie
  within 16 consecutive bit positions, changes `__pv_helper_checksum`.
-/

namespace PvDisplayHelper

/-! ## Error patterns -/

/-- The bits of a byte sequence in the order the CRC takes them: bit `j` of byte `i` at
position `8 * i + j`. -/
def messageBits (e : List UInt8) : List Bool :=
  e.flatMap fun b => (List.range 8).map b.toBitVec.getLsbD

/-- `m xor e`, byte by byte. -/
def xorBytes (m e : List UInt8) : List UInt8 := List.zipWith (· ^^^ ·) m e

/-- The error pattern has an odd number of ones. -/
def OddWeight (e : List UInt8) : Prop := (messageBits e).count true % 2 = 1

instance (e : List UInt8) : Decidable (OddWeight e) := inferInstanceAs (Decidable (_ = _))

/-- Every one of the error pattern lies within 16 consecutive positions. -/
def ShortBurst (e : List UInt8) : Prop :=
  ∃ p, ∀ q, (messageBits e).getD q false = true → p ≤ q ∧ q < p + 16

/-! ## Bit by bit -/

/-- One message bit into the bitwise CRC: xored into bit 0, then one shift. -/
def x25Bit (crc : BitVec 16) (bit : Bool) : BitVec 16 :=
  x25Step (crc ^^^ if bit then 1#16 else 0#16)

/-- The low `n` bits of a register, lowest first. -/
def lowBits (v : BitVec 16) : Nat → List Bool
  | 0 => []
  | n + 1 => v.getLsbD 0 :: lowBits (v >>> 1) n

/-- The low `n` bits of a register, lowest first. -/
theorem lowBits_eq (v : BitVec 16) (n : Nat) : lowBits v n = (List.range n).map v.getLsbD := by
  induction n generalizing v with
  | zero => rfl
  | succ n ih =>
    rw [lowBits, ih, List.range_succ_eq_map, List.map_cons, List.map_map]
    congr 1
    apply List.map_congr_left
    intro i _
    simp [Nat.add_comm 1 i]

/-- A bit xored in at position `i` and then shifted down `i` places is the bit fed in at the
`i`-th shift: `n` shifts of a register with `v` xored in are the bits of `v` fed one at a
time. -/
theorem x25Steps_xor_lowBits (n : Nat) :
    ∀ crc v : BitVec 16, (∀ i, n ≤ i → v.getLsbD i = false) →
      x25Steps n (crc ^^^ v) = (lowBits v n).foldl x25Bit crc := by
  induction n with
  | zero =>
    intro crc v hv
    have : v = 0#16 := by ext i; simpa using hv i (Nat.zero_le _)
    simp [this, x25Steps, lowBits]
  | succ n ih =>
    intro crc v hv
    have hsplit : crc ^^^ v =
        (crc ^^^ if v.getLsbD 0 then 1#16 else 0#16) ^^^ ((v >>> 1) <<< 1) := by
      ext i
      simp only [BitVec.getLsbD_xor, BitVec.getLsbD_shiftLeft, BitVec.getLsbD_ushiftRight]
      rcases Nat.eq_zero_or_pos i with h | h
      · simp only [h]; cases v.getLsbD 0 <;> simp
      · cases v.getLsbD 0 <;>
          simp [show ¬ (i : Nat) < 1 by omega, show 1 + ((i : Nat) - 1) = i by omega,
            show (i : Nat) ≠ 0 by omega]
    have hshift : x25Step ((v >>> 1) <<< 1) = v >>> 1 := by
      have h0 : ((v >>> 1) <<< 1).getLsbD 0 = false := by simp
      unfold x25Step
      rw [h0]
      ext i
      simp only [BitVec.getLsbD_xor, BitVec.getLsbD_shiftLeft, BitVec.getLsbD_ushiftRight]
      by_cases hi : (i : Nat) < 15
      · simp [show ¬ 1 + (i : Nat) < 1 by omega, show 1 + (i : Nat) - 1 = i by omega,
          show 1 + (i : Nat) < 16 by omega]
      · simp [BitVec.getLsbD_ge v (1 + i) (by omega)]
    rw [x25Steps, hsplit, x25Step_xor, hshift, lowBits, List.foldl_cons]
    exact ih _ _ fun i hi => by simpa using hv (1 + i) (by omega)

/-- A byte is its eight bits fed one at a time. -/
theorem x25Byte_eq_bits (crc : BitVec 16) (b : UInt8) :
    x25Byte crc b = ((List.range 8).map b.toBitVec.getLsbD).foldl x25Bit crc := by
  have hlow : ∀ i, 8 ≤ i → (b.toBitVec.setWidth 16).getLsbD i = false := fun i hi => by
    simp [BitVec.getLsbD_setWidth, BitVec.getLsbD_ge b.toBitVec i hi]
  rw [x25Byte, x25Steps_xor_lowBits 8 crc _ hlow, lowBits_eq]
  congr 1

/-- Feeding bytes is feeding their bits, lowest first. -/
theorem foldl_x25Byte_eq_bits (e : List UInt8) (crc : BitVec 16) :
    e.foldl x25Byte crc = (messageBits e).foldl x25Bit crc := by
  induction e generalizing crc with
  | nil => rfl
  | cons b e ih =>
    simp only [List.foldl_cons, ih, x25Byte_eq_bits, messageBits, List.flatMap_cons,
      List.foldl_append]

/-- The byte step is linear: it maps xors of registers and bytes to xors. -/
theorem x25Byte_xor (a b : BitVec 16) (x y : UInt8) :
    x25Byte (a ^^^ b) (x ^^^ y) = x25Byte a x ^^^ x25Byte b y := by
  have : (x ^^^ y).toBitVec.setWidth 16 = x.toBitVec.setWidth 16 ^^^ y.toBitVec.setWidth 16 :=
    BitVec.setWidth_xor
  unfold x25Byte
  rw [this, ← x25Steps_xor]
  congr 1
  ac_rfl

/-- The CRC of `m xor e` from `a xor b` is the CRC of `m` from `a` xor that of `e` from `b`. -/
theorem foldl_x25Byte_xorBytes (m e : List UInt8) (hlen : e.length = m.length) (a b : BitVec 16) :
    (xorBytes m e).foldl x25Byte (a ^^^ b) = m.foldl x25Byte a ^^^ e.foldl x25Byte b := by
  induction m generalizing e a b with
  | nil => cases e with
    | nil => rfl
    | cons _ _ => cases hlen
  | cons x m ih => cases e with
    | nil => cases hlen
    | cons y e =>
      simp only [xorBytes, List.zipWith_cons_cons, List.foldl_cons, x25Byte_xor] at ih ⊢
      exact ih e (by simpa using hlen) _ _

/-! ## Parity -/

/-- The exclusive or of the bits of `x` below `n`. -/
def parityBelow (x : BitVec 16) : Nat → Bool
  | 0 => false
  | n + 1 => parityBelow x n ^^ x.getLsbD n

/-- The parity of a register. -/
def parity16 (x : BitVec 16) : Bool := parityBelow x 16

/-- Parity is linear. -/
theorem parityBelow_xor (a b : BitVec 16) (n : Nat) :
    parityBelow (a ^^^ b) n = (parityBelow a n ^^ parityBelow b n) := by
  induction n with
  | zero => rfl
  | succ n ih =>
    simp only [parityBelow, ih, BitVec.getLsbD_xor]
    cases parityBelow a n <;> cases parityBelow b n <;> cases a.getLsbD n <;> cases b.getLsbD n <;>
      rfl

/-- Shifting right drops the lowest bit from the parity. -/
theorem parityBelow_shift (x : BitVec 16) (n : Nat) :
    (parityBelow (x >>> 1) n ^^ x.getLsbD 0) = parityBelow x (n + 1) := by
  induction n with
  | zero => rfl
  | succ n ih =>
    rw [parityBelow, Bool.xor_right_comm, ih, BitVec.getLsbD_ushiftRight, Nat.add_comm 1 n]
    rfl

/-- The parity of 16 bits is linear. -/
theorem parity16_xor (a b : BitVec 16) : parity16 (a ^^^ b) = (parity16 a ^^ parity16 b) :=
  parityBelow_xor a b 16

/-- A shift keeps the parity: the bit shifted out is xored back in through `0x8408`, which has
three ones. -/
theorem parity16_x25Step (x : BitVec 16) : parity16 (x25Step x) = parity16 x := by
  have h : (parityBelow (x >>> 1) 16 ^^ x.getLsbD 0) = (parityBelow x 16 ^^ x.getLsbD 16) :=
    parityBelow_shift x 16
  rw [BitVec.getLsbD_ge x 16 (by omega), Bool.xor_false] at h
  have hP : parity16 0x8408#16 = true := by decide
  have h0 : parity16 0#16 = false := by decide
  unfold x25Step
  rw [parity16_xor, show parity16 x = _ from h.symm]
  cases x.getLsbD 0 <;> simp [hP, h0] <;> rfl

/-- Feeding a bit flips the register parity exactly when the bit is one. -/
theorem parity16_x25Bit (r : BitVec 16) (bit : Bool) :
    parity16 (x25Bit r bit) = (parity16 r ^^ bit) := by
  rw [x25Bit, parity16_x25Step, parity16_xor]
  cases bit <;> rfl

/-- Over a run of bits, the parity of the register flips once for every one fed in. -/
theorem parity16_foldl (bits : List Bool) (r : BitVec 16) :
    parity16 (bits.foldl x25Bit r) = (parity16 r ^^ decide (bits.count true % 2 = 1)) := by
  induction bits generalizing r with
  | nil => simp
  | cons b bs ih =>
    rw [List.foldl_cons, ih, parity16_x25Bit, List.count_cons]
    have hmod : bs.count true % 2 = 0 ∨ bs.count true % 2 = 1 := by omega
    cases b <;> rcases hmod with h | h <;> simp [h, Nat.add_mod]

/-- An odd number of one bits fed into a zero register leaves it nonzero. -/
theorem foldl_x25Bit_ne_zero_of_odd (bits : List Bool) (hodd : bits.count true % 2 = 1) :
    bits.foldl x25Bit 0#16 ≠ 0#16 := by
  intro h0
  have hz : parity16 0#16 = false := by decide
  have := parity16_foldl bits 0#16
  rw [h0, hz, hodd] at this
  cases this

/-! ## Bursts -/

/-- The register holds a one at bit `15 - k` or above. -/
def HighOne (k : Nat) (r : BitVec 16) : Prop := ∃ j, 15 - k ≤ j ∧ r.getLsbD j = true

/-- A register with a one bit is not zero. -/
theorem HighOne.ne_zero {k : Nat} {r : BitVec 16} (h : HighOne k r) : r ≠ 0#16 := by
  rintro rfl
  obtain ⟨j, -, hj⟩ := h
  simp at hj

/-- A shift moves the high one down a place, or brings in the polynomial's bit `15`. -/
theorem HighOne.x25Step {k : Nat} {r : BitVec 16} (h : HighOne k r) :
    HighOne (k + 1) (x25Step r) := by
  obtain ⟨j, hj, hr⟩ := h
  unfold PvDisplayHelper.x25Step
  cases h0 : r.getLsbD 0
  · have hj0 : j ≠ 0 := by rintro rfl; rw [h0] at hr; cases hr
    refine ⟨j - 1, by omega, ?_⟩
    simp [BitVec.getLsbD_ushiftRight, show 1 + (j - 1) = j by omega, hr]
  · exact ⟨15, by omega, by simp [BitVec.getLsbD_ushiftRight]⟩

/-- Xoring a one into bit `0` keeps a one at bit `15 - k` for `k < 15`. -/
theorem HighOne.xor_bit {k : Nat} {r : BitVec 16} {bit : Bool} (h : HighOne k r)
    (hb : k < 15 ∨ bit = false) : HighOne k (r ^^^ if bit then 1#16 else 0#16) := by
  obtain ⟨j, hj, hr⟩ := h
  refine ⟨j, hj, ?_⟩
  cases bit
  · simpa using hr
  · have : j ≠ 0 := by rcases hb with hb | hb <;> first | omega | cases hb
    simp [BitVec.getLsbD_xor, hr, this]

/-- Feeding a bit moves the highest one bit down by at most one place. -/
theorem HighOne.x25Bit {k : Nat} {r : BitVec 16} {bit : Bool} (h : HighOne k r)
    (hb : k < 15 ∨ bit = false) : HighOne (k + 1) (x25Bit r bit) :=
  (h.xor_bit hb).x25Step

/-- After a one at bit `15 - k`, a run whose ones all fall before `15 - k` more bits never
clears the register. -/
theorem foldl_x25Bit_ne_zero_of_high (bits : List Bool) :
    ∀ k r, HighOne k r → (∀ i, bits.getD i false = true → k + i < 15) →
      bits.foldl x25Bit r ≠ 0#16 := by
  induction bits with
  | nil => intro k r h _; exact h.ne_zero
  | cons b bs ih =>
    intro k r h hbits
    have hb : k < 15 ∨ b = false := by
      cases b
      · exact .inr rfl
      · exact .inl (hbits 0 rfl)
    exact ih (k + 1) _ (h.x25Bit hb) fun i hi => by have := hbits (i + 1) hi; omega

/-- A nonzero run whose ones lie within 16 consecutive bits leaves the register nonzero. -/
theorem foldl_x25Bit_ne_zero_of_burst (bits : List Bool) :
    ∀ p, true ∈ bits → (∀ q, bits.getD q false = true → p ≤ q ∧ q < p + 16) →
      bits.foldl x25Bit 0#16 ≠ 0#16 := by
  induction bits with
  | nil => intro _ h; cases h
  | cons b bs ih =>
    intro p hmem hbits
    cases b
    · have hz : x25Bit 0#16 false = 0#16 := by decide
      rw [List.foldl_cons, hz]
      refine ih (p - 1) (by simpa using hmem) fun q hq => ?_
      have := hbits (q + 1) hq
      omega
    · have hp : p = 0 := by have := hbits 0 rfl; omega
      have hfirst : HighOne 0 (x25Bit 0#16 true) := ⟨15, by omega, by decide⟩
      refine foldl_x25Bit_ne_zero_of_high bs 0 _ hfirst fun i hi => ?_
      have := hbits (i + 1) hi
      omega

/-! ## Detection -/

/-- A nonzero byte has a one bit. -/
theorem true_mem_messageBits (e : List UInt8) (hne : ∃ b ∈ e, b ≠ 0) : true ∈ messageBits e := by
  obtain ⟨b, hb, hb0⟩ := hne
  refine List.mem_flatMap.2 ⟨b, hb, Classical.byContradiction fun h => hb0 ?_⟩
  apply UInt8.eq_of_toBitVec_eq
  ext i
  have : b.toBitVec.getLsbD i ≠ true := fun hi => h (List.mem_map.2 ⟨i, by simp, hi⟩)
  simpa using this

/-- Two messages of one length have the same checksum only if the CRC from zero of their
difference is zero. -/
theorem foldl_x25Byte_zero_of_checksum_eq (m e : List UInt8) (hlen : e.length = m.length)
    (heq : pvHelperChecksum [xorBytes m e] = pvHelperChecksum [m]) :
    e.foldl x25Byte 0#16 = 0#16 := by
  have hmask : (0xFFFF#16 : BitVec 16) = BitVec.allOnes 16 := by decide
  have h := congrArg (fun c => ~~~c.toBitVec) heq
  simp only [pvHelperChecksum_single, hmask, BitVec.and_allOnes, BitVec.not_not] at h
  have hlin := foldl_x25Byte_xorBytes m e hlen (BitVec.allOnes 16) 0#16
  rw [BitVec.xor_zero, h] at hlin
  calc e.foldl x25Byte 0#16
      = m.foldl x25Byte (BitVec.allOnes 16) ^^^
          (m.foldl x25Byte (BitVec.allOnes 16) ^^^ e.foldl x25Byte 0#16) := by
        rw [← BitVec.xor_assoc, BitVec.xor_self, BitVec.zero_xor]
    _ = 0#16 := by rw [← hlin, BitVec.xor_self]

/-- **The errors the checksum detects.** For every message `m` and every nonzero error pattern
`e` of the same length whose ones are odd in number or lie within 16 consecutive bit positions
(bit `j` of byte `i` at position `8 * i + j`), `__pv_helper_checksum` of `m xor e` differs from
that of `m`. -/
theorem pvHelperChecksum_detects (m e : List UInt8) (hlen : e.length = m.length)
    (hne : ∃ b ∈ e, b ≠ 0) (herr : OddWeight e ∨ ShortBurst e) :
    pvHelperChecksum [xorBytes m e] ≠ pvHelperChecksum [m] := by
  intro heq
  have hz := foldl_x25Byte_zero_of_checksum_eq m e hlen heq
  rw [foldl_x25Byte_eq_bits] at hz
  rcases herr with hodd | ⟨p, hp⟩
  · exact foldl_x25Bit_ne_zero_of_odd _ hodd hz
  · exact foldl_x25Bit_ne_zero_of_burst _ p (true_mem_messageBits e hne) hp hz

/-- A flip of bit `2` of the second byte of a two-byte message. -/
theorem pvHelperChecksum_detects_flip :
    ([(0 : UInt8), 4].length = [(1 : UInt8), 2].length ∧ (∃ b ∈ [(0 : UInt8), 4], b ≠ 0) ∧
      (OddWeight [0, 4] ∨ ShortBurst [0, 4])) ∧
      pvHelperChecksum [xorBytes [1, 2] [0, 4]] ≠ pvHelperChecksum [[1, 2]] :=
  have hne : ∃ b ∈ [(0 : UInt8), 4], b ≠ 0 := ⟨4, by simp, by decide⟩
  have hodd : OddWeight [0, 4] := by decide
  ⟨⟨rfl, hne, .inl hodd⟩, pvHelperChecksum_detects [1, 2] [0, 4] rfl hne (.inl hodd)⟩

end PvDisplayHelper
