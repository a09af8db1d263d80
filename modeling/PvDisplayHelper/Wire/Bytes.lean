import Mathlib.Algebra.Group.Nat.Basic
/-!
# PV display helper — little-endian fields

Every structure that crosses a channel is declared inside `#pragma pack(push, 1)` in
`pv_driver_interface.h`: its fields are laid out back to back, least significant byte
first, with no padding. This module is the byte layer that the packet structs are
built from.

* `leBytes w n` — the `w` bytes of `n`, least significant first; `leValue` reads them
  back, and `leValue_leBytes` is the round trip (exact below `256 ^ w`).
* `u16Bytes` / `u32Bytes` and the readers `u16At` / `u32At`, which take the field at a
  byte offset of a buffer, as the code does when it casts a buffer to a struct pointer.
-/

namespace PvDisplayHelper

/-! ## Little-endian naturals -/

/-- The `w` little-endian bytes of `n`; bits from `8 * w` up are dropped. -/
def leBytes : Nat → Nat → List UInt8
  | 0, _ => []
  | w + 1, n => UInt8.ofNat (n % 256) :: leBytes w (n / 256)

/-- The natural whose little-endian bytes are the given list. -/
def leValue : List UInt8 → Nat
  | [] => 0
  | b :: bs => b.toNat + 256 * leValue bs

/-- Zero bytes of a number are none. -/
@[simp] theorem leBytes_zero (n : Nat) : leBytes 0 n = [] := rfl

/-- The low byte comes first, then the bytes of the rest. -/
@[simp] theorem leBytes_succ (w n : Nat) :
    leBytes (w + 1) n = UInt8.ofNat (n % 256) :: leBytes w (n / 256) := rfl

/-- No bytes are worth 0. -/
@[simp] theorem leValue_nil : leValue [] = 0 := rfl

/-- The first byte is the lowest. -/
@[simp] theorem leValue_cons (b : UInt8) (bs : List UInt8) :
    leValue (b :: bs) = b.toNat + 256 * leValue bs := rfl

/-- `w` bytes of a number are `w` bytes long. -/
@[simp] theorem length_leBytes (w n : Nat) : (leBytes w n).length = w := by
  induction w generalizing n with
  | zero => rfl
  | succ w ih => simp [ih]

/-- Reading back `w` written bytes gives the value modulo `256 ^ w`. -/
theorem leValue_leBytes (w n : Nat) : leValue (leBytes w n) = n % 256 ^ w := by
  induction w generalizing n with
  | zero => simp [Nat.mod_one]
  | succ w ih =>
    have hb : (UInt8.ofNat (n % 256)).toNat = n % 256 :=
      UInt8.toNat_ofNat_of_lt (Nat.mod_lt _ (by decide))
    rw [leBytes_succ, leValue_cons, ih, hb, Nat.pow_succ, Nat.mul_comm (256 ^ w) 256,
      Nat.mod_mul]

/-! ## Fixed-width fields -/

/-- The two bytes of a `uint16_t` field. -/
def u16Bytes (x : UInt16) : List UInt8 := leBytes 2 x.toNat

/-- The four bytes of a `uint32_t` field. -/
def u32Bytes (x : UInt32) : List UInt8 := leBytes 4 x.toNat

/-- The `uint16_t` field at byte offset `off` of a buffer. -/
def u16At (buf : List UInt8) (off : Nat) : UInt16 :=
  UInt16.ofNat (leValue ((buf.drop off).take 2))

/-- The `uint32_t` field at byte offset `off` of a buffer. -/
def u32At (buf : List UInt8) (off : Nat) : UInt32 :=
  UInt32.ofNat (leValue ((buf.drop off).take 4))

/-- A `uint16_t` is two bytes. -/
@[simp] theorem length_u16Bytes (x : UInt16) : (u16Bytes x).length = 2 := length_leBytes _ _

/-- A `uint32_t` is four bytes. -/
@[simp] theorem length_u32Bytes (x : UInt32) : (u32Bytes x).length = 4 := length_leBytes _ _

/-- A `uint16_t` written at the start of a buffer reads back unchanged. -/
@[simp] theorem u16At_u16Bytes (x : UInt16) (rest : List UInt8) :
    u16At (u16Bytes x ++ rest) 0 = x := by
  have hx : x.toNat < 256 ^ 2 := x.toNat_lt_size
  have hv : leValue (u16Bytes x) = x.toNat := by
    rw [u16Bytes, leValue_leBytes, Nat.mod_eq_of_lt hx]
  simp only [u16At, List.drop_zero, List.take_left' (length_u16Bytes x), hv]
  exact UInt16.toNat.inj (UInt16.toNat_ofNat_of_lt x.toNat_lt_size)

/-- A `uint32_t` written at the start of a buffer reads back unchanged. -/
@[simp] theorem u32At_u32Bytes (x : UInt32) (rest : List UInt8) :
    u32At (u32Bytes x ++ rest) 0 = x := by
  have hx : x.toNat < 256 ^ 4 := x.toNat_lt_size
  have hv : leValue (u32Bytes x) = x.toNat := by
    rw [u32Bytes, leValue_leBytes, Nat.mod_eq_of_lt hx]
  simp only [u32At, List.drop_zero, List.take_left' (length_u32Bytes x), hv]
  exact UInt32.toNat.inj (UInt32.toNat_ofNat_of_lt x.toNat_lt_size)

/-- Reading a field past a prefix reads it in what follows the prefix. -/
theorem u16At_append (pre buf : List UInt8) (off : Nat) :
    u16At (pre ++ buf) (pre.length + off) = u16At buf off := by
  rw [u16At, u16At, List.drop_append]

/-- Reading a field past a prefix reads it in what follows the prefix. -/
theorem u32At_append (pre buf : List UInt8) (off : Nat) :
    u32At (pre ++ buf) (pre.length + off) = u32At buf off := by
  rw [u32At, u32At, List.drop_append]

end PvDisplayHelper
