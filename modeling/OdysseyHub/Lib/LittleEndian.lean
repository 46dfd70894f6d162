import Mathlib.Algebra.Group.Nat.Defs
import Mathlib.Data.List.Basic

/-!
# Little-endian bytes

Numbers as their bytes, the lowest first.  Writing what was read gives the bytes back, and
zeros behind the bytes do not count:

    toBytes bs.length (ofBytes bs) = bs
    ofBytes (bs ++ List.replicate n 0) = ofBytes bs
-/

namespace LittleEndian

def ofBytes : List UInt8 → Nat
  | [] => 0
  | b :: bs => b.toNat + 256 * ofBytes bs

/-- The lowest `n` bytes. -/
def toBytes : Nat → Nat → List UInt8
  | 0, _ => []
  | n + 1, v => UInt8.ofNat v :: toBytes n (v / 256)

theorem ofBytes_lt (bs : List UInt8) : ofBytes bs < 256 ^ bs.length := by
  induction bs with
  | nil => exact Nat.one_pos
  | cons b bs ih =>
    have hb := b.toNat_lt
    rw [ofBytes, List.length_cons, Nat.pow_succ]
    omega

theorem toBytes_ofBytes (bs : List UInt8) : toBytes bs.length (ofBytes bs) = bs := by
  induction bs with
  | nil => rfl
  | cons b bs ih =>
    have hb : b.toNat < 256 := b.toNat_lt
    have hlow : UInt8.ofNat (b.toNat + 256 * ofBytes bs) = b := by
      apply UInt8.toNat_inj.mp
      rw [UInt8.toNat_ofNat']
      omega
    have hhigh : (b.toNat + 256 * ofBytes bs) / 256 = ofBytes bs := by omega
    rw [List.length_cons, ofBytes, toBytes, hlow, hhigh, ih]

theorem ofBytes_append_zeros (bs : List UInt8) (n : Nat) : ofBytes (bs ++ List.replicate n 0) = ofBytes bs := by
  induction bs with
  | nil =>
    induction n with
    | zero => rfl
    | succ n ih =>
      have hzeros : ofBytes (List.replicate n 0) = 0 := ih
      show (0 : UInt8).toNat + 256 * ofBytes (List.replicate n 0) = 0
      rw [hzeros]
      rfl
  | cons b bs ih => rw [List.cons_append, ofBytes, ih, ofBytes]

/-- Fewer bytes are the first of more. -/
theorem take_toBytes {m n : Nat} (h : m ≤ n) (v : Nat) : (toBytes n v).take m = toBytes m v := by
  induction m generalizing n v with
  | zero => rfl
  | succ m ih =>
    obtain ⟨n, rfl⟩ := Nat.exists_eq_succ_of_ne_zero (Nat.ne_of_gt (Nat.zero_lt_of_lt h))
    show UInt8.ofNat v :: (toBytes n (v / 256)).take m = UInt8.ofNat v :: toBytes m (v / 256)
    rw [ih (Nat.le_of_succ_le_succ h)]

/-- `u64::from_le_bytes` -/
def u64OfBytes (bs : List UInt8) : UInt64 := UInt64.ofNat (ofBytes bs)

/-- `u64::to_le_bytes` -/
def bytesOfU64 (v : UInt64) : List UInt8 := toBytes 8 v.toNat

/-- A short word, zero padded, is read back from its first bytes. -/
theorem take_bytesOfU64 {bs : List UInt8} (h : bs.length ≤ 8) :
    (bytesOfU64 (u64OfBytes (bs ++ List.replicate (8 - bs.length) 0))).take bs.length = bs := by
  have hlt : ofBytes bs < 2 ^ 64 :=
    Nat.lt_of_lt_of_le (ofBytes_lt bs) (Nat.pow_le_pow_right (by decide : 0 < 256) h)
  unfold bytesOfU64 u64OfBytes
  rw [ofBytes_append_zeros, take_toBytes h, UInt64.toNat_ofNat_of_lt' hlt, toBytes_ofBytes]

/-- `u16::from_le_bytes` -/
def u16OfBytes (lo hi : UInt8) : UInt16 := UInt16.ofNat (ofBytes [lo, hi])

/-- `u16::to_le_bytes` -/
def bytesOfU16 (v : UInt16) : UInt8 × UInt8 := (UInt8.ofNat v.toNat, UInt8.ofNat (v.toNat / 256))

theorem u16OfBytes_bytesOfU16 (v : UInt16) : u16OfBytes (bytesOfU16 v).1 (bytesOfU16 v).2 = v := by
  have hv : v.toNat < 65536 := v.toNat_lt
  have hbytes : ofBytes [(bytesOfU16 v).1, (bytesOfU16 v).2] = v.toNat := by
    simp only [ofBytes, bytesOfU16, UInt8.toNat_ofNat']
    omega
  rw [u16OfBytes, hbytes, UInt16.ofNat_toNat]

theorem bytesOfU16_u16OfBytes (lo hi : UInt8) : bytesOfU16 (u16OfBytes lo hi) = (lo, hi) := by
  have hlo : lo.toNat < 256 := lo.toNat_lt
  have hhi : hi.toNat < 256 := hi.toNat_lt
  have hword : (u16OfBytes lo hi).toNat = lo.toNat + 256 * hi.toNat := by
    unfold u16OfBytes
    rw [UInt16.toNat_ofNat']
    simp only [ofBytes]
    omega
  unfold bytesOfU16
  rw [hword, Prod.mk.injEq, ← UInt8.toNat_inj, ← UInt8.toNat_inj, UInt8.toNat_ofNat', UInt8.toNat_ofNat']
  omega

/-- `u32::from_le_bytes`, the highest byte being zero. -/
def u24OfBytes (b0 b1 b2 : UInt8) : UInt32 := UInt32.ofNat (ofBytes [b0, b1, b2, 0])

/-- The lower three bytes of `u32::to_le_bytes`. -/
def bytesOfU24 (v : UInt32) : UInt8 × UInt8 × UInt8 :=
  (UInt8.ofNat v.toNat, UInt8.ofNat (v.toNat / 256), UInt8.ofNat (v.toNat / 65536))

theorem toNat_u24OfBytes (b0 b1 b2 : UInt8) :
    (u24OfBytes b0 b1 b2).toNat = b0.toNat + 256 * b1.toNat + 65536 * b2.toNat := by
  have h0 : b0.toNat < 256 := b0.toNat_lt
  have h1 : b1.toNat < 256 := b1.toNat_lt
  have h2 : b2.toNat < 256 := b2.toNat_lt
  unfold u24OfBytes
  rw [UInt32.toNat_ofNat']
  simp only [ofBytes, UInt8.toNat_zero]
  omega

/-- What does not fit into three bytes is lost. -/
theorem u24OfBytes_bytesOfU24 (v : UInt32) :
    u24OfBytes (bytesOfU24 v).1 (bytesOfU24 v).2.1 (bytesOfU24 v).2.2 = v % 0x1000000 := by
  have hv : v.toNat < 4294967296 := v.toNat_lt
  rw [← UInt32.toNat_inj, toNat_u24OfBytes, UInt32.toNat_mod]
  simp only [bytesOfU24, UInt8.toNat_ofNat']
  show _ = v.toNat % 16777216
  omega

theorem bytesOfU24_u24OfBytes (b0 b1 b2 : UInt8) : bytesOfU24 (u24OfBytes b0 b1 b2) = (b0, b1, b2) := by
  have h0 : b0.toNat < 256 := b0.toNat_lt
  have h1 : b1.toNat < 256 := b1.toNat_lt
  have h2 : b2.toNat < 256 := b2.toNat_lt
  unfold bytesOfU24
  rw [toNat_u24OfBytes, Prod.mk.injEq, Prod.mk.injEq, ← UInt8.toNat_inj, ← UInt8.toNat_inj, ← UInt8.toNat_inj,
    UInt8.toNat_ofNat', UInt8.toNat_ofNat', UInt8.toNat_ofNat']
  omega

end LittleEndian
