import FieldImage.Bytes
import Mathlib.Algebra.Group.Nat.Defs

/-! Words survive as bytes: a word is read back from its bytes, and bytes from their word. -/

namespace FieldImage.Bytes

@[simp] theorem length_ofNat (count n : Nat) : (ofNat count n).length = count := by
  induction count generalizing n with
  | zero => rfl
  | succ count ih => simp only [ofNat, List.length_cons, ih]

theorem toNat_ofNat (count n : Nat) : toNat (ofNat count n) = n % 256 ^ count := by
  induction count generalizing n with
  | zero => simp only [ofNat, toNat, Nat.pow_zero, Nat.mod_one]
  | succ count ih =>
    have hbyte : (UInt8.ofNat n).toNat = n % 256 := rfl
    rw [ofNat, toNat, ih, hbyte, Nat.pow_succ, Nat.mul_comm (256 ^ count) 256, Nat.mod_mul]

theorem toNat_lt (bs : List UInt8) : toNat bs < 256 ^ bs.length := by
  induction bs with
  | nil => decide
  | cons b bs ih =>
    have hb := b.toNat_lt
    rw [toNat, List.length_cons, Nat.pow_succ]
    omega

theorem ofNat_toNat (bs : List UInt8) : ofNat bs.length (toNat bs) = bs := by
  induction bs with
  | nil => rfl
  | cons b bs ih =>
    have hb := b.toNat_lt
    have hdiv : (b.toNat + 256 * toNat bs) / 256 = toNat bs := by omega
    have hmod : (b.toNat + 256 * toNat bs) % 256 = b.toNat := by omega
    rw [toNat, List.length_cons, ofNat, hdiv, ih, ← UInt8.ofNat_mod_size]
    show UInt8.ofNat ((b.toNat + 256 * toNat bs) % 256) :: bs = b :: bs
    rw [hmod, UInt8.ofNat_toNat]

@[simp] theorem length_ofDWord (w : UInt32) : (ofDWord w).length = 4 := length_ofNat 4 w.toNat

@[simp] theorem toDWord_ofDWord (w : UInt32) : toDWord (ofDWord w) = w := by
  have hlt : w.toNat < 256 ^ 4 := w.toNat_lt
  rw [toDWord, ofDWord, toNat_ofNat, Nat.mod_eq_of_lt hlt]
  exact UInt32.ofNat_toNat

theorem ofDWord_toDWord {bs : List UInt8} (h : bs.length = 4) : ofDWord (toDWord bs) = bs := by
  have hlt : toNat bs < 2 ^ 32 := by
    have hbytes := toNat_lt bs
    rwa [h] at hbytes
  rw [ofDWord, toDWord, UInt32.toNat_ofNat_of_lt' hlt, ← h, ofNat_toNat]

@[simp] theorem length_ofInt (i : Int32) : (ofInt i).length = 4 := length_ofDWord i.toUInt32

end FieldImage.Bytes
