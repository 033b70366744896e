import FieldImage.Proofs.Bytes
import FieldImage.Proofs.Image.InPlace
import FieldImage.Proofs.Image.Overlay

/-! Masks and bytes as the numbers that they stand for: a mask picks one binary digit of a byte, and
the bytes of a number are its digits to the base 256. -/

namespace FieldImage

/-! ### One bit of a byte -/

namespace Address

variable {a : Address}

theorem toNat_mask (h : a.bit.toNat ≤ 7) : a.mask.toNat = 2 ^ a.bit.toNat := by
  have hamount : (a.bit.toUInt8 &&& 7).toNat = a.bit.toNat := by
    have hseven : (7 : UInt8).toNat = 2 ^ 3 - 1 := rfl
    rw [UInt8.toNat_and, UInt32.toNat_toUInt8, hseven, Nat.and_two_pow_sub_one_eq_mod]
    omega
  have hone : (1 : UInt8).toNat = 1 := rfl
  have hpow : 2 ^ a.bit.toNat < 2 ^ 8 := Nat.pow_lt_pow_right (by decide) (by omega)
  rw [mask, UInt8.toNat_shiftLeft, hamount, Nat.mod_eq_of_lt (by omega : a.bit.toNat < 8), hone,
    Nat.one_shiftLeft, Nat.mod_eq_of_lt hpow]

theorem testBit_mask (h : a.bit.toNat ≤ 7) (p : Nat) :
    a.mask.toNat.testBit p = decide (p = a.bit.toNat) := by
  rw [toNat_mask h, Nat.testBit_two_pow]
  exact decide_eq_decide.mpr eq_comm

theorem and_mask_ne_zero (h : a.bit.toNat ≤ 7) (b : UInt8) :
    (b &&& a.mask != 0) = b.toNat.testBit a.bit.toNat := by
  have hand : (b &&& a.mask).toNat = (b.toNat.testBit a.bit.toNat).toNat * 2 ^ a.bit.toNat := by
    rw [UInt8.toNat_and, toNat_mask h, Nat.and_two_pow]
  cases hbit : b.toNat.testBit a.bit.toNat with
  | false =>
    rw [hbit, Bool.toNat_false, Nat.zero_mul] at hand
    have hzero : b &&& a.mask = 0 := UInt8.toNat_inj.mp hand
    rw [hzero]
    rfl
  | true =>
    rw [hbit, Bool.toNat_true, Nat.one_mul] at hand
    have hpos : 0 < 2 ^ a.bit.toNat := Nat.two_pow_pos _
    apply bne_iff_ne.mpr
    intro hzero
    rw [hzero, UInt8.toNat_zero] at hand
    omega

theorem testBit_not (b : UInt8) {p : Nat} (hp : p < 8) :
    (~~~b).toNat.testBit p = !b.toNat.testBit p := by
  show (~~~b).toBitVec.getLsbD p = !b.toBitVec.getLsbD p
  rw [UInt8.toBitVec_not, BitVec.getLsbD_not, decide_eq_true hp, Bool.true_and]

variable (h : a.bit.toNat ≤ 7) (n : Nat) (b : UInt8)
include h

theorem or_mask_eq_overwrite : b ||| a.mask = (Value.bit true).overwrite a n b := by
  apply byte_eq_of_testBit
  intro p hp
  rw [testBit_overwrite _ _ _ _ hp, UInt8.toNat_or, Nat.testBit_or, testBit_mask h]
  by_cases hbit : p = a.bit.toNat <;> simp [hbit]

theorem and_not_mask_eq_overwrite : b &&& ~~~a.mask = (Value.bit false).overwrite a n b := by
  apply byte_eq_of_testBit
  intro p hp
  rw [testBit_overwrite _ _ _ _ hp, UInt8.toNat_and, Nat.testBit_and, testBit_not _ hp, testBit_mask h]
  by_cases hbit : p = a.bit.toNat <;> simp [hbit]

theorem xor_mask_eq_overwrite :
    b ^^^ a.mask = (Value.bit (!b.toNat.testBit a.bit.toNat)).overwrite a n b := by
  apply byte_eq_of_testBit
  intro p hp
  rw [testBit_overwrite _ _ _ _ hp, UInt8.toNat_xor, Nat.testBit_xor, testBit_mask h]
  by_cases hbit : p = a.bit.toNat <;> simp [hbit]

end Address

/-! ### Bits of a run of bytes -/

namespace Bytes

/-- A bit of some bytes; it is clear beyond them. -/
def hasBit (bs : List UInt8) (k p : Nat) : Bool := (bs[k]?.getD 0).toNat.testBit p

theorem hasBit_setBit {bs : List UInt8} {a : Address} (hin : a.offset < bs.length)
    (hbit : a.bit.toNat ≤ 7) (k p : Nat) :
    hasBit (bs.modify a.offset (· ||| a.mask)) k p = true ↔
      hasBit bs k p = true ∨ a.offset = k ∧ a.bit.toNat = p := by
  rw [hasBit, hasBit, List.getElem?_modify]
  by_cases hk : a.offset = k
  · subst hk
    rw [List.getElem?_eq_getElem hin]
    simp only [if_true, Option.map_eq_map, Option.map_some, Option.getD_some, UInt8.toNat_or,
      Nat.testBit_or, Address.testBit_mask hbit, Bool.or_eq_true, decide_eq_true_eq, true_and]
    exact or_congr_right eq_comm
  · simp only [hk, if_false, false_and, or_false, Option.map_eq_map, Option.map_id']

theorem hasBit_setBits {bs : List UInt8} {as : List Address}
    (h : ∀ a ∈ as, a.offset < bs.length ∧ a.bit.toNat ≤ 7) (k p : Nat) :
    hasBit (as.foldl (fun bs a => bs.modify a.offset (· ||| a.mask)) bs) k p = true ↔
      hasBit bs k p = true ∨ ∃ a ∈ as, a.offset = k ∧ a.bit.toNat = p := by
  induction as generalizing bs with
  | nil => simp
  | cons a as ih =>
    obtain ⟨⟨hin, hbit⟩, has⟩ := List.forall_mem_cons.mp h
    have hlength : (bs.modify a.offset (· ||| a.mask)).length = bs.length := List.length_modify ..
    rw [List.foldl_cons, ih (by rwa [hlength]), hasBit_setBit hin hbit, or_assoc,
      List.exists_mem_cons_iff]

/-- Bytes are known by their number and their bits. -/
theorem eq_of_hasBit {bs cs : List UInt8} (hlength : bs.length = cs.length)
    (h : ∀ k p, hasBit bs k p = hasBit cs k p) : bs = cs := by
  apply List.ext_getElem hlength
  intro k hk hk'
  apply byte_eq_of_testBit
  intro p _
  have hbit := h k p
  rwa [hasBit, hasBit, List.getElem?_eq_getElem hk, List.getElem?_eq_getElem hk'] at hbit

/-! ### Bytes of a number -/

theorem getElem?_ofNat {count k : Nat} (n : Nat) (h : k < count) :
    (ofNat count n)[k]? = some (UInt8.ofNat (n / 256 ^ k)) := by
  induction count generalizing n k with
  | zero => omega
  | succ count ih =>
    cases k with
    | zero => rw [ofNat, List.getElem?_cons_zero, Nat.pow_zero, Nat.div_one]
    | succ k =>
      rw [ofNat, List.getElem?_cons_succ, ih _ (by omega), Nat.div_div_eq_div_mul, Nat.pow_succ,
        Nat.mul_comm 256]

end Bytes

/-! ### Values from bytes -/

namespace DataType

theorem type_decode (a : Address) (bs : List UInt8) (type : DataType) :
    (type.decode a bs).type = type := by
  cases type <;> rfl

theorem pattern_decode {bs : List UInt8} {type : DataType} (htype : type ≠ .bit)
    (hlength : bs.length = type.width.toNat) (a : Address) :
    (type.decode a bs).pattern = Bytes.toNat bs := by
  have hlt := Bytes.toNat_lt bs
  rw [hlength] at hlt
  cases type with
  | bit => exact absurd rfl htype
  | byte =>
    obtain ⟨b, rfl⟩ := List.length_eq_one_iff.mp hlength
    rfl
  | word => exact UInt16.toNat_ofNat_of_lt' hlt
  | dword | int | real => exact UInt32.toNat_ofNat_of_lt' hlt

end DataType

end FieldImage
