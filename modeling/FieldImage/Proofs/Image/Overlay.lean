import FieldImage.Address
import FieldImage.Value
import Mathlib.Algebra.BigOperators.Group.Finset.Basic
import Mathlib.Data.Nat.Bitwise

/-! Values in bytes. A value at an address is a number, the lowest byte first, or one binary digit
of one byte. Written over other bytes it leaves its own there, and is read again. -/

namespace FieldImage

/-- Bytes by area and place. -/
abbrev ByteMap : Type := Area → Nat → Option UInt8

namespace ByteMap

/-- The number in a byte, zero where there is none. -/
def digit (m : ByteMap) (area : Area) (k : Nat) : Nat := ((m area k).getD 0).toNat

end ByteMap

namespace Value

/-- The number that a value is written as; for an INT or a REAL the one with the same 32 bits. -/
def pattern : Value → Nat
  | bit b => b.toNat
  | byte b => b.toNat
  | word w => w.toNat
  | dword w => w.toNat
  | int i => i.toUInt32.toNat
  | real r => r.bits.toNat

/-- What a value makes of the byte at place `n` of its window: one binary digit is the value, or the
byte is digit `n` to the base 256. -/
def overwrite (v : Value) (a : Address) (n : Nat) (old : UInt8) : UInt8 :=
  match v with
  | bit b => UInt8.ofNat (Nat.ofBits fun p : Fin 8 =>
      if p.val = a.bit.toNat then b else old.toNat.testBit p)
  | v => UInt8.ofNat (v.pattern / 256 ^ n)

end Value

namespace ByteMap

/-- The bytes after a value is written. -/
def overlay (m : ByteMap) (a : Address) (v : Value) : ByteMap := fun area k =>
  if area = a.area ∧ a.offset ≤ k ∧ k < a.offset + v.type.width.toNat then
    some (v.overwrite a (k - a.offset) ((m area k).getD 0))
  else m area k

/-- The number that the bytes have at an address as a type. -/
def number (m : ByteMap) (a : Address) : DataType → Nat
  | .bit => ((m.digit a.area a.offset).testBit a.bit.toNat).toNat
  | type => ∑ n ∈ Finset.range type.width.toNat, m.digit a.area (a.offset + n) * 256 ^ n

/-- The bytes have the value at the address. -/
def Shows (m : ByteMap) (a : Address) (v : Value) : Prop := v.pattern = m.number a v.type

end ByteMap

namespace Value

variable {v u : Value}

theorem pattern_lt (v : Value) : v.pattern < 256 ^ v.type.width.toNat := by
  cases v with
  | bit b => cases b <;> decide
  | byte b => exact b.toNat_lt
  | word w => exact w.toNat_lt
  | dword w => exact w.toNat_lt
  | int i => exact i.toUInt32.toNat_lt
  | real r => exact r.bits.toNat_lt

/-- A value is known from its type and its number. -/
theorem pattern_inj (htype : v.type = u.type) (h : v.pattern = u.pattern) : v = u := by
  cases v <;> cases u <;> cases htype
  case bit.bit.refl b c =>
    cases b <;> cases c <;> first | rfl | cases h
  case byte.byte.refl b c => exact congrArg byte (UInt8.toNat_inj.mp h)
  case word.word.refl w x => exact congrArg word (UInt16.toNat_inj.mp h)
  case dword.dword.refl w x => exact congrArg dword (UInt32.toNat_inj.mp h)
  case int.int.refl i n => exact congrArg (fun bits => int ⟨bits⟩) (UInt32.toNat_inj.mp h)
  case real.real.refl r s => exact congrArg (fun bits => real ⟨bits⟩) (UInt32.toNat_inj.mp h)

theorem eq_bit_or_type_ne (v : Value) : (∃ b, v = bit b) ∨ v.type ≠ .bit := by
  cases v with
  | bit b => exact .inl ⟨b, rfl⟩
  | byte | word | dword | int | real => exact .inr nofun

theorem overwrite_of_ne_bit (h : v.type ≠ .bit) (a : Address) (n : Nat) (old : UInt8) :
    v.overwrite a n old = UInt8.ofNat (v.pattern / 256 ^ n) := by
  cases v with
  | bit b => exact absurd rfl h
  | byte | word | dword | int | real => rfl

end Value

/-- Two bytes with the same binary digits are one. -/
theorem byte_eq_of_testBit {b c : UInt8} (h : ∀ p < 8, b.toNat.testBit p = c.toNat.testBit p) :
    b = c := by
  apply UInt8.toNat_inj.mp
  apply Nat.eq_of_testBit_eq
  intro p
  by_cases hp : p < 8
  · exact h p hp
  · have hle : 2 ^ 8 ≤ 2 ^ p := Nat.pow_le_pow_right (by decide) (by omega)
    have hb := b.toNat_lt
    have hc := c.toNat_lt
    rw [Nat.testBit_lt_two_pow (by omega), Nat.testBit_lt_two_pow (by omega)]

theorem testBit_overwrite (b : Bool) (a : Address) (n : Nat) (old : UInt8) {p : Nat} (hp : p < 8) :
    ((Value.bit b).overwrite a n old).toNat.testBit p =
      if p = a.bit.toNat then b else old.toNat.testBit p := by
  have hlt : Nat.ofBits (fun p : Fin 8 =>
      if p.val = a.bit.toNat then b else old.toNat.testBit p) < 2 ^ 8 := Nat.ofBits_lt_two_pow _
  rw [Value.overwrite, UInt8.toNat_ofNat_of_lt' hlt, Nat.testBit_ofBits_lt _ _ hp]

theorem sum_digits (n count : Nat) :
    ∑ k ∈ Finset.range count, n / 256 ^ k % 256 * 256 ^ k = n % 256 ^ count := by
  induction count with
  | zero => rw [Finset.range_zero, Finset.sum_empty, Nat.pow_zero, Nat.mod_one]
  | succ count ih =>
    rw [Finset.sum_range_succ, ih, Nat.pow_succ, Nat.mod_mul]
    congr 1
    exact Nat.mul_comm _ _

namespace ByteMap

variable {m : ByteMap} {a : Address} {v u : Value}

theorem number_of_ne_bit {type : DataType} (h : type ≠ .bit) : m.number a type =
    ∑ n ∈ Finset.range type.width.toNat, m.digit a.area (a.offset + n) * 256 ^ n := by
  cases type with
  | bit => exact absurd rfl h
  | byte | word | dword | int | real => rfl

theorem Shows.unique (hv : m.Shows a v) (hu : m.Shows a u) (htype : v.type = u.type) : v = u := by
  apply Value.pattern_inj htype
  rw [Shows] at hv hu
  rw [hv, hu, htype]

theorem digit_overlay {n : Nat} (hn : n < v.type.width.toNat) :
    (m.overlay a v).digit a.area (a.offset + n) =
      (v.overwrite a n ((m a.area (a.offset + n)).getD 0)).toNat := by
  have hin : a.area = a.area ∧ a.offset ≤ a.offset + n ∧
      a.offset + n < a.offset + v.type.width.toNat := ⟨rfl, by omega, by omega⟩
  rw [digit, overlay, if_pos hin, Option.getD_some, Nat.add_sub_cancel_left]

/-- What is written is there. -/
theorem shows_overlay (hbit : a.bit.toNat ≤ 7) : (m.overlay a v).Shows a v := by
  rw [Shows]
  obtain ⟨b, rfl⟩ | hv := v.eq_bit_or_type_ne
  · have hdigit := digit_overlay (m := m) (a := a) (v := .bit b) (n := 0) Nat.one_pos
    rw [Nat.add_zero] at hdigit
    show b.toNat = ((digit _ _ _).testBit _).toNat
    rw [hdigit, testBit_overwrite b a 0 _ (by omega), if_pos rfl]
  · rw [number_of_ne_bit hv]
    calc v.pattern = v.pattern % 256 ^ v.type.width.toNat :=
          (Nat.mod_eq_of_lt v.pattern_lt).symm
      _ = ∑ n ∈ Finset.range v.type.width.toNat, v.pattern / 256 ^ n % 256 * 256 ^ n :=
          (sum_digits _ _).symm
      _ = _ := by
          apply Finset.sum_congr rfl
          intro n hn
          rw [digit_overlay (Finset.mem_range.mp hn), Value.overwrite_of_ne_bit hv]
          rfl

/-- A bit that is set stays so when another is set, or itself once more. -/
theorem Shows.overlay_set (h : m.Shows a (.bit true)) (other : Address) :
    (m.overlay other (.bit true)).Shows a (.bit true) := by
  have hset : (m.digit a.area a.offset).testBit a.bit.toNat = true := by
    rw [Shows] at h
    exact (Bool.toNat_eq_one.mp h.symm)
  have hbit : a.bit.toNat < 8 := by
    by_contra hnot
    have hle : 2 ^ 8 ≤ 2 ^ a.bit.toNat := Nat.pow_le_pow_right (by decide) (by omega)
    have hlt : m.digit a.area a.offset < 2 ^ 8 := UInt8.toNat_lt _
    rw [Nat.testBit_lt_two_pow (by omega)] at hset
    cases hset
  show 1 = ((digit _ _ _).testBit _).toNat
  rw [digit, overlay]
  split
  · rw [Option.getD_some, testBit_overwrite _ _ _ _ hbit]
    split
    · rfl
    · exact congrArg Bool.toNat hset.symm
  · exact congrArg Bool.toNat hset.symm

end ByteMap

end FieldImage
