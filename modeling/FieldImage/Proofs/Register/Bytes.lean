import FieldImage.Register.Table
import Mathlib.Data.Nat.Bitwise
import Mathlib.Data.UInt

/-! The bytes of a register table. Byte `k` of the run is the half of register `k / 2` that the
parity of `k` picks, so a byte that is put into a table is put into the run, and the run knows its
table. -/

namespace FieldImage.Register

theorem toNat_low (r : UInt16) : (low r).toNat = r.toNat % 256 := by
  simp [low]

theorem toNat_high (r : UInt16) : (high r).toNat = r.toNat / 256 := by
  have hr := r.toNat_lt
  have hshift : (r >>> 8).toNat = r.toNat / 256 := by
    rw [UInt16.toNat_shiftRight]
    exact Nat.shiftRight_eq_div_pow r.toNat 8
  rw [high, UInt16.toNat_toUInt8, hshift]
  omega

theorem toNat_ofHalves (a b : UInt8) : (ofHalves a b).toNat = a.toNat + 256 * b.toNat := by
  have ha := a.toNat_lt
  have hb := b.toNat_lt
  have hamount : (8 : UInt16).toNat % 16 = 8 := rfl
  have hshift : (b.toUInt16 <<< 8).toNat = b.toNat <<< 8 := by
    rw [UInt16.toNat_shiftLeft, UInt8.toNat_toUInt16, hamount, Nat.shiftLeft_eq]
    omega
  rw [ofHalves, UInt16.toNat_or, hshift, UInt8.toNat_toUInt16, Nat.or_comm,
    ← Nat.shiftLeft_add_eq_or_of_lt ha, Nat.shiftLeft_eq]
  omega

@[simp] theorem low_ofHalves (a b : UInt8) : low (ofHalves a b) = a := by
  apply UInt8.toNat_inj.mp
  have ha := a.toNat_lt
  rw [toNat_low, toNat_ofHalves]
  omega

@[simp] theorem high_ofHalves (a b : UInt8) : high (ofHalves a b) = b := by
  apply UInt8.toNat_inj.mp
  have ha := a.toNat_lt
  rw [toNat_high, toNat_ofHalves]
  omega

@[simp] theorem ofHalves_low_high (r : UInt16) : ofHalves (low r) (high r) = r := by
  apply UInt16.toNat_inj.mp
  rw [toNat_ofHalves, toNat_low, toNat_high]
  omega

theorem half_setHalf (r : UInt16) (k j : Nat) (b : UInt8) :
    half (setHalf r k b) j = if j % 2 = k % 2 then b else half r j := by
  rcases Nat.mod_two_eq_zero_or_one k with hk | hk <;>
    rcases Nat.mod_two_eq_zero_or_one j with hj | hj <;> simp [half, setHalf, hk, hj]

@[simp] theorem toBytes_nil : toBytes [] = [] := rfl

@[simp] theorem toBytes_cons (r : UInt16) (t : Table) :
    toBytes (r :: t) = low r :: high r :: toBytes t := rfl

@[simp] theorem toBytes_append (t u : Table) : toBytes (t ++ u) = toBytes t ++ toBytes u :=
  List.flatMap_append

@[simp] theorem length_toBytes (t : Table) : (toBytes t).length = 2 * t.length := by
  induction t with
  | nil => rfl
  | cons r t ih =>
    rw [toBytes_cons, List.length_cons, List.length_cons, List.length_cons, ih]
    omega

theorem getElem?_toBytes (t : Table) (k : Nat) : (toBytes t)[k]? = t[k / 2]?.map (half · k) := by
  induction t generalizing k with
  | nil => rfl
  | cons r t ih =>
    match k with
    | 0 => rfl
    | 1 => rfl
    | k + 2 =>
      have hquotient : (k + 2) / 2 = k / 2 + 1 := by omega
      have hparity (r : UInt16) : half r (k + 2) = half r k := by
        simp only [half, Nat.add_mod_right]
      rw [toBytes_cons, List.getElem?_cons_succ, List.getElem?_cons_succ, ih, hquotient,
        List.getElem?_cons_succ]
      simp only [hparity]

theorem toBytes_take (t : Table) (n : Nat) : toBytes (t.take n) = (toBytes t).take (2 * n) := by
  apply List.ext_getElem?
  intro k
  rw [getElem?_toBytes, List.getElem?_take, List.getElem?_take, getElem?_toBytes]
  by_cases h : k < 2 * n
  · rw [if_pos h, if_pos (by omega)]
  · rw [if_neg h, if_neg (by omega)]
    rfl

theorem toBytes_drop (t : Table) (n : Nat) : toBytes (t.drop n) = (toBytes t).drop (2 * n) := by
  apply List.ext_getElem?
  intro k
  have hquotient : (2 * n + k) / 2 = n + k / 2 := by omega
  have hparity (r : UInt16) : half r (2 * n + k) = half r k := by
    simp only [half, Nat.mul_add_mod]
  rw [getElem?_toBytes, List.getElem?_drop, List.getElem?_drop, getElem?_toBytes, hquotient]
  simp only [hparity]

theorem ofBytes_toBytes (t : Table) : ofBytes (toBytes t) = t := by
  induction t with
  | nil => rfl
  | cons r t ih => rw [toBytes_cons, ofBytes, ih, ofHalves_low_high]

/-- A run of even length is the bytes of a table. -/
theorem toBytes_ofBytes {bs : List UInt8} (h : bs.length % 2 = 0) : toBytes (ofBytes bs) = bs := by
  fun_induction ofBytes bs with
  | case1 a b bs ih =>
    have hrest : bs.length % 2 = 0 := by
      simp only [List.length_cons] at h
      omega
    rw [toBytes_cons, low_ofHalves, high_ofHalves, ih hrest]
  | case2 bs hshort =>
    match bs with
    | [] => rfl
    | [_] => simp at h
    | a :: b :: bs => exact absurd rfl (hshort a b bs)

theorem toBytes_inj {t u : Table} : toBytes t = toBytes u ↔ t = u := by
  constructor
  · intro h
    rw [← ofBytes_toBytes t, h, ofBytes_toBytes]
  · rintro rfl
    rfl

theorem length_ofBytes {bs : List UInt8} (h : bs.length % 2 = 0) :
    2 * (ofBytes bs).length = bs.length := by
  rw [← length_toBytes, toBytes_ofBytes h]

theorem toBytes_setByte (t : Table) (k : Nat) (b : UInt8) :
    toBytes (setByte t k b) = (toBytes t).set k b := by
  apply List.ext_getElem?
  intro j
  rw [getElem?_toBytes, setByte, List.getElem?_modify, List.getElem?_set, getElem?_toBytes,
    length_toBytes]
  by_cases hregister : k / 2 = j / 2
  · by_cases hj : k = j
    · subst hj
      by_cases hlt : k < 2 * t.length
      · have hsome : t[k / 2]? = some t[k / 2] := List.getElem?_eq_getElem (by omega)
        simp [hsome, half_setHalf, hlt]
      · have hnone : t[k / 2]? = none := List.getElem?_eq_none (by omega)
        simp [hnone, hlt]
    · have hparity : ¬(j % 2 = k % 2) := by omega
      simp [hregister, hj, half_setHalf, hparity, Function.comp_def]
  · have hj : k ≠ j := by
      rintro rfl
      exact hregister rfl
    simp [hregister, hj]

end FieldImage.Register
