import FieldImage.Proofs.Image.Agreement
import FieldImage.Proofs.Image.Owned
import FieldImage.Proofs.Register.Bytes
import FieldImage.Register.Set

/-! A register set as an image of the bytes of its tables. -/

namespace FieldImage.RegisterSet

open ByteImage Register

/-- The bytes of the table behind an area, none for an area without a table. -/
def areaStorage (s : RegisterSet) : Area → List UInt8
  | .input => toBytes s.input.toList
  | .output => toBytes s.holding.toList
  | .memory => []

/-- A table with one half replaced, as `set` makes it. -/
theorem toList_put {n : Nat} (t : Vector UInt16 n) (k : Nat) (b : UInt8) :
    (match t[k / 2]? with
      | some r => t.setIfInBounds (k / 2) (setHalf r k b)
      | none => t).toList = Register.setByte t.toList k b := by
  apply List.ext_getElem?
  intro p
  rw [Register.setByte, List.getElem?_modify]
  by_cases hk : k / 2 < n
  · rw [Vector.getElem?_eq_getElem hk]
    by_cases hp : k / 2 = p
    · subst hp
      simp [hk]
    · simp [hp]
  · rw [Vector.getElem?_eq_none (Nat.le_of_not_lt hk)]
    by_cases hp : k / 2 = p
    · subst hp
      simp [hk]
    · simp [hp]

theorem areaStorage_set (s : RegisterSet) (area : Area) (k : Nat) (b : UInt8) (other : Area) :
    (s.set area k b).areaStorage other =
      if other = area then (s.areaStorage area).set k b else s.areaStorage other := by
  have hput {n : Nat} (t : Vector UInt16 n) := congrArg toBytes (toList_put t k b)
  simp only [toBytes_setByte] at hput
  cases area with
  | input =>
    cases other with
    | input => exact hput s.input
    | output | memory => rfl
  | output =>
    cases other with
    | output => exact hput s.holding
    | input | memory => rfl
  | memory =>
    cases other with
    | input | output | memory => rfl

instance : StoredImage RegisterSet where
  storage := areaStorage
  byte?_eq s area k := by
    cases area with
    | input | output =>
      rw [areaStorage, getElem?_toBytes, Vector.getElem?_toList]
      rfl
    | memory => rfl
  storage_setByte := areaStorage_set
  byteCount_setByte s area k b := by cases area <;> rfl
  checkArea_setByte _ _ _ _ _ := rfl
  checkWritable_setByte _ _ _ _ _ := rfl

theorem eq_of_areaStorage {s t : RegisterSet}
    (h : ∀ area, s.areaStorage area = t.areaStorage area) : s = t := by
  have hinput : s.input.toList = t.input.toList := toBytes_inj.mp (h .input)
  have hholding : s.holding.toList = t.holding.toList := toBytes_inj.mp (h .output)
  have hcount : s.count = t.count := by
    have hlength := congrArg List.length hinput
    rwa [Vector.length_toList, Vector.length_toList] at hlength
  obtain ⟨n, holding, input⟩ := s
  obtain ⟨m, holding', input'⟩ := t
  obtain rfl : n = m := hcount
  exact congrArg₂ (RegisterSet.mk n) (Vector.toList_inj.mp hholding)
    (Vector.toList_inj.mp hinput)

theorem checkArea_field {a : Address} (ha : a.area ≠ .memory) : Register.checkArea a = .ok () := by
  rw [Register.checkArea, if_neg ha]
  rfl

theorem checkArea_all (a : Address) : a.checkArea Area.all = .ok () := by
  have ha : a.area ∈ Area.all := by
    cases a.area <;> decide
  rw [Address.checkArea, if_pos ha]
  rfl

end FieldImage.RegisterSet
