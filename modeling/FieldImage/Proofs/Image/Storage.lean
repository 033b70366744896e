import FieldImage.Proofs.Fault
import FieldImage.Proofs.Image.Calls

/-! Images that are known by the bytes that their areas are stored in. A window is read from these
bytes, and bytes that are put replace the ones in their place. -/

namespace FieldImage

open ByteImage

/-- An image with a run of bytes for each area. Changing a byte changes it in its run, and leaves
the geometry of the image and its rules alone. -/
class StoredImage (ι : Type) [ByteImage ι] where
  storage : ι → Area → List UInt8
  byte?_eq (i : ι) (area : Area) (k : Nat) : byte? i area k = (storage i area)[k]?
  storage_setByte (i : ι) (area : Area) (k : Nat) (b : UInt8) (other : Area) :
    storage (setByte i area k b) other =
      if other = area then (storage i area).set k b else storage i other
  byteCount_setByte (i : ι) (area : Area) (k : Nat) (b : UInt8) :
    byteCount (setByte i area k b) = byteCount i
  checkArea_setByte (i : ι) (area : Area) (k : Nat) (b : UInt8) (a : Address) :
    checkArea (setByte i area k b) a = checkArea i a
  checkWritable_setByte (i : ι) (area : Area) (k : Nat) (b : UInt8) (a : Address) :
    checkWritable (setByte i area k b) a = checkWritable i a

namespace StoredImage

variable {ι : Type} [ByteImage ι] [StoredImage ι]

theorem byte?_eq_some {i : ι} {area : Area} {k : Nat} (h : k < (storage i area).length) :
    byte? i area k = some ((byte? i area k).getD 0) := by
  rw [byte?_eq, List.getElem?_eq_getElem h, Option.getD_some]

theorem length_storage_setByte (i : ι) (area : Area) (k : Nat) (b : UInt8) (other : Area) :
    (storage (setByte i area k b) other).length = (storage i other).length := by
  rw [storage_setByte]
  split
  · rename_i hother
    rw [List.length_set, hother]
  · rfl

theorem byte?_setByte {i : ι} {area : Area} {k : Nat} (b : UInt8) (h : k < (storage i area).length)
    (other : Area) (p : Nat) : byte? (setByte i area k b) other p =
      if other = area ∧ p = k then some b else byte? i other p := by
  rw [byte?_eq, byte?_eq, storage_setByte]
  by_cases hother : other = area
  · subst hother
    rw [if_pos rfl, List.getElem?_set]
    by_cases hp : k = p
    · subst hp
      rw [if_pos rfl, if_pos h, if_pos ⟨rfl, rfl⟩]
    · rw [if_neg hp, if_neg fun hand => hp hand.2.symm]
  · rw [if_neg hother, if_neg fun hand => hother hand.1]

theorem window_eq (i : ι) (area : Area) (k n : Nat) :
    window i area k n = (List.range' k n).map fun p => (storage i area)[p]?.getD 0 := by
  induction n generalizing k with
  | zero => rfl
  | succ n ih => rw [window, ih, byte?_eq, List.range'_succ, List.map_cons]

theorem storage_updateByte (i : ι) (a : Address) (f : UInt8 → UInt8) (other : Area) :
    storage (updateByte i a f) other =
      if other = a.area then (storage i a.area).modify a.offset f else storage i other := by
  rw [updateByte, storage_setByte, byte?_eq]
  split
  · apply List.ext_getElem?
    intro p
    rw [List.getElem?_set, List.getElem?_modify]
    by_cases hp : a.offset = p
    · subst hp
      by_cases hlt : a.offset < (storage i a.area).length
      · simp [hlt]
      · simp [hlt]
    · simp [hp]
  · rfl

theorem take_set_self {bytes : List UInt8} {k : Nat} {b : UInt8} (h : k < bytes.length) :
    (bytes.set k b).take (k + 1) = bytes.take k ++ [b] := by
  have hlength : (bytes.take k).length = k := List.length_take_of_le (by omega)
  rw [List.take_set, List.take_add_one, List.getElem?_eq_getElem h,
    List.set_append_right _ _ (by omega), hlength, Nat.sub_self]
  rfl

theorem storage_putWindow (i : ι) (area : Area) {k : Nat} {bs : List UInt8}
    (h : k + bs.length ≤ (storage i area).length) (other : Area) :
    storage (putWindow i area k bs) other =
      if other = area then
        (storage i area).take k ++ bs ++ (storage i area).drop (k + bs.length)
      else storage i other := by
  induction bs generalizing i k with
  | nil =>
    split
    · rename_i hother
      rw [hother, putWindow, List.append_nil, List.length_nil, Nat.add_zero,
        List.take_append_drop]
    · rfl
  | cons b bs ih =>
    rw [List.length_cons] at h
    have hself : storage (setByte i area k b) area = (storage i area).set k b := by
      rw [storage_setByte, if_pos rfl]
    have hroom : (k + 1) + bs.length ≤ (storage (setByte i area k b) area).length := by
      rw [hself, List.length_set]
      omega
    rw [putWindow, ih _ hroom, hself]
    split
    · have hplace : k + 1 + bs.length = k + (b :: bs).length := by
        rw [List.length_cons]
        omega
      rw [List.drop_set_of_lt (by omega), take_set_self (by omega), hplace]
      simp only [List.append_assoc, List.cons_append, List.nil_append]
    · rename_i hother
      rw [storage_setByte, if_neg hother]

end StoredImage

end FieldImage
