import FieldImage.Image.Owned
import FieldImage.Proofs.Image.Storage

/-! An image that owns its bytes is stored in them, and known by them. -/

namespace FieldImage.Image

open ByteImage

theorem area_set (i : Image) (area : Area) (k : Nat) (b : UInt8) (other : Area) :
    ((i.set area k b).area other).toList =
      if other = area then (i.area area).toList.set k b else (i.area other).toList := by
  cases area <;> cases other <;> simp [set, Image.area]

instance : StoredImage Image where
  storage i area := (i.area area).toList
  byte?_eq i area k := (Vector.getElem?_toList).symm
  storage_setByte := area_set
  byteCount_setByte i area k b := by cases area <;> rfl
  checkArea_setByte _ _ _ _ _ := rfl
  checkWritable_setByte _ _ _ _ _ := rfl

theorem eq_of_areas {i j : Image} (h : ∀ area, (i.area area).toList = (j.area area).toList) :
    i = j := by
  have hsize : i.areaSize = j.areaSize := by
    have hlength := congrArg List.length (h .input)
    rwa [Vector.length_toList, Vector.length_toList] at hlength
  obtain ⟨n, input, output, memory⟩ := i
  obtain ⟨m, input', output', memory'⟩ := j
  obtain rfl : n = m := hsize
  obtain rfl : input = input' := Vector.toList_inj.mp (h .input)
  obtain rfl : output = output' := Vector.toList_inj.mp (h .output)
  obtain rfl : memory = memory' := Vector.toList_inj.mp (h .memory)
  rfl

end FieldImage.Image
