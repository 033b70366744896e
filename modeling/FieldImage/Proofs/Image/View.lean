import FieldImage.Image.View
import FieldImage.Proofs.Image.Storage
import FieldImage.Proofs.Server.Execution

/-! Commands change the bytes of a view, never its size. A view is stored in the bytes of its areas,
as the image that is copied out of it is. -/

namespace FieldImage.ImageView

open ByteImage

@[simp] theorem areaSize_setByte (v : ImageView) (area : Area) (offset : Nat) (b : UInt8) :
    (setByte v area offset b).areaSize = v.areaSize := by
  show (v.set area offset b).areaSize = v.areaSize
  rw [set]
  split <;> rfl

@[simp] theorem areaSize_putWindow (v : ImageView) (area : Area) (offset : Nat) (bs : List UInt8) :
    (putWindow v area offset bs).areaSize = v.areaSize := by
  induction bs generalizing v offset with
  | nil => rfl
  | cons b bs ih => rw [putWindow, ih, areaSize_setByte]

theorem areaSize_changeBit {v w : ImageView} {a : Address} {f : UInt8 → UInt8}
    (h : changeBit v a f = .ok w) : w.areaSize = v.areaSize := by
  obtain ⟨-, -, h⟩ := bind_eq_ok.mp h
  cases h
  rw [updateByte, areaSize_setByte]

theorem areaSize_perform (v : ImageView) (e : Edit) : (e.perform v).areaSize = v.areaSize :=
  e.perform_keeps (P := fun w : ImageView => w.areaSize = v.areaSize) rfl fun w area k b hw =>
    (areaSize_setByte w area k b).trans hw

theorem areaSize_setBits {v w : ImageView} {as : List Address} (h : setBits v as = .ok w) :
    w.areaSize = v.areaSize := by
  obtain ⟨-, -, h⟩ := bind_eq_ok.mp h
  cases h
  exact areaSize_perform v (.change as fun a b => b ||| a.mask)

theorem areaSize_writePoint {v w : ImageView} {a : Address} {bytes : List UInt8}
    (h : writePoint v a bytes = .ok w) : w.areaSize = v.areaSize := by
  obtain ⟨-, -, h⟩ := bind_eq_ok.mp h
  cases h
  rw [areaSize_putWindow]

/-- A command that is carried out leaves a view of the same size. -/
theorem areaSize_apply {v w : ImageView} {c : Command} (h : c.apply v = .ok w) :
    w.areaSize = v.areaSize := by
  cases c with
  | exit | ping =>
    cases h
    rfl
  | setBit | resetBit | invertBit => exact areaSize_changeBit h
  | setBits => exact areaSize_setBits h
  | _ => exact areaSize_writePoint h

theorem areaSize_run (v : ImageView) (c : WriteCall) :
    ((Call.write c).run v).2.areaSize = v.areaSize := by
  rw [Call.run_write]
  cases c.toWrite.check v with
  | error f => rfl
  | ok u => exact areaSize_perform v c.toWrite.edit

theorem areaSize_poll (s : Server) (mailbox : Mailbox) (v : ImageView) (locks : Server.Locks) :
    (s.poll mailbox v locks).data.areaSize = v.areaSize := by
  have hfinish (s : Server) (mailbox : Mailbox) (w : ImageView) (free : Bool) (command code : Int32)
      (outcome : Except Fault PollOutcome) :
      (s.finish mailbox w free command code outcome).data = w := by
    cases free <;> rfl
  simp only [Server.poll]
  split
  · rw [hfinish]
  · split
    · split
      · rfl
      · rfl
      · rename_i command payload hincoming
        rw [Server.serve, hfinish]
        cases hr : s.dispatch locks.data v command payload with
        | error f => rfl
        | ok e =>
          obtain ⟨c, -, happly, -⟩ := Server.dispatch_eq_ok hr
          exact areaSize_apply happly
    · rfl

/-! ### Storage -/

theorem place_lt (v : ImageView) (area : Area) {k : Nat} (h : k < v.areaSize) :
    v.place area k < 3 * v.areaSize := by
  cases area <;> simp only [place, Area.index] <;> omega

theorem place_inj (v : ImageView) {area other : Area} {k p : Nat} (hk : k < v.areaSize)
    (hp : p < v.areaSize) : v.place area k = v.place other p ↔ area = other ∧ k = p := by
  cases area <;> cases other <;> simp [place, Area.index] <;> omega

theorem getElem?_area (v : ImageView) (area : Area) (p : Nat) :
    (v.area area).toList[p]? =
      if p < v.areaSize then v.bytes[v.place area p]? else none := by
  split
  · rename_i hp
    have hplace := v.place_lt area hp
    simp [ImageView.area, hp, hplace]
  · rename_i hp
    simp [hp]

theorem area_set (v : ImageView) (area : Area) (k : Nat) (b : UInt8) (other : Area) :
    ((v.set area k b).area other).toList =
      if other = area then (v.area area).toList.set k b else (v.area other).toList := by
  rw [set]
  by_cases hk : k < v.areaSize
  · have hplace := v.place_lt area hk
    let bytes := v.bytes.setIfInBounds (v.place area k) b
    have hafter (p : Nat) : ((ImageView.mk v.areaSize bytes).area other).toList[p]? =
        if p < v.areaSize then bytes[v.place other p]? else none := getElem?_area _ other p
    -- all areas are in one array, so a place of another area has to be told from the changed one
    rw [if_pos hk]
    apply List.ext_getElem?
    intro p
    rw [hafter]
    by_cases hp : p < v.areaSize
    · have hinj : v.place area k = v.place other p ↔ area = other ∧ k = p := v.place_inj hk hp
      rw [if_pos hp, Vector.getElem?_setIfInBounds]
      by_cases hother : other = area
      · rw [if_pos hother, List.getElem?_set, getElem?_area, if_pos hp]
        subst hother
        simp only [hinj, true_and, Vector.length_toList, hk, hplace, if_true]
      · have hapart : v.place area k ≠ v.place other p := fun heq =>
          hother (hinj.mp heq).1.symm
        rw [if_neg hother, getElem?_area, if_pos hp, if_neg hapart]
    · rw [if_neg hp]
      split
      · rw [List.getElem?_eq_none (by simp; omega)]
      · rw [List.getElem?_eq_none (by simp; omega)]
  · rw [if_neg hk]
    split
    · rename_i hother
      rw [hother, List.set_eq_of_length_le (by simp; omega)]
    · rfl

instance : StoredImage ImageView where
  storage v area := (v.area area).toList
  byte?_eq v area k := (getElem?_area v area k).symm
  storage_setByte := area_set
  byteCount_setByte v area k b := congrArg UInt32.ofNat (areaSize_setByte v area k b)
  checkArea_setByte _ _ _ _ _ := rfl
  checkWritable_setByte _ _ _ _ _ := rfl

end FieldImage.ImageView
