import FieldImage.Proofs.Image.Storage

/-! Two images that agree on some areas: they hold the same bytes there and check addresses there
alike. Calls on these areas answer the same from both, and a write that both allow leaves them in
agreement. -/

namespace FieldImage

open ByteImage StoredImage

variable {ι κ : Type} [ByteImage ι] [ByteImage κ] [StoredImage ι] [StoredImage κ]

structure Agree (on : Area → Prop) (i : ι) (j : κ) : Prop where
  byteCount : byteCount i = byteCount j
  checkArea : ∀ a : Address, on a.area → checkArea i a = checkArea j a
  storage : ∀ area, on area → storage i area = storage j area

/-- An address that both images allow to be written, or both refuse. -/
def WrittenAlike (on : Area → Prop) (i : ι) (j : κ) (a : Address) : Prop :=
  on a.area ∧ checkWritable i a = checkWritable j a

namespace Agree

variable {on : Area → Prop} {i : ι} {j : κ}

theorem byte?_eq (h : Agree on i j) {area : Area} (harea : on area) (k : Nat) :
    byte? i area k = byte? j area k := by
  rw [StoredImage.byte?_eq, StoredImage.byte?_eq, h.storage area harea]

theorem setByte (h : Agree on i j) {area : Area} (harea : on area) (k : Nat) (b : UInt8) :
    Agree on (ByteImage.setByte i area k b) (ByteImage.setByte j area k b) where
  byteCount := by rw [byteCount_setByte, byteCount_setByte, h.byteCount]
  checkArea a ha := by rw [checkArea_setByte, checkArea_setByte, h.checkArea a ha]
  storage other hother := by
    rw [storage_setByte, storage_setByte, h.storage area harea, h.storage other hother]

theorem putWindow (h : Agree on i j) {area : Area} (harea : on area) (k : Nat) (bs : List UInt8) :
    Agree on (ByteImage.putWindow i area k bs) (ByteImage.putWindow j area k bs) := by
  induction bs generalizing i j k with
  | nil => exact h
  | cons b bs ih => exact ih (h.setByte harea k b) (k + 1)

theorem updateByte (h : Agree on i j) {a : Address} (ha : on a.area) (f : UInt8 → UInt8) :
    Agree on (ByteImage.updateByte i a f) (ByteImage.updateByte j a f) := by
  rw [ByteImage.updateByte, ByteImage.updateByte, h.byte?_eq ha]
  exact h.setByte ha ..

theorem foldl_updateByte (h : Agree on i j) {as : List Address} (has : ∀ a ∈ as, on a.area)
    (f : Address → UInt8 → UInt8) :
    Agree on (as.foldl (fun i a => ByteImage.updateByte i a (f a)) i)
      (as.foldl (fun j a => ByteImage.updateByte j a (f a)) j) := by
  induction as generalizing i j with
  | nil => exact h
  | cons a as ih =>
    obtain ⟨ha, has⟩ := List.forall_mem_cons.mp has
    exact ih (h.updateByte ha (f a)) has

/-! ### Reads -/

theorem window_eq (h : Agree on i j) {area : Area} (harea : on area) (k n : Nat) :
    window i area k n = window j area k n := by
  rw [StoredImage.window_eq, StoredImage.window_eq, h.storage area harea]

theorem window?_eq (h : Agree on i j) {area : Area} (harea : on area) (k n : Nat) :
    window? i area k n = window? j area k n := by
  induction n generalizing k with
  | zero => rfl
  | succ n ih => rw [window?, window?, h.byte?_eq harea, ih]

theorem validate_eq (h : Agree on i j) {a : Address} (ha : on a.area) (width : UInt32) :
    validate i a width = validate j a width := by
  rw [validate, validate, h.checkArea a ha, h.byteCount]

theorem readPoint_eq (h : Agree on i j) {a : Address} (ha : on a.area) (width : UInt32) :
    readPoint i a width = readPoint j a width := by
  rw [readPoint, readPoint, h.validate_eq ha, h.window_eq ha]

theorem getBit_eq (h : Agree on i j) {a : Address} (ha : on a.area) : getBit i a = getBit j a := by
  rw [getBit, getBit, h.readPoint_eq ha]

theorem getBits_eq (h : Agree on i j) {as : List Address} (has : ∀ a ∈ as, on a.area) :
    getBits i as = getBits j as := by
  induction as with
  | nil => rfl
  | cons a as ih =>
    obtain ⟨ha, has⟩ := List.forall_mem_cons.mp has
    have hrest : as.mapM (getBit i) = as.mapM (getBit j) := ih has
    rw [getBits, getBits, List.mapM_cons, List.mapM_cons, h.getBit_eq ha, hrest]

theorem getValue_eq (h : Agree on i j) {a : Address} (ha : on a.area) (type : DataType) :
    getValue i a type = getValue j a type := by
  have hpoint := h.readPoint_eq ha
  cases type <;>
    simp only [getValue, getBit, getByte, getWord, getDWord, getInt, getReal, hpoint]

theorem ask_eq (h : Agree on i j) {c : ReadCall} (hc : ∀ a ∈ c.addresses, on a.area) :
    c.ask i = c.ask j := by
  cases c with
  | bits as =>
    have hbits : getBits i as = getBits j as := h.getBits_eq hc
    rw [ReadCall.ask, ReadCall.ask, hbits]
  | value a type =>
    rw [ReadCall.ask, ReadCall.ask, h.getValue_eq (hc a (List.mem_singleton_self a))]
  | bit a | byte a | word a | dword a | int a | real a =>
    have hpoint := h.readPoint_eq (hc a (List.mem_singleton_self a))
    simp only [ReadCall.ask, getBit, getByte, getWord, getDWord, getInt, getReal, hpoint]

/-! ### Writes -/

theorem validateWrite_eq (h : Agree on i j) {a : Address} (ha : WrittenAlike on i j a)
    (width : UInt32) : validateWrite i a width = validateWrite j a width := by
  rw [validateWrite, validateWrite, h.validate_eq ha.1, ha.2]

theorem check_eq (h : Agree on i j) {w : Write} (hw : ∀ t ∈ w.targets, WrittenAlike on i j t.1) :
    w.check i = w.check j :=
  forM_congr fun t ht => h.validateWrite_eq (hw t ht) t.2

theorem perform (h : Agree on i j) {w : Write} (hw : ∀ t ∈ w.targets, on t.1.area) :
    Agree on (w.perform i) (w.perform j) := by
  rw [Write.perform, Write.perform]
  rw [Write.targets] at hw
  generalize w.edit = e at hw ⊢
  cases e with
  | change as f =>
    have has : ∀ a ∈ as, on a.area := fun a ha => hw (a, 1) (List.mem_map_of_mem ha)
    exact h.foldl_updateByte has f
  | put a bs =>
    have ha : on a.area := hw (a, UInt32.ofNat bs.length) (.head _)
    exact h.putWindow ha a.offset bs

/-- A write that both images allow ends alike on both, and leaves them in agreement. -/
theorem run_write (h : Agree on i j) {c : WriteCall}
    (hc : ∀ t ∈ c.targets, WrittenAlike on i j t.1) :
    ((Call.write c).run i).1 = ((Call.write c).run j).1 ∧
      Agree on ((Call.write c).run i).2 ((Call.write c).run j).2 := by
  have hcheck : c.toWrite.check i = c.toWrite.check j := h.check_eq hc
  rw [Call.run_write, Call.run_write, hcheck]
  cases c.toWrite.check j with
  | error f => exact ⟨rfl, h⟩
  | ok u => exact ⟨rfl, h.perform fun t ht => (hc t ht).1⟩

end Agree

end FieldImage
