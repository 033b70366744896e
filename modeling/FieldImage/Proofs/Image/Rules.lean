import FieldImage.Proofs.Image.Storage

/-! What an image asks of an address, as data: the areas that it serves, those of them that are not
written, and the bytes that an area has. An image with rules checks an address as they say, and has
in storage every byte that they count. -/

namespace FieldImage

open ByteImage StoredImage

inductive Access where
  | read
  | write
deriving DecidableEq

structure Rules where
  served : List Area
  /-- The fault of an address in an area that is not served. -/
  unserved : Area → AddressFault
  readOnly : List Area
  count : UInt32

namespace Rules

/-- The rules of an image that has every area. -/
def whole (count : UInt32) : Rules := ⟨Area.all, fun area => .areaOutOfRange area.name, [], count⟩

/-- The rules of a device with register tables. -/
def field (count : UInt32) : Rules :=
  ⟨Area.field, fun area => .areaNotAllowed area.name, [.input], count⟩

variable {r : Rules} {access : Access} {a : Address} {width : UInt32}

structure Allows (r : Rules) (access : Access) (a : Address) (width : UInt32) : Prop where
  bit : a.bit.toNat ≤ 7
  area : a.area ∈ r.served
  window : a.byte.toNat + width.toNat ≤ r.count.toNat
  writable : access = .write → a.area ∉ r.readOnly

/-- What an address breaks first: bit, area, window and writability, in this order. -/
def fault? (r : Rules) (access : Access) (a : Address) (width : UInt32) : Option AddressFault :=
  if 7 < a.bit.toNat then some (.bitOutOfRange a.bit)
  else if a.area ∉ r.served then some (r.unserved a.area)
  else if r.count.toNat < a.byte.toNat + width.toNat then
    some (.byteOutOfRange a.byte width r.count)
  else if access = .write ∧ a.area ∈ r.readOnly then some (.inputNotWritable a.byte)
  else none

theorem fault?_eq_none : r.fault? access a width = none ↔ r.Allows access a width := by
  constructor
  · intro h
    rw [fault?] at h
    split at h
    · cases h
    rename_i hbit
    split at h
    · cases h
    rename_i harea
    split at h
    · cases h
    rename_i hwindow
    split at h
    · cases h
    rename_i hwritable
    exact ⟨Nat.le_of_not_lt hbit, Decidable.not_not.mp harea, Nat.le_of_not_lt hwindow,
      fun haccess hread => hwritable ⟨haccess, hread⟩⟩
  · rintro ⟨hbit, harea, hwindow, hwritable⟩
    rw [fault?, if_neg (Nat.not_lt.mpr hbit), if_neg (Decidable.not_not.mpr harea),
      if_neg (Nat.not_lt.mpr hwindow), if_neg fun h => hwritable h.1 h.2]

/-- What the first bad address of a list breaks. -/
def firstFault? (r : Rules) (access : Access) (ts : List (Address × UInt32)) :
    Option AddressFault :=
  ts.findSome? fun t => r.fault? access t.1 t.2

theorem firstFault?_eq_none {ts : List (Address × UInt32)} :
    r.firstFault? access ts = none ↔ ∀ t ∈ ts, r.Allows access t.1 t.2 := by
  rw [firstFault?, List.findSome?_eq_none_iff]
  exact forall₂_congr fun t _ => fault?_eq_none

end Rules

/-- The verdict on an address that breaks something, or nothing. -/
def verdict : Option AddressFault → Except Fault Unit
  | none => .ok ()
  | some f => .error (.address f)

theorem verdict_eq_ok {broken : Option AddressFault} :
    verdict broken = .ok () ↔ broken = none := by
  cases broken with
  | none => exact ⟨fun _ => rfl, fun _ => rfl⟩
  | some f => exact ⟨nofun, nofun⟩

/-- Checks that each give a verdict give that of the first one that finds something. -/
theorem forM_verdict {α : Type} (broken : α → Option AddressFault) (as : List α) :
    as.forM (fun a => verdict (broken a)) = verdict (as.findSome? broken) := by
  induction as with
  | nil => rfl
  | cons a as ih =>
    rw [forM_cons_eq, List.findSome?_cons, ih]
    cases broken a with
    | none => rfl
    | some f => rfl

class RuledImage (ι : Type) [ByteImage ι] extends StoredImage ι where
  rules : ι → Rules
  rules_count (i : ι) : (rules i).count = byteCount i
  checkArea_eq (i : ι) (a : Address) :
    checkArea i a = if a.area ∈ (rules i).served then .ok ()
      else .error (.address ((rules i).unserved a.area))
  checkWritable_eq (i : ι) (a : Address) :
    checkWritable i a = if a.area ∈ (rules i).readOnly then
        .error (.address (.inputNotWritable a.byte))
      else .ok ()
  byteCount_le (i : ι) {area : Area} (h : area ∈ (rules i).served) :
    (byteCount i).toNat ≤ (storage i area).length

namespace RuledImage

variable {ι : Type} [ByteImage ι] [RuledImage ι] {i : ι} {a : Address} {width : UInt32}

theorem checkBit_eq (a : Address) :
    a.checkBit = if 7 < a.bit.toNat then .error (.address (.bitOutOfRange a.bit)) else .ok () :=
  rfl

theorem validate_eq (i : ι) (a : Address) (width : UInt32) :
    validate i a width = verdict ((rules i).fault? .read a width) := by
  rw [validate, checkBit_eq, checkArea_eq, Address.checkByte, Rules.fault?, rules_count]
  by_cases hbit : 7 < a.bit.toNat
  · rw [if_pos hbit, if_pos hbit]
    rfl
  rw [if_neg hbit, if_neg hbit]
  by_cases harea : a.area ∈ (rules i).served
  · rw [if_pos harea, if_neg (Decidable.not_not.mpr harea)]
    by_cases hwindow : (byteCount i).toNat < a.byte.toNat + width.toNat
    · rw [if_pos hwindow, if_pos hwindow]
      rfl
    · rw [if_neg hwindow, if_neg hwindow]
      rfl
  · rw [if_neg harea, if_pos harea]
    rfl

theorem validate_eq_ok :
    validate i a width = .ok () ↔ (rules i).Allows .read a width := by
  rw [validate_eq, verdict_eq_ok, Rules.fault?_eq_none]

/-- Writability is looked at last, so a write finds what a read finds unless that is nothing. -/
theorem validateWrite_eq (i : ι) (a : Address) (width : UInt32) :
    validateWrite i a width = verdict ((rules i).fault? .write a width) := by
  rw [validateWrite, validate_eq, checkWritable_eq]
  simp only [Rules.fault?]
  split
  · rfl
  split
  · rfl
  split
  · rfl
  simp only [reduceCtorEq, false_and, if_false, true_and]
  split
  · rfl
  · rfl

theorem validateWrite_eq_ok :
    validateWrite i a width = .ok () ↔ (rules i).Allows .write a width := by
  rw [validateWrite_eq, verdict_eq_ok, Rules.fault?_eq_none]

omit [RuledImage ι] in
theorem validate_of_validateWrite (h : validateWrite i a width = .ok ()) :
    validate i a width = .ok () := by
  obtain ⟨⟨⟩, hread, -⟩ := bind_eq_ok.mp h
  exact hread

/-- A window that passes its checks is in storage. -/
theorem window_le_storage (h : validate i a width = .ok ()) :
    a.offset + width.toNat ≤ (storage i a.area).length := by
  have hallows := validate_eq_ok.mp h
  have hwindow := hallows.window
  rw [rules_count] at hwindow
  exact Nat.le_trans hwindow (byteCount_le i hallows.area)

end RuledImage

end FieldImage
