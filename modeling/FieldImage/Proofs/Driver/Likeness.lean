import FieldImage.Proofs.Image.View
import FieldImage.Proofs.Register.Image
import FieldImage.Proofs.Snapshot
import Mathlib.Data.List.Forall2

/-! Images and register sets with the same outputs, and the snapshots of two drivers that are alike
in this way. -/

namespace FieldImage

open ByteImage StoredImage Register

section Lists

variable {α β : Type} {R : α → β → Prop} {as : List α} {bs : List β}

theorem forall₂_getElem? (h : List.Forall₂ R as bs) (j : Nat) :
    (as[j]? = none ∧ bs[j]? = none) ∨ ∃ a b, as[j]? = some a ∧ bs[j]? = some b ∧ R a b := by
  induction h generalizing j with
  | nil => exact .inl ⟨rfl, rfl⟩
  | cons hab _ ih =>
    cases j with
    | zero => exact .inr ⟨_, _, rfl, rfl, hab⟩
    | succ j => exact ih j

theorem forall₂_set (h : List.Forall₂ R as bs) (j : Nat) {a : α} {b : β} (hab : R a b) :
    List.Forall₂ R (as.set j a) (bs.set j b) := by
  induction h generalizing j with
  | nil => exact .nil
  | cons hfirst hrest ih =>
    cases j with
    | zero => exact .cons hab hrest
    | succ j => exact .cons hfirst (ih j)

end Lists

/-- An image and a register set of one size with the same outputs. -/
structure SameOutputs (count : Nat) (i : Image) (s : RegisterSet) : Prop where
  areaSize : i.areaSize = 2 * count
  count : s.count = count
  output : i.output.toList = toBytes s.holding.toList

/-- Images that check outputs alike and have the same ones. -/
theorem agree_output {ι : Type} [ByteImage ι] [StoredImage ι] {i : ι} {s : RegisterSet}
    (hcount : byteCount i = byteCount s) (harea : ∀ a, checkArea i a = .ok ())
    (houtput : storage i .output = toBytes s.holding.toList) : Agree (· = .output) i s where
  byteCount := hcount
  checkArea a ha := by
    have hfield : a.area ≠ .memory := by
      rw [ha]
      decide
    rw [harea]
    exact (RegisterSet.checkArea_field hfield).symm
  storage area ha := by
    rw [ha]
    exact houtput

namespace SameOutputs

theorem agree {count : Nat} {i : Image} {s : RegisterSet} (h : SameOutputs count i s) :
    Agree (· = .output) i s := by
  refine agree_output ?_ RegisterSet.checkArea_all h.output
  show UInt32.ofNat i.areaSize = UInt32.ofNat (2 * s.count)
  rw [h.areaSize, h.count]

theorem toBytes_zeros (count : Nat) :
    toBytes (List.replicate count 0) = List.replicate (2 * count) 0 := by
  induction count with
  | zero => rfl
  | succ count ih =>
    rw [List.replicate_succ, toBytes_cons, ih, Nat.mul_succ, List.replicate_succ,
      List.replicate_succ]
    rfl

theorem zero (count : Nat) :
    SameOutputs count (Image.zero (2 * count)) (RegisterSet.zero count) where
  areaSize := rfl
  count := rfl
  output := by
    simp only [Image.zero, RegisterSet.zero, Vector.toList_replicate, toBytes_zeros]

end SameOutputs

/-- The snapshots of two drivers with the same outputs. -/
structure SameSnapshots (count : Nat) (s : Snapshots Image) (t : Snapshots RegisterSet) : Prop where
  shared : SameOutputs count s.shared.value t.shared.value
  scratch : SameOutputs count s.scratch t.scratch
  readers : List.Forall₂ (SameOutputs count) s.readers t.readers
  owned : s.shared.owned = t.shared.owned
  guarded : s.shared.guarded = t.shared.guarded

namespace SameSnapshots

variable {count : Nat} {s : Snapshots Image} {t : Snapshots RegisterSet} {i : Image}
  {r : RegisterSet}

theorem isUpdating_eq (h : SameSnapshots count s t) : s.isUpdating = t.isUpdating := by
  rw [Snapshots.isUpdating, Shared.isValid, h.owned, h.guarded]
  rfl

theorem new (h : SameOutputs count i r) :
    SameSnapshots count (Snapshots.new i i) (Snapshots.new r r) :=
  ⟨h, h, .cons h .nil, rfl, rfl⟩

theorem reader (h : SameSnapshots count s t) (j : Nat) :
    (s.reader? j = none ∧ t.reader? j = none) ∨
      ∃ x y, s.reader? j = some x ∧ t.reader? j = some y ∧ SameOutputs count x y :=
  forall₂_getElem? h.readers j

theorem publish (h : SameSnapshots count s t) (hnew : SameOutputs count i r) :
    SameSnapshots count { s with scratch := i, shared := s.shared.set i }
      { t with scratch := r, shared := t.shared.set r } :=
  ⟨hnew, hnew, h.readers, h.owned, h.guarded⟩

theorem refresh (h : SameSnapshots count s t) (j : Nat) :
    SameSnapshots count { s with readers := s.readers.set j s.shared.value }
      { t with readers := t.readers.set j t.shared.value } :=
  ⟨h.shared, h.scratch, forall₂_set h.readers j h.shared, h.owned, h.guarded⟩

theorem fork (h : SameSnapshots count s t) (hnew : SameOutputs count i r) :
    SameSnapshots count
      { s with shared := s.shared.cloneHandle, readers := s.readers ++ [i] }
      { t with shared := t.shared.cloneHandle, readers := t.readers ++ [r] } :=
  ⟨h.shared, h.scratch, List.rel_append h.readers (.cons hnew .nil), h.owned, h.guarded⟩

theorem dropUpdater (h : SameSnapshots count s t) :
    SameSnapshots count s.dropUpdater t.dropUpdater :=
  ⟨h.shared, h.scratch, h.readers, rfl, h.guarded⟩

end SameSnapshots

end FieldImage
