import FieldImage.Proofs.Shared
import FieldImage.Snapshot

/-! What an update and a refresh do to the images of a driver. An update that fails leaves its trace
in the updater's buffer only; a refresh puts the shared image in place of one snapshot, or leaves
everything as it was. -/

namespace FieldImage

/-- A copy is the source itself, and it is made when both are of one size. -/
class LawfulCopyable (ι : Type) [Copyable ι] where
  size : ι → Nat
  mismatch (target source : ι) : Fault
  copyFrom_eq (target source : ι) :
    Copyable.copyFrom target source =
      if size target = size source then .ok source
      else .error (mismatch target source)

instance : LawfulCopyable Image where
  size i := i.areaSize
  mismatch target source := .notInitialized (.imageGeometry target.areaSize source.areaSize)
  copyFrom_eq target source := by
    show (checkGeometry target.areaSize source.areaSize >>= fun _ => pure source) = _
    rw [checkGeometry]
    split <;> rfl

instance : LawfulCopyable RegisterSet where
  size s := s.count
  mismatch target source := .notInitialized (.registerGeometry target.count source.count)
  copyFrom_eq _ _ := rfl

namespace Snapshots

variable {ι : Type} [Copyable ι] [LawfulCopyable ι] {s s' : Snapshots ι}

open LawfulCopyable

/-- How an update ends that left `scratch` in the buffer. -/
inductive UpdateEnd (s : Snapshots ι) (transferred : Except Fault Unit) (scratch : ι) :
    Except Fault Unit × Snapshots ι → Prop where
  | published (h : transferred = .ok ()) :
    UpdateEnd s transferred scratch (.ok (), { s with scratch, shared := s.shared.set scratch })
  | failed (f : Fault) : UpdateEnd s transferred scratch (.error f, { s with scratch })

theorem updateEnd (s : Snapshots ι) (transferred : Except Fault Unit) (scratch : ι) :
    UpdateEnd s transferred scratch (s.update transferred scratch) := by
  cases transferred with
  | error f => exact .failed f
  | ok u =>
    simp only [update, publish, copyFrom_eq]
    by_cases hsize : size s.shared.value = size scratch
    · rw [if_pos hsize]
      exact .published rfl
    · rw [if_neg hsize]
      exact .failed _

theorem update_eq_ok {scratch : ι} (h : size s.shared.value = size scratch) :
    s.update (.ok ()) scratch = (.ok (), { s with scratch, shared := s.shared.set scratch }) := by
  simp only [update, publish, copyFrom_eq, if_pos h]
  rfl

theorem refresh_eq (s : Snapshots ι) (j : Nat) :
    s.refresh j =
      if s.isUpdating then
        match s.reader? j with
        | none => .ok s
        | some snapshot =>
          if size snapshot = size s.shared.value then
            .ok { s with readers := s.readers.set j s.shared.value }
          else .error (mismatch snapshot s.shared.value)
      else .error (.notInitialized .containerDropped) := by
  rw [refresh, Shared.read_eq, isUpdating]
  split
  · show (match s.reader? j with
      | none => (pure s : Except Fault (Snapshots ι))
      | some snapshot => Copyable.copyFrom snapshot s.shared.value >>= fun snapshot =>
        pure { s with readers := s.readers.set j snapshot }) = _
    cases s.reader? j with
    | none => rfl
    | some snapshot =>
      simp only [copyFrom_eq]
      split <;> rfl
  · rfl

theorem readers_of_refresh {j : Nat} (h : s.refresh j = .ok s') :
    s' = { s with readers := s.readers.set j s.shared.value } := by
  rw [refresh_eq] at h
  split at h
  · split at h
    · rename_i hnone
      cases h
      have hpast : s.readers.length ≤ j := List.getElem?_eq_none_iff.mp hnone
      rw [List.set_eq_of_length_le hpast]
    · split at h
      · cases h
        rfl
      · cases h
  · cases h

theorem refresh_of_dropped (h : s.isUpdating = false) (j : Nat) :
    s.refresh j = .error (.notInitialized .containerDropped) := by
  rw [refresh_eq, h]
  rfl

theorem refresh_eq_ok {j : Nat} {snapshot : ι} (hupdating : s.isUpdating = true)
    (hreader : s.reader? j = some snapshot) (hsize : size snapshot = size s.shared.value) :
    s.refresh j = .ok { s with readers := s.readers.set j s.shared.value } := by
  rw [refresh_eq, if_pos hupdating, hreader]
  exact if_pos hsize

end Snapshots

end FieldImage
