import FieldImage.Image.Owned
import FieldImage.Register.Set
import FieldImage.Shared

/-! Snapshots. An updater owns a shared image and moves fresh data into it; readers answer from
copies of their own, and a reader gets a new copy only when it asks for one. -/

namespace FieldImage

/-- Images that can be copied over each other when they are of one size. -/
class Copyable (ι : Type) where
  copyFrom : ι → ι → Except Fault ι

instance : Copyable Image := ⟨Image.copyFrom⟩

instance : Copyable RegisterSet := ⟨RegisterSet.copyFrom⟩

/-- A shared image, the updater's own buffer, and the snapshots of its readers. -/
structure Snapshots (ι : Type) where
  shared : Shared ι
  scratch : ι
  readers : List ι

namespace Snapshots

variable {ι : Type} [Copyable ι]

/-- A shared image with one reader whose snapshot is `first`. -/
def new (shared first : ι) : Snapshots ι :=
  ⟨(Shared.new shared).cloneHandle, shared, [first]⟩

def reader? (s : Snapshots ι) (i : Nat) : Option ι := s.readers[i]?

/-- A new reader with the snapshot of another; gives its place. -/
def fork (s : Snapshots ι) (i : Nat) : Option (Nat × Snapshots ι) :=
  (s.reader? i).map fun snapshot =>
    (s.readers.length,
      { s with shared := s.shared.cloneHandle, readers := s.readers ++ [snapshot] })

def refresh (s : Snapshots ι) (i : Nat) : Except Fault (Snapshots ι) := do
  let fresh ← s.shared.read
  match s.reader? i with
  | none => pure s
  | some snapshot => do
    let snapshot ← Copyable.copyFrom snapshot fresh
    pure { s with readers := s.readers.set i snapshot }

def publish (s : Snapshots ι) : Except Fault (Snapshots ι) := do
  let fresh ← Copyable.copyFrom s.shared.value s.scratch
  pure { s with shared := s.shared.set fresh }

/-- Ends an update: what reached the buffer stays there, and it is published when the transfer
succeeded. -/
def update (s : Snapshots ι) (r : Except Fault Unit) (scratch : ι) :
    Except Fault Unit × Snapshots ι :=
  let s := { s with scratch }
  match r with
  | .error e => (.error e, s)
  | .ok _ =>
    match s.publish with
    | .ok s => (.ok (), s)
    | .error e => (.error e, s)

def isUpdating (s : Snapshots ι) : Bool := s.shared.isValid

/-- Drops the updater, and with it the owner of the shared image. -/
def dropUpdater (s : Snapshots ι) : Snapshots ι := { s with shared := s.shared.drop }

end Snapshots

end FieldImage
