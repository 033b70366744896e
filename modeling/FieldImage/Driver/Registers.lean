import FieldImage.Modbus.Backend
import FieldImage.Snapshot

/-! The driver of a device with registers: the backend that writes to it and reads it, and the
snapshots that readers answer from. -/

namespace FieldImage

def Driver.debugText (description : String) : String :=
  "DriverSet \x7b backend: " ++ Text.quoted description ++ " \x7d"

structure RegisterDriver (κ : Type) where
  backend : Backend κ
  snapshots : Snapshots RegisterSet

namespace RegisterDriver

variable {κ : Type} [RegisterLink κ]

/-- A driver of `count` registers per table, with one reader. -/
def new (link : κ) (count : Nat) : Except Fault (RegisterDriver κ) := do
  let backend ← Backend.new link count
  pure ⟨backend, Snapshots.new (RegisterSet.zero count) (RegisterSet.zero count)⟩

def update (d : RegisterDriver κ) : Except Fault Unit × RegisterDriver κ :=
  let (r, set, backend) := d.backend.readRegisters d.snapshots.scratch
  let (r, snapshots) := d.snapshots.update r set
  (r, ⟨backend, snapshots⟩)

/-- A write goes straight to the device. -/
def write (d : RegisterDriver κ) (w : Write) : Except Fault Unit × RegisterDriver κ :=
  let (r, backend) := d.backend.write w
  (r, { d with backend })

end RegisterDriver

end FieldImage
