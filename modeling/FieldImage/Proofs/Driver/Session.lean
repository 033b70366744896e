import FieldImage.Driver.Mailbox
import FieldImage.Driver.Registers
import FieldImage.Proofs.Image.Calls

/-! A driver in use: its backend changes, its updater publishes, readers refresh and answer, new
readers are made of old ones, and the updater is dropped. A session is such moves in any order. -/

namespace FieldImage

/-- What can be done with a driver; `β` are the changes of its backend. -/
inductive Move (β : Type) where
  | change (b : β)
  | update
  | refresh (j : Nat)
  | fork (j : Nat)
  | read (j : Nat) (c : ReadCall)
  | dropUpdater

/-- The parts of a driver in a world `W` that holds it and its backend. -/
structure DriverSet (W β ι : Type) where
  snapshots : W → Snapshots ι
  setSnapshots : W → Snapshots ι → W
  update : W → Except Fault Unit × W
  change : W → β → Except Fault Unit × W

def MailboxDriver.set {β : Type} (change : MailboxDriver → Host → β → Except Fault Unit × Host) :
    DriverSet (MailboxDriver × Host) β Image where
  snapshots w := w.1.snapshots
  setSnapshots w s := ({ w.1 with snapshots := s }, w.2)
  update w := w.1.update w.2
  change w b := ((change w.1 w.2 b).1, w.1, (change w.1 w.2 b).2)

def RegisterDriver.set {κ β : Type} [RegisterLink κ]
    (change : Backend κ → β → Except Fault Unit × Backend κ) :
    DriverSet (RegisterDriver κ) β RegisterSet where
  snapshots d := d.snapshots
  setSnapshots d s := { d with snapshots := s }
  update d := d.update
  change d b := ((change d.backend b).1, { d with backend := (change d.backend b).2 })

namespace DriverSet

variable {W β ι : Type} [ByteImage ι] [Copyable ι]

/-- What a move comes to, nothing when there is no updater or no reader to make it, and the world
after it. -/
def step (d : DriverSet W β ι) (w : W) : Move β → Option (Except Fault Answer) × W
  | .change b => (some ((d.change w b).1.map fun _ => .done), (d.change w b).2)
  | .update =>
    if (d.snapshots w).isUpdating then
      (some ((d.update w).1.map fun _ => .done), (d.update w).2)
    else (none, w)
  | .refresh j =>
    match (d.snapshots w).reader? j, (d.snapshots w).refresh j with
    | none, _ => (none, w)
    | some _, .ok s => (some (.ok .done), d.setSnapshots w s)
    | some _, .error f => (some (.error f), w)
  | .fork j =>
    match (d.snapshots w).fork j with
    | none => (none, w)
    | some (_, s) => (some (.ok .done), d.setSnapshots w s)
  | .read j c => (((d.snapshots w).reader? j).map fun i => c.ask i, w)
  | .dropUpdater => (some (.ok .done), d.setSnapshots w (d.snapshots w).dropUpdater)

def run (d : DriverSet W β ι) (w : W) :
    List (Move β) → List (Option (Except Fault Answer)) × W
  | [] => ([], w)
  | m :: ms => ((d.step w m).1 :: (d.run (d.step w m).2 ms).1, (d.run (d.step w m).2 ms).2)

variable (d : DriverSet W β ι) {w : W} {j : Nat} {x : ι} {s : Snapshots ι} {f : Fault}

theorem step_update_none (h : (d.snapshots w).isUpdating = false) :
    d.step w .update = (none, w) := by
  simp only [step, h, Bool.false_eq_true, if_false]

theorem step_update_some (h : (d.snapshots w).isUpdating = true) :
    d.step w .update = (some ((d.update w).1.map fun _ => .done), (d.update w).2) := by
  simp only [step, h, if_true]

theorem step_refresh_none (h : (d.snapshots w).reader? j = none) :
    d.step w (.refresh j) = (none, w) := by
  simp only [step, h]

theorem step_refresh_error (hreader : (d.snapshots w).reader? j = some x)
    (h : (d.snapshots w).refresh j = .error f) :
    d.step w (.refresh j) = (some (.error f), w) := by
  simp only [step, hreader, h]

theorem step_refresh_ok (hreader : (d.snapshots w).reader? j = some x)
    (h : (d.snapshots w).refresh j = .ok s) :
    d.step w (.refresh j) = (some (.ok .done), d.setSnapshots w s) := by
  simp only [step, hreader, h]

theorem step_fork_none (h : (d.snapshots w).reader? j = none) :
    d.step w (.fork j) = (none, w) := by
  simp only [step, Snapshots.fork, h, Option.map_none]

theorem step_fork_some (h : (d.snapshots w).reader? j = some x) :
    d.step w (.fork j) = (some (.ok .done), d.setSnapshots w { d.snapshots w with
      shared := (d.snapshots w).shared.cloneHandle
      readers := (d.snapshots w).readers ++ [x] }) := by
  simp only [step, Snapshots.fork, h, Option.map_some]

end DriverSet

end FieldImage
