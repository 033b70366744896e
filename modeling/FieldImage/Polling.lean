import FieldImage.Changes
import FieldImage.Driver.Mailbox
import FieldImage.UpdateTask

/-! Polling a segment: each cycle refreshes the snapshot and reports the bytes that changed since
the cycle before. -/

namespace FieldImage

/-- The driver that is polled, what it was last seen to hold, and the cycles so far. -/
structure Polling where
  driver : MailboxDriver
  tracker : ChangeTracker
  cycles : Nat

namespace Polling

def start (driver : MailboxDriver) : Polling := ⟨driver, ChangeTracker.new, 0⟩

/-- The tracker's look at the first reader's snapshot. -/
def observe (p : Polling) : List Change × Polling :=
  match p.driver.snapshots.reader? 0 with
  | none => ([], p)
  | some snapshot =>
    let (changes, tracker) := p.tracker.diff snapshot
    (changes, { p with tracker, cycles := p.cycles + 1 })

/-- One cycle: the updater publishes what the segment holds, the reader takes it over, and the
changes are found. A failed update leaves the snapshot as it was. -/
def cycle (p : Polling) (h : Host) : List Change × Polling × Host :=
  let (_, driver, h) := p.driver.update h
  let driver := { driver with
    snapshots := (driver.snapshots.refresh 0).toOption.getD driver.snapshots }
  let (changes, p) := { p with driver }.observe
  (changes, p, h)

def changeLine (c : Change) : LogLine := .info c.text

def closingLine (p : Polling) : LogLine :=
  .info ("Poll stopped after " ++ toString p.cycles ++ " cycles on " ++ p.driver.describe)

end Polling

end FieldImage
