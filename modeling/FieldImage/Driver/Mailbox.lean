import FieldImage.Host
import FieldImage.Snapshot

/-! The driver of a shared segment: a client of its server, and the snapshots that readers answer
from. A write is a command to the server. -/

namespace FieldImage

/-- The place of a client on a machine, and the snapshots of the process data. -/
structure MailboxDriver where
  client : Nat
  areaSize : Nat
  snapshots : Snapshots Image

namespace MailboxDriver

/-- Attaches the segment of a path, with one reader. -/
def attach (h : Host) (path : String) (limits : ClientLimits) :
    Except Fault (MailboxDriver × Host) := do
  let (client, h) ← h.attachClient path limits
  let areaSize := (h.clients[client]?.map (·.client.areaSize)).getD 0
  pure (⟨client, areaSize, Snapshots.new (Image.zero areaSize) (Image.zero areaSize)⟩, h)

/-- A short name for logs. -/
def describe (d : MailboxDriver) : String := "shm (" ++ toString d.areaSize ++ " bytes per area)"

def update (d : MailboxDriver) (h : Host) : Except Fault Unit × MailboxDriver × Host :=
  let (r, h) := h.readData d.client d.snapshots.scratch
  let (r, snapshots) := d.snapshots.update (r.map fun _ => ()) (r.toOption.getD d.snapshots.scratch)
  (r, { d with snapshots }, h)

end MailboxDriver

end FieldImage
