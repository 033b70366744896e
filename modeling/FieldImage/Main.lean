import FieldImage.Polling
import FieldImage.Service

/-! The program on a disk and a clock. A segment is its file, which is read before each step and
replaced after it, so a change that another process makes in between is lost. A server therefore
replaces the file only for a reply or an old sign of life. -/

namespace FieldImage.Program

/-- What a path names on the disk. -/
inductive Found where
  | nothing
  | directory
  | file (bytes : ByteArray)

def find (path : String) : IO Found := do
  match ← (IO.FS.Handle.mk path .read).toBaseIO with
  | .error _ => pure .nothing
  | .ok handle =>
    match ← handle.readBinToEnd.toBaseIO with
    | .ok bytes => pure (.file bytes)
    | .error _ => pure .directory

def variableOf (entry : String) : Option (String × String) :=
  match entry.splitOn "=" with
  | name :: first :: rest => some (name, String.intercalate "=" (first :: rest))
  | _ => none

/-- The environment, which the system shows as a file. -/
def environment : IO (List (String × String)) := do
  match ← find "/proc/self/environ" with
  | .file bytes =>
    pure ((((String.fromUTF8? bytes).getD "").splitOn "\x00").filterMap variableOf)
  | _ => pure []

/-- The environment, and the file at a path. Bytes that are no text stand for a document that cannot
be read. -/
def surroundings (environment : List (String × String)) (path : String) : IO Surroundings := do
  match ← find path with
  | .nothing => pure (Surroundings.ofFiles [] environment)
  | .directory =>
    let around := Surroundings.ofFiles [] environment
    pure { around with tree := (around.tree.makeDirectories path).2 }
  | .file bytes =>
    pure (Surroundings.ofFiles [(path, (String.fromUTF8? bytes).getD "[")] environment)

/-- A machine that has the file at a path, under the number 0. -/
def machine (path : String) : IO Host := do
  let h := { Host.new with clock := ← IO.monoMsNow }
  match ← find path with
  | .nothing => pure h
  | .directory =>
    pure { h with tree := (h.tree.makeDirectories path).2 }
  | .file bytes =>
    pure { h with tree := Surroundings.placeFile h.tree path 0, memories := #[bytes.data] }

/-- The machine with the file as it is now. -/
def refresh (path : String) (h : Host) : IO Host := do
  let h := { h with clock := ← IO.monoMsNow }
  match ← find path with
  | .file bytes => pure (h.setMemory 0 bytes.data)
  | _ => pure h

/-- Replaces the file by the machine's, all at once. -/
def store (path : String) (h : Host) : IO Unit := do
  let draft := path ++ ".new"
  IO.FS.writeBinFile draft ⟨h.memory 0⟩
  IO.FS.rename draft path

/-- Replaces the file unless it is gone. -/
def storeBack (path : String) (h : Host) : IO Unit := do
  match ← find path with
  | .nothing => pure ()
  | _ => store path h

def log (lines : List LogLine) : IO Unit := lines.forM fun l => IO.eprintln l.text

/-- Shows a failure and gives the exit code for it. -/
def fail (f : Fault) : IO UInt32 := do
  IO.eprintln f.message
  pure 1

def finish : Except Fault Unit → IO UInt32
  | .ok _ => pure 0
  | .error f => fail f

/-- The milliseconds after which a sign of life is old. -/
def heartbeatInterval : Nat := 500

/-- The milliseconds for which the reply to EXIT stays. -/
def farewell : UInt32 := 100

partial def serveLoop (settings : SegmentSettings) (saved : Nat) (s : Service) : IO Unit := do
  let host ← refresh settings.path s.host
  let s := { s with host }.cycle
  let answered := Segment.mailbox (s.host.memory 0) != Segment.mailbox (host.memory 0)
  let due := answered || saved + heartbeatInterval ≤ host.clock
  if due then store settings.path s.host
  if s.server.isSome then
    IO.sleep (UInt32.ofNat settings.pollInterval)
    serveLoop settings (if due then host.clock else saved) s
  else
    IO.sleep farewell
    IO.FS.removeFile settings.path
    log s.log

def serve (settings : SegmentSettings) : IO UInt32 := do
  match (Service.idle (← machine settings.path)).start settings with
  | (.error f, _) => fail f
  | (.ok _, s) =>
    (Path.parent? settings.path).forM fun dir =>
      if dir.isEmpty then pure () else IO.FS.createDirAll dir
    store settings.path s.host
    serveLoop settings s.host.clock s
    pure 0

/-- Waits until the signal was raised or the time is over. -/
partial def await (path : String) (observed : UInt32) (deadline : Nat) (h : Host) : IO Host := do
  let h ← refresh path h
  if (Signal.mk (Segment.sequence (h.memory 0))).wakes observed || deadline < h.clock then pure h
  else
    IO.sleep 1
    await path observed deadline h

def send (settings : SegmentSettings) (command : Command) : IO UInt32 := do
  match (← machine settings.path).attachClient settings.path settings.limits with
  | .error f => fail f
  | .ok (client, h) =>
    match h.beginSend client command with
    | (.error f, _) => fail f
    | (.ok pending, h) =>
      store settings.path h
      let h ← await settings.path pending.observed (h.clock + settings.replyTimeout) h
      let (r, h) := h.endSend client pending
      storeBack settings.path h
      finish (r.map fun _ => ())

partial def pollLoop (settings : SegmentSettings) (p : Polling) (h : Host) : IO Unit := do
  let (changes, p, h) := p.cycle (← refresh settings.path h)
  log (changes.map Polling.changeLine)
  IO.sleep (UInt32.ofNat settings.pollInterval)
  pollLoop settings p h

def poll (settings : SegmentSettings) : IO UInt32 := do
  match MailboxDriver.attach (← machine settings.path) settings.path settings.limits with
  | .error f => fail f
  | .ok (driver, h) =>
    pollLoop settings (Polling.start driver) h
    pure 0

/-- An activity that ends by itself without a server. -/
def perform (settings : Settings) (activity : Activity) : IO UInt32 := do
  let s := Service.idle (← machine settings.shm.path)
  match (s.perform settings activity).1 with
  | .error f => fail f
  | .ok output =>
    IO.print output
    pure 0

def act (settings : Settings) (activity : Activity) : IO UInt32 :=
  match activity, settings.backend with
  | .serve .., _ => serve settings.shm
  | .poll _, .shm => poll settings.shm
  | .send (.ok .ping), .shm => send settings.shm .ping
  | .send (.ok .exit), .shm => send settings.shm .exit
  | .send (.ok (.write w)), .shm => send settings.shm w.command
  | activity, _ => perform settings activity

/-- Sets up the log and begins the activity. -/
def start (around : Surroundings) (settings : Settings) (activity : Activity) : IO UInt32 := do
  match (Logging.setUp false around.environment around.tree settings.logging).1 with
  | .error f => fail f
  | .ok _ =>
    settings.logging.dir.forM fun dir => IO.FS.createDirAll dir
    act settings activity

def usage : String := "Commands: serve, poll, send, read, config"

end FieldImage.Program

open FieldImage FieldImage.Program in
def main (arguments : List String) : IO UInt32 := do
  let environment ← environment
  match Invocation.parse environment arguments with
  | .error f =>
    if f.exitCode = 0 then IO.println usage else IO.eprintln usage
    pure f.exitCode.toUInt32
  | .ok i =>
    let around ← surroundings environment (i.path.getD Settings.defaultFile)
    match i.settings around with
    | .error f => fail f
    | .ok settings => start around settings i.activity
