import FieldImage.Driver.Mailbox
import FieldImage.Driver.Registers
import FieldImage.Invocation
import FieldImage.Logging
import FieldImage.Reading
import FieldImage.UpdateTask

/-! The program at work on a machine: a server that serves until it is told to stop, and the
requests and readings of callers. A caller opens a driver of its own each time; while it waits for a
reply the server takes its next cycle. What a device over TCP answers is the network's. -/

namespace FieldImage

/-- A machine with a server, none when it is stopped, and what the program logged there. -/
structure Service where
  host : Host
  server : Option Nat
  log : List LogLine

namespace Service

def idle (host : Host) : Service := ⟨host, none, []⟩

def start (s : Service) (settings : SegmentSettings) : Except Fault Unit × Service :=
  match s.host.createServer settings.path settings.areaSize (.ofMillis settings.lockTimeout) with
  | (.ok server, host) => (pure (), { s with host, server := some server })
  | (.error e, host) => (.error e, { s with host })

def stop (s : Service) : Service :=
  match s.server with
  | none => s
  | some i => { s with host := (s.host.dropServer i).2, server := none }

def modifyData (s : Service) (f : ImageView → ImageView) : Service :=
  match s.server.bind s.host.server? with
  | none => s
  | some t =>
    { s with host := (s.host.withData t.memory t.areaSize t.server.lockLimit fun v => ((), f v)).2 }

def stoppedByExit : LogLine := .info "Stopped by EXIT command"

/-- The server's next cycle; one that serves EXIT is its last. -/
def cycle (s : Service) : Service :=
  match s.server with
  | none => s
  | some i =>
    match (s.host.heartbeat i).pollServer i false with
    | none => s
    | some (_, host) =>
      let s := { s with host }
      if (host.server? i).any (·.server.exitRequested) then
        { s.stop with log := s.log ++ [stoppedByExit] }
      else s

def sendCommand (s : Service) (settings : SegmentSettings) (command : Command) :
    Except Fault Unit × Service :=
  match s.host.attachClient settings.path settings.limits with
  | .error e => (.error e, s)
  | .ok (client, host) =>
    let answer (host : Host) : Service × Host :=
      let s := { s with host }.cycle
      (s, s.host)
    let (r, after, host) := host.send settings.path client command answer
    (r.map fun _ => (), { after.getD s with host })

/-- A write or a server command through the driver of a segment. -/
def sendToSegment (s : Service) (settings : SegmentSettings) :
    Request → Except Fault Unit × Service
  | .ping => s.sendCommand settings .ping
  | .exit => s.sendCommand settings .exit
  | .write w => s.sendCommand settings w.command

/-- One update of a segment's driver, and the readings of its snapshot. -/
def readSegment (s : Service) (settings : SegmentSettings) (as : List Address) (type : DataType) :
    Except Fault (List Reading) × Service :=
  match MailboxDriver.attach s.host settings.path settings.limits with
  | .error e => (.error e, s)
  | .ok (d, host) =>
    let (r, d, host) := d.update host
    let readings := do
      r
      let snapshots ← d.snapshots.refresh 0
      Reading.all ((snapshots.reader? 0).getD (Image.zero d.areaSize)) as type
    (readings, { s with host })

/-- Another process changes the mailbox of a path under its lock, waits while the server takes its
next cycle, and takes the reply: the mailbox as that cycle left it. -/
def exchange (s : Service) (path : String) (f : Mailbox → Mailbox) : Option Mailbox × Service :=
  match s.host.outside? path with
  | none => (none, s)
  | some id =>
    let (_, host) := s.host.changeMailbox id f
    let s := { s with host }.cycle
    let left := Segment.mailbox (s.host.memory id)
    (some left, { s with
      host := s.host.modifyMemory id (Segment.setMailbox · { left with reply := 0 }) })

/-- How a run begins: its exit code if it ends by itself, and what it prints if it succeeds. -/
structure Beginning where
  exit : UInt8
  output : Option String
deriving DecidableEq, Repr

/-! ### Devices over the network -/

variable [TcpNetwork]

def openDevice (settings : DeviceSettings) : Except Fault (RegisterDriver TcpNetwork.Link) :=
  RegisterDriver.new (TcpNetwork.link settings.tcp) settings.registerCount

/-- A write through the driver of a device, which has no server to command. -/
def sendToDevice (settings : DeviceSettings) : Request → Except Fault Unit
  | .write w => do ((← openDevice settings).write w).1
  | _ => throw (.config .serverCommand)

def send (s : Service) (settings : Settings) (r : Request) : Except Fault Unit × Service :=
  match settings.backend with
  | .shm => s.sendToSegment settings.shm r
  | .modbus => (sendToDevice settings.modbus r, s)

/-- One update of a device's driver, and the readings of its snapshot. -/
def readDevice (settings : DeviceSettings) (as : List Address) (type : DataType) :
    Except Fault (List Reading) := do
  let (r, d) := (← openDevice settings).update
  r
  let snapshots ← d.snapshots.refresh 0
  Reading.all ((snapshots.reader? 0).getD (RegisterSet.zero settings.registerCount)) as type

def read (s : Service) (settings : Settings) (as : List Address) (type : DataType) :
    Except Fault (List Reading) × Service :=
  match settings.backend with
  | .shm => s.readSegment settings.shm as type
  | .modbus => (readDevice settings.modbus as type, s)

/-- Begins an activity and carries out all of it that ends by itself: what it prints. Serving goes
on in the cycles that follow, and polling prints nothing. -/
def perform (s : Service) (settings : Settings) : Activity → Except Fault String × Service
  | .serve .. =>
    let (r, s) := s.start settings.shm
    (r.map fun _ => "", s)
  | .poll _ =>
    (match settings.backend with
      | .shm => (MailboxDriver.attach s.host settings.shm.path settings.shm.limits).map fun _ => ""
      | .modbus => (openDevice settings.modbus).map fun _ => "", s)
  | .send (.error e) => (.error e, s)
  | .send (.ok request) =>
    let (r, s) := s.send settings request
    (r.map fun _ => "", s)
  | .read as type json =>
    let (r, s) := s.read settings as type
    let line (reading : Reading) := (if json then reading.json else reading.text) ++ "\n"
    (r.map fun readings => String.join (readings.map line), s)
  | .config => (.ok settings.text, s)

/-- The program with the given arguments: it reads them and its settings, sets up the log, and
begins its activity. Arguments that are no command, and any failure after them, end it. -/
def run (s : Service) (around : Surroundings) (arguments : List String) : Beginning × Service :=
  match Invocation.parse around.environment arguments with
  | .error f => (⟨f.exitCode, none⟩, s)
  | .ok i =>
    match i.settings around with
    | .error _ => (⟨1, none⟩, s)
    | .ok settings =>
      let (ready, tree) := Logging.setUp false around.environment s.host.tree settings.logging
      let s := { s with host := { s.host with tree } }
      match ready with
      | .error _ => (⟨1, none⟩, s)
      | .ok _ =>
        match s.perform settings i.activity with
        | (.error _, s) => (⟨1, none⟩, s)
        | (.ok output, s) => (⟨0, some output⟩, s)

end Service

end FieldImage
