import FieldImage.Client
import FieldImage.Host.FileTree
import FieldImage.Lock
import FieldImage.Segment.Layout
import FieldImage.Server

/-! A machine on which servers and clients share segments. Every step is one call of a server, a
client or another process, run to its end while the others wait; only a send is in two halves,
because its answer comes from elsewhere. A lock that is taken when a step needs it stays taken for
the whole step, so the step waits for its limit, and the clock moves on. -/

namespace FieldImage

structure HostedServer where
  server : Server
  path : String
  areaSize : Nat
  memory : Nat

structure HostedClient where
  client : Client
  memory : Nat

structure Host where
  /-- Milliseconds since the epoch. -/
  clock : Nat
  tree : FileTree
  memories : Array Segment.Memory
  servers : Array (Option HostedServer)
  clients : Array HostedClient
  /-- The locks that another process holds, and in which file, the oldest first. -/
  holds : List (Segment.LockName × Nat)
  /-- The memory of the segment that was made last. -/
  latest : Option Nat

namespace Host

/-- A machine with an empty working directory. -/
def new : Host := ⟨1700000000000, FileTree.empty, #[], #[], #[], [], none⟩

def memory (h : Host) (id : Nat) : Segment.Memory := h.memories[id]?.getD #[]

def setMemory (h : Host) (id : Nat) (m : Segment.Memory) : Host :=
  { h with memories := h.memories.setIfInBounds id m }

def modifyMemory (h : Host) (id : Nat) (f : Segment.Memory → Segment.Memory) : Host :=
  h.setMemory id (f (h.memory id))

def wait (h : Host) (d : Duration) : Host := { h with clock := h.clock + d.millis }

/-- Takes a lock for a step, or waits for the limit. -/
def acquire (h : Host) (id : Nat) (l : Segment.LockName) (limit : Duration) :
    Except Fault Unit × Host :=
  let free := Segment.isFree (h.memory id) l
  (Server.acquire limit free, if free then h else h.wait limit)

/-! ## Files -/

/-- Opens the file of a path, which is made empty when there is none. -/
def openFile (h : Host) (path : String) : Except PathFault (Nat × Host) := do
  let (tree, id) ← h.tree.openFile path h.memories.size
  let memories := if id < h.memories.size then h.memories else h.memories.push #[]
  pure (id, { h with tree, memories })

/-- Puts a file with some bytes in place of what a path names, unless that cannot be opened. -/
def putFile (h : Host) (path : String) (bytes : Segment.Memory) : Bool × Host :=
  match h.openFile path with
  | .error _ => (false, h)
  | .ok (id, h) => (true, h.setMemory id bytes)

def padTo (m : Segment.Memory) (length : Nat) : Segment.Memory :=
  m ++ Array.replicate (length - m.size) 0

def patchFile (h : Host) (path : String) (offset : Nat) (bytes : List UInt8) : Bool × Host :=
  match h.openFile path with
  | .error _ => (false, h)
  | .ok (id, h) =>
    let grown (m : Segment.Memory) := if bytes.isEmpty then m else padTo m (offset + bytes.length)
    (true, h.modifyMemory id fun m => Segment.poke (grown m) offset bytes)

def resizeFile (h : Host) (path : String) (length : Nat) : Bool × Host :=
  match h.openFile path with
  | .error _ => (false, h)
  | .ok (id, h) => (true, h.modifyMemory id fun m => padTo (m.extract 0 length) length)

/-- The bytes of a window of a file that has them all; an empty window needs only something there
to open. -/
def fileBytes? (h : Host) (path : String) (offset count : Nat) : Option (List UInt8) :=
  if count = 0 then if h.tree.contains path then some [] else none
  else
    match h.tree.file? path with
    | none => none
    | some id =>
      let m := h.memory id
      if offset + count ≤ m.size then some (Segment.peek m offset count) else none

/-! ## Segments -/

def attachSegment (h : Host) (path : String) : Except Fault (Nat × Nat) :=
  match h.tree.node? path with
  | none => throw (.notInitialized (.segmentAbsent path))
  | some .directory => throw (.transport (.segment (.unopened path .isDirectory)))
  | some .device => throw (.transport (.segment (.short path 0)))
  | some (.file id) => do
    let areaSize ← Segment.attach path (h.memory id)
    pure (id, areaSize)

/-- Refuses a path whose segment belongs to a running server. -/
def checkStale (h : Host) (path : String) : Except Fault Unit :=
  match h.attachSegment path with
  | .error _ => pure ()
  | .ok (id, _) =>
    let age := Segment.age (h.memory id) h.clock
    if age < Segment.liveWithin then throw (.transport (.segment (.live path age))) else pure ()

def makeParent (h : Host) (path : String) : Except Fault Unit × Host :=
  match Path.parent? path with
  | none => (pure (), h)
  | some parent =>
    let (r, tree) := h.tree.makeDirectories parent
    (r.mapError fun cause => .transport (.segment (.directory parent cause)), { h with tree })

/-- Why a segment could not be made in the file of a path. -/
def unmade (path : String) : PathFault → Fault
  | .invalid => .transport (.segment (.unsized path .invalid))
  | cause => .transport (.segment (.unopened path cause))

/-- Makes a segment, or makes the one of a dead server anew in the same file. Directories that were
made for it stay when it fails. -/
def createSegment (h : Host) (path : String) (areaSize : Nat) : Except Fault Nat × Host :=
  match Segment.checkAreaSize areaSize with
  | .error e => (.error e, h)
  | .ok _ =>
    match h.makeParent path with
    | (.error e, h) => (.error e, h)
    | (.ok _, h) =>
      match h.checkStale path, h.openFile path with
      | .error e, _ => (.error e, h)
      | _, .error cause => (.error (unmade path cause), h)
      | _, .ok (id, h) =>
        let memory := Segment.fresh areaSize (UInt64.ofNat h.clock)
        (.ok id, { h.setMemory id memory with latest := some id })

def createServer (h : Host) (path : String) (areaSize : Nat) (lockLimit : Duration) :
    Except Fault Nat × Host :=
  match h.createSegment path areaSize with
  | (.error e, h) => (.error e, h)
  | (.ok memory, h) =>
    let s : HostedServer := ⟨Server.new lockLimit, path, areaSize, memory⟩
    (.ok h.servers.size, { h with servers := h.servers.push (some s) })

def server? (h : Host) (i : Nat) : Option HostedServer := (h.servers[i]?).join

/-- Drops a server, which removes the file of its path, whoever made it. -/
def dropServer (h : Host) (i : Nat) : Bool × Host :=
  match h.server? i with
  | none => (false, h)
  | some s =>
    (true, { h with servers := h.servers.setIfInBounds i none, tree := h.tree.remove s.path })

def attachClient (h : Host) (path : String) (limits : ClientLimits) :
    Except Fault (Nat × Host) := do
  let (memory, areaSize) ← h.attachSegment path
  let c : HostedClient := ⟨⟨areaSize, limits, none⟩, memory⟩
  pure (h.clients.size, { h with clients := h.clients.push c })

/-! ## Server -/

/-- The time that a cycle spends on locks that are taken: one limit for an outcome that says so, and
one for the reply lock, whose timeout only delays the signal. -/
def pollWait (s : HostedServer) (c : Server.Cycle ImageView) (replyLockFree : Bool) : Duration :=
  let limit := s.server.lockLimit.nanos
  let waited :=
    match c.outcome with
    | .error (.transport (.lockTimeout _)) => limit
    | _ => 0
  ⟨waited + if c.woke && !replyLockFree then limit else 0⟩

/-- One cycle of a server. With `steal`, another process takes the mailbox lock right before a
command is carried out, and keeps it. -/
def pollServer (h : Host) (i : Nat) (steal : Bool) : Option (Except Fault PollOutcome × Host) :=
  match h.server? i with
  | none => none
  | some s =>
    let m := h.memory s.memory
    let mailbox := Segment.mailbox m
    let free := Segment.isFree m .mailbox
    let stolen := steal && free && s.server.willCarryOut mailbox
    let locks : Server.Locks := ⟨free, Segment.isFree m .data, free && !stolen⟩
    match Segment.data m s.areaSize with
    | .error f => some (.error f, h)
    | .ok data =>
      let c := s.server.poll mailbox data locks
      let m := Segment.setData (Segment.setMailbox m c.mailbox) c.data
      let m := if c.woke then Segment.raiseSignal m else m
      let m := if stolen then Segment.takeLock m .mailbox else m
      let h := (h.setMemory s.memory m).wait (pollWait s c (Segment.isFree m .reply))
      let h := { h with
        servers := h.servers.setIfInBounds i (some { s with server := c.server })
        holds := if stolen then h.holds ++ [(.mailbox, s.memory)] else h.holds }
      some (c.outcome, h)

def mailboxSnapshot (h : Host) (i : Nat) : Option (Except Fault Mailbox × Host) :=
  match h.server? i with
  | none => none
  | some s =>
    let (r, h) := h.acquire s.memory .mailbox s.server.lockLimit
    some (r.map fun _ => Segment.mailbox (h.memory s.memory), h)

def heartbeat (h : Host) (i : Nat) : Host :=
  match h.server? i with
  | none => h
  | some s =>
    h.modifyMemory s.memory fun m => Segment.setLong m Segment.Layout.heartbeatAt
      (UInt64.ofNat h.clock)

/-! ## Client -/

structure Pending where
  command : Command
  observed : UInt32

def setClient (h : Host) (i : Nat) (c : HostedClient) : Host :=
  { h with clients := h.clients.setIfInBounds i c }

/-- The first half of a send: checks the command and posts its request. -/
def beginSend (h : Host) (i : Nat) (command : Command) : Except Fault Pending × Host :=
  match h.clients[i]? with
  | none => (throw (.transport .notConnected), h)
  | some c =>
    match c.client.prepare command with
    | .error f => (.error f, h)
    | .ok values =>
      match h.acquire c.memory .mailbox c.client.limits.lock with
      | (.error f, h) => (.error f, h)
      | (.ok _, h) =>
        let m := h.memory c.memory
        let p := c.client.post (Segment.mailbox m) (Segment.isFree m .reply) command.id values
        let h := h.modifyMemory c.memory (Segment.setMailbox · p.mailbox)
        let h := h.setClient i { c with client := { c.client with gate := p.gate } }
        match p.result with
        | .ok _ => (.ok ⟨command, Segment.sequence m⟩, h)
        | .error (.transport (.lockTimeout d)) => (.error (.transport (.lockTimeout d)), h.wait d)
        | .error f => (.error f, h)

/-- The second half of a send: waits for the signal and takes the reply. -/
def endSend (h : Host) (i : Nat) (p : Pending) : Except Fault Int32 × Host :=
  match h.clients[i]? with
  | none => (throw (.transport .notConnected), h)
  | some c =>
    let limits := c.client.limits
    if (Signal.mk (Segment.sequence (h.memory c.memory))).wakes p.observed then
      match h.acquire c.memory .mailbox limits.lock with
      | (.error f, h) => (.error f, h)
      | (.ok _, h) =>
        let (r, mailbox) := Client.collect (Segment.mailbox (h.memory c.memory))
        let h := h.modifyMemory c.memory (Segment.setMailbox · mailbox)
        (do let (echo, payload) ← r; Client.judge p.command echo payload, h)
    else
      let h := h.setClient i { c with client := c.client.giveUp p.command.id }
      (throw (.transport (.replyTimeout limits.reply)), h.wait limits.reply)

/-- The memory that another process sees under a path: that of its file, or where there is none,
that of the segment made last. -/
def outside? (h : Host) (path : String) : Option Nat := (h.tree.file? path).or h.latest

/-- A send that is answered by `serve`, which runs once the request is seen under a path. -/
def send {α : Type} (h : Host) (path : String) (i : Nat) (command : Command)
    (serve : Host → α × Host) : Except Fault Int32 × Option α × Host :=
  match h.beginSend i command with
  | (.error f, h) => (.error f, none, h)
  | (.ok p, h) =>
    if (h.clients[i]?.map (·.memory)) == h.outside? path then
      let (a, h) := serve h
      let (r, h) := h.endSend i p
      (r, some a, h)
    else
      let (r, h) := h.endSend i p
      (r, none, h)

def drain (h : Host) (i : Nat) : Except Fault Bool × Host :=
  match h.clients[i]? with
  | none => (throw (.transport .notConnected), h)
  | some c =>
    match h.acquire c.memory .mailbox c.client.limits.lock with
    | (.error f, h) => (.error f, h)
    | (.ok _, h) =>
      let (found, client, mailbox) := c.client.drain (Segment.mailbox (h.memory c.memory))
      let h := h.modifyMemory c.memory (Segment.setMailbox · mailbox)
      (.ok found, h.setClient i { c with client })

def isAlive (h : Host) (i : Nat) (within : Nat) : Bool :=
  match h.clients[i]? with
  | none => false
  | some c => Segment.age (h.memory c.memory) h.clock < within

/-- Runs a step on the process data of a file under its data lock. -/
def withData {α : Type} (h : Host) (memory areaSize : Nat) (limit : Duration)
    (f : ImageView → α × ImageView) : Except Fault α × Host :=
  match h.acquire memory .data limit with
  | (.error e, h) => (.error e, h)
  | (.ok _, h) =>
    match Segment.data (h.memory memory) areaSize with
    | .error e => (.error e, h)
    | .ok v =>
      let (a, v) := f v
      (.ok a, h.modifyMemory memory (Segment.setData · v))

/-- A client's copy of the process data over an image of the same size. -/
def readData (h : Host) (i : Nat) (target : Image) : Except Fault Image × Host :=
  match h.clients[i]? with
  | none => (throw (.transport .notConnected), h)
  | some c =>
    let (r, h) := h.withData c.memory c.client.areaSize c.client.limits.lock fun v =>
      (v.copyTo target, v)
    (do (← r), h)

/-! ## Other processes -/

/-- Takes a lock and keeps it. -/
def hold (h : Host) (path : String) (l : Segment.LockName) : Bool × Host :=
  match h.outside? path with
  | none => (false, h)
  | some id =>
    if Segment.isFree (h.memory id) l then
      (true, { h.modifyMemory id (Segment.takeLock · l) with holds := h.holds ++ [(l, id)] })
    else (false, h)

/-- Gives back the lock of a name that was kept longest. -/
def release (h : Host) (l : Segment.LockName) : Bool × Host :=
  match h.holds.find? (·.1 == l) with
  | none => (false, h)
  | some (_, id) =>
    (true, { h.modifyMemory id (Segment.freeLock · l) with
      holds := h.holds.erase (l, id) })

/-- Changes the mailbox under its lock, when that is free. -/
def changeMailbox (h : Host) (id : Nat) (f : Mailbox → Mailbox) : Option Mailbox × Host :=
  let m := h.memory id
  if Segment.isFree m .mailbox then
    let mailbox := f (Segment.mailbox m)
    (some mailbox, h.setMemory id (Segment.setMailbox m mailbox))
  else (none, h)

def raiseSignal (h : Host) (id : Nat) : UInt32 × Host :=
  let m := Segment.raiseSignal (h.memory id)
  (Segment.sequence m, h.setMemory id m)

/-- A stand-in for a server changes the mailbox, raises the signal, and keeps the mailbox lock when
it has to. -/
def standIn (h : Host) (path : String) (f : Mailbox → Mailbox) (keep : Bool) : Host :=
  match h.outside? path with
  | none => h
  | some id =>
    let h := ((h.changeMailbox id f).2.raiseSignal id).2
    if keep then (h.hold path .mailbox).2 else h

/-- What the file of a path holds, when it is long enough for a mailbox. -/
def segmentMemory? (h : Host) (path : String) : Option Segment.Memory :=
  ((h.tree.file? path).map h.memory).filter (Segment.Layout.dataOffset ≤ ·.size)

end Host

end FieldImage
