import FieldImage.Image.Access
import FieldImage.Mailbox

/-! The server of a mailbox. A cycle copies a request out under the mailbox lock, carries it out
under the data lock, and writes the reply under the mailbox lock again. A request is carried out
once: when its reply cannot be written the server keeps it, and the next cycles only try to write
it. -/

namespace FieldImage

def Command.apply {ι : Type} [ByteImage ι] (data : ι) : Command → Except Fault ι
  | .exit => pure data
  | .ping => pure data
  | .setBit a => ByteImage.setBit data a
  | .resetBit a => ByteImage.resetBit data a
  | .invertBit a => ByteImage.invertBit data a
  | .setBits as => ByteImage.setBits data as
  | .writeByte a v => ByteImage.writeByte data a v
  | .writeWord a v => ByteImage.writeWord data a v
  | .writeDWord a v => ByteImage.writeDWord data a v
  | .writeInt a v => ByteImage.writeInt data a v
  | .writeReal a v => ByteImage.writeReal data a v

inductive PollOutcome where
  | idle
  /-- The mailbox was locked, and the cycle was skipped. -/
  | contended
  | served (command : Int32)
  /-- Both flags were up, and the mailbox was cleared. -/
  | reset (lost : Int32)
deriving DecidableEq, Repr

/-- What a server keeps between cycles. Requests and resets are counted without a bound; counters of
64 bits would show them modulo `2 ^ 64`. -/
structure Server where
  lockLimit : Duration
  exitRequested : Bool
  served : Nat
  failed : Nat
  resets : Nat
  /-- The command and code of a request that was carried out and is not answered yet. -/
  unposted : Option (Int32 × Int32)
deriving DecidableEq, Repr

/-- What a server finds in the mailbox. -/
inductive Incoming where
  | nothing
  | conflict (lost : Int32)
  | request (command : Int32) (payload : Option (List Int32))
deriving DecidableEq, Repr

/-- What the flags of a mailbox mean to the server. -/
def Mailbox.incoming (m : Mailbox) : Incoming :=
  if m.requestPending then
    if m.replyPending then .conflict m.command else .request m.command m.payload?
  else .nothing

/-- A request that was carried out: its reply code, the data after it, and whether it ends the
server. -/
structure Execution (ι : Type) where
  code : Int32
  data : ι
  exit : Bool

namespace Server

variable {ι : Type} [ByteImage ι]

def new (lockLimit : Duration) : Server := ⟨lockLimit, false, 0, 0, 0, none⟩

/-- What an attempt to take a lock gives: nothing when it is free, else a timeout. -/
def acquire (limit : Duration) (free : Bool) : Except Fault Unit :=
  if free then pure () else throw (.transport (.lockTimeout limit))

def decodeRequest (command : Int32) (payload : Option (List Int32)) : Except Fault Command :=
  match payload with
  | some values => Command.decode command values
  | none => throw (.protocol (.malformed .requestLength))

/-- Carries a command out; only a command that writes takes the data lock. -/
def carryOut (s : Server) (dataFree : Bool) (data : ι) (c : Command) : Except Fault (Execution ι) :=
  match c with
  | .exit => pure ⟨c.success, data, true⟩
  | .ping => pure ⟨c.success, data, false⟩
  | c => do
    acquire s.lockLimit dataFree
    let data ← c.apply data
    pure ⟨c.success, data, false⟩

def dispatch (s : Server) (dataFree : Bool) (data : ι) (command : Int32)
    (payload : Option (List Int32)) : Except Fault (Execution ι) := do
  s.carryOut dataFree data (← decodeRequest command payload)

def replyCode (r : Except Fault (Execution ι)) : Int32 :=
  match r with
  | .ok e => e.code
  | .error _ => Command.failed

/-- The server after a request: the request is counted, and its reply is not written yet. -/
def account (s : Server) (command : Int32) (r : Except Fault (Execution ι)) : Server :=
  match r with
  | .ok e =>
    { s with
      served := s.served + 1
      exitRequested := s.exitRequested || e.exit
      unposted := some (command, e.code) }
  | .error _ => { s with failed := s.failed + 1, unposted := some (command, Command.failed) }

/-- Which locks a cycle finds free. -/
structure Locks where
  /-- The mailbox lock when the request is copied out. -/
  request : Bool
  data : Bool
  /-- The mailbox lock when the reply is written. -/
  reply : Bool

/-- A cycle's end: the server, what it shares, whether it woke the waiters, and its outcome. -/
structure Cycle (ι : Type) where
  server : Server
  mailbox : Mailbox
  data : ι
  woke : Bool
  outcome : Except Fault PollOutcome

/-- Writes the reply that is due, and ends the cycle with an outcome when that succeeds. -/
def finish (s : Server) (mailbox : Mailbox) (data : ι) (free : Bool) (command code : Int32)
    (outcome : Except Fault PollOutcome) : Cycle ι :=
  match acquire s.lockLimit free with
  | .ok _ => ⟨{ s with unposted := none }, Mailbox.postReply command code, data, true, outcome⟩
  | .error e => ⟨s, mailbox, data, false, .error e⟩

/-- What a cycle answers that writes a reply left over from an earlier one. -/
def deferredOutcome (command code : Int32) : Except Fault PollOutcome :=
  if code = Command.failed then .error (.protocol (.commandFailed command code))
  else .ok (.served command)

def serve (s : Server) (mailbox : Mailbox) (data : ι) (locks : Locks) (command : Int32)
    (payload : Option (List Int32)) : Cycle ι :=
  let r := s.dispatch locks.data data command payload
  let after :=
    match r with
    | .ok e => e.data
    | .error _ => data
  (s.account command r).finish mailbox after locks.reply command (replyCode r)
    (r.map fun _ => .served command)

def poll (s : Server) (mailbox : Mailbox) (data : ι) (locks : Locks) : Cycle ι :=
  match s.unposted with
  | some (command, code) =>
    s.finish mailbox data locks.reply command code (deferredOutcome command code)
  | none =>
    if locks.request then
      match mailbox.incoming with
      | .nothing => ⟨s, mailbox, data, false, .ok .idle⟩
      | .conflict lost =>
        ⟨{ s with resets := s.resets + 1 }, Mailbox.idle, data, false, .ok (.reset lost)⟩
      | .request command payload => s.serve mailbox data locks command payload
    else ⟨s, mailbox, data, false, .ok .contended⟩

/-- Whether a cycle would carry out a command now: nothing is left to answer, and the mailbox holds
a request that reads as one. -/
def willCarryOut (s : Server) (mailbox : Mailbox) : Bool :=
  match s.unposted, mailbox.incoming with
  | none, .request command payload => (decodeRequest command payload).isOk
  | _, _ => false

/-- What happens before a turn of the serving loop: others change the mailbox and the data, the stop
flag is up or not, and locks are free or not. -/
structure Turn (ι : Type) where
  stop : Bool
  mailbox : Mailbox
  data : ι
  locks : Locks

/-- The serving loop: one cycle each turn until EXIT is served or the stop flag is up. It gives the
cycles that ran. -/
def run (s : Server) : List (Turn ι) → Server × List (Cycle ι)
  | [] => (s, [])
  | t :: turns =>
    if t.stop || s.exitRequested then (s, [])
    else
      let c := s.poll t.mailbox t.data t.locks
      let (s, cycles) := c.server.run turns
      (s, c :: cycles)

end Server

end FieldImage
