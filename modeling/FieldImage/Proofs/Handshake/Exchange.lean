import FieldImage.Client
import FieldImage.Lock
import FieldImage.Server
import Mathlib.Logic.Function.Basic

/-! A server and its clients at one mailbox, step by step. A step is one section that a party runs
with a lock held, or the end of a wait; between two steps any other party may go on. Which locks a
step finds free, and which waits end early, is part of the step. Client `k` is the `k`th client, and
there is no bound on their number. -/

namespace FieldImage

inductive Stage where
  | resting
  /-- The request was posted, and the signal was sampled with it. -/
  | waiting (command : Command) (observed : UInt32)
  /-- The signal was raised after the sample. -/
  | woken (command : Command)

inductive Phase where
  | resting
  /-- A request was copied out. -/
  | copied (command : Int32) (payload : Option (List Int32))
  /-- The request was carried out, and its reply comes next. -/
  | answering (command code : Int32) (outcome : Except Fault PollOutcome)
  /-- The reply was written, and the signal comes next. -/
  | signalling (outcome : Except Fault PollOutcome)

/-- What a server and its clients share, and what each keeps for itself. -/
structure Exchange (ι : Type) where
  mailbox : Mailbox
  signal : Signal
  data : ι
  server : Server
  phase : Phase
  client : Nat → Client
  stage : Nat → Stage

/-- A step, with the locks that it finds free. -/
inductive Action (ι : Type) where
  /-- Client `k` begins a send, up to the end of its post section. -/
  | send (k : Nat) (command : Command) (mailboxFree replyFree : Bool)
  | wake (k : Nat)
  /-- Client `k` has waited long enough. -/
  | giveUp (k : Nat)
  /-- The reply section of client `k`. -/
  | collect (k : Nat) (mailboxFree : Bool)
  | drain (k : Nat) (mailboxFree : Bool)
  | copyOut (mailboxFree : Bool)
  | carryOut (dataFree : Bool)
  | writeReply (mailboxFree : Bool)
  | notify
  /-- Somebody else changes the process data. -/
  | edit (data : ι)

inductive Event (ι : Type) where
  /-- A send ended before its request was posted. -/
  | turnedBack (k : Nat) (command : Command) (cause : Fault)
  /-- A request was posted, and the signal for an earlier reply was due or not. -/
  | posted (k : Nat) (command : Command) (signalDue : Bool)
  /-- A send ended after its request was posted, and took the reply in the mailbox or not. -/
  | returned (k : Nat) (result : Except Fault Int32) (took : Bool)
  | copiedOut (command : Int32) (payload : Option (List Int32))
  | carriedOut (result : Except Fault Int32) (before after : ι)
  | replied (command code : Int32)
  /-- A cycle of the server ended. -/
  | polled (outcome : Except Fault PollOutcome)

namespace Exchange

variable {ι : Type} [ByteImage ι]

/-- Whether the signal for a reply in the mailbox is still to come. -/
def signalDue (s : Exchange ι) : Bool :=
  match s.phase with
  | .signalling _ => true
  | _ => false

/-- A send checks its command, takes the mailbox lock and runs its post section. Only a client at
rest gets past the checks; a send of a busy client waits for the one before it. -/
def send (s : Exchange ι) (k : Nat) (command : Command) (mailboxFree replyFree : Bool) :
    Exchange ι × Option (Event ι) :=
  let c := s.client k
  match c.prepare command, s.stage k with
  | .error f, _ => (s, some (.turnedBack k command f))
  | .ok values, .resting =>
    match Server.acquire c.limits.lock mailboxFree with
    | .error f => (s, some (.turnedBack k command f))
    | .ok _ =>
      let p := c.post s.mailbox replyFree command.id values
      let t := { s with
        mailbox := p.mailbox
        client := Function.update s.client k { c with gate := p.gate } }
      match p.result with
      | .error f => (t, some (.turnedBack k command f))
      | .ok _ =>
        ({ t with stage := Function.update s.stage k (.waiting command s.signal.sequence) },
          some (.posted k command s.signalDue))
  | .ok _, _ => (s, none)

def wake (s : Exchange ι) (k : Nat) : Exchange ι × Option (Event ι) :=
  match s.stage k with
  | .waiting command observed =>
    if s.signal.wakes observed then
      ({ s with stage := Function.update s.stage k (.woken command) }, none)
    else (s, none)
  | _ => (s, none)

def giveUp (s : Exchange ι) (k : Nat) : Exchange ι × Option (Event ι) :=
  match s.stage k with
  | .waiting command _ =>
    let c := s.client k
    ({ s with
      client := Function.update s.client k (c.giveUp command.id)
      stage := Function.update s.stage k .resting },
      some (.returned k (.error (.transport (.replyTimeout c.limits.reply))) false))
  | _ => (s, none)

def collect (s : Exchange ι) (k : Nat) (mailboxFree : Bool) : Exchange ι × Option (Event ι) :=
  match s.stage k with
  | .woken command =>
    let t := { s with stage := Function.update s.stage k .resting }
    match Server.acquire (s.client k).limits.lock mailboxFree with
    | .error f => (t, some (.returned k (.error f) false))
    | .ok _ =>
      let (r, mailbox) := Client.collect s.mailbox
      ({ t with mailbox },
        some (.returned k (do let (echo, payload) ← r; Client.judge command echo payload) r.isOk))
  | _ => (s, none)

def drain (s : Exchange ι) (k : Nat) (mailboxFree : Bool) : Exchange ι × Option (Event ι) :=
  match s.stage k, Server.acquire (s.client k).limits.lock mailboxFree with
  | .resting, .ok _ =>
    let (_, client, mailbox) := (s.client k).drain s.mailbox
    ({ s with mailbox, client := Function.update s.client k client }, none)
  | _, _ => (s, none)

/-- The first section of a cycle, which only a server without a reply left over gets to. -/
def copyOut (s : Exchange ι) (mailboxFree : Bool) : Exchange ι × Option (Event ι) :=
  match s.phase, s.server.unposted with
  | .resting, none =>
    if mailboxFree then
      match s.mailbox.incoming with
      | .nothing => (s, some (.polled (.ok .idle)))
      | .conflict lost =>
        ({ s with
          mailbox := Mailbox.idle
          server := { s.server with resets := s.server.resets + 1 } },
          some (.polled (.ok (.reset lost))))
      | .request command payload =>
        ({ s with phase := .copied command payload }, some (.copiedOut command payload))
    else (s, some (.polled (.ok .contended)))
  | _, _ => (s, none)

def carryOut (s : Exchange ι) (dataFree : Bool) : Exchange ι × Option (Event ι) :=
  match s.phase with
  | .copied command payload =>
    let r := s.server.dispatch dataFree s.data command payload
    let after :=
      match r with
      | .ok e => e.data
      | .error _ => s.data
    ({ s with
      data := after
      server := s.server.account command r
      phase := .answering command (Server.replyCode r) (r.map fun _ => .served command) },
      some (.carriedOut (r.map fun e => e.code) s.data after))
  | _ => (s, none)

/-- The reply is written, and the signal is due, or the cycle ends and leaves the reply over. -/
def answer (s : Exchange ι) (mailboxFree : Bool) (command code : Int32)
    (outcome : Except Fault PollOutcome) : Exchange ι × Option (Event ι) :=
  let c := s.server.finish s.mailbox s.data mailboxFree command code outcome
  let t := { s with server := c.server, mailbox := c.mailbox }
  if c.woke then ({ t with phase := .signalling c.outcome }, some (.replied command code))
  else ({ t with phase := .resting }, some (.polled c.outcome))

/-- The section that writes the reply of this cycle, or the one left over from an earlier cycle. -/
def writeReply (s : Exchange ι) (mailboxFree : Bool) : Exchange ι × Option (Event ι) :=
  match s.phase, s.server.unposted with
  | .answering command code outcome, _ => s.answer mailboxFree command code outcome
  | .resting, some (command, code) =>
    s.answer mailboxFree command code (Server.deferredOutcome command code)
  | _, _ => (s, none)

/-- The signal is raised, whether the reply lock could be had or not. -/
def notify (s : Exchange ι) : Exchange ι × Option (Event ι) :=
  match s.phase with
  | .signalling outcome =>
    ({ s with signal := s.signal.raise, phase := .resting }, some (.polled outcome))
  | _ => (s, none)

/-- One step. A step that its party is not ready for changes nothing. -/
def step (s : Exchange ι) : Action ι → Exchange ι × Option (Event ι)
  | .send k command mailboxFree replyFree => s.send k command mailboxFree replyFree
  | .wake k => s.wake k
  | .giveUp k => s.giveUp k
  | .collect k mailboxFree => s.collect k mailboxFree
  | .drain k mailboxFree => s.drain k mailboxFree
  | .copyOut mailboxFree => s.copyOut mailboxFree
  | .carryOut dataFree => s.carryOut dataFree
  | .writeReply mailboxFree => s.writeReply mailboxFree
  | .notify => s.notify
  | .edit data => ({ s with data }, none)

def run (s : Exchange ι) : List (Action ι) → Exchange ι × List (Event ι)
  | [] => (s, [])
  | a :: as =>
    let (t, e) := s.step a
    let (u, es) := t.run as
    (u, e.toList ++ es)

theorem run_append (s : Exchange ι) (as bs : List (Action ι)) :
    s.run (as ++ bs) =
      (((s.run as).1.run bs).1, (s.run as).2 ++ ((s.run as).1.run bs).2) := by
  induction as generalizing s with
  | nil => rfl
  | cons a as ih => simp only [List.cons_append, run, ih, List.append_assoc]

theorem run_concat (s : Exchange ι) (as : List (Action ι)) (a : Action ι) :
    s.run (as ++ [a]) =
      (((s.run as).1.step a).1, (s.run as).2 ++ ((s.run as).1.step a).2.toList) := by
  simp [run_append, run]

end Exchange

end FieldImage
