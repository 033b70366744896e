import FieldImage.Image.Access
import FieldImage.Mailbox

/-! The client side of a mailbox. A send checks the command, posts its request under the mailbox
lock, waits for the signal, and takes the reply under the mailbox lock. A client that gave up on a
reply remembers the command, and throws that reply away when it posts again. -/

namespace FieldImage

structure ClientLimits where
  reply : Duration
  lock : Duration
deriving DecidableEq, Repr

/-- A client's own state: the size of the image it writes to, its limits, and its gate, the command
of a request whose reply it gave up on. -/
structure Client where
  areaSize : Nat
  limits : ClientLimits
  gate : Option Int32
deriving DecidableEq, Repr

namespace Client

/-- Five seconds for a reply and one for a lock. -/
def defaultLimits : ClientLimits := ⟨Duration.ofSecs 5, Duration.ofSecs 1⟩

def checkAddress (c : Client) (width : UInt32) (a : Address) : Except Fault Unit :=
  a.validate Area.all (UInt32.ofNat c.areaSize) width

/-- The checks that the server will make, made before the mailbox is touched. -/
def prevalidate (c : Client) : Command → Except Fault Unit
  | .exit => pure ()
  | .ping => pure ()
  | .setBit a => c.checkAddress 1 a
  | .resetBit a => c.checkAddress 1 a
  | .invertBit a => c.checkAddress 1 a
  | .setBits as => as.forM (c.checkAddress 1)
  | .writeByte a _ => c.checkAddress 1 a
  | .writeWord a _ => c.checkAddress 2 a
  | .writeDWord a _ => c.checkAddress 4 a
  | .writeInt a _ => c.checkAddress 4 a
  | .writeReal a _ => c.checkAddress 4 a

def prepare (c : Client) (command : Command) : Except Fault (List Int32) := do
  c.prevalidate command
  command.encode

/-- Throws away the reply that the client gave up on, when it is there now. The gate opens then, and
also when the mailbox is idle. -/
def settle (gate : Option Int32) (m : Mailbox) : Option Int32 × Mailbox :=
  match gate with
  | none => (none, m)
  | some id =>
    if !m.requestPending && m.replyPending && m.command == id then (none, { m with reply := 0 })
    else if !m.requestPending && !m.replyPending then (none, m)
    else (some id, m)

structure Posting where
  gate : Option Int32
  mailbox : Mailbox
  result : Except Fault Unit

/-- The post section, with the mailbox locked: a busy mailbox is left alone, and the reply lock is
held for a moment to sample the signal. -/
def post (c : Client) (m : Mailbox) (replyLockFree : Bool) (id : Int32) (values : List Int32) :
    Posting :=
  let (gate, m) := settle c.gate m
  if m.requestPending || m.replyPending then
    ⟨gate, m, .error (.protocol (.notReady m.requestPending m.replyPending))⟩
  else if replyLockFree then ⟨gate, Mailbox.postRequest id values, .ok ()⟩
  else ⟨gate, m, .error (.transport (.lockTimeout c.limits.lock))⟩

/-- The reply section, with the mailbox locked: takes the command and the payload of the reply. -/
def collect (m : Mailbox) : Except Fault (Int32 × Option (List Int32)) × Mailbox :=
  if m.requestPending || !m.replyPending then
    (.error (.protocol (.outOfSequence m.requestPending m.replyPending)), m)
  else (.ok (m.command, m.payload?), { m with reply := 0 })

def judge (command : Command) (echo : Int32) (payload : Option (List Int32)) : Except Fault Int32 :=
  let id := command.id
  if echo ≠ id then throw (.protocol (.commandMismatch id echo))
  else
    match payload with
    | none => throw (.protocol (.malformed .replyLength))
    | some [code] =>
      if code = command.success then pure code
      else if code = Command.failed then throw (.protocol (.commandFailed id code))
      else throw (.protocol (.unexpectedReply id code))
    | some values => throw (.protocol (.lengthMismatch id "1" (Int32.ofNat values.length)))

def giveUp (c : Client) (id : Int32) : Client := { c with gate := some id }

/-- The drain section, with the mailbox locked: throws away a reply that nobody took. -/
def drain (c : Client) (m : Mailbox) : Bool × Client × Mailbox :=
  if !m.requestPending && m.replyPending then (true, { c with gate := none }, { m with reply := 0 })
  else (false, c, m)

end Client

end FieldImage
