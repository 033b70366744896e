import FieldImage.Command

/-! The mailbox: one record that holds a request or its reply, and is idle otherwise. Its flags are
words; any word but zero is a raised flag. -/

namespace FieldImage

structure Mailbox where
  command : Int32
  values : Vector Int32 Command.capacity
  length : Int32
  request : Int32
  reply : Int32
deriving DecidableEq, Repr

namespace Mailbox

def pad (values : List Int32) : Vector Int32 Command.capacity :=
  Vector.ofFn fun i => values[i.val]?.getD 0

def idle : Mailbox := ⟨0, pad [], 0, 0, 0⟩

instance : Inhabited Mailbox := ⟨idle⟩

def requestPending (m : Mailbox) : Bool := m.request != 0

def replyPending (m : Mailbox) : Bool := m.reply != 0

/-- The payload, when its length is within the mailbox. -/
def payload? (m : Mailbox) : Option (List Int32) :=
  if 0 ≤ m.length ∧ m.length.toInt ≤ Command.capacity then
    some (m.values.toList.take m.length.toInt.toNat)
  else none

/-- Holds a request of at most `Command.capacity` values. -/
def postRequest (command : Int32) (values : List Int32) : Mailbox :=
  ⟨command, pad values, Int32.ofNat values.length, 1, 0⟩

def postReply (command code : Int32) : Mailbox := ⟨command, pad [code], 1, 0, 1⟩

/-- Fields put into a mailbox from outside; new values bring their length. -/
structure Patch where
  command : Option Int32
  values : Option (List Int32)
  length : Option Int32
  request : Option Int32
  reply : Option Int32

def patch (m : Mailbox) (p : Patch) : Mailbox :=
  let m := { m with command := p.command.getD m.command }
  let m :=
    match p.values with
    | some vs => { m with values := pad vs, length := Int32.ofNat vs.length }
    | none => m
  { m with
    length := p.length.getD m.length
    request := p.request.getD m.request
    reply := p.reply.getD m.reply }

end Mailbox

end FieldImage
