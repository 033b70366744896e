import FieldImage.Proofs.Image.InPlace
import FieldImage.Proofs.Server.Execution

/-! A server on process data that it changes where they stand, so that what a request has changed
stays changed when the request fails. Serving a request so leaves the data that serving it as a
function from data to data gives. -/

namespace FieldImage

namespace Command

/-- The call on the process data that a command stands for. -/
def call? : Command → Option WriteCall
  | exit | ping => none
  | setBit a => some (.setBit a)
  | resetBit a => some (.resetBit a)
  | invertBit a => some (.invertBit a)
  | setBits as => some (.setBits as)
  | writeByte a v => some (.writeByte a v)
  | writeWord a v => some (.writeWord a v)
  | writeDWord a v => some (.writeDWord a v)
  | writeInt a v => some (.writeInt a v)
  | writeReal a v => some (.writeReal a v)

variable {ι : Type} [ByteImage ι]

def inPlace (c : Command) : InPlace ι Unit :=
  match c.call? with
  | some w => (fun _ => ()) <$> (Call.write w).inPlace
  | none => pure ()

theorem apply_eq_call (data : ι) (c : Command) :
    c.apply data = match c.call? with
      | some w => w.apply data
      | none => .ok data := by
  cases c <;> rfl

/-- A command makes its whole change or none, because its call does. -/
theorem atomic_inPlace [RuledImage ι] (data : ι) (c : Command) :
    InPlace.Atomic c.inPlace data ((c.apply data).map fun after => ((), after)) := by
  rw [apply_eq_call, inPlace]
  cases c.call? with
  | none => rfl
  | some w =>
    show InPlace.Atomic ((fun _ => ()) <$> (Call.write w).inPlace) data
      ((w.apply data).map fun after => ((), after))
    have hdone := (Call.atomic_write data w).map fun _ => ()
    cases hw : w.apply data with
    | ok after | error f =>
      rw [hw] at hdone
      exact hdone

end Command

/-- What a request gives besides the data, and the data. -/
def Execution.apart {ι : Type} (e : Execution ι) : Execution Unit × ι :=
  (⟨e.code, (), e.exit⟩, e.data)

namespace Server

/-- What a cycle ends with besides the data, and the data. -/
def Cycle.apart {ι : Type} (c : Cycle ι) : Cycle Unit × ι :=
  (⟨c.server, c.mailbox, (), c.woke, c.outcome⟩, c.data)

variable {ι : Type} [ByteImage ι]

omit [ByteImage ι] in
theorem finish_apart (s : Server) (mailbox : Mailbox) (data : ι) (free : Bool)
    (command code : Int32) (outcome : Except Fault PollOutcome) :
    (s.finish mailbox data free command code outcome).apart =
      (s.finish mailbox () free command code outcome, data) := by
  cases free with
  | true | false => rfl

def carryOutInPlace (s : Server) (dataFree : Bool) (c : Command) : InPlace ι (Execution Unit) :=
  match c with
  | .exit => pure ⟨c.success, (), true⟩
  | .ping => pure ⟨c.success, (), false⟩
  | c => do
    ofExcept (acquire s.lockLimit dataFree)
    c.inPlace
    pure ⟨c.success, (), false⟩

def dispatchInPlace (s : Server) (dataFree : Bool) (command : Int32)
    (payload : Option (List Int32)) : InPlace ι (Execution Unit) := do
  s.carryOutInPlace dataFree (← ofExcept (decodeRequest command payload))

def serveInPlace (s : Server) (mailbox : Mailbox) (locks : Locks) (command : Int32)
    (payload : Option (List Int32)) : StateT ι Option (Cycle Unit) := do
  let r ← (s.dispatchInPlace locks.data command payload).run
  pure ((s.account command r).finish mailbox () locks.reply command (replyCode r)
    (r.map fun _ => .served command))

variable [RuledImage ι]

/-- A command that writes takes the data lock first. -/
theorem atomic_underLock (s : Server) (dataFree : Bool) (data : ι) (c : Command) :
    InPlace.Atomic
      (do
        ofExcept (acquire s.lockLimit dataFree)
        c.inPlace
        pure (⟨c.success, (), false⟩ : Execution Unit))
      data
      (Except.map Execution.apart do
        acquire s.lockLimit dataFree
        let after ← c.apply data
        pure ⟨c.success, after, false⟩) := by
  have hlock := InPlace.looks_ofExcept (acquire s.lockLimit dataFree) data
  have hcommand := (c.atomic_inPlace data).map fun _ =>
    (⟨c.success, (), false⟩ : Execution Unit)
  have hboth := hlock.bind_atomic fun _ => hcommand
  cases hacquire : acquire s.lockLimit dataFree with
  | error f =>
    rw [hacquire] at hboth
    exact hboth
  | ok u =>
    cases happly : c.apply data with
    | ok after | error f =>
      rw [hacquire, happly] at hboth
      exact hboth

theorem atomic_carryOutInPlace (s : Server) (dataFree : Bool) (data : ι) (c : Command) :
    InPlace.Atomic (s.carryOutInPlace dataFree c) data
      ((s.carryOut dataFree data c).map Execution.apart) := by
  cases c with
  | exit | ping => rfl
  | _ => exact s.atomic_underLock dataFree data _

/-- A request that does not decode, cannot have the data lock or is refused leaves the data as they
were, and any other makes the whole change of its command. -/
theorem atomic_dispatchInPlace (s : Server) (dataFree : Bool) (data : ι) (command : Int32)
    (payload : Option (List Int32)) :
    InPlace.Atomic (s.dispatchInPlace dataFree command payload) data
      ((s.dispatch dataFree data command payload).map Execution.apart) := by
  have hdecode := InPlace.looks_ofExcept (decodeRequest command payload) data
  have hboth := hdecode.bind_atomic fun c => s.atomic_carryOutInPlace dataFree data c
  rw [dispatch, dispatchInPlace]
  cases hcommand : decodeRequest command payload with
  | error f | ok c =>
    rw [hcommand] at hboth
    exact hboth

/-- A request that is served on data that are changed where they stand ends, and leaves the data, as
one that is served on data as a value. -/
theorem serveInPlace_run (s : Server) (mailbox : Mailbox) (data : ι) (locks : Locks)
    (command : Int32) (payload : Option (List Int32)) :
    s.serveInPlace mailbox locks command payload data =
      some (s.serve mailbox data locks command payload).apart := by
  have hdispatch : s.dispatchInPlace locks.data command payload data = _ :=
    s.atomic_dispatchInPlace locks.data data command payload
  rw [serve, serveInPlace]
  show (s.dispatchInPlace locks.data command payload data).bind _ = _
  rw [hdispatch]
  cases s.dispatch locks.data data command payload with
  | ok e | error f => exact congrArg some (finish_apart ..).symm

end Server

end FieldImage
