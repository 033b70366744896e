import FieldImage.Proofs.Handshake.Exchange
import FieldImage.Proofs.Mailbox.Sections
import FieldImage.Proofs.Server.Execution

/-! What a step of an exchange can do. `Moves` lists the changes with the conditions under which
they happen, and `step_moves` says that there are no others. -/

namespace FieldImage.Exchange

variable {ι : Type}

/-- Why a send leaves everything as it was: its command fails the checks, the mailbox lock cannot be
had, or the mailbox holds something that is not this client's late reply. -/
inductive Refuses (s : Exchange ι) (k : Nat) (command : Command) : Fault → Prop where
  | unfit {f : Fault} (h : (s.client k).prepare command = .error f) : Refuses s k command f
  | locked {values : List Int32} (hprepare : (s.client k).prepare command = .ok values)
      (hstage : s.stage k = .resting) :
      Refuses s k command (.transport (.lockTimeout (s.client k).limits.lock))
  | busy {values : List Int32} (hprepare : (s.client k).prepare command = .ok values)
      (hstage : s.stage k = .resting) (h : ¬Client.Clears (s.client k).gate s.mailbox) :
      Refuses s k command
        (.protocol (.notReady s.mailbox.requestPending s.mailbox.replyPending))

/-- The reply that a server without a copied request has to write. -/
def Owes (s : Exchange ι) (command code : Int32) (outcome : Except Fault PollOutcome) : Prop :=
  s.phase = .answering command code outcome ∨
    s.phase = .resting ∧ s.server.unposted = some (command, code) ∧
      outcome = Server.deferredOutcome command code

/-- A send that has its locks and finds the mailbox clear posts its request. -/
theorem send_of_clears {s : Exchange ι} {k : Nat} {command : Command} {values : List Int32}
    (hprepare : (s.client k).prepare command = .ok values) (hstage : s.stage k = .resting)
    (h : Client.Clears (s.client k).gate s.mailbox) :
    s.send k command true true =
      ({ s with
        mailbox := Mailbox.postRequest command.id values
        client := Function.update s.client k { s.client k with gate := none }
        stage := Function.update s.stage k (.waiting command s.signal.sequence) },
        some (.posted k command s.signalDue)) := by
  simp only [send, hprepare, hstage, Server.acquire, Client.post_of_clears h, if_true]
  rfl

/-- A send that finds the mailbox busy ends there, and changes nothing. -/
theorem send_of_not_clears {s : Exchange ι} {k : Nat} {command : Command} {values : List Int32}
    (hprepare : (s.client k).prepare command = .ok values) (hstage : s.stage k = .resting)
    (h : ¬Client.Clears (s.client k).gate s.mailbox) (replyFree : Bool) :
    s.send k command true replyFree =
      (s, some (.turnedBack k command
        (.protocol (.notReady s.mailbox.requestPending s.mailbox.replyPending)))) := by
  simp only [send, hprepare, hstage, Server.acquire, Client.post_of_not_clears h, if_true]
  simp [pure, Except.pure]

variable [ByteImage ι]

/-- The changes that a step makes, with what an onlooker sees. -/
inductive Moves (s : Exchange ι) : Action ι → Option (Event ι) → Exchange ι → Prop where
  | stays (a : Action ι) (e : Option (Event ι)) (h : e = none ∨ ∃ o, e = some (.polled o)) :
      Moves s a e s
  | refuses (k : Nat) (command : Command) (mailboxFree replyFree : Bool) (f : Fault)
      (h : s.Refuses k command f) :
      Moves s (.send k command mailboxFree replyFree) (some (.turnedBack k command f)) s
  /-- The mailbox is cleared, but the reply lock cannot be had. -/
  | clears (k : Nat) (command : Command) (values : List Int32)
      (hprepare : (s.client k).prepare command = .ok values) (hstage : s.stage k = .resting)
      (h : Client.Clears (s.client k).gate s.mailbox) :
      Moves s (.send k command true false)
        (some (.turnedBack k command (.transport (.lockTimeout (s.client k).limits.lock))))
        { s with
          mailbox := (Client.settle (s.client k).gate s.mailbox).2
          client := Function.update s.client k { s.client k with gate := none } }
  | posts (k : Nat) (command : Command) (values : List Int32)
      (hprepare : (s.client k).prepare command = .ok values) (hstage : s.stage k = .resting)
      (h : Client.Clears (s.client k).gate s.mailbox) :
      Moves s (.send k command true true) (some (.posted k command s.signalDue))
        { s with
          mailbox := Mailbox.postRequest command.id values
          client := Function.update s.client k { s.client k with gate := none }
          stage := Function.update s.stage k (.waiting command s.signal.sequence) }
  | wakes (k : Nat) (command : Command) (observed : UInt32)
      (hstage : s.stage k = .waiting command observed) (h : s.signal.sequence ≠ observed) :
      Moves s (.wake k) none { s with stage := Function.update s.stage k (.woken command) }
  | givesUp (k : Nat) (command : Command) (observed : UInt32)
      (hstage : s.stage k = .waiting command observed) :
      Moves s (.giveUp k)
        (some (.returned k (.error (.transport (.replyTimeout (s.client k).limits.reply))) false))
        { s with
          client := Function.update s.client k { s.client k with gate := some command.id }
          stage := Function.update s.stage k .resting }
  /-- The client woke, but the mailbox lock cannot be had. -/
  | missesLock (k : Nat) (command : Command) (hstage : s.stage k = .woken command) :
      Moves s (.collect k false)
        (some (.returned k (.error (.transport (.lockTimeout (s.client k).limits.lock))) false))
        { s with stage := Function.update s.stage k .resting }
  /-- The client woke and finds no reply. -/
  | collectsEarly (k : Nat) (command : Command) (hstage : s.stage k = .woken command)
      (h : s.mailbox.requestPending = true ∨ s.mailbox.replyPending = false) :
      Moves s (.collect k true)
        (some (.returned k (.error (.protocol
          (.outOfSequence s.mailbox.requestPending s.mailbox.replyPending))) false))
        { s with stage := Function.update s.stage k .resting }
  | takes (k : Nat) (command : Command) (hstage : s.stage k = .woken command)
      (hrequest : s.mailbox.requestPending = false) (hreply : s.mailbox.replyPending = true) :
      Moves s (.collect k true)
        (some (.returned k (Client.judge command s.mailbox.command s.mailbox.payload?) true))
        { s with
          mailbox := { s.mailbox with reply := 0 }
          stage := Function.update s.stage k .resting }
  | drains (k : Nat) (hstage : s.stage k = .resting)
      (hrequest : s.mailbox.requestPending = false) (hreply : s.mailbox.replyPending = true) :
      Moves s (.drain k true) none
        { s with
          mailbox := { s.mailbox with reply := 0 }
          client := Function.update s.client k { s.client k with gate := none } }
  | copiesOut (hphase : s.phase = .resting) (hunposted : s.server.unposted = none)
      (hrequest : s.mailbox.requestPending = true) (hreply : s.mailbox.replyPending = false) :
      Moves s (.copyOut true) (some (.copiedOut s.mailbox.command s.mailbox.payload?))
        { s with phase := .copied s.mailbox.command s.mailbox.payload? }
  | resets (hphase : s.phase = .resting) (hunposted : s.server.unposted = none)
      (hrequest : s.mailbox.requestPending = true) (hreply : s.mailbox.replyPending = true) :
      Moves s (.copyOut true) (some (.polled (.ok (.reset s.mailbox.command))))
        { s with
          mailbox := Mailbox.idle
          server := { s.server with resets := s.server.resets + 1 } }
  | succeeds (dataFree : Bool) (command : Int32) (payload : Option (List Int32))
      (e : Execution ι) (hphase : s.phase = .copied command payload)
      (h : s.server.dispatch dataFree s.data command payload = .ok e) :
      Moves s (.carryOut dataFree) (some (.carriedOut (.ok e.code) s.data e.data))
        { s with
          data := e.data
          server := s.server.account command (.ok e)
          phase := .answering command e.code (.ok (.served command)) }
  | fails (dataFree : Bool) (command : Int32) (payload : Option (List Int32)) (f : Fault)
      (hphase : s.phase = .copied command payload)
      (h : s.server.dispatch dataFree s.data command payload = .error f) :
      Moves s (.carryOut dataFree) (some (.carriedOut (.error f) s.data s.data))
        { s with
          server := s.server.account command (.error f : Except Fault (Execution ι))
          phase := .answering command Command.failed (.error f) }
  | replies (command code : Int32) (outcome : Except Fault PollOutcome)
      (h : s.Owes command code outcome) :
      Moves s (.writeReply true) (some (.replied command code))
        { s with
          mailbox := Mailbox.postReply command code
          server := { s.server with unposted := none }
          phase := .signalling outcome }
  /-- The reply cannot be written, and is left over. -/
  | defers (command code : Int32) (outcome : Except Fault PollOutcome)
      (h : s.Owes command code outcome) :
      Moves s (.writeReply false)
        (some (.polled (.error (.transport (.lockTimeout s.server.lockLimit)))))
        { s with phase := .resting }
  | notifies (outcome : Except Fault PollOutcome) (hphase : s.phase = .signalling outcome) :
      Moves s .notify (some (.polled outcome))
        { s with signal := s.signal.raise, phase := .resting }
  | edits (data : ι) : Moves s (.edit data) none { s with data }

theorem Moves.stutters (s : Exchange ι) (a : Action ι) : s.Moves a none s :=
  .stays a none (.inl rfl)

theorem send_moves (s : Exchange ι) (k : Nat) (command : Command) (mailboxFree replyFree : Bool) :
    s.Moves (.send k command mailboxFree replyFree) (s.send k command mailboxFree replyFree).2
      (s.send k command mailboxFree replyFree).1 := by
  cases hprepare : (s.client k).prepare command with
  | error f =>
    simp only [send, hprepare]
    exact .refuses _ _ _ _ _ (.unfit hprepare)
  | ok values =>
    cases hstage : s.stage k with
    | waiting _ _ | woken _ =>
      simp only [send, hprepare, hstage]
      exact .stutters _ _
    | resting =>
      cases mailboxFree with
      | false =>
        simp only [send, hprepare, hstage, Server.acquire]
        exact .refuses _ _ _ _ _ (.locked hprepare hstage)
      | true =>
        by_cases h : Client.Clears (s.client k).gate s.mailbox
        · cases replyFree with
          | true =>
            rw [send_of_clears hprepare hstage h]
            exact .posts k command values hprepare hstage h
          | false =>
            simp only [send, hprepare, hstage, Server.acquire, Client.post_of_clears h]
            exact .clears k command values hprepare hstage h
        · rw [send_of_not_clears hprepare hstage h]
          exact .refuses k command true replyFree _ (.busy hprepare hstage h)

theorem collect_moves (s : Exchange ι) (k : Nat) (mailboxFree : Bool) :
    s.Moves (.collect k mailboxFree) (s.collect k mailboxFree).2 (s.collect k mailboxFree).1 := by
  unfold collect
  cases hstage : s.stage k with
  | resting | waiting _ _ => exact .stutters _ _
  | woken command =>
    cases mailboxFree with
    | false => exact .missesLock k command hstage
    | true =>
      by_cases hreply : s.mailbox.requestPending = false ∧ s.mailbox.replyPending = true
      · obtain ⟨hrequest, hreply⟩ := hreply
        have hmove := Moves.takes k command hstage hrequest hreply
        simpa [Client.collect_reply hrequest hreply, Server.acquire, pure, Except.pure, bind,
          Except.bind, Except.isOk, Except.toBool] using hmove
      · have hearly : s.mailbox.requestPending = true ∨ s.mailbox.replyPending = false := by
          simpa [Decidable.or_iff_not_imp_left] using hreply
        have hmove := Moves.collectsEarly k command hstage hearly
        simpa [Client.collect_early hearly, Server.acquire, pure, Except.pure, bind,
          Except.bind, Except.isOk, Except.toBool] using hmove

theorem drain_moves (s : Exchange ι) (k : Nat) (mailboxFree : Bool) :
    s.Moves (.drain k mailboxFree) (s.drain k mailboxFree).2 (s.drain k mailboxFree).1 := by
  unfold drain
  cases hstage : s.stage k with
  | waiting _ _ | woken _ => exact .stutters _ _
  | resting =>
    cases mailboxFree with
    | false => exact .stutters _ _
    | true =>
      by_cases hreply : s.mailbox.requestPending = false ∧ s.mailbox.replyPending = true
      · obtain ⟨hrequest, hreply⟩ := hreply
        have hmove := Moves.drains k hstage hrequest hreply
        simpa [Client.drain, hrequest, hreply, Server.acquire, pure, Except.pure] using hmove
      · have hnone : (!s.mailbox.requestPending && s.mailbox.replyPending) = false := by
          simpa using hreply
        have hmove := Moves.stutters s (.drain k true)
        simpa [Client.drain, hnone, Server.acquire, pure, Except.pure] using hmove

theorem copyOut_moves (s : Exchange ι) (mailboxFree : Bool) :
    s.Moves (.copyOut mailboxFree) (s.copyOut mailboxFree).2 (s.copyOut mailboxFree).1 := by
  unfold copyOut
  cases hphase : s.phase with
  | copied _ _ | answering _ _ _ | signalling _ => exact .stutters _ _
  | resting =>
    cases hunposted : s.server.unposted with
    | some _ => exact .stutters _ _
    | none =>
      cases mailboxFree with
      | false => exact .stays _ _ (.inr ⟨_, rfl⟩)
      | true =>
        cases hrequest : s.mailbox.requestPending with
        | false =>
          simp only [Mailbox.incoming_of_no_request hrequest]
          exact .stays _ _ (.inr ⟨_, rfl⟩)
        | true =>
          cases hreply : s.mailbox.replyPending with
          | false =>
            simp only [Mailbox.incoming_of_request hrequest hreply]
            exact .copiesOut hphase hunposted hrequest hreply
          | true =>
            have hmove := Moves.resets hphase hunposted hrequest hreply
            simpa [Mailbox.incoming_of_conflict hrequest hreply, hphase] using hmove

theorem carryOut_moves (s : Exchange ι) (dataFree : Bool) :
    s.Moves (.carryOut dataFree) (s.carryOut dataFree).2 (s.carryOut dataFree).1 := by
  unfold carryOut
  cases hphase : s.phase with
  | resting | answering _ _ _ | signalling _ => exact .stutters _ _
  | copied command payload =>
    cases h : s.server.dispatch dataFree s.data command payload with
    | ok e =>
      simp only [h]
      exact .succeeds dataFree command payload e hphase h
    | error f =>
      simp only [h]
      exact .fails dataFree command payload f hphase h

theorem answer_moves {s : Exchange ι} (mailboxFree : Bool) {command code : Int32}
    {outcome : Except Fault PollOutcome} (h : s.Owes command code outcome) :
    s.Moves (.writeReply mailboxFree) (s.answer mailboxFree command code outcome).2
      (s.answer mailboxFree command code outcome).1 := by
  cases mailboxFree with
  | true => exact .replies command code outcome h
  | false => exact .defers command code outcome h

theorem writeReply_moves (s : Exchange ι) (mailboxFree : Bool) :
    s.Moves (.writeReply mailboxFree) (s.writeReply mailboxFree).2
      (s.writeReply mailboxFree).1 := by
  unfold writeReply
  cases hphase : s.phase with
  | copied _ _ | signalling _ => exact .stutters _ _
  | answering command code outcome => exact answer_moves mailboxFree (.inl hphase)
  | resting =>
    cases hunposted : s.server.unposted with
    | none => exact .stutters _ _
    | some answer => exact answer_moves mailboxFree (.inr ⟨hphase, hunposted, rfl⟩)

theorem step_moves (s : Exchange ι) (a : Action ι) : s.Moves a (s.step a).2 (s.step a).1 := by
  cases a with
  | send k command mailboxFree replyFree => exact send_moves s k command mailboxFree replyFree
  | wake k =>
    simp only [step, wake]
    cases hstage : s.stage k with
    | resting | woken _ => exact .stutters _ _
    | waiting command observed =>
      by_cases h : s.signal.sequence = observed
      · simpa [Signal.wakes, h] using Moves.stutters s (.wake k)
      · simpa [Signal.wakes, h] using Moves.wakes k command observed hstage h
  | giveUp k =>
    simp only [step, giveUp]
    cases hstage : s.stage k with
    | resting | woken _ => exact .stutters _ _
    | waiting command observed => exact .givesUp k command observed hstage
  | collect k mailboxFree => exact collect_moves s k mailboxFree
  | drain k mailboxFree => exact drain_moves s k mailboxFree
  | copyOut mailboxFree => exact copyOut_moves s mailboxFree
  | carryOut dataFree => exact carryOut_moves s dataFree
  | writeReply mailboxFree => exact writeReply_moves s mailboxFree
  | notify =>
    simp only [step, notify]
    cases hphase : s.phase with
    | resting | copied _ _ | answering _ _ _ => exact .stutters _ _
    | signalling outcome => exact .notifies outcome hphase
  | edit data => exact .edits data

end FieldImage.Exchange
