import FieldImage.Proofs.Handshake.Exchange

/-! The sections of a server with nobody in between. They are one cycle of the server, so what holds
of all runs of an exchange holds of a server that polls. -/

namespace FieldImage.Exchange

variable {ι : Type}

/-- What a cycle leaves, once its signal is raised. -/
def afterCycle (s : Exchange ι) (c : Server.Cycle ι) : Exchange ι :=
  { s with
    mailbox := c.mailbox
    data := c.data
    server := c.server
    signal := if c.woke then s.signal.raise else s.signal
    phase := .resting }

theorem answer_notify (s : Exchange ι) (mailboxFree : Bool) (command code : Int32)
    (outcome : Except Fault PollOutcome) :
    (s.answer mailboxFree command code outcome).1.notify.1 =
      s.afterCycle (s.server.finish s.mailbox s.data mailboxFree command code outcome) := by
  cases mailboxFree with
  | true => rfl
  | false => rfl

theorem answer_notify_polled (s : Exchange ι) (mailboxFree : Bool) (command code : Int32)
    (outcome : Except Fault PollOutcome) :
    ((s.answer mailboxFree command code outcome).2.toList ++
        (s.answer mailboxFree command code outcome).1.notify.2.toList).getLast? =
      some (.polled
        (s.server.finish s.mailbox s.data mailboxFree command code outcome).outcome) := by
  cases mailboxFree with
  | true => rfl
  | false => rfl

variable [ByteImage ι]

/-- The sections of a cycle, with the locks that it finds free. -/
def cycle (locks : Server.Locks) : List (Action ι) :=
  [.copyOut locks.request, .carryOut locks.data, .writeReply locks.reply, .notify]

/-- A cycle that ends with its first section does nothing more. -/
theorem run_cycle_of_polled {s t : Exchange ι} {locks : Server.Locks}
    {outcome : Except Fault PollOutcome}
    (hcopy : s.copyOut locks.request = (t, some (.polled outcome)))
    (hphase : t.phase = .resting) (hunposted : t.server.unposted = none) :
    s.run (cycle locks) = (t, [.polled outcome]) := by
  simp [cycle, run, step, hcopy, carryOut, writeReply, notify, hphase, hunposted]

/-- A cycle that copies a request out serves it. -/
theorem run_cycle_of_copied {s : Exchange ι} {locks : Server.Locks} {command : Int32}
    {payload : Option (List Int32)}
    (hcopy : s.copyOut locks.request =
      ({ s with phase := .copied command payload }, some (.copiedOut command payload))) :
    (s.run (cycle locks)).1 =
        s.afterCycle (s.server.serve s.mailbox s.data locks command payload) ∧
      (s.run (cycle locks)).2.getLast? =
        some (.polled (s.server.serve s.mailbox s.data locks command payload).outcome) := by
  let r := s.server.dispatch locks.data s.data command payload
  let t : Exchange ι := (({ s with phase := .copied command payload }).carryOut locks.data).1
  let outcome : Except Fault PollOutcome := r.map fun _ => .served command
  have hstate := t.answer_notify locks.reply command (Server.replyCode r) outcome
  have hpolled := t.answer_notify_polled locks.reply command (Server.replyCode r) outcome
  have hevents : (s.run (cycle locks)).2 =
      [.copiedOut command payload, .carriedOut (r.map fun e => e.code) s.data t.data] ++
        ((t.answer locks.reply command (Server.replyCode r) outcome).2.toList ++
          (t.answer locks.reply command (Server.replyCode r) outcome).1.notify.2.toList) := by
    simp only [cycle, run, step, hcopy, List.append_nil]
    rfl
  constructor
  · simp only [cycle, run, step, hcopy]
    exact hstate
  · rw [hevents, List.getLast?_append, hpolled]
    rfl

/-- The sections of a server one after the other change the exchange as its cycle says, and report
the outcome of the cycle at the end. -/
theorem run_cycle (s : Exchange ι) (hphase : s.phase = .resting) (locks : Server.Locks) :
    (s.run (cycle locks)).1 = s.afterCycle (s.server.poll s.mailbox s.data locks) ∧
      (s.run (cycle locks)).2.getLast? =
        some (.polled (s.server.poll s.mailbox s.data locks).outcome) := by
  have hself : s.afterCycle ⟨s.server, s.mailbox, s.data, false, .ok .idle⟩ = s := by
    simp [afterCycle, ← hphase]
  cases hunposted : s.server.unposted with
  | some answer =>
    obtain ⟨command, code⟩ := answer
    have hstate := s.answer_notify locks.reply command code (Server.deferredOutcome command code)
    have hpolled :=
      s.answer_notify_polled locks.reply command code (Server.deferredOutcome command code)
    simp only [cycle, run, step, copyOut, carryOut, writeReply, hphase, hunposted, Server.poll]
    exact ⟨hstate, by simpa using hpolled⟩
  | none =>
    cases hrequest : locks.request with
    | false =>
      have hcopy : s.copyOut locks.request = (s, some (.polled (.ok .contended))) := by
        simp [copyOut, hphase, hunposted, hrequest]
      rw [run_cycle_of_polled hcopy hphase hunposted]
      simp only [Server.poll, hunposted, hrequest]
      exact ⟨hself.symm, rfl⟩
    | true =>
      cases hincoming : s.mailbox.incoming with
      | nothing =>
        have hcopy : s.copyOut locks.request = (s, some (.polled (.ok .idle))) := by
          simp [copyOut, hphase, hunposted, hrequest, hincoming]
        rw [run_cycle_of_polled hcopy hphase hunposted]
        simp only [Server.poll, hunposted, hrequest, hincoming]
        exact ⟨hself.symm, rfl⟩
      | conflict lost =>
        have hcopy : s.copyOut locks.request =
            ({ s with
              mailbox := Mailbox.idle
              server := { s.server with resets := s.server.resets + 1 } },
              some (.polled (.ok (.reset lost)))) := by
          simp [copyOut, hphase, hunposted, hrequest, hincoming]
        rw [run_cycle_of_polled hcopy hphase hunposted]
        simp only [Server.poll, hunposted, hrequest, hincoming]
        refine ⟨?_, rfl⟩
        simp [afterCycle, ← hphase]
      | request command payload =>
        have hcopy : s.copyOut locks.request =
            ({ s with phase := .copied command payload }, some (.copiedOut command payload)) := by
          simp [copyOut, hphase, hunposted, hrequest, hincoming]
        have hpoll : s.server.poll s.mailbox s.data locks =
            s.server.serve s.mailbox s.data locks command payload := by
          simp [Server.poll, hunposted, hrequest, hincoming]
        rw [hpoll]
        exact run_cycle_of_copied hcopy

end FieldImage.Exchange
