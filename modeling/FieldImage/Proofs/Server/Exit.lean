import FieldImage.Image.Owned
import FieldImage.Proofs.Command.Canonical
import FieldImage.Proofs.Server.Execution

/-! The end of a serving loop by EXIT. The loop ends with the cycle that carries EXIT out, whether
that cycle could write its reply or not; so of all requests only EXIT itself can be left without an
answer. -/

namespace FieldImage.Server

variable {ι : Type} [ByteImage ι] {s : Server}

/-- The cycle that carries EXIT out. Its reply is written when the mailbox lock can be had, and left
over when not. -/
def exitCycle (s : Server) (t : Turn ι) : Cycle ι :=
  if t.locks.reply then
    ⟨{ s with served := s.served + 1, exitRequested := true },
      Mailbox.postReply Command.exit.id Command.exit.success, t.data, true,
      .ok (.served Command.exit.id)⟩
  else
    ⟨{ s with
      served := s.served + 1
      exitRequested := true
      unposted := some (Command.exit.id, Command.exit.success) },
      t.mailbox, t.data, false, .error (.transport (.lockTimeout s.lockLimit))⟩

/-- Only EXIT ends the server, and it changes no process data. -/
theorem carryOut_exit {dataFree : Bool} {data : ι} {c : Command} {e : Execution ι}
    (h : s.carryOut dataFree data c = .ok e) (hexit : e.exit = true) :
    c = .exit ∧ e = ⟨Command.exit.success, data, true⟩ := by
  cases c with
  | exit => exact ⟨rfl, (Except.ok.inj h).symm⟩
  | ping =>
    cases h
    cases hexit
  | _ =>
    simp only [carryOut] at h
    obtain ⟨-, -, h⟩ := bind_eq_ok.mp h
    obtain ⟨after, -, h⟩ := bind_eq_ok.mp h
    cases h
    cases hexit

theorem decodeRequest_exit {command : Int32} {payload : Option (List Int32)}
    (h : decodeRequest command payload = .ok .exit) :
    command = Command.exit.id ∧ payload = some [] := by
  cases payload with
  | none => cases h
  | some values =>
    obtain ⟨hid, hencode⟩ := Command.encode_of_decode h
    exact ⟨hid.symm, congrArg some (Except.ok.inj hencode).symm⟩

theorem dispatch_exit {dataFree : Bool} {data : ι} {command : Int32}
    {payload : Option (List Int32)} {e : Execution ι}
    (h : s.dispatch dataFree data command payload = .ok e) (hexit : e.exit = true) :
    command = Command.exit.id ∧ payload = some [] ∧ e = ⟨Command.exit.success, data, true⟩ := by
  obtain ⟨c, hdecode, hrun⟩ := bind_eq_ok.mp h
  obtain ⟨rfl, he⟩ := carryOut_exit hrun hexit
  obtain ⟨hcommand, hpayload⟩ := decodeRequest_exit hdecode
  exact ⟨hcommand, hpayload, he⟩

omit [ByteImage ι] in
theorem finish_exitRequested (s : Server) (mailbox : Mailbox) (data : ι) (free : Bool)
    (command code : Int32) (outcome : Except Fault PollOutcome) :
    (s.finish mailbox data free command code outcome).server.exitRequested = s.exitRequested := by
  cases free with
  | true => rfl
  | false => rfl

theorem serve_exits {t : Turn ι} {command : Int32} {payload : Option (List Int32)}
    (hexit : s.exitRequested = false) (hunposted : s.unposted = none)
    (h : (s.serve t.mailbox t.data t.locks command payload).server.exitRequested = true) :
    command = Command.exit.id ∧ payload = some [] ∧
      s.serve t.mailbox t.data t.locks command payload = s.exitCycle t := by
  have haccount : (s.account command (s.dispatch t.locks.data t.data command payload)).exitRequested
      = true := by
    rwa [serve, finish_exitRequested] at h
  cases hdispatch : s.dispatch t.locks.data t.data command payload with
  | error f =>
    rw [hdispatch] at haccount
    exact absurd (hexit.symm.trans haccount) (by decide)
  | ok e =>
    have hor : (s.exitRequested || e.exit) = true := by rwa [hdispatch] at haccount
    rw [hexit, Bool.false_or] at hor
    obtain ⟨rfl, rfl, rfl⟩ := dispatch_exit hdispatch hor
    let x : Execution ι := ⟨Command.exit.success, t.data, true⟩
    have hcounted : s.account Command.exit.id (.ok x) =
        { s with
          served := s.served + 1
          exitRequested := true
          unposted := some (Command.exit.id, Command.exit.success) } := by
      simp [account, x]
    refine ⟨rfl, rfl, ?_⟩
    rw [serve, hdispatch, hcounted, exitCycle, hunposted]
    cases t.locks.reply with
    | true => rfl
    | false => rfl

theorem poll_exits {t : Turn ι} (hexit : s.exitRequested = false)
    (h : (s.poll t.mailbox t.data t.locks).server.exitRequested = true) :
    s.unposted = none ∧ t.mailbox.incoming = .request Command.exit.id (some []) ∧
      s.poll t.mailbox t.data t.locks = s.exitCycle t := by
  have hsame : s.exitRequested ≠ true := by simp [hexit]
  rw [poll] at h
  cases hunposted : s.unposted with
  | some answer =>
    simp only [hunposted, finish_exitRequested] at h
    exact absurd h hsame
  | none =>
    simp only [hunposted] at h
    split at h
    · cases hincoming : t.mailbox.incoming with
      | nothing | conflict lost =>
        simp only [hincoming] at h
        exact absurd h hsame
      | request command payload =>
        simp only [hincoming] at h
        obtain ⟨rfl, rfl, hserve⟩ := serve_exits hexit hunposted h
        rename_i hlock
        have hpoll : s.poll t.mailbox t.data t.locks =
            s.serve t.mailbox t.data t.locks Command.exit.id (some []) := by
          simp only [poll, hunposted, hlock, hincoming, if_true]
        exact ⟨rfl, rfl, hpoll.trans hserve⟩
    · exact absurd h hsame

theorem run_cons {t : Turn ι} (hstop : t.stop = false) (hexit : s.exitRequested = false)
    (turns : List (Turn ι)) :
    s.run (t :: turns) =
      let c := s.poll t.mailbox t.data t.locks
      ((c.server.run turns).1, c :: (c.server.run turns).2) := by
  rw [run, hstop, hexit]
  rfl

theorem run_of_exitRequested (hexit : s.exitRequested = true) (turns : List (Turn ι)) :
    s.run turns = (s, []) := by
  cases turns with
  | nil => rfl
  | cons t turns => rw [run, hexit, Bool.or_true, if_pos rfl]

theorem run_raises_exit (turns : List (Turn ι)) (hexit : s.exitRequested = false)
    (hstop : ∀ t ∈ turns, t.stop = false) (hend : (s.run turns).1.exitRequested = true) :
    ∃ earlier t later, turns = earlier ++ t :: later ∧
      let before := (s.run earlier).1
      before.unposted = none ∧ t.mailbox.incoming = .request Command.exit.id (some []) ∧
      s.run turns =
        ((before.exitCycle t).server, (s.run earlier).2 ++ [before.exitCycle t]) := by
  induction turns generalizing s with
  | nil => exact absurd (hexit.symm.trans hend) (by decide)
  | cons t turns ih =>
    obtain ⟨ht, hturns⟩ := List.forall_mem_cons.mp hstop
    have hrun := run_cons ht hexit turns
    let c := s.poll t.mailbox t.data t.locks
    by_cases hraised : c.server.exitRequested = true
    · obtain ⟨hunposted, hincoming, hcycle⟩ := poll_exits hexit hraised
      refine ⟨[], t, turns, rfl, hunposted, hincoming, ?_⟩
      rw [hrun]
      show ((c.server.run turns).1, c :: (c.server.run turns).2) = _
      rw [run_of_exitRequested hraised]
      show (c.server, [c]) = ((s.exitCycle t).server, [s.exitCycle t])
      rw [← hcycle]
    · rw [hrun] at hend
      obtain ⟨earlier, u, later, rfl, hunposted, hincoming, hcycles⟩ :=
        ih (by simpa using hraised) hturns hend
      refine ⟨t :: earlier, u, later, rfl, ?_⟩
      rw [run_cons ht hexit earlier, hrun]
      refine ⟨hunposted, hincoming, ?_⟩
      show ((c.server.run (earlier ++ u :: later)).1, c :: (c.server.run (earlier ++ u :: later)).2)
        = _
      rw [hcycles]
      rfl

omit [ByteImage ι] in
theorem unposted_exitCycle (t : Turn ι) (hunposted : s.unposted = none) :
    (s.exitCycle t).server.unposted = none ↔ t.locks.reply = true := by
  rw [exitCycle]
  cases t.locks.reply with
  | true => simpa using hunposted
  | false => simp

/-- A serving loop that nobody stopped and that ends with the exit flag up has found it up, or it
has ended with the cycle that carried EXIT out. Nothing was left over before that cycle, and EXIT is
left without an answer exactly when that cycle cannot have the mailbox lock for the reply. -/
theorem run_ended_by_exit (s : Server) (turns : List (Turn ι))
    (hstop : ∀ t ∈ turns, t.stop = false) (hend : (s.run turns).1.exitRequested = true) :
    (s.exitRequested = true ∧ s.run turns = (s, [])) ∨
    ∃ earlier t later, turns = earlier ++ t :: later ∧
      let before := (s.run earlier).1
      before.unposted = none ∧ t.mailbox.incoming = .request Command.exit.id (some []) ∧
      s.run turns =
        ((before.exitCycle t).server, (s.run earlier).2 ++ [before.exitCycle t]) ∧
      ((s.run turns).1.unposted = none ↔ t.locks.reply = true) := by
  cases hexit : s.exitRequested with
  | true => exact .inl ⟨rfl, run_of_exitRequested hexit turns⟩
  | false =>
    obtain ⟨earlier, t, later, hsplit, hunposted, hincoming, hrun⟩ :=
      run_raises_exit turns hexit hstop hend
    refine .inr ⟨earlier, t, later, hsplit, hunposted, hincoming, hrun, ?_⟩
    rw [hrun]
    exact unposted_exitCycle t hunposted

/-- The reply to PING is late by one cycle, then EXIT comes. -/
theorem run_ended_by_exit_lateReply :
    let s := Server.new (.ofSecs 1)
    let turns : List (Turn Image) :=
      [⟨false, Mailbox.postRequest Command.ping.id [], Image.zero 4, ⟨true, true, false⟩⟩,
        ⟨false, Mailbox.postRequest Command.ping.id [], Image.zero 4, ⟨true, true, true⟩⟩,
        ⟨false, Mailbox.postRequest Command.exit.id [], Image.zero 4, ⟨true, false, true⟩⟩]
    ((∀ t ∈ turns, t.stop = false) ∧ (s.run turns).1.exitRequested = true) ∧
    (s.run turns).1.unposted = none := by
  intro s turns
  have hstop : ∀ t ∈ turns, t.stop = false := by simp [turns]
  refine ⟨⟨hstop, rfl⟩, ?_⟩
  obtain ⟨hup, -⟩ | ⟨earlier, t, later, hsplit, -, hincoming, -, hanswered⟩ :=
    run_ended_by_exit s turns hstop rfl
  · cases hup
  · apply hanswered.mpr
    have ht : t ∈ turns := by simp [hsplit]
    -- the first two turns bring no EXIT
    rcases List.mem_cons.mp ht with rfl | ht
    · cases hincoming
    · rcases List.mem_cons.mp ht with rfl | ht
      · cases hincoming
      · rw [List.mem_singleton.mp ht]

/-- EXIT is in the mailbox, and somebody takes its lock before the reply is written. -/
def interruptedExit : Turn Image :=
  ⟨false, Mailbox.postRequest Command.exit.id [], Image.zero 4, ⟨true, true, false⟩⟩

/-- The loop ends all the same, and nobody writes the reply. -/
theorem exit_left_unanswered :
    ¬∀ turns : List (Turn Image), (∀ t ∈ turns, t.stop = false) →
      ((Server.new (.ofSecs 1)).run turns).1.exitRequested = true →
        ((Server.new (.ofSecs 1)).run turns).1.unposted = none := by
  intro hall
  have hnone := hall [interruptedExit] (List.forall_mem_singleton.mpr rfl) rfl
  cases hnone

/-- The lock is free in the next turn, but the loop does not take it: the mailbox keeps EXIT. -/
example :
    let free : Turn Image := { interruptedExit with locks := ⟨true, true, true⟩ }
    ((Server.new (.ofSecs 1)).run [interruptedExit, free]).2.map (·.mailbox) =
      [Mailbox.postRequest Command.exit.id []] := rfl

end FieldImage.Server
