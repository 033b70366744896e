import FieldImage.Host
import FieldImage.Proofs.Handshake.Cycle
import FieldImage.Proofs.Image.View
import FieldImage.Proofs.Segment.Memory

/-! A segment of a machine shows an exchange, and every call of its server or of one of its clients
is a run of that exchange with the locks that the call finds free. -/

namespace FieldImage

namespace Exchange

variable {ι : Type} [ByteImage ι] {s : Exchange ι} {k : Nat} {command : Command} {observed : UInt32}

theorem run_giveUp (hwaiting : s.stage k = .waiting command observed) :
    s.run [.giveUp k] =
      ({ s with
        client := Function.update s.client k ((s.client k).giveUp command.id)
        stage := Function.update s.stage k .resting },
        [.returned k (.error (.transport (.replyTimeout (s.client k).limits.reply))) false]) := by
  simp [run, step, giveUp, hwaiting]

/-- A client that the signal wakes takes the reply, unless the mailbox stays locked. -/
theorem run_collect (hwaiting : s.stage k = .waiting command observed)
    (hwakes : s.signal.wakes observed = true) (mailboxFree : Bool) :
    s.run [.wake k, .collect k mailboxFree] =
      match Server.acquire (s.client k).limits.lock mailboxFree with
      | .error f =>
        ({ s with stage := Function.update s.stage k .resting }, [.returned k (.error f) false])
      | .ok _ =>
        ({ s with
          mailbox := (Client.collect s.mailbox).2
          stage := Function.update s.stage k .resting },
          [.returned k (do
            let (echo, payload) ← (Client.collect s.mailbox).1
            Client.judge command echo payload) (Client.collect s.mailbox).1.isOk]) := by
  cases hlock : Server.acquire (s.client k).limits.lock mailboxFree with
  | error f => simp [run, step, wake, collect, hwaiting, hwakes, hlock]
  | ok u => simp [run, step, wake, collect, hwaiting, hwakes, hlock]

end Exchange

namespace Host

/-- Server `i` and the clients of the segment in file `id` are where the exchange is; which of them
are in the middle of something, a machine does not show. -/
structure Shows (h : Host) (id i : Nat) (s : Exchange ImageView) : Prop where
  segment : Segment.Holds (h.memory id) s.mailbox s.signal s.data
  server : ∃ path, h.server? i = some ⟨s.server, path, s.data.areaSize, id⟩
  client : ∀ k c, h.clients[k]? = some c → c.memory = id → s.client k = c.client

variable {h : Host} {id i k : Nat} {s : Exchange ImageView}

theorem memory_setMemory {m : Segment.Memory} (hid : id < h.memories.size) :
    (h.setMemory id m).memory id = m := by
  simp [memory, setMemory, hid]

theorem lt_size_of_segment {b : Mailbox} {n : Signal} {v : ImageView}
    (hm : Segment.Holds (h.memory id) b n v) : id < h.memories.size := by
  by_contra hge
  have hnone : h.memory id = #[] := by
    rw [memory, Array.getElem?_eq_none (Nat.le_of_not_lt hge)]
    rfl
  have hsize := hm.dataOffset_le
  rw [hnone] at hsize
  exact absurd hsize (by decide)

theorem Shows.lt_size (hs : h.Shows id i s) : id < h.memories.size :=
  lt_size_of_segment hs.segment

theorem Shows.wait (hs : h.Shows id i s) (d : Duration) : (h.wait d).Shows id i s :=
  ⟨hs.segment, hs.server, hs.client⟩

theorem Shows.setMemory (hs : h.Shows id i s) {m : Segment.Memory} {b : Mailbox} {n : Signal}
    (hm : Segment.Holds m b n s.data) :
    (h.setMemory id m).Shows id i { s with mailbox := b, signal := n } where
  segment := by
    rw [memory_setMemory hs.lt_size]
    exact hm
  server := hs.server
  client := hs.client

theorem Shows.setMailbox (hs : h.Shows id i s) (b : Mailbox) :
    (h.modifyMemory id (Segment.setMailbox · b)).Shows id i { s with mailbox := b } :=
  hs.setMemory (Segment.holds_setMailbox hs.segment b)

theorem Shows.setClient (hs : h.Shows id i s) (c : HostedClient) :
    (h.setClient k c).Shows id i { s with client := Function.update s.client k c.client } where
  segment := hs.segment
  server := hs.server
  client j d hd hmemory := by
    have hd : (h.clients.setIfInBounds k c)[j]? = some d := hd
    by_cases hj : j = k
    · subst hj
      rw [Array.getElem?_setIfInBounds_self] at hd
      split at hd <;> cases hd
      exact Function.update_self ..
    · rw [Array.getElem?_setIfInBounds_ne (Ne.symm hj)] at hd
      exact (Function.update_of_ne hj ..).trans (hs.client j d hd hmemory)

/-- A lock is taken for a call, or the call waits for it. -/
theorem Shows.acquire (hs : h.Shows id i s) (l : Segment.LockName) (limit : Duration) :
    (h.acquire id l limit).2.Shows id i s := by
  simp only [Host.acquire]
  split
  · exact hs
  · exact hs.wait limit

/-- A send that client `k` began, on a machine and in the exchange that it shows. -/
inductive Begun (id i k : Nat) (command : Command) (t : Exchange ImageView) :
    Except Fault Pending × Host → Option (Event ImageView) → Prop where
  | posted {h : Host} {observed : UInt32} {signalDue : Bool} (shown : h.Shows id i t)
      (waits : t.stage k = .waiting command observed) :
      Begun id i k command t (.ok ⟨command, observed⟩, h) (some (.posted k command signalDue))
  | turnedBack {h : Host} {cause : Fault} (shown : h.Shows id i t) (rests : t.stage k = .resting) :
      Begun id i k command t (.error cause, h) (some (.turnedBack k command cause))

/-- The first half of a send is one step. -/
theorem beginSend_step (hs : h.Shows id i s) {c : HostedClient} (hc : h.clients[k]? = some c)
    (hmemory : c.memory = id) (hresting : s.stage k = .resting) (command : Command) :
    ∃ mailboxFree replyFree t e, s.step (.send k command mailboxFree replyFree) = (t, e) ∧
      Begun id i k command t (h.beginSend k command) e := by
  have hclient : s.client k = c.client := hs.client k c hc hmemory
  subst hmemory
  refine ⟨Segment.isFree (h.memory c.memory) .mailbox, Segment.isFree (h.memory c.memory) .reply,
    ?_⟩
  simp only [Exchange.step, Exchange.send, beginSend, hc, hclient, hresting]
  cases hprepare : c.client.prepare command with
  | error f => exact ⟨_, _, rfl, .turnedBack hs hresting⟩
  | ok values =>
    simp only [Host.acquire]
    cases hfree : Segment.isFree (h.memory c.memory) .mailbox with
    | false => exact ⟨_, _, rfl, .turnedBack (hs.wait _) hresting⟩
    | true =>
      simp only [Server.acquire, if_true, pure, Except.pure, hs.segment.mailbox,
        hs.segment.sequence]
      generalize c.client.post s.mailbox (Segment.isFree (h.memory c.memory) .reply) command.id
        values = p
      have hpost := (hs.setMailbox p.mailbox).setClient (k := k)
        { c with client := { c.client with gate := p.gate } }
      cases hresult : p.result with
      | ok u =>
        exact ⟨_, _, rfl,
          .posted ⟨hpost.segment, hpost.server, hpost.client⟩ (Function.update_self ..)⟩
      | error f =>
        refine ⟨_, _, rfl, ?_⟩
        split
        · rename_i hok
          cases hok
        · rename_i hlock
          cases hlock
          exact .turnedBack (hpost.wait _) hresting
        · rename_i herror
          cases herror
          exact .turnedBack hpost hresting

/-- The second half of a send is a run that ends the send. -/
theorem endSend_run (hs : h.Shows id i s) {c : HostedClient} (hc : h.clients[k]? = some c)
    (hmemory : c.memory = id) {p : Pending} (hwaiting : s.stage k = .waiting p.command p.observed) :
    ∃ as t took, s.run as = (t, [.returned k (h.endSend k p).1 took]) ∧
      (h.endSend k p).2.Shows id i t ∧ t.stage k = .resting := by
  have hclient : s.client k = c.client := hs.client k c hc hmemory
  subst hmemory
  simp only [endSend, hc, hs.segment.sequence]
  cases hwakes : s.signal.wakes p.observed with
  | false =>
    have hgave := (hs.setClient (k := k)
      { c with client := c.client.giveUp p.command.id }).wait c.client.limits.reply
    have hrun := Exchange.run_giveUp hwaiting
    rw [hclient] at hrun
    exact ⟨_, _, _, hrun, ⟨hgave.segment, hgave.server, hgave.client⟩, Function.update_self ..⟩
  | true =>
    have hrun := Exchange.run_collect hwaiting hwakes (Segment.isFree (h.memory c.memory) .mailbox)
    rw [hclient] at hrun
    simp only [Host.acquire]
    cases hfree : Segment.isFree (h.memory c.memory) .mailbox with
    | false =>
      have hwaited := hs.wait c.client.limits.lock
      rw [hfree] at hrun
      exact ⟨_, _, _, hrun, ⟨hwaited.segment, hwaited.server, hwaited.client⟩,
        Function.update_self ..⟩
    | true =>
      rw [hfree] at hrun
      simp only [Server.acquire, if_true, pure, Except.pure, hs.segment.mailbox] at hrun ⊢
      generalize Client.collect s.mailbox = r at hrun ⊢
      have htaken := hs.setMailbox r.2
      exact ⟨_, _, _, hrun, ⟨htaken.segment, htaken.server, htaken.client⟩,
        Function.update_self ..⟩

/-- A drain is one step. -/
theorem drain_step (hs : h.Shows id i s) {c : HostedClient} (hc : h.clients[k]? = some c)
    (hmemory : c.memory = id) (hresting : s.stage k = .resting) :
    ∃ mailboxFree t, s.step (.drain k mailboxFree) = (t, none) ∧ (h.drain k).2.Shows id i t := by
  have hclient : s.client k = c.client := hs.client k c hc hmemory
  subst hmemory
  refine ⟨Segment.isFree (h.memory c.memory) .mailbox, ?_⟩
  simp only [Exchange.step, Exchange.drain, drain, hc, hclient, hresting, Host.acquire]
  cases hfree : Segment.isFree (h.memory c.memory) .mailbox with
  | false => exact ⟨_, rfl, hs.wait _⟩
  | true =>
    simp only [Server.acquire, if_true, pure, Except.pure, hs.segment.mailbox]
    generalize c.client.drain s.mailbox = r
    obtain ⟨found, client, mailbox⟩ := r
    exact ⟨_, rfl, (hs.setMailbox mailbox).setClient { c with client }⟩

theorem lt_size_of_server {hosted : HostedServer} (hi : h.server? i = some hosted) :
    i < h.servers.size := by
  by_contra hge
  rw [server?, Array.getElem?_eq_none (Nat.le_of_not_lt hge)] at hi
  cases hi

theorem holds_cycle {m : Segment.Memory} {b : Mailbox} {n : Signal} {v : ImageView}
    (hm : Segment.Holds m b n v) (c : Server.Cycle ImageView)
    (hsize : c.data.areaSize = v.areaSize) :
    Segment.Holds
      (if c.woke then Segment.raiseSignal (Segment.setData (Segment.setMailbox m c.mailbox) c.data)
        else Segment.setData (Segment.setMailbox m c.mailbox) c.data)
      c.mailbox (if c.woke then n.raise else n) c.data := by
  have hwritten := Segment.holds_setData (Segment.holds_setMailbox hm c.mailbox) hsize
  split
  · exact Segment.holds_raiseSignal hwritten
  · exact hwritten

/-- A cycle of the server is its sections one after the other. -/
theorem pollServer_run (hs : h.Shows id i s) (hresting : s.phase = .resting) (steal : Bool) :
    ∃ locks outcome h', h.pollServer i steal = some (outcome, h') ∧
      h'.Shows id i (s.run (Exchange.cycle locks)).1 ∧
      (s.run (Exchange.cycle locks)).2.getLast? = some (.polled outcome) := by
  obtain ⟨path, hserver⟩ := hs.server
  simp only [pollServer, hserver, hs.segment.mailbox, hs.segment.data]
  generalize hlocks : (⟨Segment.isFree (h.memory id) .mailbox, Segment.isFree (h.memory id) .data,
    Segment.isFree (h.memory id) .mailbox &&
      !(steal && Segment.isFree (h.memory id) .mailbox && s.server.willCarryOut s.mailbox)⟩ :
      Server.Locks) = locks
  have hsize := ImageView.areaSize_poll s.server s.mailbox s.data locks
  obtain ⟨hstate, hpolled⟩ := s.run_cycle hresting locks
  generalize s.server.poll s.mailbox s.data locks = c at hsize hstate hpolled ⊢
  refine ⟨locks, c.outcome, _, rfl, ?_, hpolled⟩
  rw [hstate]
  refine ⟨?_, ⟨path, ?_⟩, hs.client⟩
  · show Segment.Holds (Host.memory (h.setMemory id _) id) _ _ _
    rw [memory_setMemory hs.lt_size]
    split
    · exact Segment.holds_setLock (holds_cycle hs.segment c hsize) .mailbox 1
    · exact holds_cycle hs.segment c hsize
  · show (h.servers.setIfInBounds i _)[i]?.join = _
    rw [Array.getElem?_setIfInBounds_self_of_lt (lt_size_of_server hserver), ← hsize]
    rfl

/-- A sign of life is not part of the exchange. -/
theorem Shows.heartbeat (hs : h.Shows id i s) : (h.heartbeat i).Shows id i s := by
  obtain ⟨path, hserver⟩ := hs.server
  simp only [Host.heartbeat, hserver]
  exact hs.setMemory (Segment.holds_setHeartbeat hs.segment _)

/-- A call on the process data is an edit, unless their lock cannot be had. -/
theorem withData_edit {α : Type} (hs : h.Shows id i s) (limit : Duration)
    (f : ImageView → α × ImageView) (hsize : (f s.data).2.areaSize = s.data.areaSize) :
    (h.withData id s.data.areaSize limit f).2.Shows id i s ∨
      (h.withData id s.data.areaSize limit f).2.Shows id i (s.step (.edit (f s.data).2)).1 := by
  simp only [withData, Host.acquire]
  cases Segment.isFree (h.memory id) .data with
  | false => exact .inl (hs.wait limit)
  | true =>
    have hedited := Segment.holds_setData hs.segment hsize
    simp only [Server.acquire, if_true, pure, Except.pure, hs.segment.data]
    refine .inr ⟨?_, ?_, hs.client⟩
    · show Segment.Holds (Host.memory (h.setMemory id _) id) _ _ _
      rw [memory_setMemory hs.lt_size]
      exact hedited
    · obtain ⟨path, hserver⟩ := hs.server
      refine ⟨path, hserver.trans ?_⟩
      show _ = some (HostedServer.mk s.server path (f s.data).2.areaSize id)
      rw [hsize]

end Host

end FieldImage
