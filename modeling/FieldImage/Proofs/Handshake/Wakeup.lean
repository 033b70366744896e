import FieldImage.Proofs.Handshake.Delivery

/-! What wakes the only client of a server. The server writes a reply first and raises the signal
afterwards, and the signal does not say which reply it is for. A request that is posted in between,
over a late reply, is therefore woken by the signal for that reply. No other request is woken before
its own reply is there. -/

namespace FieldImage

/-- The ends of a send that posted its request and was woken by its own reply, or by none. -/
inductive InSequence (c : Command) : Except Fault Int32 → Prop where
  | ok : InSequence c (.ok c.success)
  | failed : InSequence c (.error (.protocol (.commandFailed c.id Command.failed)))
  | late (after : Duration) : InSequence c (.error (.transport (.replyTimeout after)))
  | locked (after : Duration) : InSequence c (.error (.transport (.lockTimeout after)))

variable {ι : Type}

/-- A client whose request was posted after all signals sees the next one after its reply. -/
structure Calm (s : Exchange ι) (l : Ledger ι) (k : Nat) : Prop where
  known : ∀ n ∈ l.ahead, n < l.sends.length
  waiting : ∀ c o, s.stage k = .waiting c o → l.holder ∉ l.ahead →
    s.mailbox.requestPending = true → s.signal.sequence = o ∧ s.signalDue = false
  woken : ∀ c, s.stage k = .woken c → l.holder ∉ l.ahead → s.mailbox.requestPending = false
  early : ∀ r ∈ l.returns, r.result = .error (.protocol (.outOfSequence true false)) →
    r.send ∈ l.ahead

namespace Calm

variable {s t : Exchange ι} {l l' : Ledger ι} {k : Nat}

theorem start (u : Setup ι) : Calm u.start Ledger.empty k where
  known := by simp [Ledger.empty]
  waiting c o h := by cases h
  woken c h := by cases h
  early := by simp [Ledger.empty]

/-- The client rests after the step, and a send that ended early was posted ahead. -/
theorem rest (h : Calm s l k) (hextends : l.Extends l') (hahead : l'.ahead = l.ahead)
    (hstage : t.stage k = .resting) (rs : List Return) (hreturns : l'.returns = l.returns ++ rs)
    (hearly : ∀ r ∈ rs, r.result = .error (.protocol (.outOfSequence true false)) →
      r.send ∈ l.ahead) : Calm t l' k where
  known n hn := Nat.lt_of_lt_of_le (h.known n (hahead ▸ hn)) hextends.sends.length_le
  waiting c o hwaiting := by
    rw [hstage] at hwaiting
    cases hwaiting
  woken c hwoken := by
    rw [hstage] at hwoken
    cases hwoken
  early r hr hresult := by
    rw [hreturns] at hr
    rw [hahead]
    rcases List.mem_append.mp hr with hr | hr
    · exact h.early r hr hresult
    · exact hearly r hr hresult

/-- The client stays where it is, and no send ends early. -/
theorem frame (h : Calm s l k) (hextends : l.Extends l') (hstage : t.stage = s.stage)
    (hrequest : t.mailbox.requestPending = true → s.mailbox.requestPending = true)
    (hsignal : t.mailbox.requestPending = true → s.signalDue = false →
      t.signal = s.signal ∧ t.signalDue = false)
    (hholder : l'.holder = l.holder) (hahead : l'.ahead = l.ahead)
    (rs : List Return) (hreturns : l'.returns = l.returns ++ rs)
    (hearly : ∀ r ∈ rs, r.result ≠ .error (.protocol (.outOfSequence true false))) :
    Calm t l' k where
  known n hn := Nat.lt_of_lt_of_le (h.known n (hahead ▸ hn)) hextends.sends.length_le
  waiting c o hwaiting hnot hpending := by
    rw [hstage] at hwaiting
    rw [hholder, hahead] at hnot
    obtain ⟨hsequence, hdue⟩ := h.waiting c o hwaiting hnot (hrequest hpending)
    obtain ⟨hsame, hdue'⟩ := hsignal hpending hdue
    exact ⟨hsame ▸ hsequence, hdue'⟩
  woken c hwoken hnot := by
    rw [hstage] at hwoken
    rw [hholder, hahead] at hnot
    have hnone := h.woken c hwoken hnot
    cases hpending : t.mailbox.requestPending with
    | false => rfl
    | true => exact absurd (hrequest hpending) (by simp [hnone])
  early r hr hresult := by
    rw [hreturns] at hr
    rw [hahead]
    rcases List.mem_append.mp hr with hr | hr
    · exact h.early r hr hresult
    · exact absurd hresult (hearly r hr)

/-- A step of the server, or of somebody else, ends no send. -/
theorem serve (h : Calm s l k) (hextends : l.Extends l') (hstage : t.stage = s.stage)
    (hrequest : t.mailbox.requestPending = true → s.mailbox.requestPending = true)
    (hsignal : t.mailbox.requestPending = true → s.signalDue = false →
      t.signal = s.signal ∧ t.signalDue = false)
    (hholder : l'.holder = l.holder) (hahead : l'.ahead = l.ahead)
    (hreturns : l'.returns = l.returns) : Calm t l' k :=
  h.frame hextends hstage hrequest hsignal hholder hahead [] (by rw [hreturns, List.append_nil])
    (by simp)

end Calm

theorem TurnsBack.ne_outOfSequence {c : Command} {f : Fault} (h : TurnsBack c f)
    (request reply : Bool) : f ≠ .protocol (.outOfSequence request reply) := by
  rintro rfl
  cases h with
  | encoding _ hencode =>
    rcases Command.encode_eq_error hencode with heq | ⟨n, heq⟩
    · cases heq
    · cases heq

variable [ByteImage ι]

theorem Calm.step {s t : Exchange ι} {l : Ledger ι} {k : Nat} (h : Calm s l k)
    (hpaired : Paired s l k) {a : Action ι} {e : Option (Event ι)} (hmove : s.Moves a e t)
    (hone : ∀ j, a.client? = some j → j = k) : Calm t (l.see e) k := by
  have howned := hpaired.owned
  have hstanding := hpaired.served.standing
  have hextends := l.extends_see e
  cases hmove with
  | stays _ _ he =>
    rcases he with rfl | ⟨o, rfl⟩
    · exact h
    · exact h
  | refuses j command mailboxFree replyFree f hrefuses =>
    refine h.frame hextends rfl (fun hpending => hpending) (fun _ hdue => ⟨rfl, hdue⟩) rfl rfl
      _ rfl ?_
    intro r hr hresult
    rw [List.mem_singleton.mp hr] at hresult
    exact (Owned.turnsBack_of_refuses hrefuses).ne_outOfSequence true false
      (Except.error.inj hresult)
  | clears j command values hprepare hstage hclears =>
    obtain rfl : j = k := hone j rfl
    exact h.rest hextends rfl hstage _ rfl (by simp)
  | posts j command values hprepare hstage hclears =>
    obtain rfl : j = k := hone j rfl
    constructor
    · intro n hn
      have hlength : l.sends.length < (l.sends ++ [(⟨j, command⟩ : Sent)]).length := by simp
      cases hdue : s.signalDue with
      | false =>
        rw [hdue] at hn
        exact Nat.lt_trans (h.known n hn) hlength
      | true =>
        rw [hdue] at hn
        rcases List.mem_append.mp hn with hn | hn
        · exact Nat.lt_trans (h.known n hn) hlength
        · rw [List.mem_singleton.mp hn]
          exact hlength
    · intro c o hwaiting hnot hpending
      simp only [Function.update_self, Stage.waiting.injEq] at hwaiting
      obtain ⟨rfl, rfl⟩ := hwaiting
      have hdue : s.signalDue = false := by
        cases hdue : s.signalDue with
        | false => rfl
        | true => exact absurd hnot (by simp [Ledger.see, Ledger.note, hdue])
      exact ⟨rfl, hdue⟩
    · intro c hwoken
      simp at hwoken
    · intro r hr hresult
      exact hextends.ahead.mem (h.early r hr hresult)
  | wakes j command observed hstage hsignal =>
    obtain rfl : j = k := hone j rfl
    constructor
    · exact h.known
    · intro c o hwaiting
      simp at hwaiting
    · intro c hwoken hnot
      -- the sample still stands while the request is pending, so it is not
      cases hpending : s.mailbox.requestPending with
      | false => rfl
      | true => exact absurd (h.waiting command observed hstage hnot hpending).1 hsignal
    · exact h.early
  | givesUp j command observed hstage =>
    obtain rfl : j = k := hone j rfl
    exact h.rest hextends rfl (Function.update_self ..) _ rfl (by simp)
  | missesLock j command hstage =>
    obtain rfl : j = k := hone j rfl
    exact h.rest hextends rfl (Function.update_self ..) _ rfl (by simp)
  | collectsEarly j command hstage hearly =>
    obtain rfl : j = k := hone j rfl
    have hw := howned.waits j command (Stage.command?_of_woken hstage)
    obtain ⟨hrequest, hreply⟩ := hstanding.early hw.busy hearly
    refine h.rest hextends rfl (Function.update_self ..) _ rfl ?_
    intro r hr _
    rw [List.mem_singleton.mp hr]
    by_cases hahead : l.holder ∈ l.ahead
    · exact hw.current ▸ hahead
    · have hnone := h.woken command hstage hahead
      rw [hrequest] at hnone
      cases hnone
  | takes j command hstage hrequest hreply =>
    obtain rfl : j = k := hone j rfl
    refine h.rest hextends rfl (Function.update_self ..) _ rfl ?_
    intro r hr hresult
    rw [List.mem_singleton.mp hr] at hresult
    exact absurd hresult (Client.judge_ne_outOfSequence _ _ _ _ _)
  | drains j hstage hrequest hreply =>
    obtain rfl : j = k := hone j rfl
    exact h.rest hextends rfl hstage [] (List.append_nil _).symm (by simp)
  | copiesOut hphase hunposted hrequest hreply =>
    exact h.serve hextends rfl (fun hpending => hpending) (fun _ _ => ⟨rfl, rfl⟩) rfl rfl rfl
  | resets hphase hunposted hrequest hreply =>
    exact h.serve hextends rfl (fun _ => hrequest) (fun _ hdue => ⟨rfl, hdue⟩) rfl rfl rfl
  | succeeds dataFree command payload e hphase hdispatch =>
    obtain ⟨q, values, -, -, -, hcopied, -⟩ := hstanding.inHand hphase
    rw [Ledger.see_carriedOut hcopied] at hextends ⊢
    exact h.serve hextends rfl (fun hpending => hpending) (fun _ _ => ⟨rfl, rfl⟩) rfl rfl rfl
  | fails dataFree command payload f hphase hdispatch =>
    obtain ⟨q, values, -, -, -, hcopied, -⟩ := hstanding.inHand hphase
    rw [Ledger.see_carriedOut hcopied] at hextends ⊢
    exact h.serve hextends rfl (fun hpending => hpending) (fun _ _ => ⟨rfl, rfl⟩) rfl rfl rfl
  | replies command code outcome howes =>
    obtain ⟨q, values, d, -, -, -, -, hcopied, -⟩ := hstanding.owed howes
    rw [Ledger.see_replied hcopied] at hextends ⊢
    refine h.serve hextends rfl ?_ ?_ rfl rfl rfl
    · intro hpending
      cases hpending
    · intro hpending
      cases hpending
  | defers command code outcome howes =>
    exact h.serve hextends rfl (fun hpending => hpending) (fun _ _ => ⟨rfl, rfl⟩) rfl rfl rfl
  | notifies outcome hphase =>
    -- a signal that was not due is not raised now
    refine h.serve hextends rfl (fun hpending => hpending) (fun _ hdue => ?_) rfl rfl rfl
    rw [Exchange.signalDue, hphase] at hdue
    cases hdue
  | edits data =>
    exact h.serve hextends rfl (fun hpending => hpending) (fun _ hdue => ⟨rfl, hdue⟩) rfl rfl rfl

theorem Calm.run (u : Setup ι) (as : List (Action ι)) {k : Nat} (hone : OneClient k as) :
    Calm (u.after as) (u.ledger as) k := by
  have hrun := u.run_induction (P := fun s l => Paired s l k ∧ Calm s l k) as
    ⟨Paired.start u k, Calm.start u⟩ fun s l a e t ha h hmove =>
      ⟨h.1.step hmove (hone a ha), h.2.step h.1 hmove (hone a ha)⟩
  exact hrun.2

namespace Exchange

/-- A signal that is due wakes a client that posted before it, whatever the signal was for. -/
theorem run_early {t : Exchange ι} {k : Nat} {command : Command}
    {outcome : Except Fault PollOutcome} (hphase : t.phase = .signalling outcome)
    (hstage : t.stage k = .waiting command t.signal.sequence)
    (hrequest : t.mailbox.requestPending = true) (hreply : t.mailbox.replyPending = false) :
    (t.run [.notify, .wake k, .collect k true]).2 =
      [.polled outcome, .returned k (.error (.protocol (.outOfSequence true false))) false] := by
  have hnotify : t.notify =
      ({ t with signal := t.signal.raise, phase := .resting }, some (.polled outcome)) := by
    simp only [notify, hphase]
  have hwakes : t.signal.raise.wakes t.signal.sequence = true := by
    simp [Signal.raise, Signal.wakes]
  have hcollect := Client.collect_early (m := t.mailbox) (.inl hrequest)
  simp only [hrequest, hreply] at hcollect
  simp [run, step, hnotify, wake, hstage, hwakes, collect, Server.acquire, hcollect, pure,
    Except.pure, bind, Except.bind, Except.isOk, Except.toBool]

end Exchange

theorem Setup.posted_of_event {u : Setup ι} {as : List (Action ι)} {k : Nat} {command : Command}
    {due : Bool}
    (hpost : ((u.after as).step (.send k command true true)).2 = some (.posted k command due)) :
    due = (u.after as).signalDue ∧
      (u.after (as ++ [.send k command true true])).phase = (u.after as).phase ∧
      (u.after (as ++ [.send k command true true])).stage k =
        .waiting command (u.after (as ++ [.send k command true true])).signal.sequence ∧
      (u.after (as ++ [.send k command true true])).mailbox.requestPending = true ∧
      (u.after (as ++ [.send k command true true])).mailbox.replyPending = false := by
  have hmove := Exchange.step_moves (u.after as) (.send k command true true)
  rw [hpost] at hmove
  rw [u.after_concat]
  generalize ((u.after as).step (.send k command true true)).1 = t at hmove ⊢
  cases hmove with
  | stays _ _ he =>
    rcases he with he | ⟨o, he⟩
    · cases he
    · cases he
  | posts => exact ⟨rfl, rfl, Function.update_self .., rfl, rfl⟩

/-- The ends of a send that posted its request. -/
theorem Return.Sound.inSequence {s : Exchange ι} {l : Ledger ι} {r : Return} (h : r.Sound l)
    (hserved : Served s l) {q : Sent} (hsent : l.sends[r.send]? = some q)
    (hposted : r.send ∈ l.posted) :
    InSequence q.command r.result ∨
      r.result = .error (.protocol (.outOfSequence true false)) := by
  cases h with
  | turnedBack _ _ _ hunposted => exact absurd hposted hunposted
  | unanswered _ f _ _ _ hcause hresult =>
    rw [hresult]
    cases hcause with
    | late after => exact .inl (.late after)
    | locked after => exact .inl (.locked after)
    | early => exact .inr rfl
  | answered q' d hsent' _ _ hd hsend hresult =>
    obtain rfl : q' = q := Option.some.inj (hsent'.symm.trans hsent)
    left
    rcases (hserved.sound_of_sent hd hsend hsent).judge with ⟨hjudge, -, -⟩ | ⟨hjudge, -⟩
    · rw [hresult, hjudge]
      exact .ok
    · rw [hresult, hjudge]
      exact .failed

/-- A send that posted its request while no signal was due ends with its own reply, or with none.
One that posted while the signal for an earlier reply was due can end out of sequence, and in no
other way besides. -/
theorem posted_send_in_sequence_iff (u : Setup ι) (as : List (Action ι)) {k : Nat}
    (hone : OneClient k as) {command : Command} {due : Bool}
    (hpost : ((u.after as).step (.send k command true true)).2 = some (.posted k command due)) :
    (∀ bs, OneClient k bs →
      ∀ r ∈ (u.ledger (as ++ .send k command true true :: bs)).returns,
        r.send = (u.ledger as).sends.length →
          InSequence command r.result ∨
            r.result = .error (.protocol (.outOfSequence true false))) ∧
      ((∀ bs, OneClient k bs →
        ∀ r ∈ (u.ledger (as ++ .send k command true true :: bs)).returns,
          r.send = (u.ledger as).sends.length → InSequence command r.result) ↔ due = false) := by
  have hledger : u.ledger (as ++ [.send k command true true]) =
      (u.ledger as).note (.posted k command due) := by
    rw [u.ledger_concat, hpost]
    rfl
  have hsplit : ∀ bs : List (Action ι), as ++ .send k command true true :: bs =
      (as ++ [.send k command true true]) ++ bs := by
    intro bs
    rw [List.append_assoc, List.singleton_append]
  have hall : ∀ bs, OneClient k bs → OneClient k (as ++ .send k command true true :: bs) := by
    intro bs hbs
    refine hone.append ?_
    intro a ha j hj
    rcases List.mem_cons.mp ha with rfl | ha
    · exact (Option.some.inj hj).symm
    · exact hbs a ha j hj
  have hends : ∀ bs, OneClient k bs →
      ∀ r ∈ (u.ledger (as ++ .send k command true true :: bs)).returns,
        r.send = (u.ledger as).sends.length →
          InSequence command r.result ∨
            r.result = .error (.protocol (.outOfSequence true false)) := by
    intro bs hbs r hr hsend
    have hpaired := Paired.run u _ (hall bs hbs)
    have hextends := u.ledger_extends (as ++ [.send k command true true]) bs
    rw [← hsplit, hledger] at hextends
    have hsent := hextends.sent (n := r.send) (q := ⟨k, command⟩) (by simp [Ledger.note, hsend])
    have hposted := hextends.posted.mem (a := r.send) (by simp [Ledger.note, hsend])
    exact (hpaired.owned.sound r hr).inSequence hpaired.served hsent hposted
  refine ⟨hends, ?_, ?_⟩
  · intro hregular
    cases hdue : due with
    | false => rfl
    | true =>
      subst hdue
      obtain ⟨hsignalDue, hphase, hstage, hrequest, hreply⟩ := Setup.posted_of_event hpost
      obtain ⟨outcome, hsignalling⟩ : ∃ outcome, (u.after as).phase = .signalling outcome := by
        rw [Exchange.signalDue] at hsignalDue
        split at hsignalDue
        · exact ⟨_, ‹_›⟩
        · cases hsignalDue
      have hearly := Exchange.run_early (hphase.trans hsignalling) hstage hrequest hreply
      have hbs : OneClient k ([.notify, .wake k, .collect k true] : List (Action ι)) := by
        intro a ha j hj
        simp only [List.mem_cons, List.not_mem_nil, or_false] at ha
        rcases ha with rfl | rfl | rfl
        · cases hj
        · exact (Option.some.inj hj).symm
        · exact (Option.some.inj hj).symm
      have hend := hregular _ hbs
        ⟨(u.ledger as).sends.length, .error (.protocol (.outOfSequence true false)), none⟩ (by
          rw [hsplit, u.ledger_append, hearly, hledger]
          simp [Ledger.note]) rfl
      cases hend
  · intro hdue bs hbs r hr hsend
    rcases hends bs hbs r hr hsend with hin | hout
    · exact hin
    · have hcalm := Calm.run u _ (hall bs hbs)
      have hahead := hcalm.early r hr hout
      have hextends := u.ledger_extends (as ++ [.send k command true true]) bs
      rw [← hsplit, hledger, hdue] at hextends
      have hbefore := hextends.laterAhead r.send hahead (by simp [Ledger.note, hsend])
      have hlt := (Calm.run u as hone).known r.send hbefore
      exact absurd hsend (Nat.ne_of_lt hlt)

/-- A reply is written, but its client has given up and the signal is still to come. -/
def dueSignal : List (Action Image) :=
  [.send 0 .ping true true, .copyOut true, .carryOut true, .writeReply true, .giveUp 0]

theorem posted_send_in_sequence_iff_dueSignal :
    OneClient 0 dueSignal ∧
      ((Setup.blank.after dueSignal).step (.send 0 .ping true true)).2 =
        some (.posted 0 .ping true) ∧
      ((∀ bs, OneClient 0 bs →
        ∀ r ∈ (Setup.blank.ledger (dueSignal ++ .send 0 .ping true true :: bs)).returns,
          r.send = (Setup.blank.ledger dueSignal).sends.length →
            InSequence .ping r.result) ↔ true = false) := by
  have hone : OneClient 0 dueSignal := by
    simp [OneClient, dueSignal, Action.client?]
  have hpost : ((Setup.blank.after dueSignal).step (.send 0 .ping true true)).2 =
      some (.posted 0 .ping true) := rfl
  exact ⟨hone, hpost, (posted_send_in_sequence_iff Setup.blank dueSignal hone hpost).2⟩

/-- The signal for the reply that was given up wakes the next request early. -/
theorem posted_send_out_of_sequence :
    ¬∀ (u : Setup Image) (as : List (Action Image)) (k : Nat), OneClient k as →
      ∀ r ∈ (u.ledger as).returns, ∀ q, (u.ledger as).sends[r.send]? = some q →
        r.send ∈ (u.ledger as).posted → InSequence q.command r.result := by
  intro hall
  have hone : OneClient 0
      (dueSignal ++ [.send 0 .ping true true, .notify, .wake 0, .collect 0 true]) := by
    simp [OneClient, dueSignal, Action.client?]
  have hend := hall Setup.blank _ 0 hone
    ⟨1, .error (.protocol (.outOfSequence true false)), none⟩
    (List.mem_of_getElem? (i := 1) rfl) ⟨0, .ping⟩ rfl (List.mem_of_getElem? (i := 1) rfl)
  cases hend

end FieldImage
