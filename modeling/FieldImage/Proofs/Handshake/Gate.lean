import FieldImage.Proofs.Handshake.Ownership

/-! What a send of the only client leaves in the mailbox, and what comes of the next send. The gate
remembers the command of a send that waited too long, and the next send throws the late reply away.
It remembers nothing of a send that was woken and could not take its reply: then the mailbox stays
as it is, and no send posts again until the reply is drained. -/

namespace FieldImage

variable {ι : Type}

/-- The mailbox holds what an earlier send of client `k` left there. -/
structure Leftover (s : Exchange ι) (l : Ledger ι) (k : Nat) (r : Return) : Prop where
  ended : r ∈ l.returns
  send : r.send = l.holder
  cause : (∃ after, r.result = .error (.transport (.replyTimeout after))) ∧
      (s.client k).gate = some s.mailbox.command ∨
    ((∃ after, r.result = .error (.transport (.lockTimeout after))) ∨
        r.result = .error (.protocol (.outOfSequence true false))) ∧ (s.client k).gate = none

/-- A busy mailbox holds what a client at rest left there. -/
def LeavesRest (s : Exchange ι) (l : Ledger ι) (k : Nat) : Prop :=
  s.stage k = .resting → s.mailbox.isBusy = true → ∃ r, Leftover s l k r

theorem Leftover.frame {s t : Exchange ι} {l l' : Ledger ι} {k : Nat} {r : Return}
    (h : Leftover s l k r) (hgate : (t.client k).gate = (s.client k).gate)
    (hcommand : t.mailbox.command = s.mailbox.command) (hextends : l.Extends l')
    (hholder : l'.holder = l.holder) : Leftover t l' k r where
  ended := hextends.returns.mem h.ended
  send := h.send.trans hholder.symm
  cause := by
    rw [hgate, hcommand]
    exact h.cause

/-- A client at rest with an open gate before a mailbox that stays busy. -/
structure Wedged (s : Exchange ι) (k : Nat) : Prop where
  resting : s.stage k = .resting
  busy : s.mailbox.isBusy = true
  gate : (s.client k).gate = none

theorem Wedged.not_clears {s : Exchange ι} {k : Nat} (h : Wedged s k) :
    ¬Client.Clears (s.client k).gate s.mailbox := by
  rintro (hidle | ⟨hgate, -⟩)
  · rw [h.busy] at hidle
    cases hidle
  · rw [h.gate] at hgate
    cases hgate

variable [ByteImage ι]

theorem LeavesRest.step {s t : Exchange ι} {l : Ledger ι} {k : Nat} (h : LeavesRest s l k)
    (hpaired : Paired s l k) {a : Action ι} {e : Option (Event ι)} (hmove : s.Moves a e t)
    (hone : ∀ j, a.client? = some j → j = k) : LeavesRest t (l.see e) k := by
  have hstanding := hpaired.served.standing
  have hextends := l.extends_see e
  intro hrest hbusy
  cases hmove with
  | stays _ _ he =>
    rcases he with rfl | ⟨o, rfl⟩
    · exact h hrest hbusy
    · exact h hrest hbusy
  | refuses | copiesOut | defers | notifies | edits =>
    obtain ⟨r, hr⟩ := h hrest hbusy
    exact ⟨r, hr.frame rfl rfl hextends rfl⟩
  | clears j command values hprepare hstage hclears =>
    have hidle := (Client.settle_of_clears hclears).2
    rw [hidle] at hbusy
    cases hbusy
  | posts j | wakes j =>
    obtain rfl : j = k := hone j rfl
    simp at hrest
  | givesUp j command observed hstage =>
    obtain rfl : j = k := hone j rfl
    have hw := hpaired.owned.waits j command (Stage.command?_of_waiting hstage)
    obtain ⟨q, hsent, hcommand⟩ := hstanding.command hbusy
    obtain rfl : q = ⟨j, command⟩ := Option.some.inj (hsent.symm.trans hw.sent)
    refine ⟨_, List.mem_append_right _ List.mem_cons_self, hw.current, .inl ⟨⟨_, rfl⟩, ?_⟩⟩
    simp [hcommand]
  | missesLock j command hstage =>
    obtain rfl : j = k := hone j rfl
    have hw := hpaired.owned.waits j command (Stage.command?_of_woken hstage)
    exact ⟨_, List.mem_append_right _ List.mem_cons_self, hw.current,
      .inr ⟨.inl ⟨_, rfl⟩, hw.gate⟩⟩
  | collectsEarly j command hstage hearly =>
    obtain rfl : j = k := hone j rfl
    have hw := hpaired.owned.waits j command (Stage.command?_of_woken hstage)
    obtain ⟨hrequest, hreply⟩ := hstanding.early hw.busy hearly
    refine ⟨_, List.mem_append_right _ List.mem_cons_self, hw.current, .inr ⟨.inr ?_, hw.gate⟩⟩
    rw [hrequest, hreply]
  | takes j command hstage hrequest hreply | drains j hstage hrequest hreply =>
    rw [Mailbox.isBusy_taken, hrequest] at hbusy
    cases hbusy
  | resets => cases hbusy
  | succeeds dataFree command payload e hphase hdispatch =>
    obtain ⟨q, values, -, -, -, hcopied, -⟩ := hstanding.inHand hphase
    rw [Ledger.see_carriedOut hcopied] at hextends ⊢
    obtain ⟨r, hr⟩ := h hrest hbusy
    exact ⟨r, hr.frame rfl rfl hextends rfl⟩
  | fails dataFree command payload f hphase hdispatch =>
    obtain ⟨q, values, -, -, -, hcopied, -⟩ := hstanding.inHand hphase
    rw [Ledger.see_carriedOut hcopied] at hextends ⊢
    obtain ⟨r, hr⟩ := h hrest hbusy
    exact ⟨r, hr.frame rfl rfl hextends rfl⟩
  | replies command code outcome howes =>
    obtain ⟨q, values, d, hasks, rfl, rfl, -, hcopied, -⟩ := hstanding.owed howes
    rw [Ledger.see_replied hcopied] at hextends ⊢
    have hbefore : s.mailbox.isBusy = true := by
      rw [hasks.mailbox]
      rfl
    obtain ⟨r, hr⟩ := h hrest hbefore
    exact ⟨r, hr.frame rfl hasks.command.symm hextends rfl⟩

theorem LeavesRest.run (u : Setup ι) (as : List (Action ι)) {k : Nat} (hone : OneClient k as) :
    LeavesRest (u.after as) (u.ledger as) k := by
  have hrun := u.run_induction (P := fun s l => Paired s l k ∧ LeavesRest s l k) as
    ⟨Paired.start u k, fun _ hbusy => by cases hbusy⟩ fun s l a e t ha h hmove =>
      ⟨h.1.step hmove (hone a ha), h.2.step h.1 hmove (hone a ha)⟩
  exact hrun.2

/-- Nothing but a drain helps: no step posts a request. -/
theorem Wedged.step {s t : Exchange ι} {l : Ledger ι} {k : Nat} (h : Wedged s k)
    (hpaired : Paired s l k) {a : Action ι} {e : Option (Event ι)} (hmove : s.Moves a e t)
    (hone : ∀ j, a.client? = some j → j = k) (hdrain : ∀ free, a ≠ .drain k free) :
    Wedged t k ∧ (l.see e).posted = l.posted := by
  have hstanding := hpaired.served.standing
  cases hmove with
  | stays _ _ he =>
    rcases he with rfl | ⟨o, rfl⟩
    · exact ⟨h, rfl⟩
    · exact ⟨h, rfl⟩
  | refuses | copiesOut | defers | notifies | edits =>
    exact ⟨⟨h.resting, h.busy, h.gate⟩, rfl⟩
  | clears j command values hprepare hstage hclears
  | posts j command values hprepare hstage hclears =>
    obtain rfl : j = k := hone j rfl
    exact absurd hclears h.not_clears
  | wakes j command observed hstage | givesUp j command observed hstage
  | missesLock j command hstage | collectsEarly j command hstage | takes j command hstage =>
    obtain rfl : j = k := hone j rfl
    exact absurd (h.resting.symm.trans hstage) (by simp)
  | drains j =>
    obtain rfl : j = k := hone j rfl
    exact absurd rfl (hdrain true)
  | resets hphase hunposted hrequest hreply =>
    obtain ⟨q, values, hasks, -⟩ := hstanding.fresh hphase hunposted hrequest
    exact absurd hreply (by simp [hasks.replyPending])
  | succeeds dataFree command payload e hphase hdispatch =>
    obtain ⟨q, values, -, -, -, hcopied, -⟩ := hstanding.inHand hphase
    rw [Ledger.see_carriedOut hcopied]
    exact ⟨⟨h.resting, h.busy, h.gate⟩, rfl⟩
  | fails dataFree command payload f hphase hdispatch =>
    obtain ⟨q, values, -, -, -, hcopied, -⟩ := hstanding.inHand hphase
    rw [Ledger.see_carriedOut hcopied]
    exact ⟨⟨h.resting, h.busy, h.gate⟩, rfl⟩
  | replies command code outcome howes =>
    obtain ⟨q, values, d, -, -, -, -, hcopied, -⟩ := hstanding.owed howes
    rw [Ledger.see_replied hcopied]
    exact ⟨⟨h.resting, rfl, h.gate⟩, rfl⟩

theorem Wedged.forever {u : Setup ι} {as : List (Action ι)} {k : Nat} (hone : OneClient k as)
    (h : Wedged (u.after as) k) (bs : List (Action ι)) (hbs : OneClient k bs)
    (hdrains : ∀ free, Action.drain k free ∉ bs) :
    Wedged (u.after (as ++ bs)) k ∧ (u.ledger (as ++ bs)).posted = (u.ledger as).posted := by
  induction bs using List.reverseRecOn with
  | nil =>
    rw [List.append_nil]
    exact ⟨h, rfl⟩
  | append_singleton bs b ih =>
    have hbefore : OneClient k bs := fun a ha => hbs a (List.mem_append_left _ ha)
    have hlast : b ∈ bs ++ [b] := List.mem_append_right _ List.mem_cons_self
    obtain ⟨hwedged, hposted⟩ :=
      ih hbefore fun free hmem => hdrains free (List.mem_append_left _ hmem)
    have hstep := hwedged.step (Paired.run u (as ++ bs) (hone.append hbefore))
      (Exchange.step_moves _ b) (hbs b hlast) fun free hdrain => hdrains free (hdrain ▸ hlast)
    rw [← List.append_assoc, u.after_concat, u.ledger_concat]
    exact ⟨hstep.1, hstep.2.trans hposted⟩

/-- What a send that left the mailbox busy means for the next send. -/
inductive Aftermath (u : Setup ι) (as : List (Action ι)) (k : Nat) (r : Return) : Prop where
  /-- The reply was late: once it is there, the next send throws it away and posts its request. -/
  | passes (hresult : ∃ after, r.result = .error (.transport (.replyTimeout after)))
      (hgate : ((u.after as).client k).gate = some (u.after as).mailbox.command)
      (hnext : ∀ command values, ((u.after as).client k).prepare command = .ok values →
        (u.after as).mailbox.requestPending = false →
          (u.after (as ++ [.send k command true true])).mailbox =
              Mailbox.postRequest command.id values ∧
            (u.ledger (as ++ [.send k command true true])).posted =
              (u.ledger as).posted ++ [(u.ledger as).sends.length])
  /-- The client woke and took no reply: all sends are turned back until the mailbox is drained. -/
  | wedges (hresult : (∃ after, r.result = .error (.transport (.lockTimeout after))) ∨
        r.result = .error (.protocol (.outOfSequence true false)))
      (hgate : ((u.after as).client k).gate = none)
      (hnext : ∀ command values, ((u.after as).client k).prepare command = .ok values →
        ∀ replyFree, (u.after as).step (.send k command true replyFree) =
          (u.after as, some (.turnedBack k command (.protocol (.notReady
            (u.after as).mailbox.requestPending (u.after as).mailbox.replyPending)))))
      (hforever : ∀ bs, OneClient k bs → (∀ free, Action.drain k free ∉ bs) →
        (u.ledger (as ++ bs)).posted = (u.ledger as).posted)

/-- When the only client rests and the mailbox is busy, the way in which the send ended whose
request or reply the mailbox holds decides whether the client can ever post again. -/
theorem leftover_aftermath (u : Setup ι) (as : List (Action ι)) {k : Nat} (hone : OneClient k as)
    (hstage : (u.after as).stage k = .resting) (hbusy : (u.after as).mailbox.isBusy = true) :
    ∃ r ∈ (u.ledger as).returns, r.send = (u.ledger as).holder ∧ Aftermath u as k r := by
  obtain ⟨r, hr⟩ := LeavesRest.run u as hone hstage hbusy
  refine ⟨r, hr.ended, hr.send, ?_⟩
  rcases hr.cause with ⟨hresult, hgate⟩ | ⟨hresult, hgate⟩
  · refine .passes hresult hgate fun command values hprepare hrequest => ?_
    have hreply : (u.after as).mailbox.replyPending = true := by
      simpa [Mailbox.isBusy, hrequest] using hbusy
    have hsend := Exchange.send_of_clears hprepare hstage (.inr ⟨hgate, hrequest, hreply⟩)
    rw [u.after_concat, u.ledger_concat, Exchange.step, hsend]
    exact ⟨rfl, rfl⟩
  · have hwedged : Wedged (u.after as) k := ⟨hstage, hbusy, hgate⟩
    refine .wedges hresult hgate (fun command values hprepare replyFree => ?_)
      fun bs hbs hdrains => (hwedged.forever hone bs hbs hdrains).2
    exact Exchange.send_of_not_clears hprepare hstage hwedged.not_clears replyFree

/-- The client waits too long, and the reply comes afterwards. -/
def lateReply : List (Action Image) :=
  [.send 0 .ping true true, .giveUp 0, .copyOut true, .carryOut true, .writeReply true]

theorem leftover_aftermath_lateReply :
    OneClient 0 lateReply ∧ (Setup.blank.after lateReply).stage 0 = .resting ∧
      (Setup.blank.after lateReply).mailbox.isBusy = true ∧
      ∃ r ∈ (Setup.blank.ledger lateReply).returns,
        r.send = (Setup.blank.ledger lateReply).holder ∧ Aftermath Setup.blank lateReply 0 r := by
  have hone : OneClient 0 lateReply := by
    simp [OneClient, lateReply, Action.client?]
  exact ⟨hone, rfl, rfl, leftover_aftermath Setup.blank lateReply hone rfl rfl⟩

/-- The client is woken by its reply, but cannot have the mailbox lock. -/
def missedReply : List (Action Image) :=
  [.send 0 .ping true true, .copyOut true, .carryOut true, .writeReply true, .notify, .wake 0,
    .collect 0 false]

theorem gate_open_before_leftover :
    ¬∀ (u : Setup Image) (as : List (Action Image)) (k : Nat), OneClient k as →
      (u.after as).stage k = .resting → (u.after as).mailbox.isBusy = true →
        ((u.after as).client k).gate = some (u.after as).mailbox.command := by
  intro hall
  have hone : OneClient 0 missedReply := by
    simp [OneClient, missedReply, Action.client?]
  have hgate := hall Setup.blank missedReply 0 hone rfl rfl
  cases hgate

end FieldImage
