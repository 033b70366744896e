import FieldImage.Proofs.Command.RoundTrip
import FieldImage.Proofs.Handshake.Ledger

/-! Where the request in the mailbox stands between its post and the end of its reply, and what the
ledger says of it. While the server has a request that it copied out and not answered, the mailbox
keeps that request, so no client can touch it; and a reply that could not be written keeps the
server from copying a request out. -/

namespace FieldImage

variable {ι : Type}

/-- A server that has no request in hand. -/
def Phase.isQuiet : Phase → Bool
  | .resting | .signalling _ => true
  | .copied _ _ | .answering _ _ _ => false

/-- The mailbox holds the request of the send that it was posted for. -/
structure Asks (s : Exchange ι) (l : Ledger ι) (q : Sent) (values : List Int32) : Prop where
  sent : l.sends[l.holder]? = some q
  encodes : q.command.encode = .ok values
  mailbox : s.mailbox = Mailbox.postRequest q.command.id values

/-- Where the request of the mailbox's holder stands. -/
inductive Standing (s : Exchange ι) (l : Ledger ι) : Prop where
  | idle (hmailbox : s.mailbox.isBusy = false) (hphase : s.phase.isQuiet = true)
      (hunposted : s.server.unposted = none) (hcopied : l.copied = none)
      (hposted : l.posted = l.dispatched) (hreplied : l.dispatched = l.replied)
  | asked (q : Sent) (values : List Int32) (hasks : Asks s l q values)
      (hphase : s.phase.isQuiet = true) (hunposted : s.server.unposted = none)
      (hcopied : l.copied = none) (hposted : l.posted = l.dispatched ++ [l.holder])
      (hreplied : l.dispatched = l.replied)
  | copied (q : Sent) (values : List Int32) (hasks : Asks s l q values)
      (hphase : s.phase = .copied q.command.id (some values))
      (hunposted : s.server.unposted = none)
      (hcopied : l.copied = some ⟨l.holder, q.command.id, some values⟩)
      (hposted : l.posted = l.dispatched ++ [l.holder]) (hreplied : l.dispatched = l.replied)
  | owing (q : Sent) (values : List Int32) (d : Dispatch ι) (hasks : Asks s l q values)
      (hphase : s.phase = .resting ∨ ∃ outcome, s.phase = .answering q.command.id d.code outcome)
      (hunposted : s.server.unposted = some (q.command.id, d.code))
      (hcopied : l.copied = some ⟨l.holder, q.command.id, some values⟩)
      (hposted : l.posted = l.dispatched) (hreplied : l.dispatched = l.replied ++ [l.holder])
      (hd : d ∈ l.dispatches) (hsend : d.send = l.holder)
  | answered (q : Sent) (d : Dispatch ι) (hsent : l.sends[l.holder]? = some q)
      (hmailbox : s.mailbox = Mailbox.postReply q.command.id d.code)
      (hphase : s.phase.isQuiet = true) (hunposted : s.server.unposted = none)
      (hcopied : l.copied = none) (hposted : l.posted = l.dispatched)
      (hreplied : l.dispatched = l.replied) (hd : d ∈ l.dispatches) (hsend : d.send = l.holder)

namespace Asks

variable {s t : Exchange ι} {l l' : Ledger ι} {q : Sent} {values : List Int32}

theorem requestPending (h : Asks s l q values) : s.mailbox.requestPending = true := by
  rw [h.mailbox]
  rfl

theorem replyPending (h : Asks s l q values) : s.mailbox.replyPending = false := by
  rw [h.mailbox]
  rfl

theorem command (h : Asks s l q values) : s.mailbox.command = q.command.id := by
  rw [h.mailbox]
  rfl

theorem payload? (h : Asks s l q values) : s.mailbox.payload? = some values := by
  rw [h.mailbox]
  exact Mailbox.payload?_postRequest (Command.length_encode h.encodes) _

/-- What is asked stays when neither the mailbox nor its holder changes. -/
theorem frame (h : Asks s l q values) (hmailbox : t.mailbox = s.mailbox)
    (hextends : l.Extends l') (hholder : l'.holder = l.holder) : Asks t l' q values :=
  ⟨hholder ▸ hextends.sent h.sent, h.encodes, hmailbox.trans h.mailbox⟩

end Asks

namespace Standing

variable {s t : Exchange ι} {l l' : Ledger ι}

/-- A mailbox without a request means that every request was answered. -/
theorem settled (h : Standing s l) (hrequest : s.mailbox.requestPending = false) :
    s.phase.isQuiet = true ∧ s.server.unposted = none ∧ l.copied = none ∧
      l.posted = l.dispatched ∧ l.dispatched = l.replied := by
  cases h with
  | idle _ hphase hunposted hcopied hposted hreplied
  | answered _ _ _ _ hphase hunposted hcopied hposted hreplied =>
    exact ⟨hphase, hunposted, hcopied, hposted, hreplied⟩
  | asked q values hasks => exact absurd hrequest (by simp [hasks.requestPending])
  | copied q values hasks => exact absurd hrequest (by simp [hasks.requestPending])
  | owing q values d hasks => exact absurd hrequest (by simp [hasks.requestPending])

/-- A reply in the mailbox is the reply to the request of its holder. -/
theorem reply (h : Standing s l) (hrequest : s.mailbox.requestPending = false)
    (hreply : s.mailbox.replyPending = true) :
    ∃ q d, l.sends[l.holder]? = some q ∧ d ∈ l.dispatches ∧ d.send = l.holder ∧
      s.mailbox = Mailbox.postReply q.command.id d.code := by
  cases h with
  | idle hmailbox =>
    exact absurd hreply (by simp [(Mailbox.isBusy_eq_false.mp hmailbox).2])
  | asked q values hasks => exact absurd hrequest (by simp [hasks.requestPending])
  | copied q values hasks => exact absurd hrequest (by simp [hasks.requestPending])
  | owing q values d hasks => exact absurd hrequest (by simp [hasks.requestPending])
  | answered q d hsent hmailbox _ _ _ _ _ hd hsend => exact ⟨q, d, hsent, hd, hsend, hmailbox⟩

/-- A busy mailbox names the command of its holder. -/
theorem command (h : Standing s l) (hbusy : s.mailbox.isBusy = true) :
    ∃ q, l.sends[l.holder]? = some q ∧ s.mailbox.command = q.command.id := by
  cases h with
  | idle hmailbox => exact absurd hbusy (by simp [hmailbox])
  | asked q _ hasks | copied q _ hasks | owing q _ _ hasks => exact ⟨q, hasks.sent, hasks.command⟩
  | answered q d hsent hmailbox =>
    refine ⟨q, hsent, ?_⟩
    rw [hmailbox]
    rfl

/-- A busy mailbox without a reply to take holds a request. -/
theorem early (h : Standing s l) (hbusy : s.mailbox.isBusy = true)
    (hearly : s.mailbox.requestPending = true ∨ s.mailbox.replyPending = false) :
    s.mailbox.requestPending = true ∧ s.mailbox.replyPending = false := by
  cases h with
  | idle hmailbox => exact absurd hbusy (by simp [hmailbox])
  | asked _ _ hasks | copied _ _ hasks | owing _ _ _ hasks =>
    exact ⟨hasks.requestPending, hasks.replyPending⟩
  | answered q d _ hmailbox => simp [hmailbox] at hearly

/-- A server at rest without a reply left over finds the request of the mailbox's holder not yet
copied out. -/
theorem fresh (h : Standing s l) (hphase : s.phase = .resting)
    (hunposted : s.server.unposted = none) (hrequest : s.mailbox.requestPending = true) :
    ∃ q values, Asks s l q values ∧ l.posted = l.dispatched ++ [l.holder] ∧
      l.dispatched = l.replied := by
  cases h with
  | idle hmailbox => exact absurd hrequest (by simp [(Mailbox.isBusy_eq_false.mp hmailbox).1])
  | asked q values hasks _ _ _ hposted hreplied => exact ⟨q, values, hasks, hposted, hreplied⟩
  | copied q values hasks hphase' => exact absurd (hphase.symm.trans hphase') (by simp)
  | owing q values d hasks _ hunposted' =>
    exact absurd (hunposted.symm.trans hunposted') (by simp)
  | answered q d _ hmailbox => exact absurd hrequest (by simp [hmailbox])

/-- What a server copied out is the request of the mailbox's holder. -/
theorem inHand (h : Standing s l) {command : Int32} {payload : Option (List Int32)}
    (hphase : s.phase = .copied command payload) :
    ∃ q values, Asks s l q values ∧ command = q.command.id ∧ payload = some values ∧
      l.copied = some ⟨l.holder, q.command.id, some values⟩ ∧
      l.posted = l.dispatched ++ [l.holder] ∧ l.dispatched = l.replied := by
  cases h with
  | idle _ hquiet | asked _ _ _ hquiet | answered _ _ _ _ hquiet =>
    exact absurd hquiet (by simp [hphase, Phase.isQuiet])
  | copied q values hasks hphase' _ hcopied hposted hreplied =>
    obtain ⟨rfl, rfl⟩ := Phase.copied.inj (hphase.symm.trans hphase')
    exact ⟨q, values, hasks, rfl, rfl, hcopied, hposted, hreplied⟩
  | owing _ _ _ _ hphase' =>
    rcases hphase' with hphase' | ⟨_, hphase'⟩
    · exact absurd (hphase.symm.trans hphase') (by simp)
    · exact absurd (hphase.symm.trans hphase') (by simp)

/-- A reply that a server owes answers the request of the mailbox's holder. -/
theorem owed (h : Standing s l) {command code : Int32} {outcome : Except Fault PollOutcome}
    (howes : s.Owes command code outcome) :
    ∃ q values d, Asks s l q values ∧ command = q.command.id ∧ code = d.code ∧
      s.server.unposted = some (q.command.id, d.code) ∧
      l.copied = some ⟨l.holder, q.command.id, some values⟩ ∧ l.posted = l.dispatched ∧
      l.dispatched = l.replied ++ [l.holder] ∧ d ∈ l.dispatches ∧ d.send = l.holder := by
  rcases howes with hphase | ⟨hphase, hunposted, -⟩
  · cases h with
    | idle _ hquiet | asked _ _ _ hquiet | answered _ _ _ _ hquiet =>
      exact absurd hquiet (by simp [hphase, Phase.isQuiet])
    | copied _ _ _ hphase' => exact absurd (hphase.symm.trans hphase') (by simp)
    | owing q values d hasks hphase' hunposted hcopied hposted hreplied hd hsend =>
      rcases hphase' with hphase' | ⟨_, hphase'⟩
      · exact absurd (hphase.symm.trans hphase') (by simp)
      · obtain ⟨rfl, rfl, -⟩ := Phase.answering.inj (hphase.symm.trans hphase')
        exact ⟨q, values, d, hasks, rfl, rfl, hunposted, hcopied, hposted, hreplied, hd, hsend⟩
  · cases h with
    | idle _ _ hunposted' | asked _ _ _ _ hunposted' | copied _ _ _ _ hunposted'
    | answered _ _ _ _ _ hunposted' => exact absurd (hunposted.symm.trans hunposted') (by simp)
    | owing q values d hasks _ hunposted' hcopied hposted hreplied hd hsend =>
      have heq := hunposted.symm.trans hunposted'
      simp only [Option.some.injEq, Prod.mk.injEq] at heq
      obtain ⟨rfl, rfl⟩ := heq
      exact ⟨q, values, d, hasks, rfl, rfl, hunposted', hcopied, hposted, hreplied, hd, hsend⟩

/-- The mailbox keeps a request that was copied out until its reply is written. -/
theorem kept (h : Standing s l) {c : Copied} (hc : l.copied = some c) :
    ∃ q values, Asks s l q values ∧ c = ⟨l.holder, q.command.id, some values⟩ := by
  cases h with
  | idle _ _ _ hcopied | asked _ _ _ _ _ hcopied | answered _ _ _ _ _ _ hcopied =>
    exact absurd (hcopied.symm.trans hc) (by simp)
  | copied q values hasks _ _ hcopied | owing q values _ hasks _ _ hcopied =>
    exact ⟨q, values, hasks, Option.some.inj (hc.symm.trans hcopied)⟩

/-- The request stands where it stood when a step changes neither the mailbox nor the server. -/
theorem frame (h : Standing s l) (hmailbox : t.mailbox = s.mailbox) (hphase : t.phase = s.phase)
    (hserver : t.server.unposted = s.server.unposted) (hextends : l.Extends l')
    (hholder : l'.holder = l.holder) (hcopied : l'.copied = l.copied)
    (hposted : l'.posted = l.posted) (hdispatches : l'.dispatches = l.dispatches)
    (hreplies : l'.replies = l.replies) : Standing t l' := by
  have hdispatched : l'.dispatched = l.dispatched := by
    rw [Ledger.dispatched, Ledger.dispatched, hdispatches]
  have hreplied : l'.replied = l.replied := by
    rw [Ledger.replied, Ledger.replied, hreplies]
  cases h with
  | idle hm hp hu hc ho hr =>
    exact .idle (hmailbox ▸ hm) (hphase ▸ hp) (hserver.trans hu) (hcopied.trans hc)
      (by rw [hposted, hdispatched, ho]) (by rw [hdispatched, hreplied, hr])
  | asked q values hasks hp hu hc ho hr =>
    exact .asked q values (hasks.frame hmailbox hextends hholder) (hphase ▸ hp)
      (hserver.trans hu) (hcopied.trans hc) (by rw [hposted, hdispatched, ho, hholder])
      (by rw [hdispatched, hreplied, hr])
  | copied q values hasks hp hu hc ho hr =>
    exact .copied q values (hasks.frame hmailbox hextends hholder) (hphase.trans hp)
      (hserver.trans hu) (by rw [hcopied, hc, hholder])
      (by rw [hposted, hdispatched, ho, hholder]) (by rw [hdispatched, hreplied, hr])
  | owing q values d hasks hp hu hc ho hr hd hsend =>
    exact .owing q values d (hasks.frame hmailbox hextends hholder) (by rwa [hphase])
      (hserver.trans hu) (by rw [hcopied, hc, hholder]) (by rw [hposted, hdispatched, ho])
      (by rw [hdispatched, hreplied, hr, hholder]) (hdispatches ▸ hd) (hsend.trans hholder.symm)
  | answered q d hsent hm hp hu hc ho hr hd hsend =>
    exact .answered q d (hholder ▸ hextends.sent hsent) (hmailbox.trans hm) (hphase ▸ hp)
      (hserver.trans hu) (hcopied.trans hc) (by rw [hposted, hdispatched, ho])
      (by rw [hdispatched, hreplied, hr]) (hdispatches ▸ hd) (hsend.trans hholder.symm)

variable [ByteImage ι]

/-- A post section that clears the mailbox finds no request in it. -/
theorem requestPending_of_clears {gate : Option Int32} {m : Mailbox}
    (h : Client.Clears gate m) : m.requestPending = false := by
  rcases h with h | ⟨-, hrequest, -⟩
  · exact (Mailbox.isBusy_eq_false.mp h).1
  · exact hrequest

theorem step (h : Standing s l) {a : Action ι} {e : Option (Event ι)} (hmove : s.Moves a e t) :
    Standing t (l.see e) := by
  have hextends := l.extends_see e
  cases hmove with
  | stays _ _ he =>
    rcases he with rfl | ⟨o, rfl⟩
    · exact h
    · exact h
  | refuses | wakes | givesUp | missesLock | collectsEarly | edits =>
    exact h.frame rfl rfl rfl hextends rfl rfl rfl rfl rfl
  | clears k command values hprepare hstage hclears =>
    obtain ⟨hphase, hunposted, hcopied, hposted, hreplied⟩ :=
      h.settled (requestPending_of_clears hclears)
    exact .idle (Client.settle_of_clears hclears).2 hphase hunposted hcopied hposted hreplied
  | posts k command values hprepare hstage hclears =>
    obtain ⟨hphase, hunposted, hcopied, hposted, hreplied⟩ :=
      h.settled (requestPending_of_clears hclears)
    refine .asked ⟨k, command⟩ values ⟨?_, Client.encode_of_prepare hprepare, rfl⟩ hphase
      hunposted hcopied ?_ hreplied
    · simp [Ledger.see, Ledger.note]
    · simp [Ledger.see, Ledger.note, hposted, Ledger.dispatched]
  | takes k command hstage hrequest hreply =>
    obtain ⟨hphase, hunposted, hcopied, hposted, hreplied⟩ := h.settled hrequest
    exact .idle (by simpa using hrequest) hphase hunposted hcopied hposted hreplied
  | drains k hstage hrequest hreply =>
    obtain ⟨hphase, hunposted, hcopied, hposted, hreplied⟩ := h.settled hrequest
    exact .idle (by simpa using hrequest) hphase hunposted hcopied hposted hreplied
  | copiesOut hphase hunposted hrequest hreply =>
    obtain ⟨q, values, hasks, hposted, hreplied⟩ := h.fresh hphase hunposted hrequest
    refine .copied q values (hasks.frame rfl hextends rfl) ?_ hunposted ?_ hposted hreplied
    · simp only [hasks.command, hasks.payload?]
    · simp only [Ledger.see, Ledger.note, hasks.command, hasks.payload?]
  | resets hphase hunposted hrequest hreply =>
    obtain ⟨q, values, hasks, -⟩ := h.fresh hphase hunposted hrequest
    exact absurd hreply (by simp [hasks.replyPending])
  | succeeds dataFree command payload e hphase hdispatch =>
    obtain ⟨q, values, hasks, rfl, rfl, hcopied, hposted, hreplied⟩ := h.inHand hphase
    rw [Ledger.see_carriedOut hcopied] at hextends ⊢
    refine .owing q values ⟨l.holder, q.command.id, some values, s.data, e.data, .ok e.code⟩
      (hasks.frame rfl hextends rfl) (.inr ⟨_, rfl⟩) rfl hcopied ?_ ?_ (by simp) rfl
    · simpa [Ledger.dispatched] using hposted
    · simpa [Ledger.dispatched, Ledger.replied] using hreplied
  | fails dataFree command payload f hphase hdispatch =>
    obtain ⟨q, values, hasks, rfl, rfl, hcopied, hposted, hreplied⟩ := h.inHand hphase
    rw [Ledger.see_carriedOut hcopied] at hextends ⊢
    refine .owing q values ⟨l.holder, q.command.id, some values, s.data, s.data, .error f⟩
      (hasks.frame rfl hextends rfl) (.inr ⟨_, rfl⟩) rfl hcopied ?_ ?_ (by simp) rfl
    · simpa [Ledger.dispatched] using hposted
    · simpa [Ledger.dispatched, Ledger.replied] using hreplied
  | replies command code outcome howes =>
    obtain ⟨q, values, d, hasks, rfl, rfl, hunposted, hcopied, hposted, hreplied, hd, hsend⟩ :=
      h.owed howes
    rw [Ledger.see_replied hcopied]
    refine .answered q d hasks.sent rfl rfl rfl rfl hposted ?_ hd hsend
    simpa [Ledger.dispatched, Ledger.replied] using hreplied
  | defers command code outcome howes =>
    obtain ⟨q, values, d, hasks, rfl, rfl, hunposted, hcopied, hposted, hreplied, hd, hsend⟩ :=
      h.owed howes
    exact .owing q values d ⟨hasks.sent, hasks.encodes, hasks.mailbox⟩ (.inl rfl) hunposted hcopied
      hposted hreplied hd hsend
  | notifies outcome hphase =>
    cases h with
    | idle hmailbox _ hunposted hcopied hposted hreplied =>
      exact .idle hmailbox rfl hunposted hcopied hposted hreplied
    | asked q values hasks _ hunposted hcopied hposted hreplied =>
      exact .asked q values (hasks.frame rfl hextends rfl) rfl hunposted hcopied hposted hreplied
    | copied q values hasks hphase' => exact absurd (hphase.symm.trans hphase') (by simp)
    | owing q values d hasks hphase' hunposted hcopied hposted hreplied hd hsend =>
      exact .owing q values d (hasks.frame rfl hextends rfl) (.inl rfl) hunposted hcopied hposted
        hreplied hd hsend
    | answered q d hsent hmailbox _ hunposted hcopied hposted hreplied hd hsend =>
      exact .answered q d hsent hmailbox rfl hunposted hcopied hposted hreplied hd hsend

end Standing

end FieldImage
