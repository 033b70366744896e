import FieldImage.Proofs.Handshake.History

/-! How far the signal is from the sample of a waiting client. A signal that is due when the request
is posted is raised before the server gets to the request, and the mailbox keeps the reply until it
is consumed, so no reply comes after it. The signal is therefore raised once or twice between the
sample and the end of the reply, and the counter, wherever it started, is past the sample then. -/

namespace FieldImage

/-- The sends whose replies were written and signalled, in this order. -/
def Exchange.signalled {ι : Type} (s : Exchange ι) (l : Ledger ι) : List Nat :=
  if s.signalDue then l.replied.dropLast else l.replied

variable {ι : Type}

/-- How often the signal was raised since a sample was taken with the request that the mailbox
holds, or whose reply it holds. -/
structure Counted (s : Exchange ι) (observed : UInt32) : Prop where
  asked : s.mailbox.requestPending = true →
    s.signal.sequence = observed ∨ s.signal.sequence = observed + 1 ∧ s.signalDue = false
  due : s.mailbox.replyPending = true → s.signalDue = true →
    s.signal.sequence = observed ∨ s.signal.sequence = observed + 1
  raised : s.mailbox.replyPending = true → s.signalDue = false →
    s.signal.sequence = observed + 1 ∨ s.signal.sequence = observed + 2

namespace Counted

variable {s t : Exchange ι} {observed : UInt32}

theorem of_no_reply (hreply : s.mailbox.replyPending = false)
    (hsignal : s.signal.sequence = observed) : Counted s observed where
  asked _ := .inl hsignal
  due h := absurd h (by simp [hreply])
  raised h := absurd h (by simp [hreply])

theorem of_not_isBusy (h : s.mailbox.isBusy = false) : Counted s observed := by
  obtain ⟨hrequest, hreply⟩ := Mailbox.isBusy_eq_false.mp h
  exact ⟨fun h => absurd h (by simp [hrequest]), fun h => absurd h (by simp [hreply]),
    fun h => absurd h (by simp [hreply])⟩

theorem frame (h : Counted s observed) (hmailbox : t.mailbox = s.mailbox)
    (hsignal : t.signal = s.signal) (hdue : t.signalDue = s.signalDue) : Counted t observed where
  asked := hmailbox ▸ hsignal ▸ hdue ▸ h.asked
  due := hmailbox ▸ hsignal ▸ hdue ▸ h.due
  raised := hmailbox ▸ hsignal ▸ hdue ▸ h.raised

/-- The reply takes the place of the request, and its signal is due. -/
theorem reply (h : Counted s observed) (hasked : s.mailbox.requestPending = true)
    (hrequest : t.mailbox.requestPending = false) (hsignal : t.signal = s.signal)
    (hdue : t.signalDue = true) : Counted t observed where
  asked h := absurd h (by simp [hrequest])
  due _ _ := hsignal ▸ (h.asked hasked).imp_right And.left
  raised _ h := absurd h (by simp [hdue])

theorem raise (h : Counted s observed) (hdue : s.signalDue = true)
    (hmailbox : t.mailbox = s.mailbox) (hsignal : t.signal = s.signal.raise)
    (hnone : t.signalDue = false) : Counted t observed where
  asked hrequest := by
    -- a second signal would come from a request that is not answered
    rcases h.asked (hmailbox ▸ hrequest) with hsame | ⟨-, hnot⟩
    · exact .inr ⟨by rw [hsignal, Signal.raise, hsame], hnone⟩
    · exact absurd hdue (by simp [hnot])
  due _ hdue' := absurd hdue' (by simp [hnone])
  raised hreply _ := by
    rcases h.due (hmailbox ▸ hreply) hdue with hsame | hone
    · exact .inl (by rw [hsignal, Signal.raise, hsame])
    · exact .inr (by rw [hsignal, Signal.raise, hone, UInt32.add_assoc]; rfl)

end Counted

theorem Stage.waiting_of_update {f : Nat → Stage} {j k : Nat} {stage : Stage} {c : Command}
    {observed : UInt32} (hother : ∀ c o, stage ≠ .waiting c o)
    (h : Function.update f j stage k = .waiting c observed) : f k = .waiting c observed := by
  rw [Function.update_apply] at h
  split at h
  · exact absurd h (hother c observed)
  · exact h

/-- What holds of the waiting clients after every run. -/
structure Watched (s : Exchange ι) (l : Ledger ι) : Prop where
  known : ∀ k c o, s.stage k = .waiting c o → l.current k < l.sends.length
  counted : ∀ k c o, s.stage k = .waiting c o → l.holder = l.current k → Counted s o
  /-- A signal that is due while a reply is in the mailbox is the signal for that reply. -/
  latest : s.signalDue = true → s.mailbox.replyPending = true → ∃ ns, l.replied = ns ++ [l.holder]

namespace Watched

variable {s t : Exchange ι} {l l' : Ledger ι}

theorem start [ByteImage ι] (u : Setup ι) : Watched u.start Ledger.empty where
  known k c o h := by cases h
  counted k c o h := by cases h
  latest h := by cases h

theorem frame (h : Watched s l) (hextends : l.Extends l')
    (hstage : ∀ k c o, t.stage k = .waiting c o → s.stage k = .waiting c o)
    (hcurrent : l'.current = l.current) (hholder : l'.holder = l.holder)
    (hcounted : ∀ o, Counted s o → Counted t o)
    (hlatest : t.signalDue = true → t.mailbox.replyPending = true →
      ∃ ns, l'.replied = ns ++ [l'.holder]) : Watched t l' where
  known k c o hwaiting := by
    have hlt := h.known k c o (hstage k c o hwaiting)
    rw [hcurrent]
    exact Nat.lt_of_lt_of_le hlt hextends.sends.length_le
  counted k c o hwaiting hsame := by
    rw [hholder, hcurrent] at hsame
    exact hcounted o (h.counted k c o (hstage k c o hwaiting) hsame)
  latest := hlatest

/-- The mailbox and the signal stay as they are, and nobody begins to wait. -/
theorem still (h : Watched s l) (hextends : l.Extends l')
    (hstage : ∀ k c o, t.stage k = .waiting c o → s.stage k = .waiting c o)
    (hmailbox : t.mailbox = s.mailbox) (hsignal : t.signal = s.signal)
    (hdue : t.signalDue = s.signalDue) (hcurrent : l'.current = l.current)
    (hholder : l'.holder = l.holder) (hreplies : l'.replies = l.replies) : Watched t l' := by
  refine h.frame hextends hstage hcurrent hholder
    (fun _ hcounted => hcounted.frame hmailbox hsignal hdue) fun hdue' hreply => ?_
  rw [hdue] at hdue'
  rw [hmailbox] at hreply
  rw [hholder, Ledger.replied, hreplies]
  exact h.latest hdue' hreply

/-- The mailbox is idle after the step, and nobody begins to wait. -/
theorem clear (h : Watched s l) (hextends : l.Extends l')
    (hstage : ∀ k c o, t.stage k = .waiting c o → s.stage k = .waiting c o)
    (hidle : t.mailbox.isBusy = false) (hcurrent : l'.current = l.current)
    (hholder : l'.holder = l.holder) : Watched t l' := by
  refine h.frame hextends hstage hcurrent hholder (fun _ _ => .of_not_isBusy hidle) ?_
  intro _ hreply
  exact absurd hreply (by simp [(Mailbox.isBusy_eq_false.mp hidle).2])

variable [ByteImage ι]

theorem step (h : Watched s l) (hstanding : Standing s l) {a : Action ι} {e : Option (Event ι)}
    (hmove : s.Moves a e t) : Watched t (l.see e) := by
  have hextends := l.extends_see e
  have hsame : ∀ k c o, s.stage k = .waiting c o → s.stage k = .waiting c o := fun _ _ _ h => h
  cases hmove with
  | stays _ _ he =>
    rcases he with rfl | ⟨o, rfl⟩
    · exact h
    · exact h
  | refuses | edits => exact h.still hextends hsame rfl rfl rfl rfl rfl rfl
  | clears j command values hprepare hstage hclears =>
    exact h.clear hextends hsame (Client.settle_of_clears hclears).2 rfl rfl
  | posts j command values hprepare hstage hclears =>
    have hlength : l.sends.length < (l.sends ++ [(⟨j, command⟩ : Sent)]).length := by simp
    refine ⟨fun k c o hwaiting => ?_, fun k c o hwaiting hholds => ?_, fun _ hreply => ?_⟩
    · by_cases hk : k = j
      · subst hk
        simp [Ledger.see, Ledger.note]
      · simp only [Function.update_of_ne hk] at hwaiting
        have hlt := h.known k c o hwaiting
        simpa [Ledger.see, Ledger.note, Function.update_of_ne hk] using Nat.lt_trans hlt hlength
    · by_cases hk : k = j
      · subst hk
        simp only [Function.update_self, Stage.waiting.injEq] at hwaiting
        exact .of_no_reply rfl hwaiting.2
      · -- the mailbox now holds the request of a later send than the one this client waits for
        simp only [Function.update_of_ne hk] at hwaiting
        have hlt := h.known k c o hwaiting
        simp only [Ledger.see, Ledger.note, Function.update_of_ne hk] at hholds
        exact absurd hholds (Nat.ne_of_gt hlt)
    · cases hreply
  | wakes | givesUp | missesLock | collectsEarly =>
    exact h.still hextends (fun _ _ _ => Stage.waiting_of_update (by simp)) rfl rfl rfl rfl rfl rfl
  | takes j command hstage hrequest hreply =>
    exact h.clear hextends (fun _ _ _ => Stage.waiting_of_update (by simp))
      (by simpa using hrequest) rfl rfl
  | drains j hstage hrequest hreply =>
    exact h.clear hextends hsame (by simpa using hrequest) rfl rfl
  | copiesOut hphase hunposted hrequest hreply =>
    exact h.still hextends hsame rfl rfl (by simp [Exchange.signalDue, hphase]) rfl rfl rfl
  | resets hphase hunposted hrequest hreply => exact h.clear hextends hsame rfl rfl rfl
  | succeeds _ _ _ _ hphase | fails _ _ _ _ hphase =>
    obtain ⟨q, values, -, -, -, hcopied, -⟩ := hstanding.inHand hphase
    rw [Ledger.see_carriedOut hcopied] at hextends ⊢
    exact h.still hextends hsame rfl rfl (by simp [Exchange.signalDue, hphase]) rfl rfl rfl
  | replies command code outcome howes =>
    obtain ⟨q, values, d, hasks, -, -, -, hcopied, -⟩ := hstanding.owed howes
    rw [Ledger.see_replied hcopied] at hextends ⊢
    exact h.frame hextends hsame rfl rfl
      (fun _ hcounted => hcounted.reply hasks.requestPending rfl rfl rfl)
      fun _ _ => ⟨l.replied, by simp [Ledger.replied]⟩
  | defers command code outcome howes =>
    refine h.still hextends hsame rfl rfl ?_ rfl rfl rfl
    rcases howes with hphase | ⟨hphase, -⟩
    · simp [Exchange.signalDue, hphase]
    · simp [Exchange.signalDue, hphase]
  | notifies outcome hphase =>
    have hdue : s.signalDue = true := by simp [Exchange.signalDue, hphase]
    refine h.frame hextends hsame rfl rfl (fun _ hcounted => hcounted.raise hdue rfl rfl rfl) ?_
    intro hdue'
    cases hdue'

theorem run (u : Setup ι) (as : List (Action ι)) : Watched (u.after as) (u.ledger as) := by
  have hrun := u.run_induction (P := fun s l => Served s l ∧ Watched s l) as
    ⟨Served.start u, start u⟩ fun _ _ _ _ _ _ h hmove =>
      ⟨h.1.step hmove, h.2.step h.1.standing hmove⟩
  exact hrun.2

/-- The signal for a reply in the mailbox is not due any more once the reply was signalled. -/
theorem signalDue_of_signalled (h : Watched s l) (hserved : Served s l)
    (hreply : s.mailbox.replyPending = true) (hsignalled : l.holder ∈ s.signalled l) :
    s.signalDue = false := by
  cases hdue : s.signalDue with
  | false => rfl
  | true =>
    obtain ⟨ns, hns⟩ := h.latest hdue hreply
    have hnodup := hserved.replied_nodup
    rw [hns, List.nodup_append] at hnodup
    rw [Exchange.signalled, if_pos hdue, hns, List.dropLast_concat] at hsignalled
    exact absurd rfl (hnodup.2.2 _ hsignalled _ (List.mem_singleton_self _))

end Watched

variable [ByteImage ι]

/-- When the server is done with a request and the mailbox still holds the reply, the signal was
raised once or twice since the client that waits for the reply took its sample. The counter differs
from the sample, and the client wakes when it looks. -/
theorem answered_waiter_wakes (u : Setup ι) (as : List (Action ι)) {k : Nat} {command : Command}
    {observed : UInt32} (hwaiting : (u.after as).stage k = .waiting command observed)
    (hsignalled : (u.ledger as).current k ∈ (u.after as).signalled (u.ledger as))
    (hholder : (u.ledger as).holder = (u.ledger as).current k)
    (hreply : (u.after as).mailbox.replyPending = true) :
    ((u.after as).signal.sequence = observed + 1 ∨
        (u.after as).signal.sequence = observed + 2) ∧
      (u.after as).signal.sequence ≠ observed ∧
      ((u.after as).wake k).1.stage k = .woken command := by
  have hwatched := Watched.run u as
  have hdue := hwatched.signalDue_of_signalled (Served.run u as) hreply (hholder ▸ hsignalled)
  have hraised := (hwatched.counted k command observed hwaiting hholder).raised hreply hdue
  have hdiffers : (u.after as).signal.sequence ≠ observed := by
    rcases hraised with hone | htwo
    · rw [hone]
      simp
    · rw [htwo]
      simp
  refine ⟨hraised, hdiffers, ?_⟩
  simp [Exchange.wake, hwaiting, Signal.wakes, hdiffers]

/-- A counter that wraps at its second signal. -/
def wrapping : Setup Image := { Setup.blank with signal := ⟨0xFFFFFFFE⟩ }

/-- Client 1 throws away the reply to client 0 and posts before that reply was signalled. -/
def overtaking : List (Action Image) :=
  [.send 0 .ping true true, .copyOut true, .carryOut true, .writeReply true, .drain 1 true,
    .send 1 .ping true true, .notify, .copyOut true, .carryOut true, .writeReply true, .notify]

theorem answered_waiter_wakes_overtaking :
    (wrapping.after overtaking).stage 1 = .waiting .ping 0xFFFFFFFE ∧
      (wrapping.ledger overtaking).current 1 ∈
        (wrapping.after overtaking).signalled (wrapping.ledger overtaking) ∧
      (wrapping.ledger overtaking).holder = (wrapping.ledger overtaking).current 1 ∧
      (wrapping.after overtaking).mailbox.replyPending = true ∧
      (wrapping.after overtaking).signal.sequence = 0 ∧
      ((wrapping.after overtaking).wake 1).1.stage 1 = .woken .ping := by
  have hwaiting : (wrapping.after overtaking).stage 1 = .waiting .ping 0xFFFFFFFE := rfl
  have hsignalled : (wrapping.ledger overtaking).current 1 ∈
      (wrapping.after overtaking).signalled (wrapping.ledger overtaking) :=
    List.mem_of_getElem? (i := 1) rfl
  have hwakes := answered_waiter_wakes wrapping overtaking hwaiting hsignalled rfl rfl
  exact ⟨hwaiting, hsignalled, rfl, rfl, rfl, hwakes.2.2⟩

end FieldImage
