import FieldImage.Proofs.Handshake.Ownership

/-! What the end of a send says of its request. Any number of clients take turns with the server,
any lock may be taken and any wait may end early; what a client is told is still true of the very
request that it posted. -/

namespace FieldImage

variable {ι : Type}

/-- What the end of a send says, when it ends and later on. -/
structure Delivered [ByteImage ι] (now later : Ledger ι) (r : Return) (q : Sent) : Prop where
  sent : now.sends[r.send]? = some q
  /-- The reply was to the request of this send, which was carried out before, and only once. -/
  success : ∀ code, r.result = .ok code → r.took = some r.send ∧
    ∃ d ∈ now.dispatches, d.result = .ok code ∧ q.command.apply d.before = .ok d.after ∧
      later.dispatchesOf r.send = [d]
  /-- The reply was to the request of this send, which changed nothing. -/
  failure : ∀ id code, r.result = .error (.protocol (.commandFailed id code)) →
    r.took = some r.send ∧
      ∃ d ∈ now.dispatches, d.after = d.before ∧ later.dispatchesOf r.send = [d]
  badAddress : ∀ cause, r.result = .error (.address cause) → later.dispatchesOf r.send = []
  unencoded : ∀ f, r.result = .error f → q.command.encode = .error f →
    later.dispatchesOf r.send = []
  notReady : ∀ request reply, r.result = .error (.protocol (.notReady request reply)) →
    later.dispatchesOf r.send = []

theorem TurnsBack.ne_commandFailed {c : Command} {f : Fault} (h : TurnsBack c f)
    (id code : Int32) : f ≠ .protocol (.commandFailed id code) := by
  rintro rfl
  cases h with
  | encoding _ hencode =>
    rcases Command.encode_eq_error hencode with heq | ⟨n, heq⟩
    · cases heq
    · cases heq

variable [ByteImage ι]

/-- The reply to a request tells what became of it. -/
theorem Dispatch.Sound.judge {l : Ledger ι} {d : Dispatch ι} {q : Sent} (h : d.Sound l q) :
    (Client.judge q.command q.command.id (some [d.code]) = .ok q.command.success ∧
        d.result = .ok q.command.success ∧ q.command.apply d.before = .ok d.after) ∨
      (Client.judge q.command q.command.id (some [d.code]) =
          .error (.protocol (.commandFailed q.command.id Command.failed)) ∧
        d.after = d.before) := by
  rcases h.effect with ⟨hresult, happly⟩ | ⟨f, hresult, hafter⟩
  · have hcode : d.code = q.command.success := by
      rw [Dispatch.code, hresult]
    left
    rw [Client.judge_echo, if_pos hcode, hcode]
    exact ⟨rfl, hresult, happly⟩
  · have hcode : d.code = Command.failed := by
      rw [Dispatch.code, hresult]
    have hne : ¬d.code = q.command.success := by
      rw [hcode]
      exact (Server.success_ne_failed q.command).symm
    right
    rw [Client.judge_echo, if_neg hne, if_pos hcode, hcode]
    exact ⟨rfl, hafter⟩

/-- A request that was not posted by the time its send ended never reaches the server. -/
theorem Served.dispatchesOf_unposted {s : Exchange ι} {l l' : Ledger ι} (h : Served s l')
    (hextends : l.Extends l') {n : Nat} {q : Sent} (hsent : l.sends[n]? = some q)
    (hposted : n ∉ l.posted) : l'.dispatchesOf n = [] := by
  refine Ledger.dispatchesOf_eq_nil fun hmem => hposted ?_
  have hlt : n < l.sends.length := (List.getElem?_eq_some_iff.mp hsent).1
  exact hextends.later n (h.dispatched_prefix.mem hmem) hlt

theorem Return.Sound.delivered {s t : Exchange ι} {now later : Ledger ι} {r : Return}
    (h : r.Sound now) (hnow : Served s now) (hlater : Served t later)
    (hextends : now.Extends later) : ∃ q, Delivered now later r q := by
  cases h with
  | turnedBack q f hsent hposted htook hcause hresult =>
    have hnone := hlater.dispatchesOf_unposted hextends hsent hposted
    refine ⟨q, hsent, ?_, ?_, fun _ _ => hnone, fun _ _ _ => hnone, fun _ _ _ => hnone⟩
    · intro code hcode
      rw [hresult] at hcode
      cases hcode
    · intro id code hcode
      rw [hresult] at hcode
      exact absurd (Except.error.inj hcode) (hcause.ne_commandFailed id code)
  | unanswered q f hsent hposted htook hcause hresult =>
    refine ⟨q, hsent, by simp [hresult], ?_, ?_, ?_, ?_⟩
    · intro id code hcode
      cases hcause <;> simp [hresult] at hcode
    · intro cause hcode
      cases hcause <;> simp [hresult] at hcode
    · intro f' hcode hencode
      rw [hresult] at hcode
      cases hcode
      rcases Command.encode_eq_error hencode with rfl | ⟨n, rfl⟩
      · cases hcause
      · cases hcause
    · intro request reply hcode
      cases hcause <;> simp [hresult] at hcode
  | answered q d hsent hposted htook hd hsend hresult =>
    have hsingle : later.dispatchesOf r.send = [d] := by
      rw [← hsend]
      exact hlater.dispatchesOf_eq (hextends.dispatches.mem hd)
    have hq := hnow.sound_of_sent hd hsend hsent
    rcases hq.judge with ⟨hjudge, hdone, happly⟩ | ⟨hjudge, hafter⟩
    · rw [hjudge] at hresult
      refine ⟨q, hsent, ?_, by simp [hresult], by simp [hresult], by simp [hresult],
        by simp [hresult]⟩
      intro code hcode
      rw [hresult] at hcode
      cases hcode
      exact ⟨htook, d, hd, hdone, happly, hsingle⟩
    · rw [hjudge] at hresult
      refine ⟨q, hsent, by simp [hresult], fun _ _ _ => ⟨htook, d, hd, hafter, hsingle⟩,
        by simp [hresult], ?_, by simp [hresult]⟩
      intro f hcode hencode
      obtain ⟨values, hvalues, -⟩ := hq.payload
      rw [hencode] at hvalues
      cases hvalues

/-- A send that ends well took the reply to its own request, which was carried out once; one that
ends with a failed command took the reply to its own request, which changed nothing; and one that is
refused before its post never reaches the server, then or later. -/
theorem send_returns_delivered (u : Setup ι) (as bs : List (Action ι))
    (hdrains : ∀ k free, Action.drain k free ∉ as) :
    (u.ledger as).returned.Nodup ∧
      ∀ r ∈ (u.ledger as).returns, ∃ q, Delivered (u.ledger as) (u.ledger (as ++ bs)) r q := by
  have howned := Owned.run_of_no_drain u as hdrains
  refine ⟨howned.once, fun r hr => ?_⟩
  exact (howned.sound r hr).delivered (Served.run u as) (Served.run u (as ++ bs))
    (u.ledger_extends as bs)

/-- Two clients write one byte, one after the other. The mailbox is busy when the second sends
first, and the data lock is taken when its request comes to be carried out. -/
def twoWriters : List (Action Image) :=
  [.send 0 (.writeByte ⟨.output, 1, 0⟩ 7) true true,
    .send 1 (.writeByte ⟨.output, 1, 0⟩ 9) true true, .copyOut true, .carryOut true,
    .writeReply true, .notify, .wake 0, .collect 0 true,
    .send 1 (.writeByte ⟨.output, 1, 0⟩ 9) true true, .copyOut true, .carryOut false,
    .writeReply true, .notify, .wake 1, .collect 1 true,
    .send 0 (.setBit ⟨.memory, 9, 0⟩) true true]

theorem send_returns_delivered_twoWriters :
    (∀ k free, Action.drain k free ∉ twoWriters) ∧
      (Setup.blank.ledger twoWriters).returns =
        [⟨1, .error (.protocol (.notReady true false)), none⟩, ⟨0, .ok 0, some 0⟩,
          ⟨2, .error (.protocol (.commandFailed 7 (-1))), some 2⟩,
          ⟨3, .error (.address (.byteOutOfRange 9 1 4)), none⟩] ∧
      (Setup.blank.ledger twoWriters).returned.Nodup ∧
      ∀ r ∈ (Setup.blank.ledger twoWriters).returns,
        ∃ q, Delivered (Setup.blank.ledger twoWriters) (Setup.blank.ledger (twoWriters ++ []))
          r q :=
  ⟨by simp [twoWriters], rfl,
    send_returns_delivered Setup.blank twoWriters [] (by simp [twoWriters])⟩

end FieldImage
