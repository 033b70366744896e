import FieldImage.Proofs.Command.RoundTrip
import FieldImage.Proofs.Handshake.Hosting
import FieldImage.Proofs.Mailbox.Sections

/-! A send up to its request. A send that ends before its request is posted leaves the machine as it
was, but for the time that it waited and for a late reply of its own that it threw away; any other
send leaves its whole request in the mailbox. -/

namespace FieldImage

namespace Mailbox

/-- A request with these values and zeros behind them, and no reply. -/
structure Carries (b : Mailbox) (id : Int32) (values : List Int32) : Prop where
  command : b.command = id
  payload : b.values.toList = values ++ List.replicate (Command.capacity - values.length) 0
  length : b.length.toInt = values.length
  request : b.request = 1
  reply : b.reply = 0

theorem toList_pad {values : List Int32} (h : values.length ≤ Command.capacity) :
    (pad values).toList = values ++ List.replicate (Command.capacity - values.length) 0 := by
  apply List.ext_getElem
  · simp [h]
  · intro i hi _
    simp only [pad, Vector.getElem_toList, Vector.getElem_ofFn, List.getElem_append,
      List.getElem_replicate]
    split
    · rename_i hlt
      rw [List.getElem?_eq_getElem hlt, Option.getD_some]
    · rename_i hge
      rw [List.getElem?_eq_none (Nat.le_of_not_lt hge), Option.getD_none]

theorem carries_postRequest {values : List Int32} (h : values.length ≤ Command.capacity)
    (id : Int32) : Carries (postRequest id values) id values where
  command := rfl
  payload := toList_pad h
  length := Int32.toInt_ofNat_of_lt (Nat.lt_of_le_of_lt h (by decide))
  request := rfl
  reply := rfl

theorem requestPending_eq_false {b : Mailbox} : b.requestPending = false ↔ b.request = 0 := by
  simp [requestPending]

theorem replyPending_eq_false {b : Mailbox} : b.replyPending = false ↔ b.reply = 0 := by
  simp [replyPending]

end Mailbox

namespace Client

/-- The mailbox holds the reply to the command that a client with this gate gave up on. -/
def OwnLateReply (gate : Option Int32) (b : Mailbox) : Prop :=
  b.request = 0 ∧ b.reply ≠ 0 ∧ gate = some b.command

instance (gate : Option Int32) (b : Mailbox) : Decidable (OwnLateReply gate b) :=
  inferInstanceAs (Decidable (_ ∧ _))

/-- The mailbox is busy, and not with a late reply of the client. -/
def Refuses (gate : Option Int32) (b : Mailbox) : Prop :=
  (b.request ≠ 0 ∨ b.reply ≠ 0) ∧ ¬OwnLateReply gate b

theorem ownLateReply_iff {gate : Option Int32} {b : Mailbox} : OwnLateReply gate b ↔
    gate = some b.command ∧ b.requestPending = false ∧ b.replyPending = true := by
  rw [← Bool.not_eq_false b.replyPending, Mailbox.requestPending_eq_false,
    Mailbox.replyPending_eq_false]
  exact and_rotate.symm

theorem clears_iff {gate : Option Int32} {b : Mailbox} : Clears gate b ↔ ¬Refuses gate b := by
  rw [Clears, ← ownLateReply_iff, Mailbox.isBusy_eq_false, Mailbox.requestPending_eq_false,
    Mailbox.replyPending_eq_false, Refuses]
  simp only [ne_eq, not_and_or, not_or, not_not]

theorem settle_mailbox (gate : Option Int32) (b : Mailbox) :
    (settle gate b).2 = if OwnLateReply gate b then { b with reply := 0 } else b := by
  cases gate with
  | none => exact (if_neg fun hlate => nomatch hlate.2.2).symm
  | some id =>
    by_cases hlate : OwnLateReply (some id) b
    · obtain ⟨hgate, hrequest, hreply⟩ := ownLateReply_iff.mp hlate
      cases hgate
      simp [settle, hlate, hrequest, hreply]
    · have hother : ¬(!b.requestPending && b.replyPending && b.command == id) = true := by
        simp only [Bool.and_eq_true, Bool.not_eq_true', beq_iff_eq]
        rintro ⟨⟨hrequest, hreply⟩, rfl⟩
        exact hlate (ownLateReply_iff.mpr ⟨rfl, hrequest, hreply⟩)
      rw [settle, if_neg hother, if_neg hlate]
      split <;> rfl

end Client

namespace Host

/-- Client `k` of a machine, and what its segment holds. -/
structure Attached (h : Host) (k : Nat) (c : HostedClient) (b : Mailbox) (n : Signal)
    (v : ImageView) : Prop where
  client : h.clients[k]? = some c
  segment : Segment.Holds (h.memory c.memory) b n v

/-- A machine with another mailbox in the segment of client `k` and another gate. -/
def leave (h : Host) (k : Nat) (c : HostedClient) (gate : Option Int32) (b : Mailbox) : Host :=
  (h.modifyMemory c.memory (Segment.setMailbox · b)).setClient k
    { c with client := { c.client with gate } }

variable {h : Host} {k : Nat} {c : HostedClient} {b : Mailbox} {n : Signal} {v : ImageView}

theorem Attached.leave (ha : h.Attached k c b n v) (gate : Option Int32) (b' : Mailbox) :
    (h.leave k c gate b').Attached k { c with client := { c.client with gate } } b' n v where
  client := by
    have hk : k < h.clients.size := (Array.getElem?_eq_some_iff.mp ha.client).1
    exact Array.getElem?_setIfInBounds_self_of_lt hk
  segment := by
    show Segment.Holds (Host.memory (h.setMemory c.memory _) c.memory) b' n v
    rw [memory_setMemory (lt_size_of_segment ha.segment)]
    exact Segment.holds_setMailbox ha.segment b'

theorem Attached.wait (ha : h.Attached k c b n v) (d : Duration) : (h.wait d).Attached k c b n v :=
  ⟨ha.client, ha.segment⟩

theorem setMemory_memory (h : Host) (id : Nat) : h.setMemory id (h.memory id) = h := by
  have hsame : h.memories.setIfInBounds id (h.memory id) = h.memories :=
    Segment.setIfInBounds_same fun m hm => by rw [memory, hm, Option.getD_some]
  rw [setMemory, hsame]

theorem setClient_self (hc : h.clients[k]? = some c) : h.setClient k c = h := by
  have hsame : h.clients.setIfInBounds k c = h.clients :=
    Segment.setIfInBounds_same fun d hd => Option.some.inj (hd.symm.trans hc)
  rw [setClient, hsame]

/-- What is left as it was found is no change. -/
theorem Attached.leave_self (ha : h.Attached k c b n v) : h.leave k c c.client.gate b = h := by
  have hmailbox : Segment.setMailbox (h.memory c.memory) b = h.memory c.memory := by
    rw [← ha.segment.mailbox, Segment.setMailbox_mailbox ha.segment.dataOffset_le]
  rw [Host.leave, modifyMemory, hmailbox, setMemory_memory]
  exact setClient_self ha.client

/-! ### The first half of a send -/

theorem beginSend_of_unprepared (ha : h.Attached k c b n v) {command : Command} {f : Fault}
    (hprepare : c.client.prepare command = .error f) :
    h.beginSend k command = (.error f, h) := by
  simp only [beginSend, ha.client, hprepare]

theorem beginSend_of_locked (ha : h.Attached k c b n v) {command : Command} {values : List Int32}
    (hprepare : c.client.prepare command = .ok values)
    (hlocked : Segment.isFree (h.memory c.memory) .mailbox = false) :
    h.beginSend k command =
      (.error (.transport (.lockTimeout c.client.limits.lock)), h.wait c.client.limits.lock) := by
  simp only [beginSend, ha.client, hprepare, acquire, hlocked]
  rfl

/-- With the mailbox lock, the first half of a send is its post section. -/
theorem beginSend_of_free (ha : h.Attached k c b n v) {command : Command} {values : List Int32}
    (hprepare : c.client.prepare command = .ok values)
    (hfree : Segment.isFree (h.memory c.memory) .mailbox = true) {replyFree : Bool}
    (hreply : Segment.isFree (h.memory c.memory) .reply = replyFree) {p : Client.Posting}
    (hp : c.client.post b replyFree command.id values = p) :
    h.beginSend k command =
      match p.result with
      | .ok _ => (.ok ⟨command, n.sequence⟩, h.leave k c p.gate p.mailbox)
      | .error (.transport (.lockTimeout d)) =>
        (.error (.transport (.lockTimeout d)), (h.leave k c p.gate p.mailbox).wait d)
      | .error f => (.error f, h.leave k c p.gate p.mailbox) := by
  simp only [beginSend, ha.client, hprepare, acquire, hfree, Server.acquire, if_true, pure,
    Except.pure, ha.segment.mailbox, ha.segment.sequence, hreply, hp]
  rfl

theorem beginSend_of_refuses (ha : h.Attached k c b n v) {command : Command} {values : List Int32}
    (hprepare : c.client.prepare command = .ok values)
    (hfree : Segment.isFree (h.memory c.memory) .mailbox = true)
    (hrefuses : Client.Refuses c.client.gate b) :
    h.beginSend k command =
      (.error (.protocol (.notReady b.requestPending b.replyPending)), h) := by
  have hclears : ¬Client.Clears c.client.gate b := fun h => Client.clears_iff.mp h hrefuses
  rw [beginSend_of_free ha hprepare hfree rfl (Client.post_of_not_clears hclears ..)]
  exact congrArg (Prod.mk _) ha.leave_self

/-- A send that misses the reply lock has settled its gate by then. -/
theorem beginSend_of_replyLocked (ha : h.Attached k c b n v) {command : Command}
    {values : List Int32} (hprepare : c.client.prepare command = .ok values)
    (hfree : Segment.isFree (h.memory c.memory) .mailbox = true)
    (hlocked : Segment.isFree (h.memory c.memory) .reply = false)
    (haccepts : ¬Client.Refuses c.client.gate b) :
    h.beginSend k command =
      (.error (.transport (.lockTimeout c.client.limits.lock)),
        (h.leave k c none (if Client.OwnLateReply c.client.gate b then { b with reply := 0 }
          else b)).wait c.client.limits.lock) := by
  have hpost := Client.post_of_clears (Client.clears_iff.mpr haccepts) false command.id values
  rw [Client.settle_mailbox] at hpost
  rw [beginSend_of_free ha hprepare hfree hlocked hpost]
  rfl

theorem beginSend_posts (ha : h.Attached k c b n v) {command : Command} {values : List Int32}
    (hprepare : c.client.prepare command = .ok values)
    (hfree : Segment.isFree (h.memory c.memory) .mailbox = true)
    (hreply : Segment.isFree (h.memory c.memory) .reply = true)
    (haccepts : ¬Client.Refuses c.client.gate b) :
    h.beginSend k command =
      (.ok ⟨command, n.sequence⟩, h.leave k c none (Mailbox.postRequest command.id values)) := by
  have hpost := Client.post_of_clears (Client.clears_iff.mpr haccepts) true command.id values
  rw [beginSend_of_free ha hprepare hfree hreply hpost]
  rfl

/-! ### Whole sends -/

section

variable {α : Type} {path : String} {command : Command} {serve : Host → α × Host}

theorem send_of_beginSend_error {f : Fault} {g : Host}
    (hbegin : h.beginSend k command = (.error f, g)) :
    h.send path k command serve = (.error f, none, g) := by
  simp only [send, hbegin]

/-- A request that was posted is not answered with a busy mailbox. -/
theorem endSend_ne_notReady (g : Host) (k : Nat) (p : Pending) (request reply : Bool) :
    (g.endSend k p).1 ≠ .error (.protocol (.notReady request reply)) := by
  intro hresult
  simp only [endSend] at hresult
  split at hresult
  · cases hresult
  · split at hresult
    · split at hresult
      · rename_i hlock
        simp only [acquire, Server.acquire] at hlock
        split at hlock <;> cases hlock
        cases hresult
      · rw [Client.collect] at hresult
        split at hresult
        · cases hresult
        · simp only [bind, Except.bind] at hresult
          exact (Client.judge_eq_error hresult request reply).1 rfl
    · cases hresult

theorem send_ne_notReady_of_posted {p : Pending} {g : Host}
    (hbegin : h.beginSend k command = (.ok p, g)) (request reply : Bool) :
    (h.send path k command serve).1 ≠ .error (.protocol (.notReady request reply)) := by
  simp only [send, hbegin]
  split
  · exact endSend_ne_notReady _ k p request reply
  · exact endSend_ne_notReady _ k p request reply

/-- With the mailbox lock, the flags alone decide whether the mailbox is not ready for a send. -/
theorem send_eq_notReady_iff (ha : h.Attached k c b n v) {values : List Int32}
    (hprepare : c.client.prepare command = .ok values)
    (hfree : Segment.isFree (h.memory c.memory) .mailbox = true) (request reply : Bool) :
    (h.send path k command serve).1 = .error (.protocol (.notReady request reply)) ↔
      Client.Refuses c.client.gate b ∧ request = b.requestPending ∧ reply = b.replyPending := by
  by_cases hrefuses : Client.Refuses c.client.gate b
  · rw [send_of_beginSend_error (beginSend_of_refuses ha hprepare hfree hrefuses)]
    simp [hrefuses, eq_comm]
  · refine iff_of_false (fun hresult => ?_) fun hready => hrefuses hready.1
    cases hreply : Segment.isFree (h.memory c.memory) .reply with
    | false =>
      rw [send_of_beginSend_error (beginSend_of_replyLocked ha hprepare hfree hreply hrefuses)]
        at hresult
      cases hresult
    | true =>
      have hposts := beginSend_posts ha hprepare hfree hreply hrefuses
      exact send_ne_notReady_of_posted hposts request reply hresult

end

/-- A send of any command to any mailbox, with any gate. It changes nothing when the command has no
place in the image or no payload, and when the mailbox is not ready, which it says of a busy mailbox
that holds no late reply of its own. A lock that it cannot have costs it the time of the limit, and
the reply lock its late reply and its gate too. What is left are the sends that post. -/
theorem send_before_posting (ha : h.Attached k c b n v) {α : Type} (path : String)
    (command : Command) (serve : Host → α × Host) :
    (∀ f, c.client.prepare command = .error f →
      ((∃ cause, f = .address cause) ∨ command.encode = .error f) ∧
        h.send path k command serve = (.error f, none, h)) ∧
    ∀ values, c.client.prepare command = .ok values →
      (Segment.isFree (h.memory c.memory) .mailbox = false →
        h.send path k command serve =
          (.error (.transport (.lockTimeout c.client.limits.lock)), none,
            h.wait c.client.limits.lock)) ∧
      (Segment.isFree (h.memory c.memory) .mailbox = true →
        (∀ request reply,
          (h.send path k command serve).1 = .error (.protocol (.notReady request reply)) ↔
            Client.Refuses c.client.gate b ∧ request = b.requestPending ∧
              reply = b.replyPending) ∧
        (Client.Refuses c.client.gate b → (h.send path k command serve).2 = (none, h)) ∧
        (¬Client.Refuses c.client.gate b →
          (Segment.isFree (h.memory c.memory) .reply = false →
            ∃ b', b' = (if Client.OwnLateReply c.client.gate b then { b with reply := 0 } else b) ∧
              h.send path k command serve =
                (.error (.transport (.lockTimeout c.client.limits.lock)), none,
                  (h.leave k c none b').wait c.client.limits.lock) ∧
              ((h.leave k c none b').wait c.client.limits.lock).Attached k
                { c with client := { c.client with gate := none } } b' n v) ∧
          (Segment.isFree (h.memory c.memory) .reply = true →
            ∃ b', command.encode = .ok values ∧ b'.Carries command.id values ∧
              h.beginSend k command = (.ok ⟨command, n.sequence⟩, h.leave k c none b') ∧
              (h.leave k c none b').Attached k
                { c with client := { c.client with gate := none } } b' n v))) := by
  refine ⟨fun f hprepare => ⟨Client.prepare_eq_error hprepare,
    send_of_beginSend_error (beginSend_of_unprepared ha hprepare)⟩, fun values hprepare => ?_⟩
  refine ⟨fun hlocked => send_of_beginSend_error (beginSend_of_locked ha hprepare hlocked),
    fun hfree => ⟨send_eq_notReady_iff ha hprepare hfree, fun hrefuses => ?_,
      fun haccepts => ⟨fun hlocked => ?_, fun hreply => ?_⟩⟩⟩
  · rw [send_of_beginSend_error (beginSend_of_refuses ha hprepare hfree hrefuses)]
  · have hbegin := beginSend_of_replyLocked ha hprepare hfree hlocked haccepts
    exact ⟨_, rfl, send_of_beginSend_error hbegin, (ha.leave none _).wait _⟩
  · have hencode := Client.encode_of_prepare hprepare
    exact ⟨_, hencode, Mailbox.carries_postRequest (Command.length_encode hencode) command.id,
      beginSend_posts ha hprepare hfree hreply haccepts, ha.leave none _⟩

/-- A machine with one segment and one client of it. -/
def single (m : Segment.Memory) (c : Client) : Host :=
  { new with memories := #[m], clients := #[⟨c, 0⟩] }

theorem memory_single (m : Segment.Memory) (c : Client) : (single m c).memory 0 = m := rfl

theorem attached_single {m : Segment.Memory} (c : Client) (hm : Segment.Holds m b n v) :
    (single m c).Attached 0 ⟨c, 0⟩ b n v :=
  ⟨rfl, hm⟩

/-- The reply to a ping. -/
def latePing : Mailbox := Mailbox.postReply 2 0

/-- The reply has come, and another process holds the reply lock. -/
def lateMemory : Segment.Memory :=
  Segment.takeLock (Segment.setMailbox (Segment.fresh 1 0) latePing) .reply

theorem lateMemory_locks : Segment.Holds lateMemory latePing ⟨0⟩ ⟨1, Vector.replicate 3 0⟩ ∧
    Segment.isFree lateMemory .mailbox = true ∧ Segment.isFree lateMemory .reply = false := by
  have hunlocked := Segment.unlocked_setMailbox (Segment.unlocked_fresh 1 0) latePing
  have hroom : Segment.Layout.lockAt .reply + 4 ≤
      (Segment.setMailbox (Segment.fresh 1 0) latePing).size :=
    Nat.le_trans (by decide) hunlocked.dataOffset_le
  rw [lateMemory, Segment.takeLock]
  refine ⟨Segment.holds_setLock hunlocked.toHolds .reply 1, ?_, ?_⟩
  · rw [Segment.setWord, Segment.isFree_poke _ (.inl (by decide)), hunlocked.free .mailbox]
  · rw [Segment.setWord, Segment.isFree, Segment.word_poke_inside _ _ hroom]
    rfl

/-- A client that gave up on the ping. -/
def lateClient : Client := ⟨1, Client.defaultLimits, some 2⟩

/-- Its next send throws the reply away and opens the gate, and fails all the same. -/
theorem send_before_posting_latePing :
    (single lateMemory lateClient).Attached 0 ⟨lateClient, 0⟩ latePing ⟨0⟩
        ⟨1, Vector.replicate 3 0⟩ ∧
      (single lateMemory lateClient).send "" 0 .ping (fun h => ((), h)) =
        (.error (.transport (.lockTimeout lateClient.limits.lock)), none,
          ((single lateMemory lateClient).leave 0 ⟨lateClient, 0⟩ none
            { latePing with reply := 0 }).wait lateClient.limits.lock) := by
  obtain ⟨hsegment, hmailbox, hreply⟩ := lateMemory_locks
  have hattached := attached_single lateClient hsegment
  have haccepts : ¬Client.Refuses lateClient.gate latePing := fun hrefuses =>
    hrefuses.2 ⟨rfl, by decide, rfl⟩
  rw [← memory_single lateMemory lateClient] at hmailbox hreply
  obtain ⟨-, hprepared⟩ := send_before_posting hattached "" .ping fun h => ((), h)
  obtain ⟨-, -, hlocked⟩ := (hprepared [] rfl).2 hmailbox
  obtain ⟨b', hb', hsend, -⟩ := (hlocked haccepts).1 hreply
  rw [if_pos ⟨rfl, by decide, rfl⟩] at hb'
  subst hb'
  exact ⟨hattached, hsend⟩

end Host

end FieldImage
