import FieldImage.Proofs.Handshake.History
import Mathlib.Data.List.Nodup

/-! Whose request the mailbox holds. A client that waits for a reply owns the mailbox: nobody else
waits then, nobody else can post, and the reply that comes is the reply to its request. A client
that gave a reply up owns it in the same way until the reply is gone. From this follows how a send
can end. -/

namespace FieldImage

/-- The command whose reply a client waits for. -/
def Stage.command? : Stage → Option Command
  | .resting => none
  | .waiting command _ | .woken command => some command

theorem Stage.command?_of_waiting {stage : Stage} {c : Command} {observed : UInt32}
    (h : stage = .waiting c observed) : stage.command? = some c := by
  rw [h]
  rfl

theorem Stage.command?_of_woken {stage : Stage} {c : Command} (h : stage = .woken c) :
    stage.command? = some c := by
  rw [h]
  rfl

/-- Why a send ends that posted nothing. -/
inductive TurnsBack (c : Command) : Fault → Prop where
  | address (cause : AddressFault) : TurnsBack c (.address cause)
  | encoding (f : Fault) (h : c.encode = .error f) : TurnsBack c f
  | locked (after : Duration) : TurnsBack c (.transport (.lockTimeout after))
  | notReady (request reply : Bool) : TurnsBack c (.protocol (.notReady request reply))

/-- Why a send ends that posted its request and got no reply. -/
inductive LosesReply : Fault → Prop where
  | late (after : Duration) : LosesReply (.transport (.replyTimeout after))
  | locked (after : Duration) : LosesReply (.transport (.lockTimeout after))
  | early : LosesReply (.protocol (.outOfSequence true false))

variable {ι : Type}

/-- Client `k` waits for the reply to the request of the mailbox's holder. -/
structure Waits (s : Exchange ι) (l : Ledger ι) (k : Nat) (c : Command) : Prop where
  busy : s.mailbox.isBusy = true
  current : l.current k = l.holder
  sent : l.sends[l.holder]? = some ⟨k, c⟩
  gate : (s.client k).gate = none
  posted : l.holder ∈ l.posted
  unreturned : l.holder ∉ l.returned

/-- Client `k` gave up on the reply to the request of the mailbox's holder. -/
structure Gated (s : Exchange ι) (l : Ledger ι) (k : Nat) (id : Int32) : Prop where
  resting : s.stage k = .resting
  busy : s.mailbox.isBusy = true
  sent : ∃ c, l.sends[l.holder]? = some ⟨k, c⟩ ∧ c.id = id

/-- How a send ended: it posted nothing, it lost its reply, or it took the reply to its own
request. -/
inductive Return.Sound (l : Ledger ι) (r : Return) : Prop where
  | turnedBack (q : Sent) (f : Fault) (hsent : l.sends[r.send]? = some q)
      (hposted : r.send ∉ l.posted) (htook : r.took = none) (hcause : TurnsBack q.command f)
      (hresult : r.result = .error f)
  | unanswered (q : Sent) (f : Fault) (hsent : l.sends[r.send]? = some q)
      (hposted : r.send ∈ l.posted) (htook : r.took = none) (hcause : LosesReply f)
      (hresult : r.result = .error f)
  | answered (q : Sent) (d : Dispatch ι) (hsent : l.sends[r.send]? = some q)
      (hposted : r.send ∈ l.posted) (htook : r.took = some r.send) (hd : d ∈ l.dispatches)
      (hsend : d.send = r.send)
      (hresult : r.result = Client.judge q.command q.command.id (some [d.code]))

/-- The mailbox belongs to the client that waits for its reply or gave it up, and the sends that
ended did so once. -/
structure Owned (s : Exchange ι) (l : Ledger ι) : Prop where
  waits : ∀ k c, (s.stage k).command? = some c → Waits s l k c
  gated : ∀ k id, (s.client k).gate = some id → Gated s l k id
  known : ∀ n ∈ l.returned, n < l.sends.length
  once : l.returned.Nodup
  sound : ∀ r ∈ l.returns, r.Sound l

/-- No client but `k` waits for a reply or gave one up. -/
def Alone (s : Exchange ι) (k : Nat) : Prop :=
  ∀ j, j ≠ k → s.stage j = .resting ∧ (s.client j).gate = none

/-- No client waits for a reply or gave one up. -/
def Free (s : Exchange ι) : Prop := ∀ j, s.stage j = .resting ∧ (s.client j).gate = none

/-- When the client that is alone rests and opens its gate, nobody is left. -/
theorem Alone.free {s t : Exchange ι} {k : Nat} (h : Alone s k) (hrest : s.stage k = .resting)
    (hstage : t.stage = s.stage) (hothers : ∀ j, j ≠ k → t.client j = s.client j)
    (hgate : (t.client k).gate = none) : Free t := by
  intro j
  rw [hstage]
  by_cases hsame : j = k
  · rw [hsame]
    exact ⟨hrest, hgate⟩
  · rw [hothers j hsame]
    exact h j hsame

theorem Return.Sound.extend {l l' : Ledger ι} {r : Return} (h : r.Sound l)
    (hextends : l.Extends l') : r.Sound l' := by
  cases h with
  | turnedBack q f hsent hposted htook hcause hresult =>
    have hlt : r.send < l.sends.length := (List.getElem?_eq_some_iff.mp hsent).1
    exact .turnedBack q f (hextends.sent hsent)
      (fun hmem => hposted (hextends.later _ hmem hlt)) htook hcause hresult
  | unanswered q f hsent hposted htook hcause hresult =>
    exact .unanswered q f (hextends.sent hsent) (hextends.posted.mem hposted) htook hcause hresult
  | answered q d hsent hposted htook hd hsend hresult =>
    exact .answered q d (hextends.sent hsent) (hextends.posted.mem hposted) htook
      (hextends.dispatches.mem hd) hsend hresult

namespace Waits

variable {s t : Exchange ι} {l l' : Ledger ι} {k : Nat} {c : Command}

theorem frame (h : Waits s l k c) (hbusy : t.mailbox.isBusy = true)
    (hgate : (t.client k).gate = (s.client k).gate) (hextends : l.Extends l')
    (hholder : l'.holder = l.holder) (hcurrent : l'.current k = l.current k)
    (hunreturned : l.holder ∉ l'.returned) : Waits t l' k c where
  busy := hbusy
  current := by rw [hholder, hcurrent, h.current]
  sent := hholder ▸ hextends.sent h.sent
  gate := hgate.trans h.gate
  posted := hholder ▸ hextends.posted.mem h.posted
  unreturned := hholder ▸ hunreturned

theorem holder_lt (h : Waits s l k c) : l.holder < l.sends.length :=
  (List.getElem?_eq_some_iff.mp h.sent).1

end Waits

theorem Gated.frame {s t : Exchange ι} {l l' : Ledger ι} {k : Nat} {id : Int32}
    (h : Gated s l k id) (hresting : t.stage k = .resting) (hbusy : t.mailbox.isBusy = true)
    (hextends : l.Extends l') (hholder : l'.holder = l.holder) : Gated t l' k id where
  resting := hresting
  busy := hbusy
  sent := by
    obtain ⟨c, hsent, hid⟩ := h.sent
    exact ⟨c, hholder ▸ hextends.sent hsent, hid⟩

theorem Free.waits {s : Exchange ι} {l : Ledger ι} (h : Free s) (j : Nat) (c : Command)
    (hj : (s.stage j).command? = some c) : Waits s l j c := by
  rw [(h j).1] at hj
  cases hj

theorem Free.gated {s : Exchange ι} {l : Ledger ι} (h : Free s) (j : Nat) (id : Int32)
    (hj : (s.client j).gate = some id) : Gated s l j id := by
  rw [(h j).2] at hj
  cases hj

namespace Owned

variable {s t : Exchange ι} {l l' : Ledger ι}

/-- Two clients that wait are one. -/
theorem waits_unique (h : Owned s l) {j k : Nat} {c c' : Command} (hk : Waits s l k c)
    (hj : (s.stage j).command? = some c') : j = k := by
  have hsent := (h.waits j c' hj).sent
  rw [hk.sent] at hsent
  exact (congrArg Sent.client (Option.some.inj hsent)).symm

/-- While a client waits, no client has given a reply up. -/
theorem gate_of_waits (h : Owned s l) {k : Nat} {c : Command} (hk : Waits s l k c) (j : Nat) :
    (s.client j).gate = none := by
  cases hgate : (s.client j).gate with
  | none => rfl
  | some id =>
    obtain ⟨c', hsent, -⟩ := (h.gated j id hgate).sent
    rw [hk.sent] at hsent
    obtain rfl : k = j := congrArg Sent.client (Option.some.inj hsent)
    rw [hk.gate] at hgate
    cases hgate

/-- A client that gets past the mailbox finds nobody else who waits for a reply or gave one up. -/
theorem alone_of_clears (h : Owned s l) {k : Nat}
    (hclears : Client.Clears (s.client k).gate s.mailbox) : Alone s k := by
  have hholder : s.mailbox.isBusy = true → ∃ c, l.sends[l.holder]? = some ⟨k, c⟩ := by
    intro hbusy
    rcases hclears with hidle | ⟨hgate, -, -⟩
    · rw [hbusy] at hidle
      cases hidle
    · obtain ⟨c, hsent, -⟩ := (h.gated k _ hgate).sent
      exact ⟨c, hsent⟩
  intro j hj
  constructor
  · have hnone : (s.stage j).command? = none := by
      cases hcommand : (s.stage j).command? with
      | none => rfl
      | some c' =>
        have hwaits := h.waits j c' hcommand
        obtain ⟨c, hsent⟩ := hholder hwaits.busy
        rw [hwaits.sent] at hsent
        exact absurd (congrArg Sent.client (Option.some.inj hsent)) hj
    cases hj' : s.stage j with
    | resting => rfl
    | waiting _ _ | woken _ =>
      rw [hj'] at hnone
      cases hnone
  · cases hgate : (s.client j).gate with
    | none => rfl
    | some id =>
      have hgated := h.gated j id hgate
      obtain ⟨c, hsent⟩ := hholder hgated.busy
      obtain ⟨c', hsent', -⟩ := hgated.sent
      rw [hsent'] at hsent
      exact absurd (congrArg Sent.client (Option.some.inj hsent)) hj

/-- A step that ends no send. -/
theorem keeps (h : Owned s l) (hextends : l.Extends l') (hreturns : l'.returns = l.returns)
    (hwaits : ∀ j c, (t.stage j).command? = some c → Waits t l' j c)
    (hgated : ∀ j id, (t.client j).gate = some id → Gated t l' j id) : Owned t l' where
  waits := hwaits
  gated := hgated
  known := by
    rw [Ledger.returned, hreturns]
    intro n hn
    exact Nat.lt_of_lt_of_le (h.known n hn) hextends.sends.length_le
  once := by
    rw [Ledger.returned, hreturns]
    exact h.once
  sound := by
    rw [hreturns]
    intro r hr
    exact (h.sound r hr).extend hextends

/-- A step that changes no client, and leaves the mailbox busy if it was. -/
theorem frame (h : Owned s l) (hextends : l.Extends l') (hreturns : l'.returns = l.returns)
    (hstage : t.stage = s.stage) (hclient : t.client = s.client)
    (hbusy : s.mailbox.isBusy = true → t.mailbox.isBusy = true)
    (hholder : l'.holder = l.holder) (hcurrent : l'.current = l.current) : Owned t l' := by
  refine h.keeps hextends hreturns ?_ ?_
  · intro j c hj
    rw [hstage] at hj
    have hwaits := h.waits j c hj
    have hunreturned : l.holder ∉ l'.returned := by
      rw [Ledger.returned, hreturns]
      exact hwaits.unreturned
    exact hwaits.frame (hbusy hwaits.busy) (by rw [hclient]) hextends hholder (by rw [hcurrent])
      hunreturned
  · intro j id hj
    rw [hclient] at hj
    have hgated := h.gated j id hj
    exact hgated.frame (hstage ▸ hgated.resting) (hbusy hgated.busy) hextends hholder

/-- A send that posts nothing ends. -/
theorem turnsBack (h : Owned s l) (hposted : ∀ n ∈ l.posted, n < l.sends.length)
    (hwaits : ∀ j c, (t.stage j).command? = some c → Waits t l j c)
    (hgated : ∀ j id, (t.client j).gate = some id → Gated t l j id)
    {k : Nat} {command : Command} {f : Fault} (hcause : TurnsBack command f) :
    Owned t (l.note (.turnedBack k command f)) := by
  have hextends := l.extends_note (.turnedBack k command f)
  have hreturned :
      (l.note (.turnedBack k command f)).returned = l.returned ++ [l.sends.length] := by
    simp [Ledger.returned, Ledger.note]
  have hlength : (l.note (.turnedBack k command f)).sends.length = l.sends.length + 1 := by
    simp [Ledger.note]
  constructor
  · intro j c hj
    have hw := hwaits j c hj
    refine hw.frame hw.busy rfl hextends rfl rfl ?_
    rw [hreturned]
    intro hmem
    rcases List.mem_append.mp hmem with hmem | hmem
    · exact hw.unreturned hmem
    · exact absurd (List.mem_singleton.mp hmem) (Nat.ne_of_lt hw.holder_lt)
  · intro j id hj
    have hg := hgated j id hj
    exact hg.frame hg.resting hg.busy hextends rfl
  · intro n hn
    rw [hreturned] at hn
    rw [hlength]
    rcases List.mem_append.mp hn with hn | hn
    · exact Nat.lt_succ_of_lt (h.known n hn)
    · rw [List.mem_singleton.mp hn]
      exact Nat.lt_succ_self _
  · rw [hreturned]
    refine List.nodup_append.mpr ⟨h.once, List.nodup_singleton _, ?_⟩
    intro n hn m hm
    rw [List.mem_singleton.mp hm]
    exact Nat.ne_of_lt (h.known n hn)
  · intro r hr
    rcases List.mem_append.mp hr with hr | hr
    · exact (h.sound r hr).extend hextends
    · rw [List.mem_singleton.mp hr]
      refine .turnedBack ⟨k, command⟩ f ?_ ?_ rfl hcause rfl
      · simp [Ledger.note]
      · intro hmem
        exact absurd (hposted _ hmem) (Nat.lt_irrefl _)

/-- The wait of client `k` ends, and with it the send. -/
theorem ends (h : Owned s l) {k : Nat} {c : Command} (hk : (s.stage k).command? = some c)
    (hstage : t.stage = Function.update s.stage k .resting) {result : Except Fault Int32}
    {took : Bool}
    (hgated : ∀ j id, (t.client j).gate = some id →
      Gated t (l.note (.returned k result took)) j id)
    (hsound : Return.Sound l ⟨l.holder, result, if took then some l.holder else none⟩) :
    Owned t (l.note (.returned k result took)) := by
  have hw := h.waits k c hk
  have hextends := l.extends_note (.returned k result took)
  have hreturned : (l.note (.returned k result took)).returned = l.returned ++ [l.holder] := by
    simp [Ledger.returned, Ledger.note, hw.current]
  constructor
  · intro j c' hj
    rw [hstage] at hj
    by_cases hsame : j = k
    · subst hsame
      rw [Function.update_self] at hj
      cases hj
    · rw [Function.update_of_ne hsame] at hj
      exact absurd (h.waits_unique hw hj) hsame
  · exact hgated
  · intro n hn
    rw [hreturned] at hn
    rcases List.mem_append.mp hn with hn | hn
    · exact h.known n hn
    · rw [List.mem_singleton.mp hn]
      exact hw.holder_lt
  · rw [hreturned]
    refine List.nodup_append.mpr ⟨h.once, List.nodup_singleton _, ?_⟩
    intro n hn m hm hsame
    rw [List.mem_singleton.mp hm] at hsame
    exact hw.unreturned (hsame ▸ hn)
  · intro r hr
    rcases List.mem_append.mp hr with hr | hr
    · exact (h.sound r hr).extend hextends
    · rw [List.mem_singleton.mp hr, hw.current]
      exact hsound.extend hextends

/-- The wait of client `k` ends without a reply, and the gate stays open. -/
theorem ends_open (h : Owned s l) {k : Nat} {c : Command} (hk : (s.stage k).command? = some c)
    (hstage : t.stage = Function.update s.stage k .resting) (hclient : t.client = s.client)
    {f : Fault} (hcause : LosesReply f) : Owned t (l.note (.returned k (.error f) false)) := by
  have hw := h.waits k c hk
  refine h.ends hk hstage ?_ ?_
  · intro j id hj
    rw [hclient, h.gate_of_waits hw j] at hj
    cases hj
  · exact .unanswered ⟨k, c⟩ f hw.sent hw.posted rfl hcause rfl

/-- The causes of a send that leaves everything as it was. -/
theorem turnsBack_of_refuses {k : Nat} {command : Command} {f : Fault}
    (h : s.Refuses k command f) : TurnsBack command f := by
  cases h with
  | unfit hprepare =>
    rcases Client.prepare_eq_error hprepare with ⟨cause, rfl⟩ | hencode
    · exact .address cause
    · exact .encoding f hencode
  | locked => exact .locked _
  | busy => exact .notReady _ _

theorem start (u : Setup ι) : Owned u.start Ledger.empty where
  waits k c hk := by cases hk
  gated k id hk := by cases hk
  known := by simp [Ledger.returned, Ledger.empty]
  once := List.nodup_nil
  sound := by simp [Ledger.empty]

variable [ByteImage ι]

/-- The next step, when only a client that is alone drains the mailbox. -/
theorem step (h : Owned s l) (hstanding : Standing s l)
    (hposted : ∀ n ∈ l.posted, n < l.sends.length) {a : Action ι} {e : Option (Event ι)}
    (hmove : s.Moves a e t) (hdrain : ∀ k free, a = .drain k free → Alone s k) :
    Owned t (l.see e) := by
  have hextends := l.extends_see e
  cases hmove with
  | stays _ _ he =>
    rcases he with rfl | ⟨o, rfl⟩
    · exact h
    · exact h.frame hextends rfl rfl rfl (fun hbusy => hbusy) rfl rfl
  | refuses k command mailboxFree replyFree f hrefuses =>
    exact h.turnsBack hposted h.waits h.gated (turnsBack_of_refuses hrefuses)
  | clears k command values hprepare hstage hclears =>
    have hfree := (h.alone_of_clears hclears).free (t := { s with
      mailbox := (Client.settle (s.client k).gate s.mailbox).2
      client := Function.update s.client k { s.client k with gate := none } }) hstage rfl
      (fun j hj => Function.update_of_ne hj ..) (by simp)
    exact h.turnsBack hposted hfree.waits hfree.gated (.locked _)
  | posts k command values hprepare hstage hclears =>
    have halone := h.alone_of_clears hclears
    refine h.keeps hextends rfl ?_ ?_
    · intro j c hj
      by_cases hsame : j = k
      · subst hsame
        simp only [Function.update_self, Stage.command?, Option.some.injEq] at hj
        subst hj
        refine ⟨rfl, ?_, ?_, ?_, ?_, ?_⟩
        · simp [Ledger.see, Ledger.note]
        · simp [Ledger.see, Ledger.note]
        · simp
        · simp [Ledger.see, Ledger.note]
        · intro hmem
          exact absurd (h.known _ hmem) (Nat.lt_irrefl _)
      · simp [Function.update_of_ne hsame, (halone j hsame).1, Stage.command?] at hj
    · intro j id hj
      by_cases hsame : j = k
      · subst hsame
        simp at hj
      · simp [Function.update_of_ne hsame, (halone j hsame).2] at hj
  | wakes k command observed hstage hsignal =>
    have hcommand : ∀ j c, (Function.update s.stage k (.woken command) j).command? = some c →
        (s.stage j).command? = some c := by
      intro j c hj
      by_cases hsame : j = k
      · subst hsame
        rw [Function.update_self] at hj
        rw [hstage]
        exact hj
      · rwa [Function.update_of_ne hsame] at hj
    have hwaiting := Stage.command?_of_waiting hstage
    refine h.keeps hextends rfl ?_ ?_
    · intro j c hj
      have hw := h.waits j c (hcommand j c hj)
      exact hw.frame hw.busy rfl hextends rfl rfl hw.unreturned
    · intro j id hj
      rw [h.gate_of_waits (h.waits k command hwaiting) j] at hj
      cases hj
  | givesUp k command observed hstage =>
    have hwaiting := Stage.command?_of_waiting hstage
    have hw := h.waits k command hwaiting
    refine h.ends hwaiting rfl ?_ (.unanswered ⟨k, command⟩ _ hw.sent hw.posted rfl (.late _) rfl)
    intro j id hj
    by_cases hsame : j = k
    · subst hsame
      simp only [Function.update_self, Option.some.injEq] at hj
      exact ⟨Function.update_self .., hw.busy, command, hextends.sent hw.sent, hj⟩
    · simp [Function.update_of_ne hsame, h.gate_of_waits hw j] at hj
  | missesLock k command hstage =>
    have hwaiting := Stage.command?_of_woken hstage
    refine h.ends_open hwaiting ?_ ?_ (.locked _)
    · rfl
    · rfl
  | collectsEarly k command hstage hearly =>
    have hwaiting := Stage.command?_of_woken hstage
    obtain ⟨hrequest, hreply⟩ := hstanding.early (h.waits k command hwaiting).busy hearly
    rw [hrequest, hreply]
    refine h.ends_open hwaiting ?_ ?_ .early
    · rfl
    · rfl
  | takes k command hstage hrequest hreply =>
    have hwaiting := Stage.command?_of_woken hstage
    have hw := h.waits k command hwaiting
    obtain ⟨q, d, hsent, hd, hsend, hmailbox⟩ := hstanding.reply hrequest hreply
    obtain rfl : q = ⟨k, command⟩ := Option.some.inj (hsent.symm.trans hw.sent)
    refine h.ends hwaiting rfl ?_ ?_
    · intro j id hj
      rw [h.gate_of_waits hw j] at hj
      cases hj
    · refine .answered ⟨k, command⟩ d hw.sent hw.posted rfl hd hsend ?_
      rw [hmailbox, Mailbox.payload?_postReply]
      rfl
  | drains k hstage hrequest hreply =>
    have hfree := (hdrain k true rfl).free (t := { s with
      mailbox := { s.mailbox with reply := 0 }
      client := Function.update s.client k { s.client k with gate := none } }) hstage rfl
      (fun j hj => Function.update_of_ne hj ..) (by simp)
    exact h.keeps hextends rfl hfree.waits hfree.gated
  | resets hphase hunposted hrequest hreply =>
    obtain ⟨q, values, hasks, -⟩ := hstanding.fresh hphase hunposted hrequest
    exact absurd hreply (by simp [hasks.replyPending])
  | succeeds dataFree command payload e hphase hdispatch =>
    obtain ⟨q, values, -, -, -, hcopied, -⟩ := hstanding.inHand hphase
    rw [Ledger.see_carriedOut hcopied] at hextends ⊢
    exact h.frame hextends rfl rfl rfl (fun hbusy => hbusy) rfl rfl
  | fails dataFree command payload f hphase hdispatch =>
    obtain ⟨q, values, -, -, -, hcopied, -⟩ := hstanding.inHand hphase
    rw [Ledger.see_carriedOut hcopied] at hextends ⊢
    exact h.frame hextends rfl rfl rfl (fun hbusy => hbusy) rfl rfl
  | replies command code outcome howes =>
    obtain ⟨q, values, d, -, -, -, -, hcopied, -⟩ := hstanding.owed howes
    rw [Ledger.see_replied hcopied] at hextends ⊢
    exact h.frame hextends rfl rfl rfl (fun _ => rfl) rfl rfl
  | copiesOut | defers | notifies | edits =>
    exact h.frame hextends rfl rfl rfl (fun hbusy => hbusy) rfl rfl

end Owned

/-- The client whose step it is. -/
def Action.client? : Action ι → Option Nat
  | .send k .. | .wake k | .giveUp k | .collect k _ | .drain k _ => some k
  | .copyOut _ | .carryOut _ | .writeReply _ | .notify | .edit _ => none

/-- No client but `k` takes a step. -/
def OneClient (k : Nat) (as : List (Action ι)) : Prop :=
  ∀ a ∈ as, ∀ j, a.client? = some j → j = k

theorem OneClient.append {k : Nat} {as bs : List (Action ι)} (h : OneClient k as)
    (h' : OneClient k bs) : OneClient k (as ++ bs) := by
  intro a ha
  rcases List.mem_append.mp ha with ha | ha
  · exact h a ha
  · exact h' a ha

variable [ByteImage ι]

/-- A client stays alone while no other client takes a step. -/
theorem Alone.step {s t : Exchange ι} {k : Nat} (h : Alone s k) {a : Action ι}
    {e : Option (Event ι)} (hmove : s.Moves a e t) (hone : ∀ j, a.client? = some j → j = k) :
    Alone t k := by
  intro j hj
  have halone := h j hj
  cases hmove with
  | stays | refuses | copiesOut | resets | succeeds | fails | replies | defers | notifies
  | edits => exact halone
  | clears i | posts i | wakes i | givesUp i | missesLock i | collectsEarly i | takes i
  | drains i =>
    obtain rfl : i = k := hone i rfl
    simpa [Function.update_of_ne hj] using halone

namespace Owned

theorem run_of_no_drain (u : Setup ι) (as : List (Action ι))
    (hdrains : ∀ k free, Action.drain k free ∉ as) : Owned (u.after as) (u.ledger as) := by
  have hrun := u.run_induction (P := fun s l => Served s l ∧ Owned s l) as
    ⟨Served.start u, start u⟩ fun s l a e t ha h hmove =>
      ⟨h.1.step hmove, h.2.step h.1.standing h.1.known hmove fun k free hdrain =>
        absurd (hdrain ▸ ha) (hdrains k free)⟩
  exact hrun.2

/-- The next step, when it is taken by the client that is alone or by the server. -/
theorem step_alone {s t : Exchange ι} {l : Ledger ι} {k : Nat} (h : Owned s l)
    (hserved : Served s l) (halone : Alone s k) {a : Action ι} {e : Option (Event ι)}
    (hmove : s.Moves a e t) (hone : ∀ j, a.client? = some j → j = k) : Owned t (l.see e) := by
  refine h.step hserved.standing hserved.known hmove fun j free hdrain => ?_
  subst hdrain
  obtain rfl : j = k := hone j rfl
  exact halone

end Owned

/-- What holds after every run of one client and the server. -/
structure Paired (s : Exchange ι) (l : Ledger ι) (k : Nat) : Prop where
  served : Served s l
  owned : Owned s l
  alone : Alone s k

theorem Paired.start (u : Setup ι) (k : Nat) : Paired u.start Ledger.empty k where
  served := Served.start u
  owned := Owned.start u
  alone _ _ := ⟨rfl, rfl⟩

theorem Paired.step {s t : Exchange ι} {l : Ledger ι} {k : Nat} (h : Paired s l k)
    {a : Action ι} {e : Option (Event ι)} (hmove : s.Moves a e t)
    (hone : ∀ j, a.client? = some j → j = k) : Paired t (l.see e) k where
  served := h.served.step hmove
  owned := h.owned.step_alone h.served h.alone hmove hone
  alone := h.alone.step hmove hone

theorem Paired.run (u : Setup ι) (as : List (Action ι)) {k : Nat} (hone : OneClient k as) :
    Paired (u.after as) (u.ledger as) k :=
  u.run_induction (P := fun s l => Paired s l k) as (start u k) fun _ _ a _ _ ha h hmove =>
    h.step hmove (hone a ha)

end FieldImage
