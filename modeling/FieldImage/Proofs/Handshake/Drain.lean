import FieldImage.Proofs.Handshake.Gate

/-! Whose reply a drain throws away. A drain looks at the flags of the mailbox and at nothing else,
so what it finds is the reply to the last request that was posted, whether the client that posted it
gave up or still waits. The reply is gone then: no send takes it any more. -/

namespace FieldImage

variable {ι : Type}

/-- A send that ended without the reply to its own request. -/
def Ledger.GaveUp (l : Ledger ι) (n : Nat) : Prop := ∃ r ∈ l.returns, r.send = n ∧ r.took ≠ some n

/-- No send took the reply to send `n`. -/
def Ledger.Untaken (l : Ledger ι) (n : Nat) : Prop := ∀ r ∈ l.returns, r.took ≠ some n

/-- A drain of client `k`, with the mailbox locked, finds a reply and throws it away. -/
def Exchange.Discards (s : Exchange ι) (k : Nat) : Prop :=
  s.stage k = .resting ∧ ((s.client k).drain s.mailbox).1 = true

/-- Client `k` is in send `n`, and its request is posted. -/
def Awaits (s : Exchange ι) (l : Ledger ι) (k n : Nat) : Prop :=
  s.stage k ≠ .resting ∧ l.current k = n ∧ n ∉ l.returned

theorem Stage.command?_eq_none {stage : Stage} : stage.command? = none ↔ stage = .resting := by
  cases stage <;> simp [Stage.command?]

theorem Exchange.Discards.reply {s : Exchange ι} {k : Nat} (h : s.Discards k) :
    s.mailbox.requestPending = false ∧ s.mailbox.replyPending = true := by
  obtain ⟨-, hdrain⟩ := h
  rw [Client.drain] at hdrain
  split at hdrain
  · rename_i hpending
    simpa using hpending
  · cases hdrain

/-- An end that is new after a step is the one that the step shows. -/
theorem Ledger.mem_returns_see {l : Ledger ι} {e : Option (Event ι)} {r : Return}
    (hr : r ∈ (l.see e).returns) :
    r ∈ l.returns ∨
      (∃ k command cause, e = some (.turnedBack k command cause) ∧
        r = ⟨l.sends.length, .error cause, none⟩) ∨
      ∃ k result took, e = some (.returned k result took) ∧
        r = ⟨l.current k, result, if took then some l.holder else none⟩ := by
  cases e with
  | none => exact .inl hr
  | some e =>
    cases e with
    | posted | copiedOut | polled => exact .inl hr
    | turnedBack k command cause =>
      rcases List.mem_append.mp hr with hr | hr
      · exact .inl hr
      · exact .inr (.inl ⟨k, command, cause, rfl, List.mem_singleton.mp hr⟩)
    | returned k result took =>
      rcases List.mem_append.mp hr with hr | hr
      · exact .inl hr
      · exact .inr (.inr ⟨k, result, took, rfl, List.mem_singleton.mp hr⟩)
    | carriedOut | replied =>
      simp only [Ledger.see, Ledger.note] at hr
      split at hr
      · exact .inl hr
      · exact .inl hr

/-- A reply that a step takes was in the mailbox, and the mailbox is idle afterwards. -/
theorem Exchange.Moves.took [ByteImage ι] {s t : Exchange ι} {l : Ledger ι} {a : Action ι}
    {e : Option (Event ι)} (hmove : s.Moves a e t) {r : Return} (hr : r ∈ (l.see e).returns)
    {n : Nat} (htook : r.took = some n) :
    r ∈ l.returns ∨ n = l.holder ∧ s.mailbox.isBusy = true ∧ t.mailbox.isBusy = false := by
  rcases Ledger.mem_returns_see hr with hr | ⟨k, command, cause, rfl, rfl⟩ |
    ⟨k, result, took, rfl, rfl⟩
  · exact .inl hr
  · cases htook
  · cases hmove with
    | stays _ _ he =>
      rcases he with he | ⟨o, he⟩
      · cases he
      · cases he
    | givesUp | missesLock | collectsEarly => cases htook
    | takes k command hstage hrequest hreply =>
      refine .inr ⟨(Option.some.inj htook).symm, ?_, by simpa using hrequest⟩
      simp [Mailbox.isBusy, hreply]

/-- The reply to send `n` is not in the mailbox, and will not come again. -/
structure Spent (s : Exchange ι) (l : Ledger ι) (n : Nat) : Prop where
  known : n < l.sends.length
  gone : n = l.holder → s.mailbox.isBusy = false

/-- The sends of each client, and the replies that were taken, whatever the drains do. -/
structure Tended (s : Exchange ι) (l : Ledger ι) : Prop where
  known : ∀ n ∈ l.returned, n < l.sends.length
  /-- The mailbox belongs to the last request. -/
  last : ∀ n ∈ l.posted, n ≤ l.holder
  latest : ∀ n ∈ l.posted, ∀ q, l.sends[n]? = some q → n ≤ l.current q.client
  waits : ∀ k c, (s.stage k).command? = some c →
    l.sends[l.current k]? = some ⟨k, c⟩ ∧ l.current k ∈ l.posted ∧ l.current k ∉ l.returned
  /-- A send that has not ended is the one that its client is in. -/
  ended : ∀ n ∈ l.posted, ∀ q, l.sends[n]? = some q →
    n ∈ l.returned ∨ s.stage q.client ≠ .resting ∧ l.current q.client = n
  taken : ∀ r ∈ l.returns, ∀ n, r.took = some n → Spent s l n

namespace Spent

variable {s t : Exchange ι} {l l' : Ledger ι} {n : Nat}

theorem frame (h : Spent s l n) (hextends : l.Extends l') (hholder : l'.holder = l.holder)
    (hbusy : s.mailbox.isBusy = false → t.mailbox.isBusy = false) : Spent t l' n where
  known := Nat.lt_of_lt_of_le h.known hextends.sends.length_le
  gone hn := hbusy (h.gone (hn.trans hholder))

theorem of_idle (h : n < l.sends.length) (hidle : s.mailbox.isBusy = false) : Spent s l n where
  known := h
  gone _ := hidle

variable [ByteImage ι]

theorem step (h : Spent s l n) (hstanding : Standing s l) {a : Action ι} {e : Option (Event ι)}
    (hmove : s.Moves a e t) : Spent t (l.see e) n := by
  have hextends := l.extends_see e
  have hknown := Nat.lt_of_lt_of_le h.known hextends.sends.length_le
  cases hmove with
  | stays _ _ he =>
    rcases he with rfl | ⟨o, rfl⟩
    · exact h
    · exact h
  | refuses | wakes | givesUp | missesLock | collectsEarly | copiesOut | defers | notifies
  | edits => exact h.frame hextends rfl fun hidle => hidle
  | clears k command values hprepare hstage hclears =>
    exact .of_idle hknown (Client.settle_of_clears hclears).2
  | posts k command values hprepare hstage hclears =>
    -- the mailbox goes to a send that is new
    refine ⟨hknown, fun hn => ?_⟩
    exact absurd hn (Nat.ne_of_lt h.known)
  | takes k command hstage hrequest hreply | drains k hstage hrequest hreply =>
    exact .of_idle hknown (by simpa using hrequest)
  | resets => exact .of_idle hknown rfl
  | succeeds _ _ _ _ hphase | fails _ _ _ _ hphase =>
    obtain ⟨q, values, -, -, -, hcopied, -⟩ := hstanding.inHand hphase
    rw [Ledger.see_carriedOut hcopied] at hextends ⊢
    exact h.frame hextends rfl fun hidle => hidle
  | replies command code outcome howes =>
    obtain ⟨q, values, d, hasks, -, -, -, hcopied, -⟩ := hstanding.owed howes
    rw [Ledger.see_replied hcopied] at hextends ⊢
    refine h.frame hextends rfl fun hidle => ?_
    rw [hasks.mailbox] at hidle
    cases hidle

/-- A reply that is not in the mailbox is not taken. -/
theorem untaken (h : Spent s l n) (huntaken : l.Untaken n) {a : Action ι} {e : Option (Event ι)}
    (hmove : s.Moves a e t) : (l.see e).Untaken n := by
  intro r hr htook
  rcases hmove.took hr htook with hr | ⟨hn, hbusy, -⟩
  · exact huntaken r hr htook
  · rw [h.gone hn] at hbusy
    cases hbusy

end Spent

namespace Tended

variable {s t : Exchange ι} {l l' : Ledger ι}

theorem start (u : Setup ι) : Tended u.start Ledger.empty where
  known := by simp [Ledger.returned, Ledger.empty]
  last := by simp [Ledger.empty]
  latest := by simp [Ledger.empty]
  waits k c hk := by cases hk
  ended := by simp [Ledger.empty]
  taken := by simp [Ledger.empty]

/-- A step in which no send begins, is posted or ends. -/
theorem keeps (h : Tended s l) (hsends : l'.sends = l.sends) (hposted : l'.posted = l.posted)
    (hcurrent : l'.current = l.current) (hholder : l'.holder = l.holder)
    (hreturns : l'.returns = l.returns)
    (hstage : ∀ k, (t.stage k).command? = (s.stage k).command?)
    (htaken : ∀ r ∈ l'.returns, ∀ n, r.took = some n → Spent t l' n) : Tended t l' where
  known := by
    rw [Ledger.returned, hreturns, hsends]
    exact h.known
  last := by
    rw [hposted, hholder]
    exact h.last
  latest := by
    rw [hposted, hsends, hcurrent]
    exact h.latest
  waits k c hk := by
    rw [hstage] at hk
    rw [Ledger.returned, hreturns, hposted, hsends, hcurrent]
    exact h.waits k c hk
  ended n hn q hq := by
    rw [hposted] at hn
    rw [hsends] at hq
    rw [Ledger.returned, hreturns, hcurrent, Ne, ← Stage.command?_eq_none, hstage,
      Stage.command?_eq_none]
    exact h.ended n hn q hq
  taken := htaken

/-- A send is turned back. -/
theorem turnsBack (h : Tended s l) (hposted : ∀ n ∈ l.posted, n < l.sends.length) {k : Nat}
    {command : Command} {cause : Fault} (hstage : t.stage = s.stage)
    (htaken : ∀ r ∈ (l.note (.turnedBack k command cause)).returns, ∀ n, r.took = some n →
      Spent t (l.note (.turnedBack k command cause)) n) :
    Tended t (l.note (.turnedBack k command cause)) := by
  have hextends := l.extends_note (.turnedBack k command cause)
  have hreturned : (l.note (.turnedBack k command cause)).returned =
      l.returned ++ [l.sends.length] := by
    simp [Ledger.returned, Ledger.note]
  have hbefore {n : Nat} (hn : n ∈ l.posted) :
      (l.note (.turnedBack k command cause)).sends[n]? = l.sends[n]? :=
    List.getElem?_append_left (hposted n hn)
  constructor
  · intro n hn
    rw [hreturned] at hn
    simp only [Ledger.note, List.length_append, List.length_singleton]
    rcases List.mem_append.mp hn with hn | hn
    · exact Nat.lt_succ_of_lt (h.known n hn)
    · rw [List.mem_singleton.mp hn]
      exact Nat.lt_succ_self _
  · exact h.last
  · intro n hn q hq
    rw [hbefore hn] at hq
    exact h.latest n hn q hq
  · intro j c hj
    rw [hstage] at hj
    obtain ⟨hsent, hmem, hnot⟩ := h.waits j c hj
    refine ⟨hextends.sent hsent, hmem, fun hreturn => ?_⟩
    rw [hreturned] at hreturn
    rcases List.mem_append.mp hreturn with hreturn | hreturn
    · exact hnot hreturn
    · exact absurd (List.mem_singleton.mp hreturn) (Nat.ne_of_lt (hposted _ hmem))
  · intro n hn q hq
    rw [hbefore hn] at hq
    rw [hstage, hreturned]
    exact (h.ended n hn q hq).imp_left (List.mem_append_left _)
  · exact htaken

/-- Client `k` posts its request, and is in its send from now on. -/
theorem posts (h : Tended s l) (hposted : ∀ n ∈ l.posted, n < l.sends.length) {k : Nat}
    {command : Command} {due : Bool} (hrest : s.stage k = .resting)
    (hself : (t.stage k).command? = some command) (hothers : ∀ j, j ≠ k → t.stage j = s.stage j)
    (htaken : ∀ r ∈ l.returns, ∀ n, r.took = some n → Spent t (l.note (.posted k command due)) n) :
    Tended t (l.note (.posted k command due)) := by
  have hextends := l.extends_note (.posted k command due)
  have hbefore {n : Nat} (hn : n ∈ l.posted) :
      (l.note (.posted k command due)).sends[n]? = l.sends[n]? :=
    List.getElem?_append_left (hposted n hn)
  have hnew {q : Sent} (hq : (l.note (.posted k command due)).sends[l.sends.length]? = some q) :
      q = ⟨k, command⟩ := by
    simpa [Ledger.note, eq_comm] using hq
  have hself' : (l.note (.posted k command due)).current k = l.sends.length :=
    Function.update_self ..
  have hother {j : Nat} (hj : j ≠ k) :
      (l.note (.posted k command due)).current j = l.current j := Function.update_of_ne hj ..
  constructor
  · intro n hn
    exact Nat.lt_of_lt_of_le (h.known n hn) hextends.sends.length_le
  · intro n hn
    rcases List.mem_append.mp hn with hn | hn
    · exact Nat.le_of_lt (hposted n hn)
    · exact Nat.le_of_eq (List.mem_singleton.mp hn)
  · intro n hn q hq
    rcases List.mem_append.mp hn with hn | hn
    · rw [hbefore hn] at hq
      by_cases hclient : q.client = k
      · rw [hclient, hself']
        exact Nat.le_of_lt (hposted n hn)
      · rw [hother hclient]
        exact h.latest n hn q hq
    · rw [List.mem_singleton.mp hn] at hq ⊢
      exact Nat.le_of_eq (by rw [hnew hq, hself'])
  · intro j c hj
    by_cases hsame : j = k
    · subst hsame
      rw [hself] at hj
      obtain rfl := Option.some.inj hj
      rw [hself']
      refine ⟨by simp [Ledger.note], by simp [Ledger.note], fun hreturn => ?_⟩
      exact absurd (h.known _ hreturn) (Nat.lt_irrefl _)
    · rw [hothers j hsame] at hj
      obtain ⟨hsent, hmem, hnot⟩ := h.waits j c hj
      rw [hother hsame]
      exact ⟨hextends.sent hsent, hextends.posted.mem hmem, hnot⟩
  · intro n hn q hq
    rcases List.mem_append.mp hn with hn | hn
    · rw [hbefore hn] at hq
      rcases h.ended n hn q hq with hreturn | ⟨hbusy, hcurrent⟩
      · exact .inl hreturn
      · have hclient : q.client ≠ k := fun hclient => hbusy (hclient ▸ hrest)
        rw [hothers _ hclient, hother hclient]
        exact .inr ⟨hbusy, hcurrent⟩
    · rw [List.mem_singleton.mp hn] at hq ⊢
      rw [hnew hq, hself']
      refine .inr ⟨fun hresting => ?_, rfl⟩
      rw [hresting] at hself
      cases hself
  · exact htaken

/-- The send of client `k` ends. -/
theorem ends (h : Tended s l) (hposted : ∀ n ∈ l.posted, n < l.sends.length) {k : Nat}
    {command : Command} {result : Except Fault Int32} {took : Bool}
    (hk : (s.stage k).command? = some command)
    (hstage : t.stage = Function.update s.stage k .resting)
    (htaken : ∀ r ∈ (l.note (.returned k result took)).returns, ∀ n, r.took = some n →
      Spent t (l.note (.returned k result took)) n) :
    Tended t (l.note (.returned k result took)) := by
  obtain ⟨hsent, hmem, -⟩ := h.waits k command hk
  have hreturned : (l.note (.returned k result took)).returned = l.returned ++ [l.current k] := by
    simp [Ledger.returned, Ledger.note]
  constructor
  · intro n hn
    rw [hreturned] at hn
    rcases List.mem_append.mp hn with hn | hn
    · exact h.known n hn
    · rw [List.mem_singleton.mp hn]
      exact hposted _ hmem
  · exact h.last
  · exact h.latest
  · intro j c hj
    rw [hstage] at hj
    by_cases hsame : j = k
    · subst hsame
      rw [Function.update_self] at hj
      cases hj
    · rw [Function.update_of_ne hsame] at hj
      obtain ⟨hsent', hmem', hnot⟩ := h.waits j c hj
      refine ⟨hsent', hmem', fun hreturn => ?_⟩
      rw [hreturned] at hreturn
      rcases List.mem_append.mp hreturn with hreturn | hreturn
      · exact hnot hreturn
      · -- two clients in one send would be one client
        have hcurrent : l.current j = l.current k := List.mem_singleton.mp hreturn
        rw [hcurrent, hsent] at hsent'
        exact hsame (congrArg Sent.client (Option.some.inj hsent')).symm
  · intro n hn q hq
    rw [hreturned, hstage]
    rcases h.ended n hn q hq with hreturn | ⟨hbusy, hcurrent⟩
    · exact .inl (List.mem_append_left _ hreturn)
    · by_cases hclient : q.client = k
      · rw [← hcurrent, hclient]
        exact .inl (List.mem_append_right _ (List.mem_singleton_self _))
      · rw [Function.update_of_ne hclient]
        exact .inr ⟨hbusy, hcurrent⟩
  · exact htaken

/-- The reply in a busy mailbox was not taken. -/
theorem untaken_holder (h : Tended s l) (hbusy : s.mailbox.isBusy = true) :
    l.Untaken l.holder := by
  intro r hr htook
  rw [(h.taken r hr _ htook).gone rfl] at hbusy
  cases hbusy

/-- A client in a send that posted the last request waits for the reply to that request. -/
theorem awaits_holder (h : Tended s l) (hposted : l.holder ∈ l.posted) {q : Sent}
    (hsent : l.sends[l.holder]? = some q) (hstage : s.stage q.client ≠ .resting) :
    Awaits s l q.client l.holder := by
  obtain ⟨c, hc⟩ := Option.ne_none_iff_exists'.mp (mt Stage.command?_eq_none.mp hstage)
  obtain ⟨-, hmem, hnot⟩ := h.waits q.client c hc
  have hcurrent : l.current q.client = l.holder :=
    Nat.le_antisymm (h.last _ hmem) (h.latest _ hposted q hsent)
  exact ⟨hstage, hcurrent, hcurrent ▸ hnot⟩

/-- The reply in the mailbox was given up exactly when the client that asked for it rests. -/
theorem gaveUp_holder_iff (h : Tended s l) (hposted : l.holder ∈ l.posted)
    (hbusy : s.mailbox.isBusy = true) {q : Sent} (hsent : l.sends[l.holder]? = some q) :
    l.GaveUp l.holder ↔ s.stage q.client = .resting := by
  constructor
  · rintro ⟨r, hr, hsend, -⟩
    by_contra hstage
    have hnot := (h.awaits_holder hposted hsent hstage).2.2
    exact hnot (hsend ▸ List.mem_map_of_mem hr)
  · intro hstage
    rcases h.ended l.holder hposted q hsent with hreturn | ⟨hbusy', -⟩
    · obtain ⟨r, hr, hsend⟩ := List.mem_map.mp hreturn
      exact ⟨r, hr, hsend, h.untaken_holder hbusy r hr⟩
    · exact absurd hstage hbusy'

variable [ByteImage ι]

theorem step (h : Tended s l) (hserved : Served s l) {a : Action ι} {e : Option (Event ι)}
    (hmove : s.Moves a e t) : Tended t (l.see e) := by
  have hstanding := hserved.standing
  have hextends := l.extends_see e
  have htaken : ∀ r ∈ (l.see e).returns, ∀ n, r.took = some n → Spent t (l.see e) n := by
    intro r hr n htook
    rcases hmove.took hr htook with hr | ⟨rfl, hbusy, hidle⟩
    · exact (h.taken r hr n htook).step hstanding hmove
    · obtain ⟨q, hsent, -⟩ := hstanding.command hbusy
      exact .of_idle (List.getElem?_eq_some_iff.mp (hextends.sent hsent)).1 hidle
  cases hmove with
  | stays _ _ he =>
    rcases he with rfl | ⟨o, rfl⟩
    · exact h
    · exact h
  | refuses => exact h.turnsBack hserved.known rfl htaken
  | clears => exact h.turnsBack hserved.known rfl htaken
  | posts k command values hprepare hstage hclears =>
    refine h.posts hserved.known hstage ?_ (fun j hj => Function.update_of_ne hj ..) htaken
    simp [Stage.command?]
  | wakes k command observed hstage =>
    refine h.keeps rfl rfl rfl rfl rfl (fun j => ?_) htaken
    by_cases hj : j = k
    · simp [hj, hstage, Stage.command?]
    · simp [hj]
  | givesUp k command observed hstage =>
    exact h.ends hserved.known (Stage.command?_of_waiting hstage) rfl htaken
  | missesLock k command hstage =>
    exact h.ends hserved.known (Stage.command?_of_woken hstage) rfl htaken
  | collectsEarly k command hstage hearly =>
    exact h.ends hserved.known (Stage.command?_of_woken hstage) rfl htaken
  | takes k command hstage hrequest hreply =>
    exact h.ends hserved.known (Stage.command?_of_woken hstage) rfl htaken
  | succeeds _ _ _ _ hphase | fails _ _ _ _ hphase =>
    obtain ⟨q, values, -, -, -, hcopied, -⟩ := hstanding.inHand hphase
    rw [Ledger.see_carriedOut hcopied] at htaken ⊢
    exact h.keeps rfl rfl rfl rfl rfl (fun _ => rfl) htaken
  | replies command code outcome howes =>
    obtain ⟨q, values, d, -, -, -, -, hcopied, -⟩ := hstanding.owed howes
    rw [Ledger.see_replied hcopied] at htaken ⊢
    exact h.keeps rfl rfl rfl rfl rfl (fun _ => rfl) htaken
  | drains | copiesOut | resets | defers | notifies | edits =>
    exact h.keeps rfl rfl rfl rfl rfl (fun _ => rfl) htaken

theorem run (u : Setup ι) (as : List (Action ι)) : Tended (u.after as) (u.ledger as) := by
  have hrun := u.run_induction (P := fun s l => Served s l ∧ Tended s l) as
    ⟨Served.start u, start u⟩ fun _ _ _ _ _ _ h hmove =>
      ⟨h.1.step hmove, h.2.step h.1 hmove⟩
  exact hrun.2

end Tended

variable [ByteImage ι]

/-- A reply that is not in the mailbox is never taken. -/
theorem Spent.untaken_after {u : Setup ι} {as : List (Action ι)} {n : Nat}
    (h : Spent (u.after as) (u.ledger as) n) (huntaken : (u.ledger as).Untaken n)
    (bs : List (Action ι)) :
    Spent (u.after (as ++ bs)) (u.ledger (as ++ bs)) n ∧ (u.ledger (as ++ bs)).Untaken n := by
  induction bs using List.reverseRecOn with
  | nil =>
    rw [List.append_nil]
    exact ⟨h, huntaken⟩
  | append_singleton bs b ih =>
    have hmove := Exchange.step_moves (u.after (as ++ bs)) b
    rw [← List.append_assoc, u.after_concat, u.ledger_concat]
    exact ⟨ih.1.step (Served.run u _).standing hmove, ih.1.untaken ih.2 hmove⟩

/-- A drain that finds a reply takes it out of the mailbox, and is seen by nobody. -/
theorem Exchange.Discards.step {s : Exchange ι} {k : Nat} (h : s.Discards k) :
    (s.step (.drain k true)).1.mailbox.isBusy = false ∧ (s.step (.drain k true)).2 = none := by
  obtain ⟨hrequest, hreply⟩ := h.reply
  simp [Exchange.step, Exchange.drain, h.1, Server.acquire, Client.drain, hrequest, hreply, pure,
    Except.pure]

/-- A drain throws away the reply to the last request that was posted, and no send ever takes it.
The reply is stale exactly when the client that posted the request rests; otherwise that is another
client, which waits for it. With one client the reply is always stale. -/
theorem drained_reply_stale_iff (u : Setup ι) (as : List (Action ι)) {k : Nat}
    (hdiscards : (u.after as).Discards k) :
    ∃ q, (u.ledger as).sends[(u.ledger as).holder]? = some q ∧
      (∃ d ∈ (u.ledger as).dispatches, d.send = (u.ledger as).holder ∧
        (u.after as).mailbox = Mailbox.postReply q.command.id d.code) ∧
      ((u.ledger as).GaveUp (u.ledger as).holder ↔ (u.after as).stage q.client = .resting) ∧
      (¬(u.ledger as).GaveUp (u.ledger as).holder →
        q.client ≠ k ∧ Awaits (u.after as) (u.ledger as) q.client (u.ledger as).holder) ∧
      (OneClient k as → (u.ledger as).GaveUp (u.ledger as).holder) ∧
      ∀ bs, (u.ledger (as ++ .drain k true :: bs)).Untaken (u.ledger as).holder := by
  obtain ⟨hrequest, hreply⟩ := hdiscards.reply
  have hserved := Served.run u as
  have htended := Tended.run u as
  obtain ⟨q, d, hsent, hd, hsend, hmailbox⟩ := hserved.standing.reply hrequest hreply
  have hbusy : (u.after as).mailbox.isBusy = true := by simp [Mailbox.isBusy, hreply]
  have hposted : (u.ledger as).holder ∈ (u.ledger as).posted :=
    hserved.dispatched_prefix.mem (hsend ▸ List.mem_map_of_mem hd)
  have hstale := htended.gaveUp_holder_iff hposted hbusy hsent
  refine ⟨q, hsent, ⟨d, hd, hsend, hmailbox⟩, hstale, fun hnot => ?_, fun hone => ?_, fun bs => ?_⟩
  · rw [hstale] at hnot
    exact ⟨fun hclient => hnot (hclient ▸ hdiscards.1), htended.awaits_holder hposted hsent hnot⟩
  · rw [hstale]
    by_cases hclient : q.client = k
    · exact hclient ▸ hdiscards.1
    · exact ((Paired.run u as hone).alone _ hclient).1
  · obtain ⟨hidle, hunseen⟩ := hdiscards.step
    have hledger : u.ledger (as ++ [.drain k true]) = u.ledger as := by
      rw [u.ledger_concat, hunseen]
      rfl
    have hspent : Spent (u.after (as ++ [.drain k true])) (u.ledger (as ++ [.drain k true]))
        (u.ledger as).holder := by
      rw [hledger, u.after_concat]
      exact .of_idle (List.getElem?_eq_some_iff.mp hsent).1 hidle
    have hnow := htended.untaken_holder hbusy
    rw [← hledger] at hnow
    have hlater := (hspent.untaken_after (hledger ▸ hnow) bs).2
    rwa [List.append_assoc] at hlater

/-- Client 1 drains the late reply of client 0, which gave up on it. -/
theorem drained_reply_stale_iff_lateReply :
    (Setup.blank.after lateReply).Discards 1 ∧
      (Setup.blank.ledger lateReply).GaveUp (Setup.blank.ledger lateReply).holder := by
  have hdiscards : (Setup.blank.after lateReply).Discards 1 := ⟨rfl, rfl⟩
  obtain ⟨q, hsent, -, hstale, -⟩ := drained_reply_stale_iff Setup.blank lateReply hdiscards
  obtain rfl : q = ⟨0, .ping⟩ := (Option.some.inj hsent).symm
  exact ⟨hdiscards, hstale.mpr rfl⟩

/-- The reply to client 0 is in the mailbox, and client 0 still waits for it. -/
def awaitedReply : List (Action Image) :=
  [.send 0 .ping true true, .copyOut true, .carryOut true, .writeReply true]

/-- Client 1 drains the reply that client 0 waits for. -/
theorem drain_takes_awaited_reply :
    ¬∀ (u : Setup Image) (as : List (Action Image)) (k : Nat), (u.after as).Discards k →
      (u.ledger as).GaveUp (u.ledger as).holder := by
  intro hall
  obtain ⟨r, hr, -⟩ := hall Setup.blank awaitedReply 1 ⟨rfl, rfl⟩
  cases hr

end FieldImage
