import FieldImage.Proofs.Handshake.History

/-! The process data as the outcome of a log. When nobody but the server changes the process data,
it is what the log of the commands that were carried out makes of the data at the start, however the
clients and the server take turns. -/

namespace FieldImage

variable {ι : Type}

/-- Each request finds the process data as the one before it left them. -/
def Linked (x : ι) : List (Dispatch ι) → ι → Prop
  | [], y => y = x
  | d :: ds, y => d.before = x ∧ Linked d.after ds y

theorem linked_concat {x y : ι} {ds : List (Dispatch ι)} {d : Dispatch ι} :
    Linked x (ds ++ [d]) y ↔ Linked x ds d.before ∧ y = d.after := by
  induction ds generalizing x with
  | nil =>
    simp only [List.nil_append, Linked]
  | cons c ds ih =>
    simp only [List.cons_append, Linked, ih, and_assoc]

variable [ByteImage ι]

/-- Requests that find the process data as left before them, each sound, carry out their commands
one after the other. -/
theorem Linked.foldlM_apply {l : Ledger ι} {x y : ι} {ds : List (Dispatch ι)} (h : Linked x ds y)
    (hsound : ∀ d ∈ ds, ∃ q, d.Sound l q) :
    ((ds.filter (·.succeeded)).filterMap fun d => l.command? d.send).foldlM Command.apply x =
      .ok y := by
  induction ds generalizing x with
  | nil =>
    rw [show y = x from h]
    rfl
  | cons d ds ih =>
    obtain ⟨rfl, hrest⟩ := h
    obtain ⟨q, hq⟩ := hsound d List.mem_cons_self
    have hds := ih hrest fun d' hd' => hsound d' (List.mem_cons_of_mem _ hd')
    rcases hq.effect with ⟨hresult, happly⟩ | ⟨f, hresult, hafter⟩
    · have hsucceeded : d.succeeded = true := by
        rw [Dispatch.succeeded, hresult]
        rfl
      have hcommand := Ledger.command?_of_sent hq.sent
      rw [List.filter_cons_of_pos hsucceeded]
      simp only [List.filterMap_cons, hcommand, List.foldlM_cons, happly]
      exact hds
    · have hfailed : ¬(d.succeeded = true) := by
        rw [Dispatch.succeeded, hresult]
        exact Bool.false_ne_true
      rw [List.filter_cons_of_neg hfailed, ← hafter]
      exact hds

namespace Served

variable {s t : Exchange ι} {l : Ledger ι}

/-- The log follows the requests at the server, for those came in the order of their posts. -/
theorem log_eq (h : Served s l) :
    l.log = (l.dispatches.filter (·.succeeded)).filterMap fun d => l.command? d.send := by
  have hposted : l.posted.filter l.succeeded = l.dispatched.filter l.succeeded := by
    rcases h.posted_eq with heq | heq
    · rw [heq]
    · have hfresh : l.holder ∉ l.dispatched := by
        have hnodup := h.posted_nodup
        rw [heq] at hnodup
        intro hmem
        exact (List.nodup_append.mp hnodup).2.2 _ hmem _ List.mem_cons_self rfl
      have hnone : l.succeeded l.holder = false := by
        rw [Ledger.succeeded, Ledger.dispatchesOf_eq_nil hfresh]
        rfl
      rw [heq, List.filter_append, List.filter_cons, if_neg (by simp [hnone]), List.filter_nil,
        List.append_nil]
  have hsame : ∀ d ∈ l.dispatches, l.succeeded d.send = d.succeeded := by
    intro d hd
    rw [Ledger.succeeded, h.dispatchesOf_eq hd]
    simp
  rw [Ledger.log, hposted, Ledger.dispatched, List.filter_map, List.filterMap_map]
  exact congrArg _ (List.filter_congr hsame)

/-- Only the server changes the process data, and it does so with a request in hand. -/
theorem linked_step (h : Served s l) {x : ι} (hlinked : Linked x l.dispatches s.data)
    {a : Action ι} {e : Option (Event ι)} (hmove : s.Moves a e t)
    (hedit : ∀ data, a ≠ .edit data) : Linked x (l.see e).dispatches t.data := by
  cases hmove with
  | stays _ _ he =>
    rcases he with rfl | ⟨o, rfl⟩
    · exact hlinked
    · exact hlinked
  | succeeds dataFree command payload e hphase hdispatch =>
    obtain ⟨q, values, -, -, -, hcopied, -⟩ := h.standing.inHand hphase
    rw [Ledger.see_carriedOut hcopied]
    exact linked_concat.mpr ⟨hlinked, rfl⟩
  | fails dataFree command payload f hphase hdispatch =>
    obtain ⟨q, values, -, -, -, hcopied, -⟩ := h.standing.inHand hphase
    rw [Ledger.see_carriedOut hcopied]
    exact linked_concat.mpr ⟨hlinked, rfl⟩
  | replies command code outcome howes =>
    obtain ⟨q, values, d, -, -, -, -, hcopied, -⟩ := h.standing.owed howes
    rw [Ledger.see_replied hcopied]
    exact hlinked
  | edits data => exact absurd rfl (hedit data)
  | _ => exact hlinked

theorem linked_run (u : Setup ι) (as : List (Action ι))
    (hedits : ∀ data, Action.edit data ∉ as) :
    Linked u.data (u.ledger as).dispatches (u.after as).data := by
  have hrun := u.run_induction (P := fun s l => Served s l ∧ Linked u.data l.dispatches s.data) as
    ⟨start u, rfl⟩ fun s l a e t ha h hmove =>
      ⟨h.1.step hmove, h.1.linked_step h.2 hmove fun data hdata => hedits data (hdata ▸ ha)⟩
  exact hrun.2

/-- A request at the server was answered, or the server keeps its reply. -/
theorem answered_or_kept (h : Served s l) {d : Dispatch ι} (hd : d ∈ l.dispatches) :
    (∃ r ∈ l.replies, r.send = d.send ∧ r.command = d.command ∧ r.code = d.code) ∨
      s.server.unposted = some (d.command, d.code) := by
  have hunique : ∀ d' ∈ l.dispatches, d'.send = d.send → d' = d := by
    intro d' hd' hsend
    have hsingle := h.dispatchesOf_eq hd
    rw [← hsend, h.dispatchesOf_eq hd'] at hsingle
    exact List.singleton_inj.mp hsingle
  have hreply : d.send ∈ l.replied →
      ∃ r ∈ l.replies, r.send = d.send ∧ r.command = d.command ∧ r.code = d.code := by
    intro hmem
    obtain ⟨r, hr, hsend⟩ := List.mem_map.mp hmem
    obtain ⟨d', hd', hsend', hcommand, hcode⟩ := h.faithful r hr
    obtain rfl := hunique d' hd' (hsend'.trans hsend)
    exact ⟨r, hr, hsend, hcommand.symm, hcode.symm⟩
  have hmem : d.send ∈ l.dispatched := List.mem_map_of_mem hd
  cases h.standing with
  | idle _ _ _ _ _ hreplied | asked _ _ _ _ _ _ _ hreplied | copied _ _ _ _ _ _ _ hreplied
  | answered _ _ _ _ _ _ _ _ hreplied => exact .inl (hreply (hreplied ▸ hmem))
  | owing q values d' hasks hphase hunposted hcopied hposted hreplied hd' hsend =>
    rw [hreplied] at hmem
    rcases List.mem_append.mp hmem with hmem | hmem
    · exact .inl (hreply hmem)
    · obtain rfl := hunique d' hd' (hsend.trans (List.mem_singleton.mp hmem).symm)
      right
      rw [hunposted, (h.sound_of_sent hd' hsend hasks.sent).command]

end Served

/-- The process data refines the log of the commands that were carried out. Requests reach the
server at most once and in the order of their posts. One that is not carried out changes nothing and
is answered with the code for failure. From the time a request is copied out until its reply is
written, the mailbox keeps it. -/
structure RefinesLog (x : ι) (s : Exchange ι) (l : Ledger ι) : Prop where
  data : l.log.foldlM Command.apply x = .ok s.data
  order : l.dispatched <+: l.posted
  once : l.dispatched.Nodup
  logged : ∀ n ∈ l.posted, ∃ q, l.sends[n]? = some q
  failure : ∀ d ∈ l.dispatches, d.succeeded = false → d.after = d.before ∧ d.code = Command.failed
  answer : ∀ d ∈ l.dispatches,
    (∃ r ∈ l.replies, r.send = d.send ∧ r.command = d.command ∧ r.code = d.code) ∨
      s.server.unposted = some (d.command, d.code)
  answers : ∀ r ∈ l.replies, ∃ d ∈ l.dispatches,
    d.send = r.send ∧ d.command = r.command ∧ d.code = r.code
  kept : ∀ c, l.copied = some c → s.mailbox.requestPending = true ∧
    s.mailbox.replyPending = false ∧ s.mailbox.command = c.command ∧ s.mailbox.payload? = c.payload

theorem data_refines_log (u : Setup ι) (as : List (Action ι))
    (hedits : ∀ data, Action.edit data ∉ as) :
    RefinesLog u.data (u.after as) (u.ledger as) := by
  have hserved := Served.run u as
  have hlinked := Served.linked_run u as hedits
  constructor
  · rw [hserved.log_eq]
    exact hlinked.foldlM_apply hserved.sound
  · exact hserved.dispatched_prefix
  · exact hserved.dispatched_nodup
  · intro n hn
    exact ⟨_, List.getElem?_eq_getElem (hserved.known n hn)⟩
  · intro d hd hfailed
    obtain ⟨q, hq⟩ := hserved.sound d hd
    rcases hq.effect with ⟨hresult, -⟩ | ⟨f, hresult, hafter⟩
    · simp [Dispatch.succeeded, hresult, Except.isOk, Except.toBool] at hfailed
    · refine ⟨hafter, ?_⟩
      rw [Dispatch.code, hresult]
  · intro d hd
    exact hserved.answered_or_kept hd
  · exact hserved.faithful
  · intro c hcopied
    obtain ⟨q, values, hasks, rfl⟩ := hserved.standing.kept hcopied
    exact ⟨hasks.requestPending, hasks.replyPending, hasks.command, hasks.payload?⟩

/-- A bit is inverted, the reply cannot be written at first, and the client gives up. Another client
drains the reply and asks for the same, but the data lock cannot be had. -/
def lateInversion : List (Action Image) :=
  [.send 0 (.invertBit ⟨.memory, 0, 3⟩) true true, .copyOut true, .carryOut true, .writeReply false,
    .giveUp 0, .copyOut true, .writeReply true, .notify, .drain 1 true,
    .send 1 (.invertBit ⟨.memory, 0, 3⟩) true true, .copyOut true, .carryOut false]

theorem data_refines_log_lateInversion :
    (∀ data, Action.edit data ∉ lateInversion) ∧
      (Setup.blank.ledger lateInversion).dispatched = [0, 1] ∧
      (Setup.blank.ledger lateInversion).log = [.invertBit ⟨.memory, 0, 3⟩] ∧
      ByteImage.byte? Setup.blank.data .memory 0 = some 0 ∧
      ByteImage.byte? (Setup.blank.after lateInversion).data .memory 0 = some 0x08 ∧
      RefinesLog Setup.blank.data (Setup.blank.after lateInversion)
        (Setup.blank.ledger lateInversion) :=
  ⟨by simp [lateInversion], rfl, rfl, rfl, rfl,
    data_refines_log Setup.blank lateInversion (by simp [lateInversion])⟩

end FieldImage
