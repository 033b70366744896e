import FieldImage.Proofs.Handshake.Serving
import FieldImage.Proofs.Server.Requests

/-! What a run says of the requests that reached the server. They are carried out in the order in
which they were posted, each once, and each on the process data that the one before it left. -/

namespace FieldImage

variable {ι : Type} [ByteImage ι]

/-- A request at the server is the one that its send posted. It is applied in full and answered with
the success code of its command, or it changes nothing. -/
structure Dispatch.Sound (l : Ledger ι) (d : Dispatch ι) (q : Sent) : Prop where
  sent : l.sends[d.send]? = some q
  command : d.command = q.command.id
  payload : ∃ values, q.command.encode = .ok values ∧ d.payload = some values
  effect : d.result = .ok q.command.success ∧ q.command.apply d.before = .ok d.after ∨
    ∃ f, d.result = .error f ∧ d.after = d.before

/-- What holds of the server and its requests after every run. -/
structure Served (s : Exchange ι) (l : Ledger ι) : Prop where
  standing : Standing s l
  ordered : l.posted.Pairwise (· < ·)
  known : ∀ n ∈ l.posted, n < l.sends.length
  sound : ∀ d ∈ l.dispatches, ∃ q, d.Sound l q
  faithful : ∀ r ∈ l.replies, ∃ d ∈ l.dispatches,
    d.send = r.send ∧ d.command = r.command ∧ d.code = r.code

theorem Dispatch.Sound.extend {l l' : Ledger ι} {d : Dispatch ι} {q : Sent} (h : d.Sound l q)
    (hextends : l.Extends l') : d.Sound l' q :=
  { h with sent := hextends.sent h.sent }

namespace Served

variable {s t : Exchange ι} {l l' : Ledger ι}

theorem start (u : Setup ι) : Served u.start Ledger.empty where
  standing := .idle rfl rfl rfl rfl rfl rfl
  ordered := List.Pairwise.nil
  known := by simp [Ledger.empty]
  sound := by simp [Ledger.empty]
  faithful := by simp [Ledger.empty]

/-- A request at the server is that of the send it came from. -/
theorem sound_of_sent (h : Served s l) {d : Dispatch ι} (hd : d ∈ l.dispatches) {n : Nat}
    (hsend : d.send = n) {q : Sent} (hsent : l.sends[n]? = some q) : d.Sound l q := by
  obtain ⟨q', hq'⟩ := h.sound d hd
  have hsent' := hq'.sent
  rw [hsend, hsent] at hsent'
  exact Option.some.inj hsent' ▸ hq'

theorem sound_of_extends (h : Served s l) (hextends : l.Extends l')
    (hdispatches : l'.dispatches = l.dispatches) : ∀ d ∈ l'.dispatches, ∃ q, d.Sound l' q := by
  intro d hd
  rw [hdispatches] at hd
  obtain ⟨q, hq⟩ := h.sound d hd
  exact ⟨q, hq.extend hextends⟩

theorem frame (h : Served s l) (hstanding : Standing t l') (hextends : l.Extends l')
    (hposted : l'.posted = l.posted) (hdispatches : l'.dispatches = l.dispatches)
    (hreplies : l'.replies = l.replies) : Served t l' where
  standing := hstanding
  ordered := hposted ▸ h.ordered
  known := by
    intro n hn
    rw [hposted] at hn
    exact Nat.lt_of_lt_of_le (h.known n hn) hextends.sends.length_le
  sound := h.sound_of_extends hextends hdispatches
  faithful := by
    rw [hreplies, hdispatches]
    exact h.faithful

/-- A new request at the server. -/
theorem dispatch (h : Served s l) (hstanding : Standing t l') (hextends : l.Extends l')
    (hposted : l'.posted = l.posted) {d : Dispatch ι} {q : Sent} (hd : d.Sound l q)
    (hdispatches : l'.dispatches = l.dispatches ++ [d]) (hreplies : l'.replies = l.replies) :
    Served t l' where
  standing := hstanding
  ordered := hposted ▸ h.ordered
  known := by
    intro n hn
    rw [hposted] at hn
    exact Nat.lt_of_lt_of_le (h.known n hn) hextends.sends.length_le
  sound := by
    intro d' hd'
    rw [hdispatches, List.mem_append, List.mem_singleton] at hd'
    rcases hd' with hd' | rfl
    · obtain ⟨q', hq'⟩ := h.sound d' hd'
      exact ⟨q', hq'.extend hextends⟩
    · exact ⟨q, hd.extend hextends⟩
  faithful := by
    intro r hr
    rw [hreplies] at hr
    obtain ⟨d', hd', hr'⟩ := h.faithful r hr
    exact ⟨d', hextends.dispatches.mem hd', hr'⟩

theorem step (h : Served s l) {a : Action ι} {e : Option (Event ι)} (hmove : s.Moves a e t) :
    Served t (l.see e) := by
  have hstanding := h.standing.step hmove
  have hextends := l.extends_see e
  cases hmove with
  | stays _ _ he =>
    rcases he with rfl | ⟨o, rfl⟩
    · exact h
    · exact h.frame hstanding hextends rfl rfl rfl
  | posts k command values hprepare hstage hclears =>
    refine ⟨hstanding, ?_, ?_, h.sound_of_extends hextends rfl, h.faithful⟩
    · refine List.pairwise_append.mpr ⟨h.ordered, List.pairwise_singleton _ _, ?_⟩
      intro n hn m hm
      rw [List.mem_singleton.mp hm]
      exact h.known n hn
    · intro n hn
      have hlength : (l.sends ++ [(⟨k, command⟩ : Sent)]).length = l.sends.length + 1 := by simp
      rcases List.mem_append.mp hn with hn | hn
      · have hlt := h.known n hn
        exact hlength ▸ Nat.lt_succ_of_lt hlt
      · rw [List.mem_singleton.mp hn]
        exact hlength ▸ Nat.lt_succ_self _
  | succeeds dataFree command payload e hphase hdispatch =>
    obtain ⟨q, values, hasks, rfl, rfl, hcopied, -⟩ := h.standing.inHand hphase
    obtain ⟨happly, hcode⟩ := dispatch_of_encode hasks.encodes hdispatch
    rw [Ledger.see_carriedOut hcopied] at hstanding hextends ⊢
    refine h.dispatch hstanding hextends rfl (q := q) ?_ rfl rfl
    exact ⟨hasks.sent, rfl, ⟨values, hasks.encodes, rfl⟩, .inl ⟨congrArg _ hcode, happly⟩⟩
  | fails dataFree command payload f hphase hdispatch =>
    obtain ⟨q, values, hasks, rfl, rfl, hcopied, -⟩ := h.standing.inHand hphase
    rw [Ledger.see_carriedOut hcopied] at hstanding hextends ⊢
    refine h.dispatch hstanding hextends rfl (q := q) ?_ rfl rfl
    exact ⟨hasks.sent, rfl, ⟨values, hasks.encodes, rfl⟩, .inr ⟨f, rfl, rfl⟩⟩
  | replies command code outcome howes =>
    obtain ⟨q, values, d, hasks, rfl, rfl, -, hcopied, -, -, hd, hsend⟩ := h.standing.owed howes
    rw [Ledger.see_replied hcopied] at hstanding hextends ⊢
    refine ⟨hstanding, h.ordered, h.known, h.sound_of_extends hextends rfl, ?_⟩
    intro r hr
    rcases List.mem_append.mp hr with hr | hr
    · exact h.faithful r hr
    · rw [List.mem_singleton.mp hr]
      exact ⟨d, hd, hsend, (h.sound_of_sent hd hsend hasks.sent).command, rfl⟩
  | _ => exact h.frame hstanding hextends rfl rfl rfl

theorem run (u : Setup ι) (as : List (Action ι)) : Served (u.after as) (u.ledger as) :=
  u.run_induction as (start u) fun _ _ _ _ _ _ h hmove => h.step hmove

/-- At most the last request that was posted has not reached the server. -/
theorem posted_eq (h : Served s l) :
    l.posted = l.dispatched ∨ l.posted = l.dispatched ++ [l.holder] := by
  cases h.standing with
  | idle _ _ _ _ hposted | owing _ _ _ _ _ _ _ hposted | answered _ _ _ _ _ _ _ hposted =>
    exact .inl hposted
  | asked _ _ _ _ _ _ hposted | copied _ _ _ _ _ _ hposted => exact .inr hposted

theorem posted_nodup (h : Served s l) : l.posted.Nodup :=
  h.ordered.imp Nat.ne_of_lt

theorem dispatched_prefix (h : Served s l) : l.dispatched <+: l.posted := by
  rcases h.posted_eq with heq | heq
  · exact heq ▸ List.prefix_refl _
  · rw [heq]
    exact List.prefix_append _ _

theorem dispatched_nodup (h : Served s l) : l.dispatched.Nodup :=
  h.posted_nodup.sublist h.dispatched_prefix.sublist

theorem replied_prefix (h : Served s l) : l.replied <+: l.dispatched := by
  cases h.standing with
  | idle _ _ _ _ _ hreplied | asked _ _ _ _ _ _ _ hreplied | copied _ _ _ _ _ _ _ hreplied
  | answered _ _ _ _ _ _ _ _ hreplied => exact hreplied ▸ List.prefix_refl _
  | owing _ _ _ _ _ _ _ _ hreplied =>
    rw [hreplied]
    exact List.prefix_append _ _

theorem replied_nodup (h : Served s l) : l.replied.Nodup :=
  h.dispatched_nodup.sublist h.replied_prefix.sublist

/-- A request that reached the server did so once. -/
theorem dispatchesOf_eq (h : Served s l) {d : Dispatch ι} (hd : d ∈ l.dispatches) :
    l.dispatchesOf d.send = [d] := by
  have hnodup : (l.dispatches.map (·.send)).Nodup := h.dispatched_nodup
  obtain ⟨before, after, hsplit⟩ := List.append_of_mem hd
  rw [hsplit, List.map_append, List.map_cons, List.nodup_append, List.nodup_cons] at hnodup
  obtain ⟨-, ⟨hafter, -⟩, hbefore⟩ := hnodup
  have hnone : ∀ x ∈ before, ¬((x.send == d.send) = true) := by
    intro x hx hsame
    exact hbefore _ (List.mem_map_of_mem hx) _ List.mem_cons_self (beq_iff_eq.mp hsame)
  have hnone' : ∀ x ∈ after, ¬((x.send == d.send) = true) := by
    intro x hx hsame
    exact hafter (List.mem_map.mpr ⟨x, hx, beq_iff_eq.mp hsame⟩)
  rw [Ledger.dispatchesOf, hsplit, List.filter_append, List.filter_eq_nil_iff.mpr hnone,
    List.filter_cons, if_pos (beq_self_eq_true _), List.filter_eq_nil_iff.mpr hnone']
  rfl

end Served

end FieldImage
