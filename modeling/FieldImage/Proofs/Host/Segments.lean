import FieldImage.Proofs.Handshake.Hosting
import FieldImage.Proofs.Host.FileTree
import FieldImage.Proofs.Segment.Attachment
import Mathlib.Logic.Relation

/-! The segments of a machine. What is done through servers and clients leaves the headers and the
lengths of all files alone, so a file that was attached, or made as a segment, stays one. -/

namespace FieldImage

namespace Segment

open Layout

variable {m m' m'' : Memory} {n : Nat}

/-- A change of a file that leaves its length and its first words alone. -/
structure Keeps (m m' : Memory) : Prop where
  size : m'.size = m.size
  header : ∀ j < Header.length, m'[j]? = m[j]?

namespace Keeps

theorem refl (m : Memory) : Keeps m m := ⟨rfl, fun _ _ => rfl⟩

theorem trans (h : Keeps m m') (h' : Keeps m' m'') : Keeps m m'' :=
  ⟨h'.size.trans h.size, fun j hj => (h'.header j hj).trans (h.header j hj)⟩

theorem poke {o : Nat} (h : Keeps m m') (bs : List UInt8) (ho : Header.length ≤ o) :
    Keeps m (poke m' o bs) :=
  h.trans ⟨size_poke m' o bs, fun _ hj =>
    getElem?_poke_outside m' (.inl (Nat.lt_of_lt_of_le hj ho))⟩

theorem setMailbox (h : Keeps m m') (b : Mailbox) : Keeps m (setMailbox m' b) :=
  h.poke _ (by decide)

theorem setData (h : Keeps m m') (v : ImageView) : Keeps m (setData m' v) := h.poke _ (by decide)

theorem raiseSignal (h : Keeps m m') : Keeps m (raiseSignal m') := h.poke _ (by decide)

theorem takeLock (h : Keeps m m') (l : LockName) : Keeps m (takeLock m' l) :=
  h.poke _ (by cases l <;> decide)

theorem freeLock (h : Keeps m m') (l : LockName) : Keeps m (freeLock m' l) :=
  h.poke _ (by cases l <;> decide)

theorem wellFormed (h : Keeps m m') (hm : WellFormed m n) : WellFormed m' n where
  size := h.size.trans hm.size
  header := by
    obtain ⟨w, hw, hheader⟩ := hm.header
    have hlength : Header.length ≤ m.size := by
      rw [hm.size]
      exact Nat.le_trans (by decide) (Nat.le_add_right dataOffset (3 * n))
    refine ⟨w, hw, ?_⟩
    rw [List.prefix_iff_getElem?] at hheader ⊢
    intro j hj
    rw [← hheader j hj, Array.getElem?_toList, Array.getElem?_toList]
    exact h.header j (Header.length_bytes _ ▸ hj)

end Keeps

end Segment

namespace Host

variable {h h' h'' : Host} {path : String} {id n : Nat}

/-! ### Calls of servers and clients -/

/-- The files are where they were, with the lengths and the first words that they had. -/
structure InPlace (h h' : Host) : Prop where
  tree : h'.tree = h.tree
  count : h'.memories.size = h.memories.size
  memory : ∀ id, Segment.Keeps (h.memory id) (h'.memory id)

namespace InPlace

theorem refl (h : Host) : InPlace h h := ⟨rfl, rfl, fun _ => .refl _⟩

theorem trans (h₁ : InPlace h h') (h₂ : InPlace h' h'') : InPlace h h'' :=
  ⟨h₂.tree.trans h₁.tree, h₂.count.trans h₁.count, fun id => (h₁.memory id).trans (h₂.memory id)⟩

/-- What is no file does not matter. -/
theorem of_eq (hp : InPlace h h') (htree : h''.tree = h'.tree)
    (hmemories : h''.memories = h'.memories) : InPlace h h'' where
  tree := htree.trans hp.tree
  count := hmemories ▸ hp.count
  memory id := by
    have hsame : h''.memory id = h'.memory id := by rw [Host.memory, hmemories, Host.memory]
    exact hsame ▸ hp.memory id

theorem setMemory (hp : InPlace h h') {m : Segment.Memory}
    (hm : Segment.Keeps (h'.memory id) m) : InPlace h (h'.setMemory id m) where
  tree := hp.tree
  count := Array.size_setIfInBounds.trans hp.count
  memory other := by
    refine (hp.memory other).trans ?_
    show Segment.Keeps (h'.memory other) ((h'.memories.setIfInBounds id m)[other]?.getD #[])
    rw [Array.getElem?_setIfInBounds]
    split
    · rename_i hother
      subst hother
      split
      · exact hm
      · rename_i hpast
        rw [Host.memory, Array.getElem?_eq_none (Nat.le_of_not_lt hpast)]
        exact .refl _
    · exact .refl _

theorem setMailbox (hp : InPlace h h') (id : Nat) (b : Mailbox) :
    InPlace h (h'.modifyMemory id (Segment.setMailbox · b)) :=
  hp.setMemory ((Segment.Keeps.refl _).setMailbox b)

theorem setClient (hp : InPlace h h') (i : Nat) (c : HostedClient) : InPlace h (h'.setClient i c) :=
  hp.of_eq rfl rfl

theorem wait (hp : InPlace h h') (d : Duration) : InPlace h (h'.wait d) := hp.of_eq rfl rfl

theorem acquire (hp : InPlace h h') (id : Nat) (l : Segment.LockName) (limit : Duration) :
    InPlace h (h'.acquire id l limit).2 := by
  rw [Host.acquire]
  simp only
  split
  · exact hp
  · exact hp.wait limit

theorem withData {α : Type} (hp : InPlace h h') (id n : Nat) (limit : Duration)
    (f : ImageView → α × ImageView) : InPlace h (h'.withData id n limit f).2 := by
  have hacquired := hp.acquire id .data limit
  rw [Host.withData]
  split
  · rename_i hlock
    rw [hlock] at hacquired
    exact hacquired
  · rename_i hlock
    rw [hlock] at hacquired
    split
    · exact hacquired
    · exact hacquired.setMemory ((Segment.Keeps.refl _).setData _)

end InPlace

/-- A call of a server, of a client or of another process that has a segment open. -/
inductive Step (h : Host) : Host → Prop where
  | wait (d : Duration) : Step h (h.wait d)
  | attachClient {path : String} {limits : ClientLimits} {k : Nat} {h' : Host}
    (hattach : h.attachClient path limits = .ok (k, h')) : Step h h'
  | pollServer {i : Nat} {steal : Bool} {r : Except Fault PollOutcome} {h' : Host}
    (hpoll : h.pollServer i steal = some (r, h')) : Step h h'
  | mailboxSnapshot {i : Nat} {r : Except Fault Mailbox} {h' : Host}
    (hread : h.mailboxSnapshot i = some (r, h')) : Step h h'
  | heartbeat (i : Nat) : Step h (h.heartbeat i)
  | beginSend (i : Nat) (command : Command) : Step h (h.beginSend i command).2
  | endSend (i : Nat) (p : Pending) : Step h (h.endSend i p).2
  | drain (i : Nat) : Step h (h.drain i).2
  | withData {α : Type} (id n : Nat) (limit : Duration) (f : ImageView → α × ImageView) :
    Step h (h.withData id n limit f).2
  | readData (i : Nat) (target : Image) : Step h (h.readData i target).2
  | hold (path : String) (l : Segment.LockName) : Step h (h.hold path l).2
  | release (l : Segment.LockName) : Step h (h.release l).2
  | changeMailbox (id : Nat) (f : Mailbox → Mailbox) : Step h (h.changeMailbox id f).2
  | raiseSignal (id : Nat) : Step h (h.raiseSignal id).2

/-- No call makes, removes or resizes a file, or writes the first words of one. -/
theorem Step.inPlace (hs : Step h h') : InPlace h h' := by
  have hhere := InPlace.refl h
  cases hs with
  | wait d => exact hhere.wait d
  | attachClient hattach =>
    obtain ⟨segment, -, hpair⟩ := bind_eq_ok.mp hattach
    cases hpair
    exact hhere.of_eq rfl rfl
  | pollServer hpoll =>
    rw [Host.pollServer] at hpoll
    split at hpoll
    · cases hpoll
    · rename_i s hs
      simp only at hpoll
      split at hpoll
      · cases hpoll
        exact hhere
      · cases hpoll
        refine (hhere.setMemory ?_).of_eq rfl rfl
        have hwritten (b : Mailbox) (w : ImageView) :=
          ((Segment.Keeps.refl (h.memory s.memory)).setMailbox b).setData w
        split
        · split
          · exact (hwritten _ _).raiseSignal.takeLock .mailbox
          · exact (hwritten _ _).takeLock .mailbox
        · split
          · exact (hwritten _ _).raiseSignal
          · exact hwritten _ _
  | mailboxSnapshot hread =>
    rw [Host.mailboxSnapshot] at hread
    split at hread
    · cases hread
    · rename_i s hs
      have hacquired := hhere.acquire s.memory .mailbox s.server.lockLimit
      generalize h.acquire s.memory .mailbox s.server.lockLimit = acquired at hread hacquired
      cases hread
      exact hacquired
  | heartbeat i =>
    rw [Host.heartbeat]
    split
    · exact hhere
    · exact hhere.setMemory ((Segment.Keeps.refl _).poke _ (by decide))
  | beginSend i command =>
    rw [Host.beginSend]
    split
    · exact hhere
    · rename_i c hc
      split
      · exact hhere
      · have hacquired := hhere.acquire c.memory .mailbox c.client.limits.lock
        split
        · rename_i hlock
          rw [hlock] at hacquired
          exact hacquired
        · rename_i hlock
          rw [hlock] at hacquired
          simp only
          split
          · exact (hacquired.setMailbox _ _).setClient _ _
          · exact ((hacquired.setMailbox _ _).setClient _ _).wait _
          · exact (hacquired.setMailbox _ _).setClient _ _
  | endSend i p =>
    rw [Host.endSend]
    split
    · exact hhere
    · rename_i c hc
      simp only
      split
      · have hacquired := hhere.acquire c.memory .mailbox c.client.limits.lock
        split
        · rename_i hlock
          rw [hlock] at hacquired
          exact hacquired
        · rename_i hlock
          rw [hlock] at hacquired
          exact hacquired.setMailbox _ _
      · exact (hhere.setClient _ _).wait _
  | drain i =>
    rw [Host.drain]
    split
    · exact hhere
    · rename_i c hc
      have hacquired := hhere.acquire c.memory .mailbox c.client.limits.lock
      split
      · rename_i hlock
        rw [hlock] at hacquired
        exact hacquired
      · rename_i hlock
        rw [hlock] at hacquired
        exact (hacquired.setMailbox _ _).setClient _ _
  | withData id n limit f => exact hhere.withData id n limit f
  | readData i target =>
    rw [Host.readData]
    split
    · exact hhere
    · rename_i c hc
      have hread := hhere.withData c.memory c.client.areaSize c.client.limits.lock fun v =>
        (v.copyTo target, v)
      generalize h.withData c.memory c.client.areaSize c.client.limits.lock
        (fun v => (v.copyTo target, v)) = read at hread ⊢
      exact hread
  | hold path l =>
    rw [Host.hold]
    split
    · exact hhere
    · split
      · exact (hhere.setMemory ((Segment.Keeps.refl _).takeLock l)).of_eq rfl rfl
      · exact hhere
  | release l => 
    rw [Host.release]
    split
    · exact hhere
    · exact (hhere.setMemory ((Segment.Keeps.refl _).freeLock l)).of_eq rfl rfl
  | changeMailbox id f =>
    simp only [Host.changeMailbox]
    split
    · exact hhere.setMemory ((Segment.Keeps.refl _).setMailbox _)
    · exact hhere
  | raiseSignal id => exact hhere.setMemory (Segment.Keeps.refl _).raiseSignal

/-- Any number of steps. -/
def Steps : Host → Host → Prop := Relation.ReflTransGen Step

theorem Steps.inPlace (hs : Steps h h') : InPlace h h' := by
  induction hs with
  | refl => exact .refl h
  | tail _ hstep ih => exact ih.trans hstep.inPlace

/-! ### Files -/

theorem checkAreaSize_eq (n : Nat) : Segment.checkAreaSize n =
    if 0 < n ∧ n < UInt32.size then .ok () else .error (.config (.areaSize n)) := rfl

/-- How the making of a segment ends: its size is refused, the file system does not let it, or it is
made. -/
inductive CreateEnd (h : Host) (path : String) (n : Nat) : Except Fault Nat × Host → Prop where
  | refused (hn : ¬(0 < n ∧ n < UInt32.size)) : CreateEnd h path n (.error (.config (.areaSize n)), h)
  | failed (hn : 0 < n ∧ n < UInt32.size) (cause : TransportFault) :
    CreateEnd h path n (.error (.transport cause), (h.makeParent path).2)
  | made (hn : 0 < n ∧ n < UInt32.size) {id : Nat} {g : Host}
    (hopen : (h.makeParent path).2.openFile path = .ok (id, g)) (now : UInt64) :
    CreateEnd h path n
      (.ok id, { g.setMemory id (Segment.fresh n now) with latest := some id })

theorem makeParent_error {f : Fault} (hf : (h.makeParent path).1 = .error f) :
    ∃ cause, f = .transport cause := by
  rw [makeParent] at hf
  split at hf
  · cases hf
  · rename_i parent hparent
    generalize h.tree.makeDirectories parent = made at hf
    obtain ⟨r, tree⟩ := made
    cases r with
    | ok u => cases hf
    | error cause =>
      cases hf
      exact ⟨_, rfl⟩

theorem checkStale_error {f : Fault} (hf : h.checkStale path = .error f) :
    ∃ cause, f = .transport cause := by
  rw [checkStale] at hf
  split at hf
  · cases hf
  · simp only at hf
    split at hf
    · cases hf
      exact ⟨_, rfl⟩
    · cases hf

theorem unmade_transport (path : String) (cause : PathFault) :
    ∃ f, unmade path cause = .transport f := by
  cases cause <;> exact ⟨_, rfl⟩

theorem createEnd (h : Host) (path : String) (n : Nat) :
    CreateEnd h path n (h.createSegment path n) := by
  rw [createSegment, checkAreaSize_eq]
  by_cases hn : 0 < n ∧ n < UInt32.size
  · rw [if_pos hn]
    simp only
    split
    · rename_i e g hparent
      obtain rfl : (h.makeParent path).2 = g := congrArg Prod.snd hparent
      obtain ⟨cause, rfl⟩ := makeParent_error (congrArg Prod.fst hparent)
      exact .failed hn cause
    · rename_i u g hparent
      obtain rfl : (h.makeParent path).2 = g := congrArg Prod.snd hparent
      split
      · rename_i hstale
        obtain ⟨cause, rfl⟩ := checkStale_error hstale
        exact .failed hn cause
      · rename_i cause hopen hstale
        obtain ⟨f, hf⟩ := unmade_transport path cause
        rw [hf]
        exact .failed hn f
      · rename_i hopen hstale
        exact .made hn hopen _
  · rw [if_neg hn]
    exact .refused hn

/-- Every file of the tree has its bytes. -/
def Backed (h : Host) : Prop := h.tree.FilesBelow h.memories.size

theorem backed_new : Backed Host.new := by
  intro way id hid
  simp [Host.new, FileTree.empty] at hid

theorem InPlace.backed (hp : InPlace h h') (hb : Backed h) : Backed h' := by
  rw [Backed, hp.tree, hp.count]
  exact hb

namespace Backed

/-- The file of a path is open, and it is found there. -/
theorem openFile (hb : Backed h) (hopen : h.openFile path = .ok (id, h')) :
    Backed h' ∧ id < h'.memories.size ∧ h'.tree.node? path = some (.file id) := by
  obtain ⟨⟨tree, file⟩, htree, hpair⟩ := bind_eq_ok.mp hopen
  obtain ⟨hle, hfiles⟩ := FileTree.FilesBelow.openFile hb htree
  have hnode := FileTree.node_openFile htree
  cases hpair
  have hroom : (if id < h.memories.size then h.memories else h.memories.push #[]).size =
      max h.memories.size (id + 1) := by
    split
    · omega
    · rw [Array.size_push]
      omega
  refine ⟨?_, ?_, hnode⟩
  · rw [Backed, hroom]
    exact hfiles
  · rw [hroom]
    omega

theorem setMemory (hb : Backed h) (id : Nat) (m : Segment.Memory) : Backed (h.setMemory id m) := by
  rw [Backed, Host.setMemory, Array.size_setIfInBounds]
  exact hb

theorem makeParent (hb : Backed h) (path : String) : Backed (h.makeParent path).2 := by
  rw [Host.makeParent]
  split
  · exact hb
  · exact FileTree.FilesBelow.makeDirectoriesWithin hb

theorem putFile (hb : Backed h) (path : String) (bytes : Segment.Memory) :
    Backed (h.putFile path bytes).2 := by
  rw [Host.putFile]
  split
  · exact hb
  · rename_i hopen
    exact (hb.openFile hopen).1.setMemory _ _

theorem patchFile (hb : Backed h) (path : String) (offset : Nat) (bytes : List UInt8) :
    Backed (h.patchFile path offset bytes).2 := by
  rw [Host.patchFile]
  split
  · exact hb
  · rename_i hopen
    exact (hb.openFile hopen).1.setMemory _ _

theorem resizeFile (hb : Backed h) (path : String) (length : Nat) :
    Backed (h.resizeFile path length).2 := by
  rw [Host.resizeFile]
  split
  · exact hb
  · rename_i hopen
    exact (hb.openFile hopen).1.setMemory _ _

theorem createSegment (hb : Backed h) (path : String) (n : Nat) :
    Backed (h.createSegment path n).2 := by
  have hparent := hb.makeParent path
  have hend := createEnd h path n
  generalize h.createSegment path n = made at hend ⊢
  cases hend with
  | refused hn => exact hb
  | failed hn cause => exact hparent
  | made hn hopen now => exact (hparent.openFile hopen).1.setMemory _ _

theorem createServer (hb : Backed h) (path : String) (n : Nat) (limit : Duration) :
    Backed (h.createServer path n limit).2 := by
  have hcreated := hb.createSegment path n
  rw [Host.createServer]
  split
  · rename_i hfailed
    rw [hfailed] at hcreated
    exact hcreated
  · rename_i hmade
    rw [hmade] at hcreated
    exact hcreated

theorem dropServer (hb : Backed h) (i : Nat) : Backed (h.dropServer i).2 := by
  rw [Host.dropServer]
  split
  · exact hb
  · exact FileTree.FilesBelow.remove hb _

end Backed

/-- The machines that there are: files come and go, segments are made, and servers and clients take
their steps. -/
inductive Reached : Host → Prop where
  | new : Reached Host.new
  | putFile {h : Host} (hr : Reached h) (path : String) (bytes : Segment.Memory) :
    Reached (h.putFile path bytes).2
  | patchFile {h : Host} (hr : Reached h) (path : String) (offset : Nat) (bytes : List UInt8) :
    Reached (h.patchFile path offset bytes).2
  | resizeFile {h : Host} (hr : Reached h) (path : String) (length : Nat) :
    Reached (h.resizeFile path length).2
  | createSegment {h : Host} (hr : Reached h) (path : String) (n : Nat) :
    Reached (h.createSegment path n).2
  | createServer {h : Host} (hr : Reached h) (path : String) (n : Nat) (limit : Duration) :
    Reached (h.createServer path n limit).2
  | dropServer {h : Host} (hr : Reached h) (i : Nat) : Reached (h.dropServer i).2
  | step {h h' : Host} (hr : Reached h) (hs : Step h h') : Reached h'

theorem Reached.backed (hr : Reached h) : Backed h := by
  induction hr with
  | new => exact backed_new
  | putFile hr path bytes ih => exact ih.putFile path bytes
  | patchFile hr path offset bytes ih => exact ih.patchFile path offset bytes
  | resizeFile hr path length ih => exact ih.resizeFile path length
  | createSegment hr path n ih => exact ih.createSegment path n
  | createServer hr path n limit ih => exact ih.createServer path n limit
  | dropServer hr i ih => exact ih.dropServer i
  | step hr hs ih => exact hs.inPlace.backed ih

/-! ### Segments -/

theorem attachSegment_eq (hnode : h.tree.node? path = some (.file id)) :
    h.attachSegment path = (Segment.attach path (h.memory id)).map fun n => (id, n) := by
  simp only [attachSegment, hnode]
  cases Segment.attach path (h.memory id) <;> rfl

/-- A file under a path is a segment of `n` bytes per area. -/
structure Offered (path : String) (h : Host) (id n : Nat) : Prop where
  node : h.tree.node? path = some (.file id)
  wellFormed : Segment.WellFormed (h.memory id) n

theorem attachSegment_eq_ok_iff : h.attachSegment path = .ok (id, n) ↔ Offered path h id n := by
  constructor
  · intro hattach
    rw [attachSegment] at hattach
    split at hattach
    · cases hattach
    · cases hattach
    · cases hattach
    · rename_i file hnode
      obtain ⟨m, hm, hpair⟩ := bind_eq_ok.mp hattach
      cases hpair
      exact ⟨hnode, Segment.attach_eq_ok_iff.mp hm⟩
  · rintro ⟨hnode, hm⟩
    rw [attachSegment_eq hnode, Segment.attach_eq_ok_iff.mpr hm]
    rfl

namespace Offered

theorem inPlace (ho : Offered path h id n) (hp : InPlace h h') : Offered path h' id n :=
  ⟨hp.tree ▸ ho.node, (hp.memory id).wellFormed ho.wellFormed⟩

theorem window (ho : Offered path h id n) : Segment.DataWindow (h.memory id) n :=
  Segment.dataWindow ho.wellFormed.size

/-- With the data lock free, a step on the process data sees and writes the window. -/
theorem withData {α : Type} (ho : Offered path h id n)
    (hfree : Segment.isFree (h.memory id) .data = true) (limit : Duration)
    (f : ImageView → α × ImageView) :
    ∃ v, Segment.data (h.memory id) n = .ok v ∧ h.withData id n limit f =
      (.ok (f v).1, h.setMemory id (Segment.setData (h.memory id) (f v).2)) := by
  obtain ⟨v, hv, -⟩ := ho.window.shown
  refine ⟨v, hv, ?_⟩
  simp only [Host.withData, Host.acquire, hfree, Server.acquire, if_true, pure, Except.pure, hv,
    modifyMemory]

end Offered

/-- A file that was made as a segment is one. -/
theorem Backed.offered_createSegment (hb : Backed h)
    (hcreate : h.createSegment path n = (.ok id, h')) : Offered path h' id n := by
  have hparent := hb.makeParent path
  have hend := createEnd h path n
  rw [hcreate] at hend
  cases hend with
  | made hn hopen now =>
    obtain ⟨-, hid, hnode⟩ := hparent.openFile hopen
    refine ⟨hnode, ?_⟩
    show Segment.WellFormed ((Host.setMemory _ id (Segment.fresh n now)).memory id) n
    rw [memory_setMemory hid]
    exact Segment.wellFormed_fresh hn.2 now

/-- A path leads to a segment of `n` bytes per area, whose process data are in their window. -/
structure OpenSegment (path : String) (h : Host) (id n : Nat) : Prop where
  attached : h.attachSegment path = .ok (id, n)
  window : Segment.DataWindow (h.memory id) n
  /-- With the data lock free, a step on the process data sees the window, and writes it. -/
  withData : ∀ {α : Type} (limit : Duration) (f : ImageView → α × ImageView),
    Segment.isFree (h.memory id) .data = true →
      ∃ v, Segment.data (h.memory id) n = .ok v ∧ h.withData id n limit f =
        (.ok (f v).1, h.setMemory id (Segment.setData (h.memory id) (f v).2))

theorem Offered.openSegment (ho : Offered path h id n) : OpenSegment path h id n where
  attached := attachSegment_eq_ok_iff.mpr ho
  window := ho.window
  withData limit f hfree := ho.withData hfree limit f

open Segment Segment.Layout Segment.AttachCheck in
/-- The file of a path is attached exactly when it is a segment: of the checks in their order, the
first one that does not pass decides. A segment that was attached or made is open, and it stays so
through all steps of servers and clients. -/
theorem attach_exactly_segments :
    (∀ (h : Host) (path : String) (id : Nat), h.tree.node? path = some (.file id) →
      h.attachSegment path = (attach path (h.memory id)).map fun n => (id, n)) ∧
    (∀ (path : String) (m : Memory) (hd : Header), (dataOffset ≤ m.size → hd.bytes <+: m.toList) →
      attach path m = ruling path m.size hd order) ∧
    (∀ (path : String) (size : Nat) (hd : Header) (c : AttachCheck),
      (c = initialized ∧ c.fault path size hd = .notInitialized (.segmentUnfinished path)) ∨
        ∃ f, c.fault path size hd = .transport (.segment f)) ∧
    (∀ areaSize : UInt32, (wordSize areaSize).toNat = dataOffset + 3 * areaSize.toNat) ∧
    (∀ (path : String) (m : Memory) (n : Nat), attach path m = .ok n ↔ WellFormed m n) ∧
    (∀ (h h' : Host) (path : String) (id n : Nat), h.attachSegment path = .ok (id, n) →
      Steps h h' → OpenSegment path h' id n) ∧
    ∀ (h h' h'' : Host) (path : String) (id n : Nat), Reached h →
      h.createSegment path n = (.ok id, h') → Steps h' h'' → OpenSegment path h'' id n := by
  refine ⟨fun h path id hnode => attachSegment_eq hnode,
    fun path m hd hheader => attach_of_header hheader, fun path size hd c => ?_, toNat_wordSize,
    fun path m n => attach_eq_ok_iff, ?_, ?_⟩
  · cases c with
    | initialized => exact .inl ⟨rfl, rfl⟩
    | whole | magic | version | length => exact .inr ⟨_, rfl⟩
  · intro h h' path id n hattach hsteps
    exact ((attachSegment_eq_ok_iff.mp hattach).inPlace hsteps.inPlace).openSegment
  · intro h h' h'' path id n hreached hcreate hsteps
    exact ((hreached.backed.offered_createSegment hcreate).inPlace hsteps.inPlace).openSegment

open Segment Segment.Layout in
/-- A segment that was just made, a signal of it later, and a file of something else. -/
theorem attach_exactly_segments_made :
    let h := (Host.new.createSegment "segment" 2).2
    let foreign : Memory := Array.replicate 600 0xAB
    Host.new.createSegment "segment" 2 = (.ok 0, h) ∧
      h.attachSegment "segment" = (attach "segment" (h.memory 0)).map (fun n => (0, n)) ∧
      OpenSegment "segment" h 0 2 ∧ OpenSegment "segment" (h.raiseSignal 0).2 0 2 ∧
      attach "foreign" foreign =
        .error (.transport (.segment (.badMagic "foreign" 0xABABABABABABABAB))) := by
  intro h foreign
  obtain ⟨hfile, hruling, -, -, -, hattach, hcreate⟩ := attach_exactly_segments
  have hmade : Host.new.createSegment "segment" 2 = (.ok 0, h) := Prod.ext (by rfl) rfl
  have hopen : OpenSegment "segment" h 0 2 :=
    hcreate _ _ _ "segment" 0 2 .new hmade .refl
  have hsignal : Steps h (h.raiseSignal 0).2 := .single (.raiseSignal 0)
  have hnode : h.tree.node? "segment" = some (.file 0) := by decide +kernel
  refine ⟨hmade, hfile h "segment" 0 hnode, hopen,
    hattach _ _ "segment" 0 2 hopen.attached hsignal, ?_⟩
  have hheader : dataOffset ≤ foreign.size →
      (Header.mk 0xABABABABABABABAB 0xABABABAB 0xABABABAB 0xABABABAB).bytes <+: foreign.toList := by
    intro hsize
    decide +kernel
  have hwhole : dataOffset ≤ foreign.size := by simp [foreign, dataOffset]
  have hmagic : ¬(0xABABABABABABABAB : UInt64) = Layout.magic := by decide
  rw [hruling "foreign" foreign _ hheader]
  exact (AttachCheck.ruling_cons .whole _).trans <| (if_pos hwhole).trans <|
    (AttachCheck.ruling_cons .magic _).trans (if_neg hmagic)

end Host

end FieldImage
