import FieldImage.Proofs.Driver.Mailbox
import FieldImage.Proofs.Driver.Registers
import FieldImage.Proofs.Driver.Session
import FieldImage.Proofs.Snapshot

/-! Snapshots never tear and never go backwards. A chronicle notes the complete image that each
successful update found at its backend, and which of these each reader holds. What a reader answers
from is always one noted image as a whole, and moves only bring it to a later one. -/

namespace FieldImage

namespace Snapshots

variable {ι : Type}

/-- The shared image is the latest of some images, and every snapshot is the one that its reader
holds. -/
structure Faithful (s : Snapshots ι) (images : List ι) (held : List Nat) : Prop where
  latest : images.getLast? = some s.shared.value
  readers : s.readers.map some = held.map (images[·]?)
  unguarded : s.shared.guarded = false

namespace Faithful

variable {s : Snapshots ι} {images : List ι} {held : List Nat} {j n : Nat} {x : ι}

theorem new (zero : ι) : (Snapshots.new zero zero).Faithful [zero] [0] := ⟨rfl, rfl, rfl⟩

theorem reader (h : s.Faithful images held) (hreader : s.reader? j = some x) :
    ∃ n, held[j]? = some n ∧ images[n]? = some x := by
  have hplace := congrArg (·[j]?) h.readers
  have hsnapshot : s.readers[j]? = some x := hreader
  simp only [List.getElem?_map, hsnapshot, Option.map_some] at hplace
  cases hheld : held[j]? with
  | none => simp [hheld] at hplace
  | some n =>
    simp only [hheld, Option.map_some, Option.some.injEq] at hplace
    exact ⟨n, rfl, hplace.symm⟩

theorem held_lt (h : s.Faithful images held) (hn : n ∈ held) : n < images.length := by
  have hmem : images[n]? ∈ s.readers.map some := by
    rw [h.readers]
    exact List.mem_map_of_mem hn
  obtain ⟨x, -, hx⟩ := List.mem_map.mp hmem
  exact (List.getElem?_eq_some_iff.mp hx.symm).1

theorem publish (h : s.Faithful images held) (x : ι) :
    Faithful { s with scratch := x, shared := s.shared.set x } (images ++ [x]) held where
  latest := List.getLast?_concat
  readers := by
    rw [h.readers]
    apply List.map_congr_left
    intro n hn
    exact (List.getElem?_append_left (h.held_lt hn)).symm
  unguarded := h.unguarded

theorem refresh (h : s.Faithful images held) (j : Nat) :
    Faithful { s with readers := s.readers.set j s.shared.value } images
      (held.set j (images.length - 1)) where
  latest := h.latest
  readers := by
    have hlast : images[images.length - 1]? = some s.shared.value := by
      rw [← List.getLast?_eq_getElem?, h.latest]
    rw [List.map_set, List.map_set, h.readers, hlast]
  unguarded := h.unguarded

theorem fork (h : s.Faithful images held) (hreader : s.reader? j = some x) :
    Faithful { s with shared := s.shared.cloneHandle, readers := s.readers ++ [x] } images
      (held ++ held[j]?.toList) where
  latest := h.latest
  readers := by
    obtain ⟨n, hheld, himage⟩ := h.reader hreader
    rw [hheld, Option.toList_some, List.map_append, List.map_append, h.readers]
    simp only [List.map_cons, List.map_nil, himage]
  unguarded := h.unguarded

theorem scratch (h : s.Faithful images held) (x : ι) :
    Faithful { s with scratch := x } images held := ⟨h.latest, h.readers, h.unguarded⟩

theorem dropUpdater (h : s.Faithful images held) : s.dropUpdater.Faithful images held :=
  ⟨h.latest, h.readers, h.unguarded⟩

end Faithful

end Snapshots

/-- A session with its history: the images that were published, the oldest first, and for each
reader the place of the one that it holds. -/
structure Chronicle (W ι : Type) where
  world : W
  images : List ι
  held : List Nat

namespace DriverSet

variable {W β ι : Type} [ByteImage ι] [Copyable ι] (d : DriverSet W β ι) (image? : W → Option ι)

/-- A move with its note. An update that succeeds adds the image of the backend at this moment, a
refresh that succeeds gives its reader the latest image, and a new reader holds what the old one
holds. -/
def note (c : Chronicle W ι) (m : Move β) : Chronicle W ι :=
  let (answer, world) := d.step c.world m
  match m, answer with
  | .update, some (.ok _) => ⟨world, c.images ++ (image? c.world).toList, c.held⟩
  | .refresh j, some (.ok _) => ⟨world, c.images, c.held.set j (c.images.length - 1)⟩
  | .fork j, some (.ok _) => ⟨world, c.images, c.held ++ c.held[j]?.toList⟩
  | _, _ => ⟨world, c.images, c.held⟩

def chronicle (c : Chronicle W ι) (ms : List (Move β)) : Chronicle W ι := ms.foldl (d.note image?) c

theorem world_note (c : Chronicle W ι) (m : Move β) :
    (d.note image? c m).world = (d.step c.world m).2 := by
  simp only [note]
  split <;> rfl

/-- The driver's parts work on the snapshots alone, a change of the backend leaves them alone, and
what the updater publishes is the image of the backend. -/
structure Lawful : Prop where
  snapshots_setSnapshots (w : W) (s : Snapshots ι) : d.snapshots (d.setSnapshots w s) = s
  snapshots_change (w : W) (b : β) : d.snapshots (d.change w b).2 = d.snapshots w
  update (w : W) : ∃ transferred scratch, (transferred = .ok () → image? w = some scratch) ∧
    ((d.update w).1, d.snapshots (d.update w).2) = (d.snapshots w).update transferred scratch

end DriverSet

namespace Chronicle

variable {W β ι : Type} [ByteImage ι] [Copyable ι]

structure Sound (d : DriverSet W β ι) (image? : W → Option ι) (zero : ι) (c : Chronicle W ι) :
    Prop where
  zero_first : c.images.head? = some zero
  whole (j : Nat) (x : ι) (h : (d.snapshots c.world).reader? j = some x) :
    ∃ n, c.held[j]? = some n ∧ c.images[n]? = some x
  published (h : (d.step c.world .update).1 = some (.ok .done)) :
    ∃ i, image? c.world = some i ∧ (d.note image? c .update).images = c.images ++ [i]
  unpublished (m : Move β) (h : m = .update → ∀ r, (d.step c.world m).1 ≠ some (.ok r)) :
    (d.note image? c m).images = c.images
  forward (ms : List (Move β)) (j n : Nat) (h : c.held[j]? = some n) :
    ∃ n', (d.chronicle image? c ms).held[j]? = some n' ∧ n ≤ n'
  child (j : Nat) (x : ι) (h : (d.snapshots c.world).reader? j = some x) :
    ∃ n, c.held[j]? = some n ∧ (d.note image? c (.fork j)).held = c.held ++ [n] ∧
      (d.snapshots (d.note image? c (.fork j)).world).readers =
        (d.snapshots c.world).readers ++ [x]
  update_failed (f : Fault) (h : (d.step c.world .update).1 = some (.error f)) :
    (d.snapshots (d.note image? c .update).world).shared = (d.snapshots c.world).shared ∧
      (d.snapshots (d.note image? c .update).world).readers = (d.snapshots c.world).readers
  refresh_failed (j : Nat) (f : Fault) (h : (d.step c.world (.refresh j)).1 = some (.error f)) :
    (d.note image? c (.refresh j)).world = c.world
  refreshed (j : Nat) (h : (d.step c.world (.refresh j)).1 = some (.ok .done)) :
    (d.snapshots (d.note image? c (.refresh j)).world).reader? j = c.images.getLast?
  others (j k : Nat) (h : k ≠ j) :
    (d.snapshots (d.note image? c (.refresh j)).world).reader? k =
      (d.snapshots c.world).reader? k
  drops : (d.snapshots (d.note image? c .dropUpdater).world).isUpdating = false
  dropped (h : (d.snapshots c.world).isUpdating = false) (ms : List (Move β)) (j : Nat) (x : ι)
    (hreader : (d.snapshots c.world).reader? j = some x) :
    (d.step (d.chronicle image? c ms).world (.refresh j)).1 =
        some (.error (.notInitialized .containerDropped)) ∧
      ∀ q : ReadCall,
        (d.step (d.chronicle image? c ms).world (.read j q)).1 = some (q.ask x)

/-- What a move does to the snapshots, with its answer and its note. -/
inductive Noted (d : DriverSet W β ι) (image? : W → Option ι) (c : Chronicle W ι) :
    Move β → Option (Except Fault Answer) → Chronicle W ι → Prop where
  | changed (b : β) (r : Except Fault Answer) {w : W}
    (h : d.snapshots w = d.snapshots c.world) :
    Noted d image? c (.change b) (some r) ⟨w, c.images, c.held⟩
  | published {w : W} {i : ι} (himage : image? c.world = some i)
    (hupdating : (d.snapshots c.world).isUpdating = true)
    (h : d.snapshots w =
      { d.snapshots c.world with scratch := i, shared := (d.snapshots c.world).shared.set i }) :
    Noted d image? c .update (some (.ok .done)) ⟨w, c.images ++ [i], c.held⟩
  | unpublished (f : Fault) {w : W} (scratch : ι)
    (h : d.snapshots w = { d.snapshots c.world with scratch }) :
    Noted d image? c .update (some (.error f)) ⟨w, c.images, c.held⟩
  | refreshed {j : Nat} {x : ι} {w : W} (hreader : (d.snapshots c.world).reader? j = some x)
    (hupdating : (d.snapshots c.world).isUpdating = true)
    (h : d.snapshots w = { d.snapshots c.world with
      readers := (d.snapshots c.world).readers.set j (d.snapshots c.world).shared.value }) :
    Noted d image? c (.refresh j) (some (.ok .done))
      ⟨w, c.images, c.held.set j (c.images.length - 1)⟩
  | stale (j : Nat) (f : Fault) : Noted d image? c (.refresh j) (some (.error f)) c
  | forked {j : Nat} {x : ι} {w : W} (hreader : (d.snapshots c.world).reader? j = some x)
    (h : d.snapshots w = { d.snapshots c.world with
      shared := (d.snapshots c.world).shared.cloneHandle
      readers := (d.snapshots c.world).readers ++ [x] }) :
    Noted d image? c (.fork j) (some (.ok .done)) ⟨w, c.images, c.held ++ c.held[j]?.toList⟩
  | read (j : Nat) (q : ReadCall) :
    Noted d image? c (.read j q) (((d.snapshots c.world).reader? j).map fun i => q.ask i) c
  | dropped {w : W} (h : d.snapshots w = (d.snapshots c.world).dropUpdater) :
    Noted d image? c .dropUpdater (some (.ok .done)) ⟨w, c.images, c.held⟩
  /-- There is no updater, or no such reader. -/
  | nobody (m : Move β) (hupdating : m = .update → (d.snapshots c.world).isUpdating = false)
    (hreader : ∀ j, m = .refresh j ∨ m = .fork j → (d.snapshots c.world).reader? j = none) :
    Noted d image? c m none c

variable [LawfulCopyable ι] {d : DriverSet W β ι} {image? : W → Option ι}

theorem noted (hd : d.Lawful image?) (c : Chronicle W ι) (m : Move β) :
    Noted d image? c m (d.step c.world m).1 (d.note image? c m) := by
  cases m with
  | change b => exact .changed b _ (hd.snapshots_change c.world b)
  | update =>
    cases hupdating : (d.snapshots c.world).isUpdating with
    | false =>
      simp only [DriverSet.note, d.step_update_none hupdating]
      exact .nobody .update (fun _ => hupdating) (by simp)
    | true =>
      obtain ⟨transferred, scratch, himage, hupdate⟩ := hd.update c.world
      have hend := (d.snapshots c.world).updateEnd transferred scratch
      simp only [DriverSet.note, d.step_update_some hupdating]
      rw [← hupdate] at hend
      generalize hresult : (d.update c.world).1 = result at hend ⊢
      generalize hafter : d.snapshots (d.update c.world).2 = after at hend
      cases hend with
      | published hok =>
        rw [himage hok]
        exact .published (himage hok) hupdating hafter
      | failed f => exact .unpublished f scratch hafter
  | refresh j =>
    cases hreader : (d.snapshots c.world).reader? j with
    | none =>
      simp only [DriverSet.note, d.step_refresh_none hreader]
      refine .nobody (.refresh j) (by simp) ?_
      rintro k (hk | hk) <;> cases hk
      exact hreader
    | some x =>
      cases hrefresh : (d.snapshots c.world).refresh j with
      | error f =>
        simp only [DriverSet.note, d.step_refresh_error hreader hrefresh]
        exact .stale j f
      | ok s =>
        have hupdating : (d.snapshots c.world).isUpdating = true := by
          cases hvalid : (d.snapshots c.world).isUpdating with
          | true => rfl
          | false =>
            rw [Snapshots.refresh_of_dropped hvalid] at hrefresh
            cases hrefresh
        simp only [DriverSet.note, d.step_refresh_ok hreader hrefresh]
        refine .refreshed hreader hupdating ?_
        rw [hd.snapshots_setSnapshots]
        exact Snapshots.readers_of_refresh hrefresh
  | fork j =>
    cases hreader : (d.snapshots c.world).reader? j with
    | none =>
      simp only [DriverSet.note, d.step_fork_none hreader]
      refine .nobody (.fork j) (by simp) ?_
      rintro k (hk | hk) <;> cases hk
      exact hreader
    | some x =>
      simp only [DriverSet.note, d.step_fork_some hreader]
      exact .forked hreader (hd.snapshots_setSnapshots c.world _)
  | read j q => exact .read j q
  | dropUpdater => exact .dropped (hd.snapshots_setSnapshots c.world _)

theorem faithful_note (hd : d.Lawful image?) {c : Chronicle W ι}
    (h : (d.snapshots c.world).Faithful c.images c.held) (m : Move β) :
    (d.snapshots (d.note image? c m).world).Faithful (d.note image? c m).images
      (d.note image? c m).held := by
  have hnoted := noted hd c m
  generalize (d.step c.world m).1 = answer at hnoted
  generalize d.note image? c m = c' at hnoted ⊢
  cases hnoted with
  | changed b r hsame => rwa [hsame]
  | published himage hupdating hafter =>
    rw [hafter]
    exact h.publish _
  | unpublished f scratch hafter =>
    rw [hafter]
    exact h.scratch scratch
  | refreshed hreader hupdating hafter =>
    rw [hafter]
    exact h.refresh _
  | stale j f => exact h
  | forked hreader hafter =>
    rw [hafter]
    exact h.fork hreader
  | read j q => exact h
  | dropped hafter =>
    rw [hafter]
    exact h.dropUpdater
  | nobody m hupdating hreader => exact h

theorem faithful_chronicle (hd : d.Lawful image?) {c : Chronicle W ι}
    (h : (d.snapshots c.world).Faithful c.images c.held) (ms : List (Move β)) :
    (d.snapshots (d.chronicle image? c ms).world).Faithful (d.chronicle image? c ms).images
      (d.chronicle image? c ms).held := by
  induction ms generalizing c with
  | nil => exact h
  | cons m ms ih => exact ih (faithful_note hd h m)

theorem forward_note (hd : d.Lawful image?) {c : Chronicle W ι}
    (h : (d.snapshots c.world).Faithful c.images c.held) (m : Move β) {j n : Nat}
    (hn : c.held[j]? = some n) : ∃ n', (d.note image? c m).held[j]? = some n' ∧ n ≤ n' := by
  have hkept : ∃ n', c.held[j]? = some n' ∧ n ≤ n' := ⟨n, hn, Nat.le_refl n⟩
  have hj : j < c.held.length := (List.getElem?_eq_some_iff.mp hn).1
  have hnoted := noted hd c m
  generalize (d.step c.world m).1 = answer at hnoted
  generalize d.note image? c m = c' at hnoted ⊢
  cases hnoted with
  | changed | published | unpublished | stale | read | dropped | nobody => exact hkept
  | @refreshed k x w hreader hupdating hafter =>
    -- the latest image is not earlier than any that is held
    rw [List.getElem?_set]
    by_cases hk : k = j
    · subst hk
      have hlt := h.held_lt (List.mem_of_getElem? hn)
      exact ⟨c.images.length - 1, by simp [hj], by omega⟩
    · rw [if_neg hk]
      exact hkept
  | forked hreader hafter =>
    rw [List.getElem?_append_left hj]
    exact hkept

theorem forward_chronicle (hd : d.Lawful image?) {c : Chronicle W ι}
    (h : (d.snapshots c.world).Faithful c.images c.held) (ms : List (Move β)) {j n : Nat}
    (hn : c.held[j]? = some n) :
    ∃ n', (d.chronicle image? c ms).held[j]? = some n' ∧ n ≤ n' := by
  induction ms generalizing c n with
  | nil => exact ⟨n, hn, Nat.le_refl n⟩
  | cons m ms ih =>
    obtain ⟨n₁, hn₁, hle₁⟩ := forward_note hd h m hn
    obtain ⟨n₂, hn₂, hle₂⟩ := ih (faithful_note hd h m) hn₁
    exact ⟨n₂, hn₂, Nat.le_trans hle₁ hle₂⟩

/-- A driver with its updater and its reader `j`. -/
structure InUse (j : Nat) (s : Snapshots ι) : Prop where
  updating : s.isUpdating = true
  reader : j < s.readers.length

theorem inUse_step (hd : d.Lawful image?) {w : W} {j : Nat} (h : InUse j (d.snapshots w))
    {m : Move β} (hm : m ≠ .dropUpdater) : InUse j (d.snapshots (d.step w m).2) := by
  -- `noted` is about a chronicle: one without a history does
  have hnoted := noted hd ⟨w, [], []⟩ m
  rw [← d.world_note image? ⟨w, [], []⟩ m]
  generalize (d.step (Chronicle.mk w [] []).world m).1 = answer at hnoted
  generalize d.note image? ⟨w, [], []⟩ m = c' at hnoted ⊢
  cases hnoted with
  | changed b r hsame => rwa [hsame]
  | published himage hupdating hafter =>
    rw [hafter]
    exact ⟨h.updating, h.reader⟩
  | unpublished f scratch hafter =>
    rw [hafter]
    exact ⟨h.updating, h.reader⟩
  | refreshed hreader hupdating hafter =>
    rw [hafter]
    exact ⟨h.updating, by rw [List.length_set]; exact h.reader⟩
  | forked hreader hafter =>
    rw [hafter]
    exact ⟨h.updating, Nat.lt_of_lt_of_le h.reader (by simp)⟩
  | dropped => exact absurd rfl hm
  | stale | read | nobody => exact h

theorem inUse_run (hd : d.Lawful image?) {w : W} {j : Nat} (h : InUse j (d.snapshots w))
    {ms : List (Move β)} (hms : .dropUpdater ∉ ms) : InUse j (d.snapshots (d.run w ms).2) := by
  induction ms generalizing w with
  | nil => exact h
  | cons m ms ih =>
    have hm : m ≠ .dropUpdater := fun heq => hms (heq ▸ List.mem_cons_self)
    exact ih (inUse_step hd h hm) fun hmem => hms (List.mem_cons_of_mem _ hmem)

theorem images_note (hd : d.Lawful image?) (c : Chronicle W ι) (m : Move β) :
    c.images <+: (d.note image? c m).images := by
  have hnoted := noted hd c m
  generalize (d.step c.world m).1 = answer at hnoted
  generalize d.note image? c m = c' at hnoted ⊢
  cases hnoted with
  | published => exact List.prefix_append ..
  | changed | unpublished | refreshed | stale | forked | read | dropped | nobody =>
    exact List.prefix_refl _

theorem images_chronicle (hd : d.Lawful image?) (c : Chronicle W ι) (ms : List (Move β)) :
    c.images <+: (d.chronicle image? c ms).images := by
  induction ms generalizing c with
  | nil => exact List.prefix_refl _
  | cons m ms ih => exact (images_note hd c m).trans (ih (d.note image? c m))

structure Stranded (d : DriverSet W β ι) (j : Nat) (x : ι) (c : Chronicle W ι) : Prop where
  dropped : (d.snapshots c.world).isUpdating = false
  reader : (d.snapshots c.world).reader? j = some x

theorem stranded_note (hd : d.Lawful image?) {c : Chronicle W ι} {j : Nat} {x : ι}
    (h : Stranded d j x c) (m : Move β) : Stranded d j x (d.note image? c m) := by
  obtain ⟨hdropped, hx⟩ := h
  have hj : j < (d.snapshots c.world).readers.length := (List.getElem?_eq_some_iff.mp hx).1
  have hnoted := noted hd c m
  generalize (d.step c.world m).1 = answer at hnoted
  generalize d.note image? c m = c' at hnoted ⊢
  cases hnoted with
  | changed b r hsame => exact ⟨by rwa [hsame], by rwa [hsame]⟩
  | published himage hupdating hafter =>
    rw [hdropped] at hupdating
    cases hupdating
  | unpublished f scratch hafter => exact ⟨by rwa [hafter], by rwa [hafter]⟩
  | refreshed hreader hupdating hafter =>
    rw [hdropped] at hupdating
    cases hupdating
  | forked hreader hafter =>
    refine ⟨by rwa [hafter], ?_⟩
    rw [hafter, Snapshots.reader?, List.getElem?_append_left hj]
    exact hx
  | dropped hafter =>
    have hguarded : (d.snapshots c.world).shared.guarded = false :=
      (Bool.or_eq_false_iff.mp hdropped).2
    exact ⟨by rw [hafter]; exact hguarded, by rwa [hafter]⟩
  | stale | read | nobody => exact ⟨hdropped, hx⟩

theorem stranded_chronicle (hd : d.Lawful image?) {c : Chronicle W ι} {j : Nat} {x : ι}
    (h : Stranded d j x c) (ms : List (Move β)) : Stranded d j x (d.chronicle image? c ms) := by
  induction ms generalizing c with
  | nil => exact h
  | cons m ms ih => exact ih (stranded_note hd h m)

theorem sound_of_faithful (hd : d.Lawful image?) {c : Chronicle W ι} {zero : ι}
    (h : (d.snapshots c.world).Faithful c.images c.held) (hzero : c.images.head? = some zero) :
    c.Sound d image? zero where
  zero_first := hzero
  whole _ _ hreader := h.reader hreader
  published hok := by
    have hnoted := noted hd c .update
    rw [hok] at hnoted
    generalize d.note image? c .update = c' at hnoted ⊢
    cases hnoted with
    | published himage => exact ⟨_, himage, rfl⟩
  unpublished m hno := by
    have hnoted := noted hd c m
    generalize (d.step c.world m).1 = answer at hnoted hno
    generalize d.note image? c m = c' at hnoted ⊢
    cases hnoted with
    | published => exact absurd rfl (hno rfl .done)
    | changed | unpublished | refreshed | stale | forked | read | dropped | nobody => rfl
  forward ms _ _ hn := forward_chronicle hd h ms hn
  child j x hreader := by
    obtain ⟨n, hheld, -⟩ := h.reader hreader
    have hnoted := noted hd c (.fork j)
    generalize (d.step c.world (.fork j)).1 = answer at hnoted
    generalize d.note image? c (.fork j) = c' at hnoted ⊢
    cases hnoted with
    | forked hreader' hafter =>
      rw [hreader] at hreader'
      cases hreader'
      exact ⟨n, hheld, by rw [hheld]; rfl, by rw [hafter]⟩
    | nobody _ _ hnone => cases hreader.symm.trans (hnone j (.inr rfl))
  update_failed f hfailed := by
    have hnoted := noted hd c .update
    rw [hfailed] at hnoted
    generalize d.note image? c .update = c' at hnoted ⊢
    cases hnoted with
    | unpublished _ scratch hafter => exact ⟨by rw [hafter], by rw [hafter]⟩
  refresh_failed j f hfailed := by
    have hnoted := noted hd c (.refresh j)
    rw [hfailed] at hnoted
    generalize d.note image? c (.refresh j) = c' at hnoted ⊢
    cases hnoted with
    | stale => rfl
  refreshed j hok := by
    have hnoted := noted hd c (.refresh j)
    rw [hok] at hnoted
    generalize d.note image? c (.refresh j) = c' at hnoted ⊢
    cases hnoted with
    | refreshed hreader hupdating hafter =>
      have hj : j < (d.snapshots c.world).readers.length :=
        (List.getElem?_eq_some_iff.mp hreader).1
      rw [hafter, h.latest]
      exact List.getElem?_set_self hj
  others j k hk := by
    have hnoted := noted hd c (.refresh j)
    generalize (d.step c.world (.refresh j)).1 = answer at hnoted
    generalize d.note image? c (.refresh j) = c' at hnoted ⊢
    cases hnoted with
    | refreshed hreader hupdating hafter =>
      rw [hafter]
      exact List.getElem?_set_ne (Ne.symm hk)
    | stale | nobody => rfl
  drops := by
    show (d.snapshots (d.setSnapshots c.world (d.snapshots c.world).dropUpdater)).isUpdating = false
    rw [hd.snapshots_setSnapshots]
    exact h.unguarded
  dropped hdropped ms j x hreader := by
    obtain ⟨hstill, hkept⟩ := stranded_chronicle hd ⟨hdropped, hreader⟩ ms
    constructor
    · rw [d.step_refresh_error hkept (Snapshots.refresh_of_dropped hstill j)]
    · intro q
      simp only [DriverSet.step, hkept, Option.map_some]

/-- A driver as it is opened: one reader, and nothing published but zeros. -/
def opened (w : W) (zero : ι) : Chronicle W ι := ⟨w, [zero], [0]⟩

/-- Whatever is done with a driver after it was opened, its session is sound. -/
theorem sound (hd : d.Lawful image?) {w : W} {zero : ι}
    (hw : d.snapshots w = Snapshots.new zero zero) (ms : List (Move β)) :
    (d.chronicle image? (opened w zero) ms).Sound d image? zero := by
  have hopened : (d.snapshots (opened w zero).world).Faithful (opened w zero).images
      (opened w zero).held := by
    show (d.snapshots w).Faithful [zero] [0]
    rw [hw]
    exact .new zero
  have hzero : (d.chronicle image? (opened w zero) ms).images.head? = some zero := by
    obtain ⟨later, himages⟩ := images_chronicle hd (opened w zero) ms
    rw [← himages]
    rfl
  exact sound_of_faithful hd (faithful_chronicle hd hopened ms) hzero

end Chronicle

/-! ### The two drivers -/

namespace MailboxDriver

/-- The process data in the segment of the driver's client. -/
def image? (d : MailboxDriver) (h : Host) : Option Image :=
  h.clients[d.client]?.bind fun c =>
    (Segment.data (h.memory c.memory) c.client.areaSize).toOption.map (·.toImage)

theorem readData_eq_ok {d : MailboxDriver} {h : Host} {target i : Image}
    (hread : (h.readData d.client target).1 = .ok i) : d.image? h = some i := by
  cases hclient : h.clients[d.client]? with
  | none =>
    simp only [Host.readData, hclient] at hread
    cases hread
  | some c =>
    simp only [Host.readData, hclient, Host.withData, Host.acquire] at hread
    cases hfree : Segment.isFree (h.memory c.memory) .data with
    | false =>
      rw [hfree] at hread
      cases hread
    | true =>
      simp only [hfree, Server.acquire, if_true, pure, Except.pure] at hread
      cases hdata : Segment.data (h.memory c.memory) c.client.areaSize with
      | error f =>
        rw [hdata] at hread
        cases hread
      | ok v =>
        simp only [hdata] at hread
        obtain ⟨-, -, hcopy⟩ := bind_eq_ok.mp (show v.copyTo target = .ok i from hread)
        cases hcopy
        simp only [image?, hclient, Option.bind_some, hdata, Except.toOption, Option.map_some]

theorem lawful {β : Type} (change : MailboxDriver → Host → β → Except Fault Unit × Host) :
    (set change).Lawful fun w => w.1.image? w.2 where
  snapshots_setSnapshots _ _ := rfl
  snapshots_change _ _ := rfl
  update w := by
    obtain ⟨d, h⟩ := w
    cases hread : h.readData d.client d.snapshots.scratch with
    | mk r h' =>
      refine ⟨r.map fun _ => (), r.toOption.getD d.snapshots.scratch, ?_, ?_⟩
      · intro hok
        cases r with
        | error f => cases hok
        | ok i => exact readData_eq_ok (congrArg Prod.fst hread)
      · simp only [set, MailboxDriver.update, hread]

end MailboxDriver

namespace RegisterDriver

theorem lawful {κ β : Type} [TableLink κ] (change : Backend κ → β → Except Fault Unit × Backend κ) :
    (set change).Lawful fun d => d.backend.image? where
  snapshots_setSnapshots _ _ := rfl
  snapshots_change _ _ := rfl
  update d := by
    refine ⟨(d.backend.readRegisters d.snapshots.scratch).1,
      (d.backend.readRegisters d.snapshots.scratch).2.1, ?_, rfl⟩
    intro hok
    exact Backend.readRegisters_eq_ok (Prod.ext hok rfl)

theorem snapshots_new {κ : Type} [RegisterLink κ] {link : κ} {count : Nat} {d : RegisterDriver κ}
    (h : new link count = .ok d) :
    d.snapshots = Snapshots.new (RegisterSet.zero count) (RegisterSet.zero count) := by
  obtain ⟨backend, -, hdriver⟩ := bind_eq_ok.mp h
  cases hdriver
  rfl

end RegisterDriver

/-- Snapshots never tear and never go backwards, whichever driver was opened, whatever changes its
backend, and whatever is done with it. -/
theorem snapshots_sound {β γ κ : Type} [TableLink κ]
    (edit : MailboxDriver → Host → β → Except Fault Unit × Host)
    (edit' : Backend κ → γ → Except Fault Unit × Backend κ)
    {h h' : Host} {path : String} {limits : ClientLimits} {d : MailboxDriver}
    (hattach : MailboxDriver.attach h path limits = .ok (d, h')) {link : κ} {count : Nat}
    {e : RegisterDriver κ} (hnew : RegisterDriver.new link count = .ok e) (ms : List (Move β))
    (ms' : List (Move γ)) :
    ((MailboxDriver.set edit).chronicle (fun w => w.1.image? w.2)
        (.opened (d, h') (Image.zero d.areaSize)) ms).Sound
      (MailboxDriver.set edit) (fun w => w.1.image? w.2) (Image.zero d.areaSize) ∧
    ((RegisterDriver.set edit').chronicle (fun e => e.backend.image?)
        (.opened e (RegisterSet.zero count)) ms').Sound
      (RegisterDriver.set edit') (fun e => e.backend.image?) (RegisterSet.zero count) :=
  ⟨Chronicle.sound (MailboxDriver.lawful edit) (w := (d, h'))
      (MailboxDriver.snapshots_attach hattach) ms,
    Chronicle.sound (RegisterDriver.lawful edit') (RegisterDriver.snapshots_new hnew) ms'⟩

/-- A device that loses an input register between two updates: the second one fails when the holding
registers have been transferred. -/
theorem snapshots_sound_plant :
    let edit : MailboxDriver → Host → Host → Except Fault Unit × Host := fun _ _ h => (.ok (), h)
    let edit' : Backend Device → Device → Except Fault Unit × Backend Device := fun b device =>
      (.ok (), { b with link := device })
    let device := Device.new [1, 2] [3, 4]
    let e : RegisterDriver Device := ⟨⟨device, 2, RegisterLink.describe device, 0, 0⟩,
      Snapshots.new (RegisterSet.zero 2) (RegisterSet.zero 2)⟩
    let ms : List (Move Host) := [.change Host.plant, .update, .refresh 0]
    let ms' : List (Move Device) :=
      [.update, .refresh 0, .change (.new [8, 9] [7]), .update, .refresh 0, .fork 0,
        .read 1 (.word ⟨.output, 0, 0⟩), .dropUpdater, .refresh 1, .read 1 (.word ⟨.input, 2, 0⟩)]
    RegisterDriver.new device 2 = .ok e ∧
      ((RegisterDriver.set edit').run e ms').1 =
        [some (.ok .done), some (.ok .done), some (.ok .done),
          some (.error (.transport (.exception 4 2))), some (.ok .done), some (.ok .done),
          some (.ok (.word 1)), some (.ok .done),
          some (.error (.notInitialized .containerDropped)), some (.ok (.word 4))] ∧
      ∃ d h', MailboxDriver.attach Host.plant "plant" Client.defaultLimits = .ok (d, h') ∧
        ((MailboxDriver.set edit).chronicle (fun w => w.1.image? w.2)
            (.opened (d, h') (Image.zero d.areaSize)) ms).Sound
          (MailboxDriver.set edit) (fun w => w.1.image? w.2) (Image.zero d.areaSize) ∧
        ((RegisterDriver.set edit').chronicle (fun e => e.backend.image?)
            (.opened e (RegisterSet.zero 2)) ms').Sound
          (RegisterDriver.set edit') (fun e => e.backend.image?) (RegisterSet.zero 2) := by
  intro edit edit' device e ms ms'
  obtain ⟨d, h', hattach⟩ := MailboxDriver.attach_plant Client.defaultLimits
  have hnew : RegisterDriver.new device 2 = .ok e := rfl
  exact ⟨hnew, by decide, d, h', hattach, snapshots_sound edit edit' hattach hnew ms ms'⟩

end FieldImage
