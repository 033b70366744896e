import FieldImage.Changes
import FieldImage.Proofs.Image.AnyKind

/-! The log of a change tracker. The tracker remembers the last image only, so what it reports of the
next one is a matter of these two: all their differences, each once and in order. Put back into an image
one after the other, the reports turn it into every image that came later. -/

namespace FieldImage

open ByteImage

namespace Change

/-- The order of areas, and in one area that of places. -/
def Before (c d : Change) : Prop :=
  c.address.area.index < d.address.area.index ∨
    c.address.area = d.address.area ∧ c.address.offset < d.address.offset

/-- A byte that both images have, and that is another in image `j`. -/
structure Between (i j : AnyImage) (c : Change) : Prop where
  bit : c.address.bit = 0
  old : i.At c.address.area c.address.offset c.old
  new : j.At c.address.area c.address.offset c.new
  differ : c.old ≠ c.new

end Change

/-- All changes from image `i` to image `j`, in order. -/
structure Reports (i j : AnyImage) (cs : List Change) : Prop where
  exact : ∀ c, c ∈ cs ↔ c.Between i j
  ordered : cs.Pairwise Change.Before

namespace ChangeTracker

/-- What is reported of images that are looked at one after the other. -/
def watch (t : ChangeTracker) : List AnyImage → List (List Change) × ChangeTracker
  | [] => ([], t)
  | i :: is =>
    let (cs, t) := t.diff i
    let (css, t) := t.watch is
    (cs :: css, t)

/-- An image with the new bytes of some changes in it. -/
def replay (i : AnyImage) (cs : List Change) : AnyImage :=
  cs.foldl (fun i c => setByte i c.address.area c.address.offset c.new) i

/-! ### One area -/

section

variable {area : Area} {place : Nat} {old new : List UInt8}

theorem mem_areaChanges {c : Change} : c ∈ areaChanges area place old new ↔
    ∃ k, c.address = Address.ofByte area (UInt32.ofNat (place + k)) ∧ old[k]? = some c.old ∧
      new[k]? = some c.new ∧ c.old ≠ c.new := by
  induction old generalizing place new with
  | nil => simp [areaChanges]
  | cons o old ih =>
    cases new with
    | nil => simp [areaChanges]
    | cons n new =>
      have hlater : c ∈ areaChanges area (place + 1) old new ↔
          ∃ k, c.address = Address.ofByte area (UInt32.ofNat (place + (k + 1))) ∧
            (o :: old)[k + 1]? = some c.old ∧ (n :: new)[k + 1]? = some c.new ∧ c.old ≠ c.new := by
        simp only [ih, List.getElem?_cons_succ, Nat.add_assoc, Nat.add_comm 1]
      rw [← Nat.or_exists_add_one, ← hlater, areaChanges]
      simp only [List.getElem?_cons_zero, Nat.add_zero, Option.some.injEq]
      split
      · rename_i hsame
        subst hsame
        constructor
        · exact .inr
        · rintro (⟨-, hold, hnew, hdiffer⟩ | h)
          · exact absurd (hold.symm.trans hnew) hdiffer
          · exact h
      · rename_i hdiffer
        rw [List.mem_cons]
        refine or_congr ?_ Iff.rfl
        constructor
        · rintro rfl
          exact ⟨rfl, rfl, rfl, hdiffer⟩
        · obtain ⟨address, old', new'⟩ := c
          rintro ⟨rfl, rfl, rfl, -⟩
          rfl

theorem offset_of_mem_areaChanges (hroom : place + old.length ≤ 2 ^ 32) {c : Change}
    (hc : c ∈ areaChanges area place old new) :
    c.address.area = area ∧ place ≤ c.address.offset := by
  obtain ⟨k, haddress, hold, -⟩ := mem_areaChanges.mp hc
  have hk : k < old.length := (List.getElem?_eq_some_iff.mp hold).1
  have hoffset : c.address.offset = place + k := by
    rw [haddress]
    exact UInt32.toNat_ofNat_of_lt' (by show place + k < 2 ^ 32; omega)
  exact ⟨by rw [haddress]; rfl, by omega⟩

theorem pairwise_areaChanges (hroom : place + old.length ≤ 2 ^ 32) :
    (areaChanges area place old new).Pairwise Change.Before := by
  induction old generalizing place new with
  | nil => simp [areaChanges]
  | cons o old ih =>
    cases new with
    | nil => simp [areaChanges]
    | cons n new =>
      rw [List.length_cons] at hroom
      have hrest : (areaChanges area (place + 1) old new).Pairwise Change.Before :=
        ih (by omega)
      rw [areaChanges]
      split
      · exact hrest
      · refine List.pairwise_cons.mpr ⟨fun c hc => .inr ?_, hrest⟩
        obtain ⟨harea, hplace⟩ := offset_of_mem_areaChanges (by omega) hc
        have hoffset : (Address.ofByte area (UInt32.ofNat place)).offset = place :=
          UInt32.toNat_ofNat_of_lt' (by show place < 2 ^ 32; omega)
        exact ⟨harea.symm, by rw [hoffset]; omega⟩

end

/-! ### A whole image -/

variable {i j x : AnyImage}

theorem changes_map (as : List Area) (f g : Area → List UInt8) :
    changes (as.map fun a => (a, f a)) (as.map fun a => (a, g a)) =
      as.flatMap fun a => areaChanges a 0 (f a) (g a) := by
  induction as with
  | nil => rfl
  | cons a as ih => rw [List.map_cons, List.map_cons, changes, ih, List.flatMap_cons]

theorem pairwise_areas (i : AnyImage) : (areas i).Pairwise fun a b => a.index < b.index := by
  rcases i.areas_eq with h | h <;> rw [h] <;> decide

theorem areas_eq_of_length (h : (areas i).length = (areas j).length) : areas i = areas j := by
  rcases i.areas_eq with hi | hi <;> rcases j.areas_eq with hj | hj <;> rw [hi, hj] at h ⊢ <;>
    cases h

theorem length_areaBytes_le (i : AnyImage) (area : Area) :
    0 + (areaBytes i area).length ≤ 2 ^ 32 := by
  have hlt := (byteCount i).toNat_lt
  rw [i.length_areaBytes]
  omega

theorem mem_changes (hareas : areas i = areas j) {c : Change} :
    c ∈ changes (dump i) (dump j) ↔ c.Between i j := by
  rw [dump, dump, ← hareas, changes_map, List.mem_flatMap]
  constructor
  · rintro ⟨area, harea, hc⟩
    obtain ⟨k, haddress, hold, hnew, hdiffer⟩ := mem_areaChanges.mp hc
    have hareaj : area ∈ areas j := hareas ▸ harea
    rw [AnyImage.getElem?_areaBytes harea] at hold
    rw [AnyImage.getElem?_areaBytes hareaj] at hnew
    have hk : (UInt32.ofNat (0 + k)).toNat = k := by
      rw [Nat.zero_add]
      exact UInt32.toNat_ofNat_of_lt' (Nat.lt_trans hold.2.1 (byteCount i).toNat_lt)
    obtain ⟨address, old, new⟩ := c
    subst haddress
    refine ⟨rfl, ?_, ?_, hdiffer⟩
    · show i.At area (UInt32.ofNat (0 + k)).toNat old
      rwa [hk]
    · show j.At area (UInt32.ofNat (0 + k)).toNat new
      rwa [hk]
  · intro h
    have haddress : c.address =
        Address.ofByte c.address.area (UInt32.ofNat (0 + c.address.offset)) := by
      rw [Nat.zero_add, Address.offset, UInt32.ofNat_toNat, Address.ofByte, ← h.bit]
    exact ⟨c.address.area, h.old.1, mem_areaChanges.mpr ⟨c.address.offset, haddress,
      (AnyImage.getElem?_areaBytes h.old.1).mpr h.old,
      (AnyImage.getElem?_areaBytes h.new.1).mpr h.new, h.differ⟩⟩

theorem reports_changes (hareas : areas i = areas j) :
    Reports i j (changes (dump i) (dump j)) where
  exact _ := mem_changes hareas
  ordered := by
    rw [dump, dump, ← hareas, changes_map, List.pairwise_flatMap]
    refine ⟨fun area _ => pairwise_areaChanges (length_areaBytes_le i area),
      (pairwise_areas i).imp fun hlt c hc d hd => .inl ?_⟩
    rwa [(offset_of_mem_areaChanges (length_areaBytes_le i _) hc).1,
      (offset_of_mem_areaChanges (length_areaBytes_le i _) hd).1]

theorem diff_eq (i j : AnyImage) : (ChangeTracker.mk (dump i)).diff j =
    (if (areas i).length = (areas j).length then changes (dump i) (dump j) else [], ⟨dump j⟩) := by
  simp only [diff, dump, List.length_map]

/-- The tracker sees an image of any kind as that image itself. -/
theorem diff_any (t : ChangeTracker) :
    (∀ i : Image, t.diff (AnyImage.owned i) = t.diff i) ∧
      (∀ v : ImageView, t.diff (AnyImage.borrowed v) = t.diff v) ∧
      ∀ s : RegisterSet, t.diff (AnyImage.registers s) = t.diff s := by
  refine ⟨fun i => ?_, fun v => ?_, fun s => ?_⟩
  · rw [diff, AnyImage.dump_owned, diff]
  · rw [diff, AnyImage.dump_borrowed, diff]
  · rw [diff, AnyImage.dump_registers, diff]

/-- The first look only makes a baseline. -/
theorem diff_new (j : AnyImage) : ChangeTracker.new.diff j = ([], ⟨dump j⟩) := by
  have hne : ¬ 0 = (dump j).length := by
    rw [dump, List.length_map]
    rcases j.areas_eq with h | h <;> rw [h] <;> decide
  exact congrArg (·, _) (if_neg hne)

/-! ### A sequence of images -/

theorem watch_concat (t : ChangeTracker) (earlier : List AnyImage) (i : AnyImage) :
    (t.watch (earlier ++ [i])).2 = ⟨dump i⟩ := by
  induction earlier generalizing t with
  | nil => rfl
  | cons j earlier ih => exact ih (t.diff j).2

theorem watch_cons (t : ChangeTracker) (i : AnyImage) (is : List AnyImage) :
    (t.watch (i :: is)).1 = (t.diff i).1 :: ((t.diff i).2.watch is).1 :=
  rfl

/-! ### Replaying the log -/

theorem replay_append (i : AnyImage) (cs ds : List Change) :
    replay i (cs ++ ds) = replay (replay i cs) ds :=
  List.foldl_append

theorem sameGeometry_replay (i : AnyImage) (cs : List Change) : (replay i cs).SameGeometry i := by
  induction cs generalizing i with
  | nil => exact ⟨rfl, rfl⟩
  | cons c cs ih =>
    obtain ⟨hareas, hsize⟩ := ih (setByte i c.address.area c.address.offset c.new)
    exact ⟨hareas.trans (i.areas_setByte ..), hsize.trans (i.size_setByte ..)⟩

theorem sameKind_replay (i : AnyImage) (cs : List Change) :
    AnyImage.SameKind (replay i cs) j ↔ AnyImage.SameKind i j := by
  induction cs generalizing i with
  | nil => exact Iff.rfl
  | cons c cs ih => exact (ih _).trans (AnyImage.sameKind_setByte i ..)

/-- No place is changed twice, so a place shows its change, or what it showed before. -/
theorem at_replay {cs : List Change}
    (hplaces : ∀ c ∈ cs, c.address.area ∈ areas x ∧ c.address.offset < (byteCount x).toNat)
    (hordered : cs.Pairwise Change.Before) {area : Area} {k : Nat} {b : UInt8} :
    (replay x cs).At area k b ↔
      (∃ c ∈ cs, (area = c.address.area ∧ k = c.address.offset) ∧ b = c.new) ∨
        x.At area k b ∧ ∀ c ∈ cs, ¬(area = c.address.area ∧ k = c.address.offset) := by
  -- on the log: what comes after the first change is somewhere else
  induction cs generalizing x with
  | nil => simp [replay]
  | cons c cs ih =>
    obtain ⟨⟨harea, hk⟩, hplaces⟩ := List.forall_mem_cons.mp hplaces
    obtain ⟨hfirst, hordered⟩ := List.pairwise_cons.mp hordered
    have hafter := ih (x := setByte x c.address.area c.address.offset c.new)
      (by rwa [x.areas_setByte, StoredImage.byteCount_setByte]) hordered
    rw [AnyImage.at_setByte harea hk] at hafter
    simp only [List.mem_cons, exists_eq_or_imp, forall_eq_or_imp]
    refine hafter.trans ?_
    by_cases hplace : area = c.address.area ∧ k = c.address.offset
    · have hlater : ∀ d ∈ cs, ¬(area = d.address.area ∧ k = d.address.offset) := by
        rintro d hd ⟨harea', hk'⟩
        rcases hfirst d hd with hlt | ⟨-, hlt⟩
        · rw [← hplace.1, ← harea'] at hlt
          exact Nat.lt_irrefl _ hlt
        · omega
      grind
    · grind

theorem exists_change {cs : List Change} (h : Reports i j cs) {area : Area} {k : Nat} {b b' : UInt8}
    (hold : i.At area k b) (hnew : j.At area k b') (hdiffer : b ≠ b') :
    ∃ c ∈ cs, (area = c.address.area ∧ k = c.address.offset) ∧ b' = c.new := by
  have hk : (UInt32.ofNat k).toNat = k :=
    UInt32.toNat_ofNat_of_lt' (Nat.lt_trans hold.2.1 (byteCount i).toNat_lt)
  refine ⟨⟨Address.ofByte area (UInt32.ofNat k), b, b'⟩, (h.exact _).mpr ⟨rfl, ?_, ?_, hdiffer⟩,
    ⟨rfl, hk.symm⟩, rfl⟩
  · show i.At area (UInt32.ofNat k).toNat b
    rwa [hk]
  · show j.At area (UInt32.ofNat k).toNat b'
    rwa [hk]

/-- An image with the bytes of the one before has those of the next after its report. -/
theorem sameBytes_replay (hx : x.SameBytes i) (hgeometry : i.SameGeometry j) {cs : List Change}
    (h : Reports i j cs) : (replay x cs).SameBytes j := by
  have hcount : byteCount i = byteCount j := by
    rw [i.byteCount_eq, j.byteCount_eq, hgeometry.size]
  have hplaces : ∀ c ∈ cs, c.address.area ∈ areas x ∧ c.address.offset < (byteCount x).toNat := by
    intro c hc
    have hat := (hx _ _ _).mpr ((h.exact c).mp hc).old
    exact ⟨hat.1, hat.2.1⟩
  intro area k b
  rw [at_replay hplaces h.ordered, hx area k b]
  constructor
  · rintro (⟨c, hc, ⟨rfl, rfl⟩, rfl⟩ | ⟨hold, hunchanged⟩)
    · exact ((h.exact c).mp hc).new
    · obtain ⟨b', hnew⟩ := AnyImage.exists_at (hgeometry.areas ▸ hold.1) (hcount ▸ hold.2.1)
      by_cases hsame : b = b'
      · exact hsame ▸ hnew
      · obtain ⟨c, hc, hplace, -⟩ := exists_change h hold hnew hsame
        exact absurd hplace (hunchanged c hc)
  · intro hnew
    obtain ⟨b', hold⟩ := AnyImage.exists_at (hgeometry.areas ▸ hnew.1) (hcount ▸ hnew.2.1)
    by_cases hsame : b' = b
    · refine .inr ⟨hsame ▸ hold, ?_⟩
      rintro c hc ⟨rfl, rfl⟩
      obtain ⟨-, hold', hnew', hdiffer⟩ := (h.exact c).mp hc
      exact hdiffer ((hold'.unique hold).trans (hsame.trans (hnew.unique hnew')))
    · exact .inl (exists_change h hold hnew hsame)

theorem sameBytes_replay_watch {js : List AnyImage} (hjs : ∀ j ∈ js, i.SameGeometry j)
    (hx : x.SameBytes i) {n : Nat} (hj : (i :: js)[n]? = some j) :
    (replay x (((ChangeTracker.mk (dump i)).watch js).1.take n).flatten).SameBytes j := by
  induction js generalizing i x n with
  | nil =>
    cases n with
    | zero =>
      obtain rfl : i = j := Option.some.inj hj
      exact hx
    | succ n => cases hj
  | cons j' js ih =>
    cases n with
    | zero =>
      obtain rfl : i = j := Option.some.inj hj
      exact hx
    | succ n =>
      obtain ⟨hnext, hrest⟩ := List.forall_mem_cons.mp hjs
      have hlater : ∀ k ∈ js, j'.SameGeometry k := fun k hk =>
        ⟨hnext.areas.symm.trans (hrest k hk).areas, hnext.size.symm.trans (hrest k hk).size⟩
      have hreports := reports_changes hnext.areas
      rw [watch_cons, diff_eq, if_pos (congrArg List.length hnext.areas), List.take_succ_cons,
        List.flatten_cons, replay_append]
      exact ih hlater (sameBytes_replay hx hnext hreports) hj

/-- A tracker says nothing of its first image. Of any later one it reports all differences to the image
before, once and in order, as far as both have the byte, and nothing when the images differ in their
number of areas; what came earlier does not matter. The reports on images of one geometry turn the
first of them into each later one. -/
theorem change_log_exact :
    (∀ i : AnyImage, (ChangeTracker.new.diff i).1 = []) ∧
    (∀ (earlier : List AnyImage) (i j : AnyImage),
      if (areas i).length = (areas j).length then
        Reports i j ((ChangeTracker.new.watch (earlier ++ [i])).2.diff j).1
      else ((ChangeTracker.new.watch (earlier ++ [i])).2.diff j).1 = []) ∧
    ∀ (earlier : List AnyImage) (i : AnyImage) (js : List AnyImage),
      (∀ j ∈ js, i.SameGeometry j) → ∀ n j, (i :: js)[n]? = some j →
        let log := ((ChangeTracker.new.watch (earlier ++ [i])).2.watch js).1
        (replay i (log.take n).flatten).SameBytes j ∧
          (i.SameKind j → i.size < 2 ^ 32 → replay i (log.take n).flatten = j) := by
  refine ⟨fun i => congrArg Prod.fst (diff_new i), fun earlier i j => ?_,
    fun earlier i js hjs n j hj => ?_⟩
  · rw [watch_concat, diff_eq]
    split
    · rename_i hlength
      exact reports_changes (areas_eq_of_length hlength)
    · rfl
  · rw [watch_concat]
    have hbytes := sameBytes_replay_watch hjs (fun _ _ _ => Iff.rfl) hj
    refine ⟨hbytes, fun hkind hsize => ?_⟩
    have hgeometry : i.SameGeometry j := by
      rcases List.mem_cons.mp (List.mem_of_getElem? hj) with rfl | hmem
      · exact ⟨rfl, rfl⟩
      · exact hjs j hmem
    obtain ⟨hareas, hsame⟩ := sameGeometry_replay i
      (((ChangeTracker.mk (dump i)).watch js).1.take n).flatten
    exact hbytes.eq ⟨hareas.trans hgeometry.areas, hsame.trans hgeometry.size⟩
      ((sameKind_replay i _).mpr hkind) (hsame ▸ hsize)

/-- Two bytes of a plant change at once, in two areas. -/
def twoChanged : Image := ((Image.zero 4).set .output 2 0x02).set .memory 3 0x7F

theorem change_log_exact_twoChanged :
    (AnyImage.owned (Image.zero 4)).SameGeometry (.owned twoChanged) ∧
      replay (.owned (Image.zero 4))
        (((ChangeTracker.new.watch [.owned (Image.zero 4)]).2.watch [.owned twoChanged]).1.take
          1).flatten = .owned twoChanged := by
  have hgeometry : (AnyImage.owned (Image.zero 4)).SameGeometry (.owned twoChanged) := ⟨rfl, rfl⟩
  obtain ⟨-, -, hreplay⟩ := change_log_exact
  refine ⟨hgeometry, (hreplay [] (.owned (Image.zero 4)) [.owned twoChanged] ?_ 1 _ rfl).2 trivial ?_⟩
  · exact fun j hj => List.mem_singleton.mp hj ▸ hgeometry
  · show 4 < 2 ^ 32
    decide

end ChangeTracker

end FieldImage
