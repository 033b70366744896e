import FieldImage.Lock
import FieldImage.Proofs.Bytes
import FieldImage.Segment.Layout

/-! The parts of a segment do not overlap: writing one leaves the others as they are, and reading it
back gives what was written. -/

namespace FieldImage.Segment

@[simp] theorem size_poke (m : Memory) (o : Nat) (bs : List UInt8) :
    (poke m o bs).size = m.size := by
  induction bs generalizing m o with
  | nil => rfl
  | cons b bs ih => rw [poke, ih, Array.size_setIfInBounds]

theorem poke_append (m : Memory) (o : Nat) (bs cs : List UInt8) :
    poke m o (bs ++ cs) = poke (poke m o bs) (o + bs.length) cs := by
  induction bs generalizing m o with
  | nil => rfl
  | cons b bs ih =>
    rw [List.cons_append, poke, ih, poke, List.length_cons]
    congr 1
    omega

theorem getElem?_poke_outside (m : Memory) {o j : Nat} {bs : List UInt8}
    (h : j < o ∨ o + bs.length ≤ j) : (poke m o bs)[j]? = m[j]? := by
  induction bs generalizing m o with
  | nil => rfl
  | cons b bs ih =>
    rw [List.length_cons] at h
    have hne : o ≠ j := by omega
    rw [poke, ih (m.setIfInBounds o b) (by omega), Array.getElem?_setIfInBounds_ne hne]

theorem getElem?_poke_inside (m : Memory) {o i : Nat} {bs : List UInt8} (hi : i < bs.length)
    (h : o + bs.length ≤ m.size) : (poke m o bs)[o + i]? = bs[i]? := by
  induction bs generalizing m o i with
  | nil => exact absurd hi (Nat.not_lt_zero _)
  | cons b bs ih =>
    rw [List.length_cons] at h hi
    rw [poke]
    cases i with
    | zero =>
      have hlt : o < m.size := by omega
      show (poke (m.setIfInBounds o b) (o + 1) bs)[o]? = some b
      rw [getElem?_poke_outside _ (.inl (Nat.lt_add_one o)),
        Array.getElem?_setIfInBounds_self_of_lt hlt]
    | succ i =>
      have hstep : o + (i + 1) = (o + 1) + i := by omega
      have hsize : (o + 1) + bs.length ≤ (m.setIfInBounds o b).size := by
        rw [Array.size_setIfInBounds]
        omega
      rw [hstep, ih _ (by omega) hsize, List.getElem?_cons_succ]

theorem peek_poke_outside (m : Memory) {o p n : Nat} {bs : List UInt8}
    (h : p + n ≤ o ∨ o + bs.length ≤ p) : peek (poke m o bs) p n = peek m p n := by
  induction n generalizing p with
  | zero => rfl
  | succ n ih =>
    rw [peek, peek, ih (by omega), getElem?_poke_outside m (by omega)]

theorem peek_poke_inside (m : Memory) {o : Nat} {bs : List UInt8} (h : o + bs.length ≤ m.size) :
    peek (poke m o bs) o bs.length = bs := by
  induction bs generalizing m o with
  | nil => rfl
  | cons b bs ih =>
    have hfirst : (poke m o (b :: bs))[o + 0]? = (b :: bs)[0]? :=
      getElem?_poke_inside m (Nat.succ_pos _) h
    have hsize : (o + 1) + bs.length ≤ (m.setIfInBounds o b).size := by
      rw [List.length_cons] at h
      rw [Array.size_setIfInBounds]
      omega
    rw [Nat.add_zero] at hfirst
    rw [List.length_cons, peek, hfirst, poke, ih _ hsize]
    rfl

theorem word_poke_outside (m : Memory) {o p : Nat} {bs : List UInt8}
    (h : p + 4 ≤ o ∨ o + bs.length ≤ p) : word (poke m o bs) p = word m p := by
  rw [word, peek_poke_outside m h, word]

theorem word_poke_inside (m : Memory) {o : Nat} (w : UInt32) (h : o + 4 ≤ m.size) :
    word (poke m o (Bytes.ofDWord w)) o = w := by
  have hroom : o + (Bytes.ofDWord w).length ≤ m.size := by
    rw [Bytes.length_ofDWord]
    exact h
  have hpeek := peek_poke_inside m hroom
  rw [Bytes.length_ofDWord] at hpeek
  rw [word, hpeek, Bytes.toDWord_ofDWord]

/-- Words that were written one behind the other. -/
theorem word_poke_flatMap (m : Memory) {o : Nat} {vs : List Int32} {i : Nat} (hi : i < vs.length)
    (h : o + 4 * vs.length ≤ m.size) :
    word (poke m o (vs.flatMap Bytes.ofInt)) (o + 4 * i) = vs[i].toUInt32 := by
  induction vs generalizing m o i with
  | nil => exact absurd hi (Nat.not_lt_zero _)
  | cons v vs ih =>
    rw [List.length_cons] at h hi
    rw [List.flatMap_cons, poke_append, Bytes.length_ofInt]
    cases i with
    | zero =>
      rw [word_poke_outside _ (.inl (by omega))]
      exact word_poke_inside m v.toUInt32 (by omega)
    | succ i =>
      have hstep : o + 4 * (i + 1) = (o + 4) + 4 * i := by omega
      rw [hstep, ih _ (by omega) (by rw [size_poke]; omega)]
      rfl

open Layout

theorem length_flatMap_ofInt (vs : List Int32) :
    (vs.flatMap Bytes.ofInt).length = 4 * vs.length := by
  induction vs with
  | nil => rfl
  | cons v vs ih =>
    rw [List.flatMap_cons, List.length_append, ih, Bytes.length_ofInt, List.length_cons]
    omega

/-- The fields of a mailbox are written one after the other. -/
theorem setMailbox_eq (m : Memory) (b : Mailbox) :
    setMailbox m b =
      poke (poke (poke (poke (poke m commandAt (Bytes.ofInt b.command))
        valuesAt (b.values.toList.flatMap Bytes.ofInt)) lengthAt (Bytes.ofInt b.length))
        requestAt (Bytes.ofInt b.request)) replyAt (Bytes.ofInt b.reply) := by
  have hvalues : (b.values.toList.flatMap Bytes.ofInt).length = 400 := by
    rw [length_flatMap_ofInt, Vector.length_toList]
    rfl
  simp only [setMailbox, mailboxBytes, poke_append, List.length_append, Bytes.length_ofInt, hvalues]
  rfl

@[simp] theorem size_setMailbox (m : Memory) (b : Mailbox) : (setMailbox m b).size = m.size :=
  size_poke m commandAt (mailboxBytes b)

theorem length_mailboxBytes (b : Mailbox) : (mailboxBytes b).length = mailboxSize := by
  simp only [mailboxBytes, List.length_append, Bytes.length_ofInt, length_flatMap_ofInt,
    Vector.length_toList]
  rfl

theorem int_poke_inside (m : Memory) {o : Nat} (i : Int32) (h : o + 4 ≤ m.size) :
    (word (poke m o (Bytes.ofInt i)) o).toInt32 = i := by
  rw [Bytes.ofInt, word_poke_inside m _ h, Int32.toInt32_toUInt32]

/-- A mailbox is read back. -/
theorem mailbox_setMailbox {m : Memory} (h : dataOffset ≤ m.size) (b : Mailbox) :
    mailbox (setMailbox m b) = b := by
  have hoffset : dataOffset = 512 := rfl
  have hcap : Command.capacity = 100 := rfl
  rw [setMailbox_eq]
  obtain ⟨command, values, length, request, reply⟩ := b
  simp only [mailbox, Mailbox.mk.injEq]
  -- each field is read past the fields that were written after it
  refine ⟨?_, ?_, ?_, ?_, ?_⟩
  · rw [word_poke_outside _ (.inl (by decide)), word_poke_outside _ (.inl (by decide)),
      word_poke_outside _ (.inl (by decide)), word_poke_outside _ (.inl (by decide)),
      int_poke_inside _ _ (by simp only [commandAt]; omega)]
  · apply Vector.ext
    intro i hi
    have hlength : i < values.toList.length := by
      rw [Vector.length_toList]
      exact hi
    have hend : valuesAt + 4 * i + 4 ≤ lengthAt := by
      simp only [valuesAt, lengthAt]
      omega
    have hsize : valuesAt + 4 * values.toList.length ≤
        (poke m commandAt (Bytes.ofInt command)).size := by
      simp only [size_poke, Vector.length_toList, valuesAt]
      omega
    simp only [Vector.getElem_ofFn]
    rw [word_poke_outside _ (.inl (Nat.le_trans hend (by decide))),
      word_poke_outside _ (.inl (Nat.le_trans hend (by decide))), word_poke_outside _ (.inl hend),
      word_poke_flatMap _ hlength hsize, Vector.getElem_toList, Int32.toInt32_toUInt32]
  · rw [word_poke_outside _ (.inl (by decide)), word_poke_outside _ (.inl (by decide)),
      int_poke_inside _ _ (by simp only [size_poke, lengthAt]; omega)]
  · rw [word_poke_outside _ (.inl (by decide)),
      int_poke_inside _ _ (by simp only [size_poke, requestAt]; omega)]
  · rw [int_poke_inside _ _ (by simp only [size_poke, replyAt]; omega)]

@[simp] theorem length_peek (m : Memory) (o n : Nat) : (peek m o n).length = n := by
  induction n generalizing o with
  | zero => rfl
  | succ n ih => rw [peek, List.length_cons, ih]

/-- An entry that is put where it was changes nothing. -/
theorem setIfInBounds_same {α : Type} {xs : Array α} {k : Nat} {a : α}
    (h : ∀ b, xs[k]? = some b → b = a) : xs.setIfInBounds k a = xs := by
  apply Array.ext_getElem?
  intro j
  rw [Array.getElem?_setIfInBounds]
  split
  · rename_i hj
    subst hj
    split
    · rename_i hlt
      rw [Array.getElem?_eq_getElem hlt, h _ (Array.getElem?_eq_getElem hlt)]
    · rename_i hge
      rw [Array.getElem?_eq_none (Nat.le_of_not_lt hge)]
  · rfl

/-- Bytes that are put where they were read change nothing. -/
theorem poke_peek {m : Memory} {o n : Nat} (h : o + n ≤ m.size) : poke m o (peek m o n) = m := by
  induction n generalizing o with
  | zero => rfl
  | succ n ih =>
    have hsame : m.setIfInBounds o (m[o]?.getD 0) = m :=
      setIfInBounds_same fun b hb => by rw [hb, Option.getD_some]
    rw [peek, poke, hsame, ih (by omega)]

theorem poke_word {m : Memory} {o : Nat} (h : o + 4 ≤ m.size) :
    poke m o (Bytes.ofInt (word m o).toInt32) = m := by
  rw [Bytes.ofInt, UInt32.toUInt32_toInt32, word, Bytes.ofDWord_toDWord (length_peek m o 4),
    poke_peek h]

theorem poke_words {m : Memory} {o : Nat} {vs : List Int32}
    (hvs : ∀ i (hi : i < vs.length), vs[i] = (word m (o + 4 * i)).toInt32)
    (h : o + 4 * vs.length ≤ m.size) : poke m o (vs.flatMap Bytes.ofInt) = m := by
  induction vs generalizing o with
  | nil => rfl
  | cons v vs ih =>
    rw [List.length_cons] at h
    have hfirst : v = (word m o).toInt32 := hvs 0 (Nat.succ_pos _)
    rw [List.flatMap_cons, poke_append, Bytes.length_ofInt, hfirst, poke_word (by omega)]
    refine ih (fun i hi => ?_) (by omega)
    have hnext := hvs (i + 1) (Nat.succ_lt_succ hi)
    rw [Nat.mul_succ, Nat.add_comm (4 * i) 4, ← Nat.add_assoc] at hnext
    exact hnext

/-- So a mailbox that is written back as it was read changes nothing. -/
theorem setMailbox_mailbox {m : Memory} (h : dataOffset ≤ m.size) :
    setMailbox m (mailbox m) = m := by
  have hoffset : dataOffset = 512 := rfl
  have hcap : Command.capacity = 100 := rfl
  have hvalues : poke m valuesAt ((mailbox m).values.toList.flatMap Bytes.ofInt) = m := by
    refine poke_words (fun i hi => ?_) ?_
    · simp [mailbox]
    · rw [Vector.length_toList, valuesAt]
      omega
  rw [setMailbox_eq]
  simp only [mailbox] at hvalues ⊢
  rw [poke_word (by rw [commandAt]; omega), hvalues, poke_word (by rw [lengthAt]; omega),
    poke_word (by rw [requestAt]; omega), poke_word (by rw [replyAt]; omega)]

theorem sequence_setMailbox (m : Memory) (b : Mailbox) :
    sequence (setMailbox m b) = sequence m := by
  refine word_poke_outside m (.inr ?_)
  rw [length_mailboxBytes]
  decide

theorem mailbox_of_words {m m' : Memory}
    (h : ∀ p, commandAt ≤ p → p ≤ replyAt → word m' p = word m p) : mailbox m' = mailbox m := by
  simp only [mailbox, Mailbox.mk.injEq]
  refine ⟨?_, ?_, ?_, ?_, ?_⟩
  · rw [h commandAt (by decide) (by decide)]
  · apply Vector.ext
    intro i hi
    have hcap : Command.capacity = 100 := rfl
    have hlow : commandAt ≤ valuesAt + 4 * i := by
      rw [commandAt, valuesAt]
      omega
    have hhigh : valuesAt + 4 * i ≤ replyAt := by
      rw [valuesAt, replyAt]
      omega
    rw [Vector.getElem_ofFn, Vector.getElem_ofFn, h _ hlow hhigh]
  · rw [h lengthAt (by decide) (by decide)]
  · rw [h requestAt (by decide) (by decide)]
  · rw [h replyAt (by decide) (by decide)]

/-- Bytes behind the mailbox do not change it. -/
theorem mailbox_poke_behind (m : Memory) {o : Nat} {bs : List UInt8} (h : replyAt + 4 ≤ o) :
    mailbox (poke m o bs) = mailbox m :=
  mailbox_of_words fun _ _ hp => word_poke_outside m (.inl (by omega))

/-- Bytes in front of the mailbox do not change it. -/
theorem mailbox_poke_front (m : Memory) {o : Nat} {bs : List UInt8}
    (h : o + bs.length ≤ commandAt) : mailbox (poke m o bs) = mailbox m :=
  mailbox_of_words fun _ hp _ => word_poke_outside m (.inr (by omega))

theorem extract_poke_front (m : Memory) {o start stop : Nat} {bs : List UInt8}
    (h : o + bs.length ≤ start) : (poke m o bs).extract start stop = m.extract start stop := by
  apply Array.ext
  · simp only [Array.size_extract, size_poke]
  · intro i hi hi'
    rw [Array.getElem_extract, Array.getElem_extract]
    have hsame : (poke m o bs)[start + i]? = m[start + i]? :=
      getElem?_poke_outside m (.inr (by omega))
    rw [Array.getElem?_eq_getElem (by simp only [Array.size_extract, size_poke] at hi ⊢; omega),
      Array.getElem?_eq_getElem (by simp only [Array.size_extract] at hi'; omega)] at hsame
    exact Option.some.inj hsame

/-- Bytes in front of the process data do not change them. -/
theorem data_poke_front (m : Memory) {o : Nat} {bs : List UInt8} (h : o + bs.length ≤ dataOffset)
    (areaSize : Nat) : data (poke m o bs) areaSize = data m areaSize := by
  rw [data, extract_poke_front m h, data]

@[simp] theorem size_setData (m : Memory) (v : ImageView) : (setData m v).size = m.size :=
  size_poke m dataOffset v.bytes.toList

theorem mailbox_setData (m : Memory) (v : ImageView) : mailbox (setData m v) = mailbox m :=
  mailbox_poke_behind m (by decide)

theorem sequence_setData (m : Memory) (v : ImageView) : sequence (setData m v) = sequence m :=
  word_poke_outside m (.inl (by decide))

/-- The process data are read back. -/
theorem data_setData {m : Memory} {v : ImageView} (h : m.size = segmentSize v.areaSize) :
    data (setData m v) v.areaSize = .ok v := by
  have hlength : v.bytes.toList.length = 3 * v.areaSize := Vector.length_toList
  have hsize : segmentSize v.areaSize = dataOffset + 3 * v.areaSize := rfl
  have hbytes : (setData m v).extract dataOffset (segmentSize v.areaSize) = v.bytes.toArray := by
    apply Array.ext
    · simp only [Array.size_extract, size_setData, Vector.size_toArray]
      omega
    · intro i hi hi'
      rw [Vector.size_toArray] at hi'
      have hinside : (setData m v)[dataOffset + i]? = v.bytes.toList[i]? :=
        getElem?_poke_inside m (by omega) (by omega)
      rw [Array.getElem_extract]
      rw [Array.getElem?_eq_getElem (by rw [size_setData]; omega),
        List.getElem?_eq_getElem (by omega)] at hinside
      exact Option.some.inj hinside
  rw [data, hbytes, ImageView.ofBytes, dif_pos v.bytes.size_toArray]
  rfl

/-- A segment with this mailbox, this signal and these process data in it. -/
structure Holds (m : Memory) (b : Mailbox) (n : Signal) (v : ImageView) : Prop where
  size : m.size = segmentSize v.areaSize
  mailbox : mailbox m = b
  sequence : sequence m = n.sequence
  data : data m v.areaSize = .ok v

variable {m : Memory} {b : Mailbox} {n : Signal} {v : ImageView}

theorem Holds.dataOffset_le (h : Holds m b n v) : dataOffset ≤ m.size := by
  rw [h.size]
  exact Nat.le_add_right _ _

theorem holds_setMailbox (h : Holds m b n v) (b' : Mailbox) : Holds (setMailbox m b') b' n v where
  size := by rw [size_setMailbox, h.size]
  mailbox := mailbox_setMailbox h.dataOffset_le b'
  sequence := by rw [sequence_setMailbox, h.sequence]
  data := by
    rw [setMailbox, data_poke_front m (by rw [length_mailboxBytes]; decide), h.data]

theorem holds_setData (h : Holds m b n v) {w : ImageView} (hw : w.areaSize = v.areaSize) :
    Holds (setData m w) b n w where
  size := by rw [size_setData, h.size, hw]
  mailbox := by rw [mailbox_setData, h.mailbox]
  sequence := by rw [sequence_setData, h.sequence]
  data := data_setData (by rw [h.size, hw])

theorem holds_raiseSignal (h : Holds m b n v) : Holds (raiseSignal m) b n.raise v where
  size := by rw [raiseSignal, setWord, size_poke, h.size]
  mailbox := by rw [raiseSignal, setWord, mailbox_poke_behind m (by decide), h.mailbox]
  sequence := by
    have hroom : sequenceAt + 4 ≤ m.size := Nat.le_trans (by decide) h.dataOffset_le
    rw [sequence, raiseSignal, setWord, word_poke_inside m _ hroom, h.sequence]
    rfl
  data := by
    rw [raiseSignal, setWord, data_poke_front m (by rw [Bytes.length_ofDWord]; decide), h.data]

/-- Bytes in front of the mailbox are apart from the rest. -/
theorem holds_poke_front (h : Holds m b n v) {o : Nat} {bs : List UInt8}
    (ho : o + bs.length ≤ commandAt) : Holds (poke m o bs) b n v where
  size := by rw [size_poke, h.size]
  mailbox := by rw [mailbox_poke_front m ho, h.mailbox]
  sequence := by
    rw [sequence, word_poke_outside m (.inr (Nat.le_trans ho (by decide))), ← sequence, h.sequence]
  data := by rw [data_poke_front m (Nat.le_trans ho (by decide)), h.data]

/-- So are the words of the locks. -/
theorem holds_setLock (h : Holds m b n v) (l : LockName) (w : UInt32) :
    Holds (setWord m (lockAt l) w) b n v := by
  cases l with
  | mailbox => exact holds_poke_front h (by rw [Bytes.length_ofDWord]; decide)
  | reply | data =>
    exact
      { size := by rw [setWord, size_poke, h.size]
        mailbox := by rw [setWord, mailbox_poke_behind m (by decide), h.mailbox]
        sequence := by
          rw [sequence, setWord, word_poke_outside m (by rw [Bytes.length_ofDWord]; decide),
            ← sequence, h.sequence]
        data := by
          rw [setWord, data_poke_front m (by rw [Bytes.length_ofDWord]; decide), h.data] }

theorem holds_setHeartbeat (h : Holds m b n v) (now : UInt64) :
    Holds (setLong m heartbeatAt now) b n v :=
  holds_poke_front h (by rw [Bytes.length_ofNat]; decide)

theorem word_zeros (k p : Nat) : word (Array.replicate k 0) p = 0 := by
  have hzero (j : Nat) : (Array.replicate k (0 : UInt8))[j]?.getD 0 = 0 := by
    rw [Array.getElem?_replicate]
    split <;> rfl
  simp only [word, peek, hzero]
  rfl

/-- A fresh segment is idle, its signal was never raised, and its data are zero. -/
theorem holds_fresh (areaSize : Nat) (now : UInt64) :
    Holds (fresh areaSize now) Mailbox.idle ⟨0⟩ ⟨areaSize, Vector.replicate (3 * areaSize) 0⟩ := by
  have hzeros : Holds (Array.replicate (segmentSize areaSize) 0) Mailbox.idle ⟨0⟩
      ⟨areaSize, Vector.replicate (3 * areaSize) 0⟩ :=
    { size := Array.size_replicate
      mailbox := by
        simp only [mailbox, word_zeros, Mailbox.idle, Mailbox.pad]
        rfl
      sequence := word_zeros _ _
      data := by
        have hlength : segmentSize areaSize - dataOffset = 3 * areaSize :=
          Nat.add_sub_cancel_left _ _
        have hbytes : (Array.replicate (segmentSize areaSize) 0).extract dataOffset
            (segmentSize areaSize) = (Vector.replicate (3 * areaSize) (0 : UInt8)).toArray := by
          rw [Array.extract_replicate, Nat.min_self, hlength]
          rfl
        rw [data, hbytes, ImageView.ofBytes, dif_pos (Vector.size_toArray _)]
        rfl }
  exact holds_poke_front hzeros (by simp [commandAt])

structure Unlocked (m : Memory) (b : Mailbox) (n : Signal) (v : ImageView) : Prop
    extends Holds m b n v where
  free : ∀ l, isFree m l = true

theorem isFree_poke (m : Memory) {o : Nat} {bs : List UInt8} {l : LockName}
    (h : lockAt l + 4 ≤ o ∨ o + bs.length ≤ lockAt l) : isFree (poke m o bs) l = isFree m l := by
  rw [isFree, word_poke_outside m h, isFree]

theorem unlocked_setMailbox (h : Unlocked m b n v) (b' : Mailbox) :
    Unlocked (setMailbox m b') b' n v where
  toHolds := holds_setMailbox h.toHolds b'
  free l := by
    have hapart : lockAt l + 4 ≤ commandAt ∨ commandAt + (mailboxBytes b').length ≤ lockAt l := by
      rw [length_mailboxBytes]
      cases l <;> decide
    rw [setMailbox, isFree_poke m hapart, h.free l]

theorem unlocked_setData (h : Unlocked m b n v) {w : ImageView} (hw : w.areaSize = v.areaSize) :
    Unlocked (setData m w) b n w where
  toHolds := holds_setData h.toHolds hw
  free l := by
    have hfront : lockAt l + 4 ≤ dataOffset := by cases l <;> decide
    rw [setData, isFree_poke m (.inl hfront), h.free l]

theorem unlocked_raiseSignal (h : Unlocked m b n v) : Unlocked (raiseSignal m) b n.raise v where
  toHolds := holds_raiseSignal h.toHolds
  free l := by
    have hapart : lockAt l + 4 ≤ sequenceAt ∨
        sequenceAt + (Bytes.ofDWord (sequence m + 1)).length ≤ lockAt l := by
      rw [Bytes.length_ofDWord]
      cases l <;> decide
    rw [raiseSignal, setWord, isFree_poke m hapart, h.free l]

theorem unlocked_fresh (areaSize : Nat) (now : UInt64) :
    Unlocked (fresh areaSize now) Mailbox.idle ⟨0⟩
      ⟨areaSize, Vector.replicate (3 * areaSize) 0⟩ where
  toHolds := holds_fresh areaSize now
  free l := by
    rw [fresh, isFree_poke _ (.inr (by cases l <;> simp [lockAt])), isFree, word_zeros]
    rfl

end FieldImage.Segment
