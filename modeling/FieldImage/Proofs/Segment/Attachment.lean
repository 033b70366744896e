import FieldImage.Proofs.Image.View
import FieldImage.Proofs.Segment.Memory

/-! Which files are segments. A file is attached when its first words are those of a segment and its
length is the one that they ask for; its process data are then inside it, behind the control block. -/

namespace FieldImage

/-! ### Longer words -/

namespace Bytes

theorem ofNat_eight_toNat {bs : List UInt8} (h : bs.length = 8) :
    ofNat 8 (UInt64.ofNat (toNat bs)).toNat = bs := by
  have hlt : toNat bs < 2 ^ 64 := by
    have hbytes := toNat_lt bs
    rwa [h] at hbytes
  rw [UInt64.toNat_ofNat_of_lt' hlt, ← h, ofNat_toNat]

theorem toNat_ofNat_eight (w : UInt64) : UInt64.ofNat (toNat (ofNat 8 w.toNat)) = w := by
  have hlt : w.toNat < 256 ^ 8 := w.toNat_lt
  rw [toNat_ofNat, Nat.mod_eq_of_lt hlt, UInt64.ofNat_toNat]

end Bytes

namespace Segment

open Layout

variable {m : Memory} {path : String} {n : Nat}

theorem peek_add (m : Memory) (o a b : Nat) : peek m o (a + b) = peek m o a ++ peek m (o + a) b := by
  induction a generalizing o with
  | zero => rw [Nat.zero_add, Nat.add_zero, peek, List.nil_append]
  | succ a ih =>
    have hnext : o + (a + 1) = o + 1 + a := by omega
    rw [Nat.succ_add, peek, peek, ih, hnext, List.cons_append]

theorem peek_eq_take {o k : Nat} (h : o + k ≤ m.size) : peek m o k = (m.toList.drop o).take k := by
  induction k generalizing o with
  | zero => rw [peek, List.take_zero]
  | succ k ih =>
    have ho : o < m.toList.length := by
      rw [Array.length_toList]
      omega
    have hbyte : m[o]?.getD 0 = m.toList[o] := by
      rw [← Array.getElem?_toList, List.getElem?_eq_getElem ho, Option.getD_some]
    rw [peek, ih (by omega), hbyte, List.drop_eq_getElem_cons ho, List.take_succ_cons]

/-! ### The header -/

/-- The first words of a segment. -/
structure Header where
  magic : UInt64
  version : UInt32
  areaSize : UInt32
  initialized : UInt32

namespace Header

def bytes (hd : Header) : List UInt8 :=
  Bytes.ofNat 8 hd.magic.toNat ++ Bytes.ofDWord hd.version ++ Bytes.ofDWord hd.areaSize ++
    Bytes.ofDWord hd.initialized

def length : Nat := 20

theorem length_bytes (hd : Header) : hd.bytes.length = length := by
  simp only [bytes, List.length_append, Bytes.length_ofNat, Bytes.length_ofDWord]
  rfl

theorem bytes_inj {hd hd' : Header} (h : hd.bytes = hd'.bytes) : hd = hd' := by
  have hdword {v w : UInt32} (h : Bytes.ofDWord v = Bytes.ofDWord w) : v = w := by
    rw [← Bytes.toDWord_ofDWord v, h, Bytes.toDWord_ofDWord]
  have hlong {v w : UInt64} (h : Bytes.ofNat 8 v.toNat = Bytes.ofNat 8 w.toNat) : v = w := by
    rw [← Bytes.toNat_ofNat_eight v, h, Bytes.toNat_ofNat_eight]
  obtain ⟨magic, version, areaSize, initialized⟩ := hd
  obtain ⟨h, hinitialized⟩ := List.append_inj' h rfl
  obtain ⟨h, hareaSize⟩ := List.append_inj' h rfl
  obtain ⟨hmagic, hversion⟩ := List.append_inj' h rfl
  obtain rfl := hlong hmagic
  obtain rfl := hdword hversion
  obtain rfl := hdword hareaSize
  obtain rfl := hdword hinitialized
  rfl

/-- The header that a file begins with. -/
def ofMemory (m : Memory) : Header :=
  ⟨long m magicAt, word m versionAt, word m areaSizeAt, word m initializedAt⟩

theorem bytes_ofMemory (m : Memory) : (ofMemory m).bytes = peek m 0 length := by
  have hword (o : Nat) : Bytes.ofDWord (word m o) = peek m o 4 :=
    Bytes.ofDWord_toDWord (length_peek m o 4)
  have hlong : Bytes.ofNat 8 (long m magicAt).toNat = peek m magicAt 8 :=
    Bytes.ofNat_eight_toNat (length_peek m magicAt 8)
  have hparts : peek m 0 length =
      peek m magicAt 8 ++ peek m versionAt 4 ++ peek m areaSizeAt 4 ++ peek m initializedAt 4 := by
    have hthree := peek_add m 0 (8 + 4 + 4) 4
    rw [peek_add m 0 (8 + 4) 4, peek_add m 0 8 4] at hthree
    exact hthree
  rw [hparts, bytes, ofMemory]
  simp only [hword, hlong]

/-- A file that is long enough begins with one header. -/
theorem bytes_prefix_iff (h : length ≤ m.size) {hd : Header} :
    hd.bytes <+: m.toList ↔ ofMemory m = hd := by
  have hpeek : peek m 0 length = m.toList.take length := peek_eq_take (by omega)
  rw [List.prefix_iff_eq_take, length_bytes, ← hpeek, ← bytes_ofMemory]
  exact ⟨fun h => bytes_inj h.symm, fun h => congrArg bytes h.symm⟩

end Header

/-! ### Checks -/

/-- The length of a segment as it is computed, in a word of 64 bits. -/
def wordSize (areaSize : UInt32) : UInt64 := UInt64.ofNat dataOffset + 3 * areaSize.toUInt64

theorem toNat_wordSize (areaSize : UInt32) :
    (wordSize areaSize).toNat = segmentSize areaSize.toNat := by
  have hlt := areaSize.toNat_lt
  have hoffset : (UInt64.ofNat dataOffset).toNat = 512 := rfl
  have hthree : (3 : UInt64).toNat = 3 := rfl
  have hsize : segmentSize areaSize.toNat = 512 + 3 * areaSize.toNat := rfl
  rw [wordSize, UInt64.toNat_add, UInt64.toNat_mul, UInt32.toNat_toUInt64, hoffset, hthree, hsize]
  omega

/-- The checks of a file that is to be attached. -/
inductive AttachCheck where
  | whole
  | magic
  | version
  | initialized
  | length
deriving DecidableEq

namespace AttachCheck

def order : List AttachCheck := [whole, magic, version, initialized, length]

/-- What each check asks of a file of this size with this header. -/
def Passes (size : Nat) (hd : Header) : AttachCheck → Prop
  | whole => dataOffset ≤ size
  | magic => hd.magic = Layout.magic
  | version => hd.version = Layout.version
  | initialized => hd.initialized = 1
  | length => (wordSize hd.areaSize).toNat = size

instance (size : Nat) (hd : Header) : DecidablePred (Passes size hd)
  | whole => inferInstanceAs (Decidable (_ ≤ _))
  | magic | version | initialized | length => inferInstanceAs (Decidable (_ = _))

def fault (path : String) (size : Nat) (hd : Header) : AttachCheck → Fault
  | whole => .transport (.segment (.short path size))
  | magic => .transport (.segment (.badMagic path hd.magic))
  | version => .transport (.segment (.badVersion path hd.version Layout.version))
  | initialized => .notInitialized (.segmentUnfinished path)
  | length => .transport (.segment (.badLength path size hd.areaSize.toNat
      (wordSize hd.areaSize).toNat))

/-- The first check that does not pass decides. -/
def ruling (path : String) (size : Nat) (hd : Header) (checks : List AttachCheck) :
    Except Fault Nat :=
  match checks.find? fun c => !decide (c.Passes size hd) with
  | some c => .error (c.fault path size hd)
  | none => .ok hd.areaSize.toNat

variable {size : Nat} {hd : Header}

theorem ruling_cons (c : AttachCheck) (checks : List AttachCheck) :
    ruling path size hd (c :: checks) =
      if c.Passes size hd then ruling path size hd checks else .error (c.fault path size hd) := by
  by_cases h : c.Passes size hd
  · rw [if_pos h, ruling, List.find?_cons_of_neg (by simpa using h), ruling]
  · rw [if_neg h, ruling, List.find?_cons_of_pos (by simpa using h)]

theorem ruling_eq_ok_iff {checks : List AttachCheck} :
    ruling path size hd checks = .ok n ↔
      (∀ c ∈ checks, c.Passes size hd) ∧ hd.areaSize.toNat = n := by
  induction checks with
  | nil => simp [ruling]
  | cons c checks ih =>
    rw [ruling_cons, List.forall_mem_cons, and_assoc, ← ih]
    split
    · rename_i h
      exact ⟨fun hok => ⟨h, hok⟩, And.right⟩
    · rename_i h
      exact ⟨nofun, fun hok => absurd hok.1 h⟩

theorem mem_order (c : AttachCheck) : c ∈ order := by cases c <;> decide

end AttachCheck

open AttachCheck

/-- A refusal in front is a check that does not pass. -/
theorem refuse_eq_check {α : Type} {p q : Prop} [Decidable p] [Decidable q] {f : Fault}
    {x y : Except Fault α} (hpq : p ↔ ¬q) (h : q → x = y) :
    (if p then throw f else x) = if q then y else .error f := by
  by_cases hq : q
  · rw [if_neg (fun hp => hpq.mp hp hq), if_pos hq, h hq]
  · rw [if_pos (hpq.mpr hq), if_neg hq]
    rfl

theorem attach_eq_ruling (path : String) (m : Memory) :
    attach path m = ruling path m.size (Header.ofMemory m) order := by
  have hinitialized : (!isInitialized m) = true ↔ ¬word m initializedAt = 1 := by
    simp [isInitialized]
  have hcomputed := toNat_wordSize (word m areaSizeAt)
  have hlength : segmentSize (word m areaSizeAt).toNat ≠ m.size ↔
      ¬(wordSize (word m areaSizeAt)).toNat = m.size := by
    rw [hcomputed]
  simp only [attach, order, ruling_cons]
  refine refuse_eq_check Nat.not_le.symm fun _ => ?_
  refine refuse_eq_check Iff.rfl fun _ => ?_
  refine refuse_eq_check Iff.rfl fun _ => ?_
  refine refuse_eq_check hinitialized fun _ => ?_
  rw [← hcomputed]
  exact refuse_eq_check Iff.rfl fun _ => rfl

theorem attach_of_header {hd : Header} (hheader : dataOffset ≤ m.size → hd.bytes <+: m.toList) :
    attach path m = ruling path m.size hd order := by
  rw [attach_eq_ruling]
  by_cases hwhole : dataOffset ≤ m.size
  · rw [(Header.bytes_prefix_iff (Nat.le_trans (by decide) hwhole)).mp (hheader hwhole)]
  · -- a file that is too short is refused whatever is in it
    have hshort (hd : Header) :
        ruling path m.size hd order = .error (.transport (.segment (.short path m.size))) :=
      (ruling_cons whole _).trans (if_neg hwhole)
    rw [hshort, hshort]

/-- The file is a segment of `n` bytes per area. -/
structure WellFormed (m : Memory) (n : Nat) : Prop where
  size : m.size = dataOffset + 3 * n
  header : ∃ w : UInt32, w.toNat = n ∧
    (Header.mk Layout.magic Layout.version w 1).bytes <+: m.toList

theorem attach_eq_ok_iff : attach path m = .ok n ↔ WellFormed m n := by
  rw [attach_eq_ruling, ruling_eq_ok_iff]
  constructor
  · rintro ⟨hpass, rfl⟩
    have hwhole : dataOffset ≤ m.size := hpass whole (mem_order _)
    have hmagic : long m magicAt = Layout.magic := hpass magic (mem_order _)
    have hversion : word m versionAt = Layout.version := hpass version (mem_order _)
    have hinitialized : word m initializedAt = 1 := hpass initialized (mem_order _)
    have hlength : (wordSize (word m areaSizeAt)).toNat = m.size := hpass length (mem_order _)
    refine ⟨(toNat_wordSize _ ▸ hlength).symm, word m areaSizeAt, rfl, ?_⟩
    rw [Header.bytes_prefix_iff (Nat.le_trans (by decide) hwhole), Header.ofMemory, hmagic,
      hversion, hinitialized]
  · rintro ⟨hsize, w, rfl, hheader⟩
    have hwhole : dataOffset ≤ m.size := hsize ▸ Nat.le_add_right ..
    rw [Header.bytes_prefix_iff (Nat.le_trans (by decide) hwhole)] at hheader
    rw [hheader]
    refine ⟨fun c _ => ?_, rfl⟩
    cases c with
    | whole => exact hwhole
    | magic | version | initialized => rfl
    | length => exact (toNat_wordSize w).trans hsize.symm

theorem prefix_poke {bs cs : List UInt8} (h : (bs ++ cs).length ≤ m.size) :
    bs <+: (poke m 0 (bs ++ cs)).toList := by
  have hroom : 0 + (bs ++ cs).length ≤ m.size := by rwa [Nat.zero_add]
  have htake : (poke m 0 (bs ++ cs)).toList.take (bs ++ cs).length = bs ++ cs := by
    have hpeek := peek_eq_take (m := poke m 0 (bs ++ cs)) (by rwa [size_poke])
    rw [peek_poke_inside m hroom, List.drop_zero] at hpeek
    exact hpeek.symm
  exact (htake ▸ List.prefix_append bs cs).trans (List.take_prefix _ _)

/-- A fresh segment can be attached. -/
theorem wellFormed_fresh (hn : n < UInt32.size) (now : UInt64) : WellFormed (fresh n now) n where
  size := (holds_fresh n now).size
  header := by
    have hword : Bytes.ofDWord (UInt32.ofNat n) = Bytes.ofNat 4 n := by
      rw [Bytes.ofDWord, UInt32.toNat_ofNat_of_lt' hn]
    refine ⟨UInt32.ofNat n, UInt32.toNat_ofNat_of_lt' hn, ?_⟩
    rw [fresh, List.append_assoc, ← hword]
    refine prefix_poke ?_
    rw [Array.size_replicate, segmentSize]
    refine Nat.le_trans ?_ (Nat.le_add_right dataOffset (3 * n))
    simp only [List.length_append, Header.length_bytes, Bytes.length_ofNat, Bytes.length_ofDWord]
    decide

/-! ### The process data -/

/-- The place in the file of a byte of the process data. -/
def dataAt (n : Nat) (area : Area) (k : Nat) : Nat := dataOffset + (area.index * n + k)

/-- Where the parts of the control block begin, and how long they are. -/
def controlParts : List (Nat × Nat) :=
  [(magicAt, headerSize), (lockAt .mailbox, 4), (commandAt, mailboxSize), (lockAt .reply, 4),
    (sequenceAt, 4), (lockAt .data, 4)]

/-- The process data are a window of the file, apart from the control block, and their areas are
apart from each other. -/
structure DataWindow (m : Memory) (n : Nat) : Prop where
  inside : ∀ area k, k < n → dataAt n area k < m.size
  apart : ∀ a b k l, k < n → l < n → dataAt n a k = dataAt n b l → a = b ∧ k = l
  behind : ∀ part ∈ controlParts, ∀ area k, part.1 + part.2 ≤ dataAt n area k
  /-- A view shows the bytes of the window. -/
  shown : ∃ v, data m n = .ok v ∧ v.areaSize = n ∧
    ∀ area k, k < n → ByteImage.byte? v area k = m[dataAt n area k]?
  /-- A view that is put back changes the window and nothing else. -/
  written : ∀ w : ImageView, w.areaSize = n → (setData m w).size = m.size ∧
    (∀ j < dataOffset, (setData m w)[j]? = m[j]?) ∧
    ∀ area k, k < n → (setData m w)[dataAt n area k]? = ByteImage.byte? w area k

theorem data_of_size (h : m.size = segmentSize n) :
    ∃ v, data m n = .ok v ∧ v.areaSize = n ∧
      ∀ area k, k < n → ByteImage.byte? v area k = m[dataAt n area k]? := by
  have hbytes : (m.extract dataOffset (segmentSize n)).size = 3 * n := by
    rw [Array.size_extract, h, Nat.min_self, segmentSize, Nat.add_sub_cancel_left]
  have hdata : data m n = .ok ⟨n, ⟨_, hbytes⟩⟩ := by
    rw [data, ImageView.ofBytes, dif_pos hbytes]
    rfl
  refine ⟨⟨n, ⟨_, hbytes⟩⟩, hdata, rfl, fun area k hk => ?_⟩
  have hplace : area.index * n + k < 3 * n := ImageView.place_lt ⟨n, ⟨_, hbytes⟩⟩ area hk
  have hinside : area.index * n + k < min (segmentSize n) m.size - dataOffset := by
    rw [h, Nat.min_self, segmentSize]
    omega
  show (if k < n then (Vector.mk (m.extract dataOffset (segmentSize n)) hbytes)[area.index * n + k]?
    else none) = _
  rw [if_pos hk, Vector.getElem?_mk, Array.getElem?_extract, if_pos hinside, dataAt]

theorem dataWindow (h : m.size = segmentSize n) : DataWindow m n where
  inside area k hk := by
    have hplace : area.index * n + k < 3 * n := by
      cases area <;> simp only [Area.index] <;> omega
    rw [h, dataAt, segmentSize]
    omega
  apart a b k l hk hl heq := by
    rw [dataAt, dataAt] at heq
    cases a <;> cases b <;> simp [Area.index] at heq ⊢ <;> omega
  behind part hpart area k := by
    have hfront : ∀ part ∈ controlParts, part.1 + part.2 ≤ dataOffset := by
      simp [controlParts, magicAt, headerSize, lockAt, commandAt, mailboxSize, sequenceAt,
        dataOffset]
    exact Nat.le_trans (hfront part hpart) (Nat.le_add_right ..)
  shown := data_of_size h
  written w hw := by
    subst hw
    have hbytes : w.bytes.toList.length = 3 * w.areaSize := Vector.length_toList
    refine ⟨size_setData m w, fun j hj => getElem?_poke_outside m (.inl hj), fun area k hk => ?_⟩
    have hplace : w.place area k < w.bytes.toList.length := by
      rw [hbytes]
      exact w.place_lt area hk
    have hfits : dataOffset + w.bytes.toList.length = m.size := by rw [h, hbytes, segmentSize]
    show (setData m w)[dataOffset + w.place area k]? =
      if k < w.areaSize then w.bytes[w.place area k]? else none
    rw [if_pos hk, setData, getElem?_poke_inside m hplace (Nat.le_of_eq hfits),
      Vector.getElem?_toList]

end Segment

end FieldImage
