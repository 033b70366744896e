import FieldImage.Proofs.Image.Buffer
import FieldImage.Proofs.Image.Checks
import FieldImage.Proofs.Image.Encoding

/-! Setting bits. What a list of bits makes of an image depends on the set of the bits and on nothing
else: not on their order, not on how often one is named, and not on whether they are set at once or
one after the other. -/

namespace FieldImage

open ByteImage StoredImage RuledImage

/-- An image that is known by the bytes that its areas are stored in. -/
class KnownImage (ι : Type) [ByteImage ι] extends RuledImage ι where
  eq_of_storage {i j : ι} (h : ∀ area, storage i area = storage j area) : i = j

instance : KnownImage Image := ⟨Image.eq_of_areas⟩

instance : KnownImage ImageView := ⟨ImageView.eq_of_areas⟩

instance : KnownImage RegisterSet := ⟨RegisterSet.eq_of_areaStorage⟩

variable {ι : Type} [ByteImage ι]

namespace ByteImage

/-- A bit of an image; it is clear where the image has no byte. -/
def hasBit (i : ι) (area : Area) (k p : Nat) : Bool :=
  (ByteMap.digit (byte? i) area k).testBit p

/-- An image with more bits set. -/
def withBits (i : ι) (as : List Address) : ι :=
  as.foldl (fun i a => updateByte i a (· ||| a.mask)) i

/-- All addresses may be written. -/
def AllWritable (i : ι) (as : List Address) : Prop := ∀ a ∈ as, validateWrite i a 1 = .ok ()

theorem withBits_append (i : ι) (l m : List Address) :
    withBits i (l ++ m) = withBits (withBits i l) m :=
  List.foldl_append

variable {i : ι} {a : Address} {l m : List Address}

theorem AllWritable.append (hl : AllWritable i l) (hm : AllWritable i m) :
    AllWritable i (l ++ m) :=
  List.forall_mem_append.mpr ⟨hl, hm⟩

theorem setBits_eq_withBits (h : AllWritable i l) : setBits i l = .ok (withBits i l) := by
  rw [setBits, forM_eq_ok.mpr h]
  rfl

theorem setBit_eq_withBits (h : validateWrite i a 1 = .ok ()) :
    setBit i a = .ok (withBits i [a]) := by
  rw [setBit, changeBit, h]
  rfl

end ByteImage

/-! ### Images in storage -/

namespace StoredImage

variable [StoredImage ι] {i j : ι}

/-- The byte of an address is in the image, and its bit is in the byte. -/
def Places (i : ι) (a : Address) : Prop :=
  a.offset < (storage i a.area).length ∧ a.bit.toNat ≤ 7

theorem hasBit_eq (i : ι) (area : Area) (k p : Nat) :
    hasBit i area k p = Bytes.hasBit (storage i area) k p := by
  rw [hasBit, ByteMap.digit, byte?_eq, Bytes.hasBit]

theorem length_storage_updateByte (i : ι) (a : Address) (f : UInt8 → UInt8) (area : Area) :
    (storage (updateByte i a f) area).length = (storage i area).length :=
  length_storage_setByte i a.area a.offset _ area

theorem length_storage_withBits (i : ι) (as : List Address) (area : Area) :
    (storage (withBits i as) area).length = (storage i area).length := by
  induction as generalizing i with
  | nil => rfl
  | cons a as ih => exact (ih _).trans (length_storage_updateByte i a _ area)

theorem hasBit_updateByte {a : Address} (ha : Places i a) (area : Area) (k p : Nat) :
    hasBit (updateByte i a (· ||| a.mask)) area k p = true ↔
      hasBit i area k p = true ∨ a.area = area ∧ a.offset = k ∧ a.bit.toNat = p := by
  rw [hasBit_eq, hasBit_eq, storage_updateByte]
  by_cases harea : area = a.area
  · subst harea
    rw [if_pos rfl, Bytes.hasBit_setBit ha.1 ha.2]
    simp only [true_and]
  · rw [if_neg harea]
    simp only [Ne.symm harea, false_and, or_false]

/-- The bits of a list are set, and no other bit changes. -/
theorem hasBit_withBits {as : List Address} (h : ∀ a ∈ as, Places i a) (area : Area) (k p : Nat) :
    hasBit (withBits i as) area k p = true ↔ hasBit i area k p = true ∨
      ∃ a ∈ as, a.area = area ∧ a.offset = k ∧ a.bit.toNat = p := by
  induction as generalizing i with
  | nil => exact ⟨.inl, fun h => h.resolve_right nofun⟩
  | cons a as ih =>
    obtain ⟨ha, has⟩ := List.forall_mem_cons.mp h
    have hrest : ∀ b ∈ as, Places (updateByte i a (· ||| a.mask)) b := fun b hb =>
      ⟨by rw [length_storage_updateByte]; exact (has b hb).1, (has b hb).2⟩
    show hasBit (withBits (updateByte i a (· ||| a.mask)) as) area k p = true ↔ _
    rw [ih hrest, hasBit_updateByte ha, or_assoc, List.exists_mem_cons_iff]

theorem validateWrite_withBits (i : ι) (as : List Address) (a : Address) (width : UInt32) :
    validateWrite (withBits i as) a width = validateWrite i a width := by
  refine (Edit.change as fun a b => b ||| a.mask).perform_keeps
    (P := fun j => validateWrite j a width = validateWrite i a width) rfl fun j area k b hj => ?_
  rw [← hj, validateWrite, validateWrite, validate, validate, checkArea_setByte,
    checkWritable_setByte, byteCount_setByte]

theorem validate_withBits (i : ι) (as : List Address) (a : Address) (width : UInt32) :
    validate (withBits i as) a width = validate i a width := by
  refine (Edit.change as fun a b => b ||| a.mask).perform_keeps
    (P := fun j => validate j a width = validate i a width) rfl fun j area k b hj => ?_
  rw [← hj, validate, validate, checkArea_setByte, byteCount_setByte]

end StoredImage

/-! ### Calls -/

section Ruled

variable [RuledImage ι] {i : ι} {a : Address} {l m : List Address}

theorem places_of_validateWrite (h : validateWrite i a 1 = .ok ()) : Places i a := by
  have hvalid := validate_of_validateWrite h
  exact ⟨window_le_storage hvalid, (validate_eq_ok.mp hvalid).bit⟩

theorem places_of_allWritable (h : AllWritable i l) : ∀ a ∈ l, Places i a := fun a ha =>
  places_of_validateWrite (h a ha)

theorem allWritable_withBits (h : AllWritable i m) (l : List Address) :
    AllWritable (withBits i l) m := by
  intro a ha
  rw [validateWrite_withBits]
  exact h a ha

theorem foldlM_setBit (h : AllWritable i l) : l.foldlM setBit i = .ok (withBits i l) := by
  induction l generalizing i with
  | nil => rfl
  | cons a l ih =>
    obtain ⟨ha, hl⟩ := List.forall_mem_cons.mp h
    have hrest := ih (allWritable_withBits hl [a])
    rw [List.foldlM_cons, setBit_eq_withBits ha]
    exact hrest

/-- A read of a bit answers with the bit, or fails as its checks do. -/
theorem getBit_eq_hasBit (i : ι) (a : Address) :
    getBit i a = validate i a 1 >>= fun _ => .ok (hasBit i a.area a.offset a.bit.toNat) := by
  rw [getBit, readPoint]
  cases hvalid : validate i a 1 with
  | error f => rfl
  | ok u =>
    have hbit := Address.and_mask_ne_zero (validate_eq_ok.mp hvalid).bit
      ((byte? i a.area a.offset).getD 0)
    show Except.ok ((byte? i a.area a.offset).getD 0 &&& a.mask != 0) = _
    rw [hbit]
    rfl

theorem getBit_withBits_of_mem (h : AllWritable i l) (ha : a ∈ l) :
    getBit (withBits i l) a = .ok true := by
  have hset := (hasBit_withBits (places_of_allWritable h) a.area a.offset a.bit.toNat).mpr
    (.inr ⟨a, ha, rfl, rfl, rfl⟩)
  rw [getBit_eq_hasBit, validate_withBits, validate_of_validateWrite (h a ha), hset]
  rfl

theorem getBits_withBits (h : AllWritable i l) :
    getBits (withBits i l) l = .ok (l.map fun _ => true) := by
  have hread (m : List Address) (hm : ∀ a ∈ m, getBit (withBits i l) a = .ok true) :
      m.mapM (getBit (withBits i l)) = .ok (m.map fun _ => true) := by
    induction m with
    | nil => rfl
    | cons a m ih =>
      obtain ⟨ha, hm⟩ := List.forall_mem_cons.mp hm
      rw [List.mapM_cons, ha, ih hm]
      rfl
  exact hread l fun a ha => getBit_withBits_of_mem h ha

theorem getBit_withBits_of_not_mem (h : AllWritable i l) (ha : a ∉ l) :
    getBit (withBits i l) a = getBit i a := by
  -- Two addresses with one area, one byte and one bit are the same address.
  have hother : ¬∃ b ∈ l, b.area = a.area ∧ b.offset = a.offset ∧ b.bit.toNat = a.bit.toNat := by
    rintro ⟨⟨area, byte, bit⟩, hb, harea, hbyte, hbit⟩
    obtain rfl : area = a.area := harea
    obtain rfl : byte = a.byte := UInt32.toNat_inj.mp hbyte
    obtain rfl : bit = a.bit := UInt32.toNat_inj.mp hbit
    exact ha hb
  have hsame : hasBit (withBits i l) a.area a.offset a.bit.toNat =
      hasBit i a.area a.offset a.bit.toNat := by
    rw [Bool.eq_iff_iff, hasBit_withBits (places_of_allWritable h), or_iff_left hother]
  rw [getBit_eq_hasBit, getBit_eq_hasBit, validate_withBits, hsame]

end Ruled

/-! ### Sets of bits -/

variable [KnownImage ι] {i : ι} {l m : List Address}

/-- Images of one geometry with the same bits are equal. -/
theorem KnownImage.eq_of_hasBit {i j : ι}
    (hlength : ∀ area, (storage i area).length = (storage j area).length)
    (h : ∀ area k p, hasBit i area k p = hasBit j area k p) : i = j :=
  eq_of_storage fun area => Bytes.eq_of_hasBit (hlength area) fun k p => by
    rw [← hasBit_eq, ← hasBit_eq, h]

theorem withBits_congr (h : AllWritable i l) (hsame : ∀ a, a ∈ l ↔ a ∈ m) :
    withBits i l = withBits i m := by
  have hm : AllWritable i m := fun a ha => h a ((hsame a).mpr ha)
  apply KnownImage.eq_of_hasBit
  · intro area
    rw [length_storage_withBits, length_storage_withBits]
  · intro area k p
    rw [Bool.eq_iff_iff, hasBit_withBits (places_of_allWritable h),
      hasBit_withBits (places_of_allWritable hm)]
    simp only [hsame]

/-- Setting the bits of two lists is a matter of the sets of their addresses. -/
structure SetsAlike (i : ι) (l m : List Address) : Prop where
  oneByOne : setBits i l = l.foldlM setBit i
  sameSet : (∀ a, a ∈ l ↔ a ∈ m) → setBits i l = setBits i m
  joined : (setBits i l >>= fun j => setBits j m) = setBits i (l ++ m)
  swapped : (setBits i l >>= fun j => setBits j m) = setBits i m >>= fun j => setBits j l
  twice : (setBits i l >>= fun j => setBits j l) = setBits i l
  /-- It is done: the bits of the list are read as set, every other address is read as before, and
  no other bit of the image has changed. -/
  done : ∃ j, setBits i l = .ok j ∧ getBits j l = .ok (l.map fun _ => true) ∧
    (∀ a, a ∉ l → getBit j a = getBit i a) ∧
    ∀ area k p, (∀ a ∈ l, ¬(a.area = area ∧ a.offset = k ∧ a.bit.toNat = p)) →
      hasBit j area k p = hasBit i area k p

theorem setsAlike (hl : AllWritable i l) (hm : AllWritable i m) : SetsAlike i l m := by
  have hjoined {l m : List Address} (hl : AllWritable i l) (hm : AllWritable i m) :
      (setBits i l >>= fun j => setBits j m) = .ok (withBits i (l ++ m)) := by
    rw [setBits_eq_withBits hl, withBits_append]
    exact setBits_eq_withBits (allWritable_withBits hm l)
  refine ⟨?_, ?_, ?_, ?_, ?_, withBits i l, setBits_eq_withBits hl, getBits_withBits hl,
    fun a ha => getBit_withBits_of_not_mem hl ha, fun area k p hout => ?_⟩
  · rw [setBits_eq_withBits hl, foldlM_setBit hl]
  · intro hsame
    rw [setBits_eq_withBits hl, setBits_eq_withBits hm, withBits_congr hl hsame]
  · rw [hjoined hl hm, setBits_eq_withBits (hl.append hm)]
  · have hsame (a : Address) : a ∈ l ++ m ↔ a ∈ m ++ l := by
      rw [List.mem_append, List.mem_append, or_comm]
    rw [hjoined hl hm, hjoined hm hl, withBits_congr (hl.append hm) hsame]
  · have hsame (a : Address) : a ∈ l ++ l ↔ a ∈ l := by
      rw [List.mem_append, or_self]
    rw [hjoined hl hl, setBits_eq_withBits hl, withBits_congr (hl.append hl) hsame]
  · have hnone : ¬∃ a ∈ l, a.area = area ∧ a.offset = k ∧ a.bit.toNat = p := fun ⟨a, ha, hat⟩ =>
      hout a ha hat
    rw [Bool.eq_iff_iff, hasBit_withBits (places_of_allWritable hl), or_iff_left hnone]

/-- On an image, a view and a register set, where the addresses that may be written are on the
outputs, setting bits depends only on the set of the addresses. -/
theorem setBits_by_set :
    (∀ (i : Image) (l m : List Address), AllWritable i l → AllWritable i m → SetsAlike i l m) ∧
      (∀ (v : ImageView) (l m : List Address), AllWritable v l → AllWritable v m →
        SetsAlike v l m) ∧
      ∀ (s : RegisterSet) (l m : List Address), AllWritable s l → AllWritable s m →
        SetsAlike s l m :=
  ⟨fun _ _ _ => setsAlike, fun _ _ _ => setsAlike, fun _ _ _ => setsAlike⟩

/-- Bits in both halves of one register, two of them in one byte and one named twice, and as another
list without the repetition and in another order. -/
theorem setBits_by_set_oneRegister :
    let s : RegisterSet := ⟨2, #v[0x8000, 0x0001], #v[0, 0]⟩
    let l : List Address := [⟨.output, 1, 0⟩, ⟨.output, 0, 7⟩, ⟨.output, 0, 2⟩, ⟨.output, 0, 7⟩]
    let m : List Address := [⟨.output, 0, 2⟩, ⟨.output, 0, 7⟩, ⟨.output, 1, 0⟩]
    (AllWritable s l ∧ AllWritable s m ∧ ∀ a, a ∈ l ↔ a ∈ m) ∧
      setBits s l = .ok ⟨2, #v[0x8184, 0x0001], #v[0, 0]⟩ ∧ setBits s l = setBits s m := by
  intro s l m
  have hl : AllWritable s l := by
    show ∀ a ∈ l, validateWrite s a 1 = .ok ()
    decide
  have hm : AllWritable s m := by
    show ∀ a ∈ m, validateWrite s a 1 = .ok ()
    decide
  have hsame (a : Address) : a ∈ l ↔ a ∈ m := by
    simp only [l, m, List.mem_cons, List.not_mem_nil, or_false]
    tauto
  exact ⟨⟨hl, hm, hsame⟩, by decide, (setBits_by_set.2.2 s l m hl hm).sameSet hsame⟩

end FieldImage
