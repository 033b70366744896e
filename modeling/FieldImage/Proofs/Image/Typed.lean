import FieldImage.Proofs.Image.Checks
import FieldImage.Proofs.Image.Encoding
import Mathlib.Algebra.BigOperators.Ring.Finset

/-! Typed access by its bytes. A read answers with the values that the bytes show, a write lays its
values over them, and no other byte changes. -/

namespace FieldImage

open ByteImage StoredImage RuledImage

variable {ι : Type} [ByteImage ι]

/-! ### Reads -/

section Reads

variable {i : ι} {a : Address}

theorem length_window (i : ι) (area : Area) (k n : Nat) : (window i area k n).length = n := by
  induction n generalizing k with
  | zero => rfl
  | succ n ih => rw [window, List.length_cons, ih]

theorem toNat_window (i : ι) (area : Area) (k n : Nat) :
    Bytes.toNat (window i area k n) =
      ∑ p ∈ Finset.range n, ByteMap.digit (byte? i) area (k + p) * 256 ^ p := by
  induction n generalizing k with
  | zero => rfl
  | succ n ih =>
    rw [window, Bytes.toNat, ih, Finset.sum_range_succ', Finset.mul_sum, Nat.pow_zero, Nat.mul_one,
      Nat.add_comm]
    congr 1
    apply Finset.sum_congr rfl
    intro p _
    have hplace : k + 1 + p = k + (p + 1) := by omega
    rw [hplace, Nat.pow_succ', Nat.mul_left_comm]

theorem shows_decode (hbit : a.bit.toNat ≤ 7) (i : ι) (type : DataType) :
    ByteMap.Shows (byte? i) a (type.decode a (window i a.area a.offset type.width.toNat)) := by
  rw [ByteMap.Shows, DataType.type_decode]
  by_cases htype : type = .bit
  · subst htype
    show Bool.toNat (_ &&& a.mask != 0) = _
    rw [Address.and_mask_ne_zero hbit]
    rfl
  · rw [DataType.pattern_decode htype (length_window ..), toNat_window,
      ByteMap.number_of_ne_bit htype]

theorem getValue_shows {type : DataType} (h : validate i a type.width = .ok ())
    (hbit : a.bit.toNat ≤ 7) :
    ∃ v, getValue i a type = .ok v ∧ v.type = type ∧ ByteMap.Shows (byte? i) a v := by
  refine ⟨_, ?_, DataType.type_decode .., shows_decode hbit i type⟩
  rw [ReadCall.getValue_eq, readPoint, h]
  rfl

end Reads

/-! ### Writes -/

section Writes

variable [StoredImage ι] {i : ι} {a : Address}

theorem byte?_putWindow {area : Area} {k : Nat} {bs : List UInt8}
    (h : k + bs.length ≤ (storage i area).length) (other : Area) (p : Nat) :
    byte? (putWindow i area k bs) other p =
      if other = area ∧ k ≤ p ∧ p < k + bs.length then bs[p - k]? else byte? i other p := by
  induction bs generalizing i k with
  | nil => rw [putWindow, if_neg fun hand => by simp at hand; omega]
  | cons b bs ih =>
    rw [List.length_cons] at h ⊢
    have hfirst : k < (storage i area).length := by omega
    have hrest : k + 1 + bs.length ≤ (storage (setByte i area k b) area).length := by
      rw [length_storage_setByte]
      omega
    rw [putWindow, ih hrest, byte?_setByte b hfirst]
    by_cases hp : p = k
    · subst hp
      rw [if_neg fun hand => by omega]
      by_cases hother : other = area
      · rw [if_pos ⟨hother, rfl⟩, if_pos ⟨hother, by omega, by omega⟩, Nat.sub_self]
        rfl
      · rw [if_neg fun hand => hother hand.1, if_neg fun hand => hother hand.1]
    · rw [if_neg (c := other = area ∧ p = k) fun hand => hp hand.2]
      by_cases hin : other = area ∧ k + 1 ≤ p ∧ p < k + 1 + bs.length
      · have hplace : p - k = p - (k + 1) + 1 := by omega
        rw [if_pos hin, if_pos ⟨hin.1, by omega, by omega⟩, hplace, List.getElem?_cons_succ]
      · rw [if_neg hin, if_neg fun hand => hin ⟨hand.1, by omega, by omega⟩]

/-- The bytes of a value's number, put in the window of an address, lay the value over it. -/
theorem byte?_put_value {v : Value} (hv : v.type ≠ .bit)
    (h : a.offset + v.type.width.toNat ≤ (storage i a.area).length) :
    byte? (putWindow i a.area a.offset (Bytes.ofNat v.type.width.toNat v.pattern)) =
      ByteMap.overlay (byte? i) a v := by
  funext area k
  rw [byte?_putWindow (by rwa [Bytes.length_ofNat]), Bytes.length_ofNat, ByteMap.overlay]
  split
  · rw [Bytes.getElem?_ofNat _ (by omega), Value.overwrite_of_ne_bit hv]
  · rfl

/-- A change of one byte that turns it into the one with the bit lays the bit over it. -/
theorem byte?_updateByte_bit {f : UInt8 → UInt8} {b : Bool}
    (h : a.offset < (storage i a.area).length)
    (hf : ∀ old, (byte? i a.area a.offset).getD 0 = old → f old = (Value.bit b).overwrite a 0 old) :
    byte? (updateByte i a f) = ByteMap.overlay (byte? i) a (.bit b) := by
  funext area k
  rw [updateByte, byte?_setByte _ h, hf _ rfl, ByteMap.overlay]
  by_cases hin : area = a.area ∧ k = a.offset
  · obtain ⟨rfl, rfl⟩ := hin
    rw [if_pos ⟨rfl, rfl⟩, if_pos ⟨rfl, Nat.le_refl _, Nat.lt_succ_self _⟩, Nat.sub_self]
  · have hout : ¬(area = a.area ∧ a.offset ≤ k ∧ k < a.offset + (1 : UInt32).toNat) := by
      rintro ⟨harea, hle, hlt⟩
      have hone : (1 : UInt32).toNat = 1 := rfl
      exact hin ⟨harea, by omega⟩
    rw [if_neg hin]
    exact (if_neg hout).symm

end Writes

/-- The values that a write leaves at its addresses, by the bytes before it. -/
def Write.points (m : ByteMap) : Write → List (Address × Value)
  | setBit a => [(a, .bit true)]
  | resetBit a => [(a, .bit false)]
  | invertBit a => [(a, .bit (!(m.digit a.area a.offset).testBit a.bit.toNat))]
  | setBits as => as.map fun a => (a, .bit true)
  | value a v => [(a, v)]

namespace ByteMap

def overlayAll (m : ByteMap) (ps : List (Address × Value)) : ByteMap :=
  ps.foldl (fun m p => m.overlay p.1 p.2) m

/-- The bytes after a write: its values are laid over those before it, one by one. -/
def after (m : ByteMap) (w : Write) : ByteMap := m.overlayAll (w.points m)

theorem shows_overlayAll_set (m : ByteMap) {as : List Address} (h : ∀ a ∈ as, a.bit.toNat ≤ 7) :
    ∀ a ∈ as, (m.overlayAll (as.map fun a => (a, .bit true))).Shows a (.bit true) := by
  -- a bit that is set is not changed by those that follow, whichever they are
  have hkeep (as : List Address) {m : ByteMap} {a : Address} (ha : m.Shows a (.bit true)) :
      (m.overlayAll (as.map fun a => (a, .bit true))).Shows a (.bit true) := by
    induction as generalizing m with
    | nil => exact ha
    | cons b as ih => exact ih (ha.overlay_set b)
  induction as generalizing m with
  | nil => exact List.forall_mem_nil _
  | cons a as ih =>
    obtain ⟨ha, has⟩ := List.forall_mem_cons.mp h
    exact List.forall_mem_cons.mpr ⟨hkeep as (shows_overlay ha), ih _ has⟩

end ByteMap

/-- Bits that are set one after the other are all laid over the bytes. -/
theorem byte?_setBits [StoredImage ι] {i : ι} {as : List Address}
    (h : ∀ a ∈ as, a.bit.toNat ≤ 7 ∧ a.offset < (storage i a.area).length) :
    byte? (as.foldl (fun i a => updateByte i a (· ||| a.mask)) i) =
      ByteMap.overlayAll (byte? i) (as.map fun a => (a, .bit true)) := by
  induction as generalizing i with
  | nil => rfl
  | cons a as ih =>
    obtain ⟨⟨hbit, hin⟩, has⟩ := List.forall_mem_cons.mp h
    have hfirst : byte? (updateByte i a (· ||| a.mask)) =
        ByteMap.overlay (byte? i) a (.bit true) :=
      byte?_updateByte_bit hin fun old _ => Address.or_mask_eq_overwrite hbit 0 old
    have hrest : ∀ a' ∈ as, a'.bit.toNat ≤ 7 ∧
        a'.offset < (storage (updateByte i a (· ||| a.mask)) a'.area).length := by
      intro a' ha'
      rw [updateByte, length_storage_setByte]
      exact has a' ha'
    rw [List.foldl_cons, ih hrest, hfirst]
    rfl

namespace Write

variable [RuledImage ι] {i : ι} {w : Write}

/-- A write lays its values over the bytes and leaves all others as they are. -/
theorem byte?_perform (h : w.check i = .ok ()) :
    byte? (w.perform i) = ByteMap.after (byte? i) w := by
  have hin (a : Address) (width : UInt32) (ht : (a, width) ∈ w.targets) :
      a.bit.toNat ≤ 7 ∧ a.offset + width.toNat ≤ (storage i a.area).length := by
    have hvalid := validate_of_validateWrite (forM_eq_ok.mp h (a, width) ht)
    exact ⟨(validate_eq_ok.mp hvalid).bit, window_le_storage hvalid⟩
  have hset (a : Address) (ht : (a, 1) ∈ w.targets) :
      byte? (updateByte i a (· ||| a.mask)) = ByteMap.overlay (byte? i) a (.bit true) := by
    obtain ⟨hbit, hplace⟩ := hin a 1 ht
    exact byte?_updateByte_bit hplace fun old _ => Address.or_mask_eq_overwrite hbit 0 old
  have hreset (a : Address) (ht : (a, 1) ∈ w.targets) :
      byte? (updateByte i a (· &&& ~~~a.mask)) = ByteMap.overlay (byte? i) a (.bit false) := by
    obtain ⟨hbit, hplace⟩ := hin a 1 ht
    exact byte?_updateByte_bit hplace fun old _ => Address.and_not_mask_eq_overwrite hbit 0 old
  have hput (a : Address) (v : Value) (hv : v.type ≠ .bit) (ht : (a, v.type.width) ∈ w.targets) :
      byte? (putWindow i a.area a.offset (Bytes.ofNat v.type.width.toNat v.pattern)) =
        ByteMap.overlay (byte? i) a v :=
    byte?_put_value hv (hin a v.type.width ht).2
  cases w with
  | setBit a => exact hset a (.head _)
  | resetBit a => exact hreset a (.head _)
  | invertBit a =>
    obtain ⟨hbit, hplace⟩ := hin a 1 (.head _)
    have hover (old : UInt8) (hold : (byte? i a.area a.offset).getD 0 = old) :
        old ^^^ a.mask = (Value.bit
          (!(ByteMap.digit (byte? i) a.area a.offset).testBit a.bit.toNat)).overwrite a 0 old := by
      rw [ByteMap.digit, hold]
      exact Address.xor_mask_eq_overwrite hbit 0 old
    exact byte?_updateByte_bit hplace hover
  | setBits as => exact byte?_setBits fun a ha => hin a 1 (List.mem_map_of_mem ha)
  | value a v =>
    cases v with
    | bit b =>
      cases b with
      | true => exact hset a (.head _)
      | false => exact hreset a (.head _)
    | byte b =>
      have hbyte : Bytes.ofNat 1 b.toNat = [b] := congrArg (fun b => [b]) UInt8.ofNat_toNat
      show byte? (putWindow i a.area a.offset [b]) = _
      rw [← hbyte]
      exact hput a (.byte b) (by simp [Value.type]) (.head _)
    | word n => exact hput a (.word n) (by simp [Value.type]) (.head _)
    | dword n => exact hput a (.dword n) (by simp [Value.type]) (.head _)
    | int n => exact hput a (.int n) (by simp [Value.type]) (.head _)
    | real r => exact hput a (.real r) (by simp [Value.type]) (.head _)

omit [ByteImage ι] [RuledImage ι] in
theorem targets_eq (m : ByteMap) (w : Write) :
    w.targets = (w.points m).map fun p => (p.1, p.2.type.width) := by
  cases w with
  | setBit a | resetBit a | invertBit a => rfl
  | setBits as =>
    rw [points, List.map_map]
    rfl
  | value a v =>
    cases v with
    | bit b => cases b <;> rfl
    | byte | word | dword | int | real => rfl

/-- Each value of a write is there after it, also among several bits of one byte. -/
theorem shows_after (m : ByteMap) (hbit : ∀ t ∈ w.targets, t.1.bit.toNat ≤ 7) :
    ∀ p ∈ w.points m, (m.after w).Shows p.1 p.2 := by
  have hsingle {a : Address} {v : Value} (ha : a.bit.toNat ≤ 7) :
      ∀ p ∈ [(a, v)], (m.overlayAll [(a, v)]).Shows p.1 p.2 := by
    intro p hp
    cases List.mem_singleton.mp hp
    exact ByteMap.shows_overlay ha
  cases w with
  | setBit a | resetBit a | invertBit a => exact hsingle (hbit (a, 1) (.head _))
  | setBits as =>
    have has : ∀ a ∈ as, a.bit.toNat ≤ 7 := fun a ha => hbit (a, 1) (List.mem_map_of_mem ha)
    intro p hp
    obtain ⟨a, ha, rfl⟩ := List.mem_map.mp hp
    exact ByteMap.shows_overlayAll_set m has a ha
  | value a v =>
    apply hsingle
    cases v with
    | bit b => cases b <;> exact hbit (a, 1) (.head _)
    | byte | word | dword | int | real => exact hbit (a, _) (.head _)

end Write

/-! ### What a write leaves alone -/

theorem Write.validate_perform [StoredImage ι] (i : ι) (w : Write) (a : Address) (width : UInt32) :
    validate (w.perform i) a width = validate i a width := by
  refine w.edit.perform_keeps (P := fun j => validate j a width = validate i a width) rfl ?_
  intro j area k b hj
  rw [← hj, validate, validate, checkArea_setByte, byteCount_setByte]

theorem Image.areaSize_perform (i : Image) (w : Write) : (w.perform i).areaSize = i.areaSize := by
  refine w.edit.perform_keeps (P := fun j : Image => j.areaSize = i.areaSize) rfl ?_
  intro j area k b hj
  rw [← hj]
  cases area <;> rfl

/-! ### Calls -/

/-- The values in an answer. -/
def Answer.values : Answer → List Value
  | done => []
  | bit b => [.bit b]
  | bits bs => bs.map .bit
  | byte b => [.byte b]
  | word w => [.word w]
  | dword w => [.dword w]
  | int i => [.int i]
  | real r => [.real r]
  | value v => [v]

namespace ReadCall

/-- The answer has a value for each point of the call, the one that the bytes show there. -/
def Reports (m : ByteMap) (c : ReadCall) (x : Answer) : Prop :=
  List.Forall₂ (fun p v => v.type = p.2 ∧ m.Shows p.1 v) c.points x.values

variable [RuledImage ι] {i : ι}

theorem shows_of_getValue {α : Type} {x : Except Fault α} {g : α → Value} {a : Address}
    (type : DataType) (hx : getValue i a type = g <$> x)
    (h : validate i a type.width = .ok ()) :
    ∃ y, x = .ok y ∧ (g y).type = type ∧ ByteMap.Shows (byte? i) a (g y) := by
  obtain ⟨v, hv, hshows⟩ := getValue_shows h (validate_eq_ok.mp h).bit
  rw [hx] at hv
  cases x with
  | error f => cases hv
  | ok y =>
    cases hv
    exact ⟨y, rfl, hshows⟩

theorem bits_reports {as : List Address} (h : ∀ a ∈ as, validate i a 1 = .ok ()) :
    ∃ bs, getBits i as = .ok bs ∧ (bits as).Reports (byte? i) (.bits bs) := by
  induction as with
  | nil => exact ⟨[], rfl, .nil⟩
  | cons a as ih =>
    obtain ⟨ha, has⟩ := List.forall_mem_cons.mp h
    obtain ⟨b, hb, hshows⟩ := shows_of_getValue (g := .bit) .bit rfl ha
    obtain ⟨bs, hbs, hrest⟩ := ih has
    refine ⟨b :: bs, ?_, .cons hshows hrest⟩
    rw [getBits] at hbs ⊢
    rw [List.mapM_cons, hb, hbs]
    rfl

/-- An accepted read is answered, by what the bytes show. -/
theorem ask_reports {c : ReadCall} (h : ∀ t ∈ c.targets, validate i t.1 t.2 = .ok ()) :
    ∃ x, c.ask i = .ok x ∧ c.Reports (byte? i) x := by
  have hsingle {α : Type} {x : Except Fault α} {g : α → Value} {r : α → Answer} {a : Address}
      {type : DataType} (hr : ∀ y, (r y).values = [g y]) (hx : getValue i a type = g <$> x)
      (ha : validate i a type.width = .ok ()) :
      ∃ z, r <$> x = .ok z ∧ (value a type).Reports (byte? i) z := by
    obtain ⟨y, rfl, hshows⟩ := shows_of_getValue type hx ha
    refine ⟨r y, rfl, ?_⟩
    rw [Reports, hr]
    exact .cons hshows .nil
  cases c with
  | bits as =>
    obtain ⟨bs, hbs, hreports⟩ := bits_reports fun a ha =>
      h (a, 1) (List.mem_map_of_mem (List.mem_map_of_mem ha))
    rw [ask, hbs]
    exact ⟨.bits bs, rfl, hreports⟩
  | bit a => exact hsingle (g := .bit) (fun _ => rfl) rfl (h (a, 1) (.head _))
  | byte a => exact hsingle (g := .byte) (fun _ => rfl) rfl (h (a, 1) (.head _))
  | word a => exact hsingle (g := .word) (fun _ => rfl) rfl (h (a, 2) (.head _))
  | dword a => exact hsingle (g := .dword) (fun _ => rfl) rfl (h (a, 4) (.head _))
  | int a => exact hsingle (g := .int) (fun _ => rfl) rfl (h (a, 4) (.head _))
  | real a => exact hsingle (g := .real) (fun _ => rfl) rfl (h (a, 4) (.head _))
  | value a type =>
    exact hsingle (g := id) (fun _ => rfl) (id_map _).symm (h (a, type.width) (.head _))

end ReadCall

/-- Typed access is by the bytes of the window and no others. An accepted read has the values that
the bytes show. An accepted write is done and lays its values over the bytes, and they are read
again; every other read has from then on what it shows of both. -/
theorem typed_access_exact (i : Image) :
    (∀ c : ReadCall, (∀ t ∈ c.targets, validate i t.1 t.2 = .ok ()) →
      ∃ x, c.ask i = .ok x ∧ c.Reports (byte? i) x) ∧
    ∀ c : WriteCall, (∀ t ∈ c.targets, validateWrite i t.1 t.2 = .ok ()) →
      ∃ j : Image, c.apply i = .ok j ∧ j.areaSize = i.areaSize ∧
        byte? j = ByteMap.after (byte? i) c.toWrite ∧
        (∀ p ∈ c.toWrite.points (byte? i), ∀ d : ReadCall, d.points = [(p.1, p.2.type)] →
          ∃ x, d.ask j = .ok x ∧ x.values = [p.2]) ∧
        ∀ d : ReadCall, (∀ t ∈ d.targets, validate i t.1 t.2 = .ok ()) →
          ∃ x, d.ask j = .ok x ∧ d.Reports (ByteMap.after (byte? i) c.toWrite) x := by
  refine ⟨fun c hc => c.ask_reports hc, fun c hc => ?_⟩
  have hcheck : c.toWrite.check i = .ok () := forM_eq_ok.mpr hc
  have hafter := Write.byte?_perform hcheck
  have hread (d : ReadCall) (hd : ∀ t ∈ d.targets, validate i t.1 t.2 = .ok ()) :
      ∃ x, d.ask (c.toWrite.perform i) = .ok x ∧
        d.Reports (ByteMap.after (byte? i) c.toWrite) x := by
    rw [← hafter]
    refine d.ask_reports fun t ht => ?_
    rw [Write.validate_perform]
    exact hd t ht
  refine ⟨c.toWrite.perform i, ?_, i.areaSize_perform c.toWrite, hafter, ?_, hread⟩
  · rw [← c.apply_toWrite, Write.apply_eq, hcheck]
    rfl
  · intro p hp d hd
    have hvalid (t) (ht : t ∈ c.targets) : validate i t.1 t.2 = .ok () :=
      validate_of_validateWrite (hc t ht)
    have hpoint : (p.1, p.2.type.width) ∈ c.targets := by
      rw [WriteCall.targets, Write.targets_eq (byte? i)]
      exact List.mem_map_of_mem hp
    have htarget : d.targets = [(p.1, p.2.type.width)] := by
      rw [ReadCall.targets, hd]
      rfl
    have haccepted : ∀ t ∈ d.targets, validate i t.1 t.2 = .ok () := by
      rw [htarget]
      exact List.forall_mem_singleton.mpr (hvalid _ hpoint)
    obtain ⟨x, hx, hreports⟩ := hread d haccepted
    -- both the value written and the one read are what the bytes show
    have hwritten := Write.shows_after (byte? i) (fun t ht => (validate_eq_ok.mp (hvalid t ht)).bit)
      p hp
    rw [ReadCall.Reports, hd] at hreports
    obtain ⟨v, vs, ⟨htype, hshows⟩, hrest, hvalues⟩ := List.forall₂_cons_left_iff.mp hreports
    rw [List.forall₂_nil_left_iff.mp hrest, hshows.unique hwritten htype] at hvalues
    exact ⟨x, hx, hvalues⟩

/-- A word across the middle of a double word that is read after it. -/
theorem typed_access_exact_overlap :
    let i : Image := ⟨4, #v[0, 0, 0, 0], #v[0x11, 0x22, 0x33, 0x44], #v[0, 0, 0, 0]⟩
    let c : WriteCall := .writeWord ⟨.output, 1, 0⟩ 0xBEEF
    let d : ReadCall := .dword ⟨.output, 0, 0⟩
    (∀ t ∈ c.targets, validateWrite i t.1 t.2 = .ok ()) ∧
      (∀ t ∈ d.targets, validate i t.1 t.2 = .ok ()) ∧
      ByteMap.number (ByteMap.after (byte? i) c.toWrite) ⟨.output, 0, 0⟩ .dword = 0x44BEEF11 ∧
      ∃ j : Image, c.apply i = .ok j ∧
        ∃ x, d.ask j = .ok x ∧ d.Reports (ByteMap.after (byte? i) c.toWrite) x := by
  intro i c d
  have hc : ∀ t ∈ c.targets, validateWrite i t.1 t.2 = .ok () := by decide
  have hd : ∀ t ∈ d.targets, validate i t.1 t.2 = .ok () := by decide
  obtain ⟨j, hj, -, -, -, hreads⟩ := (typed_access_exact i).2 c hc
  exact ⟨hc, hd, by decide, j, hj, hreads d hd⟩

end FieldImage
