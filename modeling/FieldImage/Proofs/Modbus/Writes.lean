import FieldImage.Proofs.Modbus.Runs
import FieldImage.Proofs.Modbus.Splice
import FieldImage.Proofs.Register.Image

/-! Every write on a device behind a backend does what the same write does on a register set with
the device's tables: it is refused for the same reason, or it changes the holding registers in the
same way and leaves all others alone. -/

namespace FieldImage

open ByteImage StoredImage Register

namespace Register

theorem window_of_validate {a : Address} {max width : UInt32} {write : Bool}
    (h : validate a max width write = .ok ()) : a.offset + width.toNat ≤ max.toNat := by
  obtain ⟨⟨⟩, -, h⟩ := bind_eq_ok.mp h
  obtain ⟨⟨⟩, -, h⟩ := bind_eq_ok.mp h
  obtain ⟨⟨⟩, hbyte, -⟩ := bind_eq_ok.mp h
  by_contra hout
  have hout : max.toNat < a.byte.toNat + width.toNat := Nat.lt_of_not_le hout
  simp [Address.checkByte, hout] at hbyte

theorem validate_write_eq_ok {a : Address} {max width : UInt32}
    (h : validate a max width true = .ok ()) :
    a.area = .output ∧ a.offset + width.toNat ≤ max.toNat := by
  refine ⟨?_, window_of_validate h⟩
  obtain ⟨⟨⟩, -, h⟩ := bind_eq_ok.mp h
  obtain ⟨⟨⟩, harea, h⟩ := bind_eq_ok.mp h
  obtain ⟨⟨⟩, -, hwritable⟩ := bind_eq_ok.mp h
  cases harea' : a.area with
  | input => simp [checkWritable, harea'] at hwritable
  | output => rfl
  | memory => simp [checkArea, harea'] at harea

theorem validateWrite_registerSet (s : RegisterSet) (a : Address) (width : UInt32) :
    validateWrite s a width = validate a (byteCount s) width true := by
  show (a.checkBit >>= fun _ => checkArea a >>= fun _ => a.checkByte (byteCount s) width) >>=
    (fun _ => checkWritable a) = _
  rw [validate]
  cases a.checkBit with
  | error f => rfl
  | ok u => cases checkArea a <;> rfl

end Register

namespace Edit

theorem within_of_targets {e : Edit} (hcounted : e.Counted) {first last : Nat}
    (h : ∀ t ∈ e.targets, first ≤ t.1.offset ∧ t.1.offset + t.2.toNat ≤ last) :
    e.Within first last := by
  cases e with
  | change as f => exact fun a ha => h (a, 1) (List.mem_map_of_mem ha)
  | put a bs =>
    have hlast := h (a, UInt32.ofNat bs.length) (.head _)
    rwa [UInt32.toNat_ofNat_of_lt' hcounted] at hlast

end Edit

namespace Backend

/-- The checks of a write, before the device is asked. -/
def check {κ : Type} (b : Backend κ) (w : Write) : Except Fault Unit :=
  w.targets.forM fun t => Register.validate t.1 b.byteCount t.2 true

theorem check_point {κ : Type} (b : Backend κ) {w : Write} {a : Address} {width : UInt32}
    (htargets : w.targets = [(a, width)]) :
    b.check w = Register.validate a b.byteCount width true := by
  rw [check, htargets]
  exact forM_singleton _ (a, width)

theorem check_setBits {κ : Type} (b : Backend κ) (as : List Address) :
    b.check (.setBits as) = as.forM fun a => Register.validate a b.byteCount 1 true :=
  forM_map _ _ as

theorem toNat_byteCount {κ : Type} {b : Backend κ} (hcount : b.count ≤ maxCount) :
    b.byteCount.toNat = 2 * b.count := by
  have hsmall : 2 * b.count < 2 ^ 32 := by
    rw [maxCount] at hcount
    omega
  exact UInt32.toNat_ofNat_of_lt' hsmall

theorem targets_of_check {κ : Type} {b : Backend κ} (hcount : b.count ≤ maxCount) {w : Write}
    (h : b.check w = .ok ()) :
    ∀ t ∈ w.targets, t.1.area = .output ∧ t.1.offset + t.2.toNat ≤ 2 * b.count := by
  intro t ht
  rw [← toNat_byteCount hcount]
  exact validate_write_eq_ok (forM_eq_ok.mp h t ht)

theorem within_of_check {κ : Type} {b : Backend κ} (hcount : b.count ≤ maxCount) {w : Write}
    (h : b.check w = .ok ()) : w.edit.Within 0 (2 * b.count) :=
  Edit.within_of_targets w.counted_edit fun t ht =>
    ⟨Nat.zero_le _, (targets_of_check hcount h t ht).2⟩

theorem foldl_setBit_perm {as as' : List Address} (h : as.Perm as') (bytes : List UInt8) :
    as.foldl (fun bytes a => bytes.modify a.offset (· ||| a.mask)) bytes =
      as'.foldl (fun bytes a => bytes.modify a.offset (· ||| a.mask)) bytes := by
  -- two bits of one byte commute as they are or-ed to it, bits of two bytes as these are apart
  apply h.foldl_eq'
  intro x _ y _ bytes
  by_cases hxy : x.offset = y.offset
  · rw [hxy, List.modify_modify_eq, List.modify_modify_eq]
    congr 1
    funext b
    show b ||| x.mask ||| y.mask = b ||| y.mask ||| x.mask
    rw [UInt8.or_assoc, UInt8.or_assoc, UInt8.or_comm x.mask]
  · exact List.modify_modify_ne _ _ _ hxy

theorem spliceRuns_edit {d : Device} (as : List Address) {runs : List (Nat × Nat)}
    (h : ∀ r ∈ runs, r.1 < 65536 ∧ r.1 ≤ r.2 ∧ r.2 ≤ d.holding.length) :
    ∃ d', spliceRuns d as runs = (.ok (), d') ∧
      d.ChangedBy ((runs.flatMap fun r => as.filter fun a => inRun r (a.offset / 2)).foldl
        fun bytes a => bytes.modify a.offset (· ||| a.mask)) d' := by
  induction runs generalizing d with
  | nil => exact ⟨d, rfl, rfl, rfl⟩
  | cons r runs ih =>
    obtain ⟨start, stop⟩ := r
    obtain ⟨⟨hstart, hle, hstop⟩, hruns⟩ := List.forall_mem_cons.mp h
    let e : Edit := .change (as.filter fun a => inRun (start, stop) (a.offset / 2)) fun a b =>
      b ||| a.mask
    have hwithin : e.Within (2 * start) (2 * stop) := by
      intro a ha
      have hin := inRun_eq_true.mp (List.mem_filter.mp ha).2
      dsimp only at hin
      omega
    obtain ⟨d₁, hfirst, hchanged⟩ := splice_edit hstart hle hstop hwithin
    -- as many registers as before, so the other runs are still in the table
    have hkept : d₁.holding.length = d.holding.length := by
      apply hchanged.length_holding
      apply Edit.length_onBytes
      intro a ha
      obtain ⟨_, hlast⟩ := hwithin a ha
      rw [length_toBytes]
      omega
    obtain ⟨d₂, hrest, hchanged'⟩ := ih (d := d₁) (by rwa [hkept])
    have hedit : splice d start stop (editRun as start stop) = (.ok (), d₁) := hfirst
    refine ⟨d₂, ?_, hchanged'.input.trans hchanged.input, ?_⟩
    · rw [spliceRuns, hedit]
      exact hrest
    · rw [hchanged'.holding, hchanged.holding, List.flatMap_cons, List.foldl_append]
      rfl

/-- How a write on a device in memory ends. -/
inductive WriteEnd (b : Backend Device) (w : Write) :
    Except Fault Unit × Backend Device → Prop where
  | refused {f : Fault} (h : b.check w = .error f) : WriteEnd b w (.error f, b)
  | done {b' : Backend Device} (h : b.check w = .ok ()) (count : b'.count = b.count)
    (changed : b.link.ChangedBy (fun bytes => w.edit.onBytes 0 bytes) b'.link) :
    WriteEnd b w (.ok (), b')

variable {b : Backend Device}

theorem writeEnd_use {w : Write} {f : Device → Except Fault Unit × Device} {d : Device}
    (h : b.check w = .ok ()) (hrun : f b.link = (.ok (), d))
    (hchanged : b.link.ChangedBy (fun bytes => w.edit.onBytes 0 bytes) d) :
    WriteEnd b w (b.use f) := by
  rw [use, hrun]
  exact .done h rfl hchanged

/-- A change of neighbouring bytes takes one splice of the registers under them. -/
theorem writeEnd_modify (hcount : b.count ≤ maxCount) (hholding : b.count ≤ b.link.holding.length)
    {w : Write} {a : Address} {width : UInt32} (htargets : w.targets = [(a, width)])
    (hwidth : 0 < width.toNat) {edit : Nat → List UInt8 → List UInt8}
    (hedit : ∀ base bytes, edit (a.offset - base) bytes = w.edit.onBytes base bytes) :
    WriteEnd b w (b.modify a width edit) := by
  have hcheck := b.check_point htargets
  rw [modify]
  cases hvalid : Register.validate a b.byteCount width true with
  | error f => exact .refused (hcheck.trans hvalid)
  | ok u =>
    have hpassed : b.check w = .ok () := hcheck.trans hvalid
    have hbytes : a.offset + width.toNat ≤ 2 * b.count :=
      (targets_of_check hcount hpassed (a, width) (by rw [htargets]; exact .head _)).2
    -- the registers under the bytes may begin half a register before them and end half behind
    let start := (span a.offset width.toNat).1
    let stop := (span a.offset width.toNat).2
    have hstart : start = a.offset / 2 := rfl
    have hstop : stop = (a.offset + width.toNat - 1) / 2 + 1 := by
      have hmax : max width.toNat 1 = width.toNat := Nat.max_eq_left hwidth
      simp only [stop, span, hmax]
    have hspan : 2 * start ≤ a.offset ∧ a.offset + width.toNat ≤ 2 * stop := by omega
    have hwithin : w.edit.Within (2 * start) (2 * stop) := by
      apply Edit.within_of_targets w.counted_edit
      intro t ht
      rw [← Write.targets, htargets, List.mem_singleton] at ht
      rw [ht]
      exact hspan
    rw [maxCount] at hcount
    obtain ⟨d', hsplice, hchanged⟩ := splice_edit (d := b.link) (by omega : start < 65536)
      (by omega : start ≤ stop) (by omega) hwithin
    have hrun : splice b.link start stop (edit (a.offset - 2 * start)) = (.ok (), d') := by
      rw [← hsplice]
      congr 1
      funext bytes
      exact hedit _ _
    exact writeEnd_use hpassed hrun hchanged

theorem writeEnd_setBits (hcount : b.count ≤ maxCount)
    (hholding : b.count ≤ b.link.holding.length) (as : List Address) :
    WriteEnd b (.setBits as) (b.setBits as) := by
  have hcheck := b.check_setBits as
  rw [setBits]
  cases hvalid : as.forM fun a => Register.validate a b.byteCount 1 true with
  | error f => exact .refused (hcheck.trans hvalid)
  | ok u =>
    have hpassed : b.check (.setBits as) = .ok () := hcheck.trans hvalid
    have hlast : ∀ a ∈ as, 0 ≤ a.offset ∧ a.offset < 2 * b.count :=
      within_of_check hcount hpassed
    let runs := contiguousRuns (ascending (as.map fun a => a.offset / 2))
    have hruns : ∀ r ∈ runs, r.1 < 65536 ∧ r.1 ≤ r.2 ∧ r.2 ≤ b.link.holding.length := by
      intro r hr
      have hlt : r.1 < r.2 := contiguousRuns_nonempty _ r hr
      -- the last register of a run is under some address
      have hmem : r.2 - 1 ∈ ascending (as.map fun a => a.offset / 2) :=
        mem_iff_inRun.mpr ⟨r, hr, inRun_eq_true.mpr (by omega)⟩
      obtain ⟨a, ha, heq⟩ := List.mem_map.mp (mem_ascending.mp hmem)
      have hoffset := (hlast a ha).2
      rw [maxCount] at hcount
      omega
    obtain ⟨d', hsplices, hchanged⟩ := spliceRuns_edit as hruns
    refine writeEnd_use hpassed hsplices ⟨hchanged.input, ?_⟩
    rw [hchanged.holding]
    exact foldl_setBit_perm (perm_gather_ascending as fun a => a.offset / 2) _

theorem writeEnd (hcount : b.count ≤ maxCount) (hholding : b.count ≤ b.link.holding.length)
    (w : Write) : WriteEnd b w (b.write w) := by
  have hone {w : Write} {a : Address} {f : UInt8 → UInt8} (htargets : w.targets = [(a, 1)])
      (hedit : ∀ base bytes, bytes.modify (a.offset - base) f = w.edit.onBytes base bytes) :
      WriteEnd b w (b.changeByte a f) :=
    writeEnd_modify hcount hholding htargets (by decide) hedit
  have hput {w : Write} {a : Address} {bs : List UInt8} (hw : w.edit = .put a bs)
      (hwidth : 0 < (UInt32.ofNat bs.length).toNat) : WriteEnd b w (b.writeBytes a bs) := by
    apply writeEnd_modify hcount hholding (by rw [Write.targets, hw]; rfl) hwidth
    intro base bytes
    rw [hw]
    rfl
  cases w with
  | setBit a | resetBit a | invertBit a => exact hone rfl fun _ _ => rfl
  | setBits as => exact writeEnd_setBits hcount hholding as
  | value a v =>
    cases v with
    | bit v =>
      cases v with
      | true | false => exact hone rfl fun _ _ => rfl
    | byte v | word v | dword v | int v | real v =>
      exact hput rfl (by simp [Bytes.ofWord, Bytes.ofReal])

/-- The first registers of a device that was changed are changed as they would be alone, and the
others stay. -/
theorem changed_split {d d' : Device} {n : Nat} {e : Edit} (hn : n ≤ d.holding.length)
    (h : d.ChangedBy (fun bytes => e.onBytes 0 bytes) d') (hwithin : e.Within 0 (2 * n)) :
    toBytes (d'.holding.take n) = e.onBytes 0 (toBytes (d.holding.take n)) ∧
      d'.holding.drop n = d.holding.drop n := by
  -- the first registers are a middle with nothing before it
  have hlength : (toBytes (d.holding.take n)).length = 2 * n := by
    rw [length_toBytes, List.length_take_of_le hn]
  rw [← hlength] at hwithin
  have hwithin' : e.Within ([] : List UInt8).length
      (([] : List UInt8).length + (toBytes (d.holding.take n)).length) := by
    rwa [List.length_nil, Nat.zero_add]
  have hkept := Edit.length_onBytes hwithin'
  have hchanged : toBytes d'.holding =
      e.onBytes 0 (toBytes (d.holding.take n)) ++ toBytes (d.holding.drop n) := by
    have hmiddle := Edit.onBytes_middle (b := toBytes (d.holding.drop n)) hwithin'
    rw [List.nil_append, ← toBytes_append, List.take_append_drop] at hmiddle
    rw [h.holding, hmiddle]
    rfl
  rw [hlength] at hkept
  constructor
  · rw [toBytes_take, hchanged, ← hkept]
    exact List.take_left
  · rw [← toBytes_inj, toBytes_drop, hchanged, ← hkept]
    exact List.drop_left

end Backend

namespace RegisterSet

/-- A register set filled with the tables of a device. -/
def ofTables (count : Nat) (holding input : Table) : RegisterSet := (zero count).seed holding input

theorem toList_overlay {n : Nat} (t : Vector UInt16 n) {items : Table} (h : n ≤ items.length) :
    (overlay t items).toList = items.take n := by
  apply List.ext_getElem
  · simp [h]
  · intro k hk _
    have hkn : k < n := by simpa using hk
    have hlt : k < items.length := by omega
    simp [overlay, hlt]

theorem holding_ofTables {count : Nat} {holding : Table} (h : count ≤ holding.length)
    (input : Table) : (ofTables count holding input).holding.toList = holding.take count :=
  toList_overlay _ h

end RegisterSet

def WriteCall.onBackend {κ : Type} [RegisterLink κ] (b : Backend κ) :
    WriteCall → Except Fault Unit × Backend κ
  | setBit a => b.setBit a
  | resetBit a => b.resetBit a
  | invertBit a => b.invertBit a
  | writeBit a v => b.writeBit a v
  | setBits as => b.setBits as
  | writeByte a v => b.writeByte a v
  | writeWord a v => b.writeWord a v
  | writeDWord a v => b.writeDWord a v
  | writeInt a v => b.writeInt a v
  | writeReal a v => b.writeReal a v
  | writeValue a v => b.writeValue a v

theorem WriteCall.onBackend_toWrite {κ : Type} [RegisterLink κ] (b : Backend κ) (c : WriteCall) :
    c.onBackend b = b.write c.toWrite := by
  cases c <;> rfl

namespace Backend

theorem writeEnd_call {b : Backend Device} (hcount : b.count ≤ maxCount)
    (hholding : b.count ≤ b.link.holding.length) (c : WriteCall) :
    WriteEnd b c.toWrite (c.onBackend b) := by
  rw [WriteCall.onBackend_toWrite]
  exact writeEnd hcount hholding c.toWrite

theorem WriteEnd.count_eq {b : Backend Device} {w : Write} {r : Except Fault Unit × Backend Device}
    (hend : WriteEnd b w r) : r.2.count = b.count := by
  cases hend with
  | refused h => rfl
  | done h count changed => exact count

/-- What a write that ended left is what it leaves on a register set with the device's tables. -/
theorem WriteEnd.registerSet {b : Backend Device} (hcount : b.count ≤ maxCount)
    (hholding : b.count ≤ b.link.holding.length) {c : WriteCall}
    {r : Except Fault Unit × Backend Device} (hend : WriteEnd b c.toWrite r) :
    let s := (Call.write c).run (RegisterSet.ofTables b.count b.link.holding b.link.input)
    (r.1.map fun _ => Answer.done) = s.1 ∧ r.2.link.holding.take b.count = s.2.holding.toList ∧
      r.2.link.holding.drop b.count = b.link.holding.drop b.count ∧
      r.2.link.input = b.link.input := by
  let s := RegisterSet.ofTables b.count b.link.holding b.link.input
  have htable : s.holding.toList = b.link.holding.take b.count :=
    RegisterSet.holding_ofTables hholding _
  have hcheck : c.toWrite.check s = b.check c.toWrite :=
    forM_congr fun t _ => validateWrite_registerSet s t.1 t.2
  rw [Call.run_write, hcheck]
  cases hend with
  | refused h =>
    rw [h]
    exact ⟨rfl, htable.symm, rfl, rfl⟩
  | done h _ changed =>
    rw [h]
    have hinside := within_of_check hcount h
    obtain ⟨hfirst, hrest⟩ := changed_split hholding changed hinside
    have harea : ∀ t ∈ c.toWrite.edit.targets, t.1.area = .output := fun t ht =>
      (targets_of_check hcount h t ht).1
    have hlength : (storage s .output).length = 2 * b.count :=
      (length_toBytes _).trans (congrArg _ Vector.length_toList)
    rw [← hlength] at hinside
    have hstored := Edit.storage_perform s .output harea hinside .output
    rw [if_pos rfl] at hstored
    have hsame : toBytes (c.toWrite.perform s).holding.toList = _ := hstored
    refine ⟨rfl, ?_, hrest, changed.input⟩
    rw [← toBytes_inj, hfirst, ← htable, hsame]
    rfl

/-- Every write on a device in memory does what it does on a register set with the device's tables,
and leaves the registers beyond that set alone. -/
theorem write_as_registerSet (b : Backend Device) (hcount : b.count ≤ maxCount)
    (hholding : b.count ≤ b.link.holding.length) (c : WriteCall) :
    let r := c.onBackend b
    let s := (Call.write c).run (RegisterSet.ofTables b.count b.link.holding b.link.input)
    (r.1.map fun _ => Answer.done) = s.1 ∧ r.2.link.holding.take b.count = s.2.holding.toList ∧
      r.2.link.holding.drop b.count = b.link.holding.drop b.count ∧
      r.2.link.input = b.link.input :=
  (writeEnd_call hcount hholding c).registerSet hcount hholding

/-- Bits in two runs of registers, one of them asked for twice, with a register behind the image. -/
theorem write_as_registerSet_runs :
    let b : Backend Device := ⟨.new [0x0100, 0x00FF, 0, 0x4000, 7] [1, 2], 4, "memory", 0, 0⟩
    let c : WriteCall :=
      .setBits [⟨.output, 7, 1⟩, ⟨.output, 0, 0⟩, ⟨.output, 7, 1⟩, ⟨.output, 1, 3⟩]
    let r := c.onBackend b
    let s := (Call.write c).run (RegisterSet.ofTables b.count b.link.holding b.link.input)
    (b.count ≤ maxCount ∧ b.count ≤ b.link.holding.length) ∧
      r.2.link.holding = [0x0901, 0x00FF, 0, 0x4200, 7] ∧
      (r.1.map fun _ => Answer.done) = s.1 ∧ r.2.link.holding.take b.count = s.2.holding.toList ∧
      r.2.link.holding.drop b.count = b.link.holding.drop b.count ∧
      r.2.link.input = b.link.input :=
  ⟨by decide, by decide, write_as_registerSet _ (by decide) (by decide) _⟩

end Backend

end FieldImage
