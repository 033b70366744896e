import FieldImage.Proofs.Modbus.Transfers
import Mathlib.Data.List.Pairwise

/-! The registers that a call of a backend touches. A call that passes its checks plans one round
trip for each run of neighbouring registers that it has a byte or a bit in, and touches no other
register; a call that fails its checks asks nothing of the device. -/

namespace FieldImage

open Register

/-- Ranges that have between them the numbers of a property and no others, in ascending order, with
a number missing between any two of them. -/
structure Covers (runs : List (Nat × Nat)) (p : Nat → Prop) : Prop where
  nonempty : ∀ r ∈ runs, r.1 < r.2
  apart : runs.Pairwise fun r s => r.2 < s.1
  mem_iff (n : Nat) : p n ↔ ∃ r ∈ runs, r.1 ≤ n ∧ n < r.2

/-- A register has a byte in it that is written. -/
def WriteCall.Touches (c : WriteCall) (n : Nat) : Prop :=
  ∃ t ∈ c.targets, ∃ k, t.1.offset ≤ k ∧ k < t.1.offset + t.2.toNat ∧ n = k / 2

namespace BackendCall

/-- Every address is served for writing, or the set has as many registers as the backend. -/
def Passes {κ : Type} (b : Backend κ) : BackendCall → Prop
  | write c => ∀ t ∈ c.targets, (Rules.field b.byteCount).Allows .write t.1 t.2
  | fill set => set.count = b.count

/-- The transfers that a call asks for if none is refused. -/
inductive Plans (count : Nat) : BackendCall → List Transfer → Prop
  | point (c : WriteCall) (r : Nat × Nat) (hpoint : ∀ as, c ≠ .setBits as)
      (h : Covers [r] c.Touches) : Plans count (.write c) (Transfer.roundTrip r)
  | bits (as : List Address) (runs : List (Nat × Nat))
      (h : Covers runs (WriteCall.setBits as).Touches) :
      Plans count (.write (.setBits as)) (runs.flatMap Transfer.roundTrip)
  | fill (set : RegisterSet) :
      Plans count (.fill set)
        [⟨Modbus.readHoldingCode, 0, count⟩, ⟨Modbus.readInputCode, 0, count⟩]

/-- What a call asks of the device, and what it counts. -/
inductive Footprint (b : Backend (Recorded Device)) (c : BackendCall) :
    List Transaction → Except Fault Unit × Backend (Recorded Device) → Prop
  | refused (f : Fault) (h : ¬c.Passes b) : Footprint b c [] (.error f, b)
  | asked {asked : List Transaction} {plan : List Transfer}
      {r : Except Fault Unit × Backend (Recorded Device)} (h : c.Passes b)
      (hplan : c.Plans b.count plan) (hlink : r.2.link = b.link.askAll asked)
      (hasked : asked.map Transaction.transfer = b.link.link.upToRefusal plan)
      (hresult : r.1 = plan.forM b.link.link.answer) (hcount : r.2.count = b.count)
      (htransactions : r.2.transactions = b.transactions + 1)
      (hfailures : r.2.failures = if r.1.isOk then b.failures else b.failures + 1) :
      Footprint b c asked r

end BackendCall

/-! ### Splices -/

namespace Recorded

variable {l : Recorded Device}

theorem length_of_readHolding {start : UInt16} {count : Nat} {t : Table}
    (h : (RegisterLink.readHolding l start count).1 = .ok t) : t.length = count := by
  have hread : (Device.checkWindow l.link.holding Modbus.readHoldingCode start count).map
      (fun _ => Device.window l.link.holding start count) = .ok t := h
  by_cases hroom : start.toNat + count ≤ l.link.holding.length
  · rw [Device.checkWindow, if_pos hroom] at hread
    rw [← Except.ok.inj hread]
    exact Device.length_window hroom
  · rw [Device.checkWindow, if_neg hroom] at hread
    cases hread

/-- A splice reads its registers and writes the same ones. -/
theorem asks_splice (l : Recorded Device) {start stop : Nat} (hstart : start < 65536)
    (hle : start ≤ stop) {edit : List UInt8 → List UInt8}
    (hedit : ∀ bytes, bytes.length = 2 * (stop - start) → (edit bytes).length = bytes.length) :
    Asks l (Transfer.roundTrip (start, stop)) (Backend.splice l start stop edit) := by
  have hfirst : (UInt16.ofNat start).toNat = start := UInt16.toNat_ofNat_of_lt' hstart
  have hlast : start + (stop - start) = stop := by omega
  have hread := l.asks_readHolding (UInt16.ofNat start) (stop - start)
  rw [hfirst, hlast] at hread
  rw [Backend.splice]
  cases hresult : RegisterLink.readHolding l (UInt16.ofNat start) (stop - start) with
  | mk r l' =>
    rw [hresult] at hread
    cases r with
    | error f => exact hread.stop
    | ok t =>
      have htable : t.length = stop - start := length_of_readHolding (congrArg Prod.fst hresult)
      have hbytes : (edit (toBytes t)).length = 2 * (stop - start) := by
        rw [hedit _ (by rw [length_toBytes, htable]), length_toBytes, htable]
      have hvalues : (ofBytes (edit (toBytes t))).length = stop - start := by
        have htwice := length_ofBytes (by omega : (edit (toBytes t)).length % 2 = 0)
        omega
      have hwrite := l'.asks_writeHolding (UInt16.ofNat start) (ofBytes (edit (toBytes t)))
      rw [hfirst, hvalues, hlast] at hwrite
      exact hread.next hwrite

theorem length_editRun (as : List Address) (start stop : Nat) (bytes : List UInt8) :
    (Backend.editRun as start stop bytes).length = bytes.length :=
  Edit.length_foldl_modify ..

theorem asks_spliceRuns (l : Recorded Device) (as : List Address) {runs : List (Nat × Nat)}
    (h : ∀ r ∈ runs, r.1 < 65536 ∧ r.1 ≤ r.2) :
    Asks l (runs.flatMap Transfer.roundTrip) (Backend.spliceRuns l as runs) := by
  induction runs generalizing l with
  | nil => exact l.asks_nil ()
  | cons r runs ih =>
    obtain ⟨⟨hstart, hle⟩, hruns⟩ := List.forall_mem_cons.mp h
    have hfirst := l.asks_splice hstart hle fun bytes _ => length_editRun as r.1 r.2 bytes
    rw [List.flatMap_cons, Backend.spliceRuns]
    cases hresult : Backend.splice l r.1 r.2 (Backend.editRun as r.1 r.2) with
    | mk x l' =>
      rw [hresult] at hfirst
      cases x with
      | error f => exact hfirst.stop
      | ok u => exact hfirst.next (ih l' hruns)

/-- A set is filled from the holding registers and then from the input registers. -/
theorem asks_fill (l : Recorded Device) (set : RegisterSet) :
    Asks l
      [⟨Modbus.readHoldingCode, 0, set.count⟩, ⟨Modbus.readInputCode, 0, set.count⟩]
      ((Backend.fill l set).1.1, (Backend.fill l set).2) := by
  have hzero : (0 : UInt16).toNat + set.count = set.count := Nat.zero_add _
  have hholding := l.asks_readHolding 0 set.count
  rw [hzero] at hholding
  rw [Backend.fill]
  cases hresult : RegisterLink.readHolding l 0 set.count with
  | mk r l' =>
    rw [hresult] at hholding
    cases r with
    | error f => exact hholding.stop
    | ok t =>
      have hinput := l'.asks_readInput 0 set.count
      rw [hzero] at hinput
      have hcount : (set.seed t []).count = set.count := rfl
      dsimp only
      rw [hcount]
      cases hresult' : RegisterLink.readInput l' 0 set.count with
      | mk r l'' =>
        rw [hresult'] at hinput
        cases r with
        | error f => exact hholding.next hinput.stop
        | ok t' => exact (hholding.next hinput).answer ()

end Recorded

/-! ### Calls -/

theorem covers_span {offset width : Nat} (h : 0 < width) :
    Covers [span offset width] fun n => ∃ k, offset ≤ k ∧ k < offset + width ∧ n = k / 2 := by
  have hmax : max width 1 = width := Nat.max_eq_left h
  have hspan : span offset width = (offset / 2, (offset + width - 1) / 2 + 1) := by
    rw [span, hmax]
  rw [hspan]
  refine ⟨?_, List.pairwise_singleton _ _, fun n => ?_⟩
  · exact List.forall_mem_singleton.mpr (by dsimp only; omega)
  · simp only [List.mem_singleton, exists_eq_left]
    constructor
    · rintro ⟨k, hfirst, hlast, rfl⟩
      omega
    · rintro ⟨hfirst, hlast⟩
      exact ⟨max offset (2 * n), by omega⟩

theorem covers_contiguousRuns (ns : List Nat) :
    Covers (Backend.contiguousRuns (Backend.ascending ns)) (· ∈ ns) where
  nonempty := Backend.contiguousRuns_nonempty _
  apart := Backend.pairwise_contiguousRuns (Backend.pairwise_ascending ns)
  mem_iff n := by
    rw [← Backend.mem_ascending, Backend.mem_iff_inRun]
    simp only [Backend.inRun_eq_true]

theorem Covers.congr {runs : List (Nat × Nat)} {p q : Nat → Prop} (h : Covers runs p)
    (hpq : ∀ n, q n ↔ p n) : Covers runs q :=
  ⟨h.nonempty, h.apart, fun n => (hpq n).trans (h.mem_iff n)⟩

theorem Covers.stop_not_mem {runs : List (Nat × Nat)} {p : Nat → Prop} (h : Covers runs p)
    {r : Nat × Nat} (hr : r ∈ runs) : ¬p r.2 := by
  intro hp
  obtain ⟨s, hs, hfirst, hlast⟩ := (h.mem_iff r.2).mp hp
  have hlt : r.1 < r.2 := h.nonempty r hr
  have hapart : runs.Pairwise fun r s => r.2 < s.1 ∨ s.2 < r.1 := h.apart.imp Or.inl
  have hne : r ≠ s := by
    rintro rfl
    omega
  have hsymm : Std.Symm fun r s : Nat × Nat => r.2 < s.1 ∨ s.2 < r.1 := ⟨fun _ _ => Or.symm⟩
  rcases hapart.forall hr hs hne with hgap | hgap <;> omega

/-- A bit is in the register of its byte. -/
theorem WriteCall.touches_setBits (as : List Address) (n : Nat) :
    (WriteCall.setBits as).Touches n ↔ n ∈ as.map fun a => a.offset / 2 := by
  have htargets : (WriteCall.setBits as).targets = as.map fun a => (a, 1) := rfl
  simp only [Touches, htargets, List.mem_map, exists_exists_and_eq_and]
  apply exists_congr
  intro a
  apply and_congr_right
  intro _
  constructor
  · rintro ⟨k, hfirst, hlast, rfl⟩
    have hwidth : (1 : UInt32).toNat = 1 := rfl
    omega
  · rintro rfl
    exact ⟨a.offset, Nat.le_refl _, Nat.lt_succ_self _, rfl⟩

theorem WriteCall.toWrite_eq_setBits {c : WriteCall} {as : List Address} :
    c.toWrite = .setBits as ↔ c = .setBits as := by
  cases c <;> simp [toWrite]

/-- Every write but a list of bits changes the bytes at one address, and keeps their number. -/
theorem Backend.write_point {κ : Type} [RegisterLink κ] (b : Backend κ) {w : Write}
    (h : ∀ as, w ≠ .setBits as) :
    ∃ a width edit, w.targets = [(a, width)] ∧ 0 < width.toNat ∧
      (∀ place bytes, place + width.toNat ≤ bytes.length →
        (edit place bytes).length = bytes.length) ∧
      b.write w = b.modify a width edit := by
  have hbyte (a : Address) (f : UInt8 → UInt8) (place : Nat) (bytes : List UInt8) :
      place + (1 : UInt32).toNat ≤ bytes.length → (bytes.modify place f).length = bytes.length :=
    fun _ => List.length_modify f bytes place
  have hput (bs : List UInt8) (place : Nat) (bytes : List UInt8)
      (hroom : place + (UInt32.ofNat bs.length).toNat ≤ bytes.length) (hlt : bs.length < 2 ^ 32) :
      (replaceAt place bs bytes).length = bytes.length := by
    rw [UInt32.toNat_ofNat_of_lt' hlt] at hroom
    rw [replaceAt]
    simp only [List.length_append, List.length_take, List.length_drop]
    omega
  cases w with
  | setBit a | resetBit a | invertBit a =>
    exact ⟨a, 1, _, rfl, by decide, hbyte a _, rfl⟩
  | setBits as => exact absurd rfl (h as)
  | value a v =>
    cases v with
    | bit v =>
      cases v with
      | true | false => exact ⟨a, 1, _, rfl, by decide, hbyte a _, rfl⟩
    | byte v | word v | dword v | int v | real v =>
      exact ⟨a, _, _, rfl, by simp [Bytes.ofWord, Bytes.ofReal],
        fun place bytes hroom => hput _ place bytes hroom (by simp [Bytes.ofWord, Bytes.ofReal]),
        rfl⟩

namespace BackendCall

variable {b : Backend (Recorded Device)} {c : WriteCall}

theorem passes_write {κ : Type} {b : Backend κ} {c : WriteCall} :
    (write c).Passes b ↔ b.check c.toWrite = .ok () := by
  rw [Backend.check, forM_eq_ok]
  apply forall₂_congr
  intro t _
  have hsame : ByteImage.validateWrite (RegisterSet.zero b.count) t.1 t.2 =
      Register.validate t.1 b.byteCount t.2 true := validateWrite_registerSet _ t.1 t.2
  rw [← hsame]
  exact (RuledImage.validateWrite_eq_ok (i := RegisterSet.zero b.count)).symm

theorem footprint_use {c : BackendCall} {plan : List Transfer} (h : c.Passes b)
    (hplan : c.Plans b.count plan) {f : Recorded Device → Except Fault Unit × Recorded Device}
    (hasks : Recorded.Asks b.link plan (f b.link)) :
    ∃ asked, Footprint b c asked (b.use f) := by
  obtain ⟨⟨asked, hlink, hasked⟩, hresult⟩ := hasks
  refine ⟨asked, .asked h hplan hlink hasked ?_ rfl rfl ?_⟩
  · rw [← hresult]
    exact (outcome_unit _).symm
  · rw [Backend.use]
    cases f b.link with
    | mk r l => cases r <;> rfl

theorem footprint_modify (hcount : b.count ≤ Backend.maxCount) {a : Address} {width : UInt32}
    (hpoint : ∀ as, c ≠ .setBits as) (htargets : c.targets = [(a, width)])
    (hwidth : 0 < width.toNat) {edit : Nat → List UInt8 → List UInt8}
    (hedit : ∀ place bytes, place + width.toNat ≤ bytes.length →
      (edit place bytes).length = bytes.length) :
    ∃ asked, Footprint b (.write c) asked (b.modify a width edit) := by
  have hcheck := b.check_point htargets
  rw [Backend.modify]
  cases hvalid : Register.validate a b.byteCount width true with
  | error f =>
    refine ⟨[], .refused f fun h => ?_⟩
    rw [passes_write, hcheck, hvalid] at h
    cases h
  | ok u =>
    have hpassed : b.check c.toWrite = .ok () := hcheck.trans hvalid
    have hbytes : a.offset + width.toNat ≤ 2 * b.count :=
      (Backend.targets_of_check hcount hpassed (a, width) (by
        show (a, width) ∈ c.targets
        rw [htargets]
        exact .head _)).2
    have hcovers : Covers [span a.offset width.toNat] c.Touches := by
      apply (covers_span hwidth).congr
      intro n
      simp only [WriteCall.Touches, htargets, List.mem_singleton, exists_eq_left]
    have hmax : max width.toNat 1 = width.toNat := Nat.max_eq_left hwidth
    have hstop : (span a.offset width.toNat).2 = (a.offset + width.toNat - 1) / 2 + 1 := by
      rw [span, hmax]
    have hstart : (span a.offset width.toNat).1 = a.offset / 2 := rfl
    rw [Backend.maxCount] at hcount
    refine footprint_use (passes_write.mpr hpassed) (.point c _ hpoint hcovers)
      (b.link.asks_splice (by omega) (by omega) fun bytes hlength => ?_)
    exact hedit _ _ (by omega)

theorem footprint_setBits (hcount : b.count ≤ Backend.maxCount) (as : List Address) :
    ∃ asked, Footprint b (.write (.setBits as)) asked (b.setBits as) := by
  have hcheck := b.check_setBits as
  rw [Backend.setBits]
  cases hvalid : as.forM fun a => Register.validate a b.byteCount 1 true with
  | error f =>
    refine ⟨[], .refused f fun h => ?_⟩
    have hpassed : b.check (.setBits as) = .ok () := passes_write.mp h
    rw [hcheck, hvalid] at hpassed
    cases hpassed
  | ok u =>
    have hpassed : b.check (.setBits as) = .ok () := hcheck.trans hvalid
    have hcovers := (covers_contiguousRuns (as.map fun a => a.offset / 2)).congr
      (WriteCall.touches_setBits as)
    refine footprint_use (passes_write.mpr hpassed) (.bits as _ hcovers)
      (b.link.asks_spliceRuns as fun r hr => ?_)
    have hlt : r.1 < r.2 := hcovers.nonempty r hr
    -- the first register of a run is under some address
    obtain ⟨a, ha, heq⟩ := List.mem_map.mp ((WriteCall.touches_setBits as r.1).mp
      ((hcovers.mem_iff r.1).mpr ⟨r, hr, Nat.le_refl _, hlt⟩))
    have hlast : a.offset < 2 * b.count := (Backend.within_of_check hcount hpassed a ha).2
    rw [Backend.maxCount] at hcount
    omega

theorem footprint_write (hcount : b.count ≤ Backend.maxCount) (c : WriteCall) :
    ∃ asked, Footprint b (.write c) asked (c.onBackend b) := by
  by_cases hbits : ∃ as, c = .setBits as
  · obtain ⟨as, rfl⟩ := hbits
    exact footprint_setBits hcount as
  · have hpoint : ∀ as, c ≠ .setBits as := not_exists.mp hbits
    obtain ⟨a, width, edit, htargets, hwidth, hedit, hwrite⟩ :=
      b.write_point fun as h => hpoint as (WriteCall.toWrite_eq_setBits.mp h)
    rw [WriteCall.onBackend_toWrite, hwrite]
    exact footprint_modify hcount hpoint htargets hwidth hedit

theorem footprint_fill (b : Backend (Recorded Device)) (set : RegisterSet) :
    ∃ asked, Footprint b (.fill set) asked ((fill set).run b) := by
  rw [run, Backend.readRegisters]
  by_cases hcount : set.count = b.count
  · rw [if_pos hcount]
    have hplan : (fill set).Plans b.count
        [⟨Modbus.readHoldingCode, 0, set.count⟩, ⟨Modbus.readInputCode, 0, set.count⟩] := by
      rw [hcount]
      exact .fill set
    exact footprint_use (c := fill set) hcount hplan
      (f := fun _ => ((Backend.fill b.link set).1.1, (Backend.fill b.link set).2))
      (b.link.asks_fill set)
  · rw [if_neg hcount]
    exact ⟨[], .refused _ hcount⟩

theorem footprint_run {b : Backend (Recorded Device)} (hcount : b.count ≤ Backend.maxCount)
    (c : BackendCall) : ∃ asked, Footprint b c asked (c.run b) := by
  cases c with
  | write c => exact footprint_write hcount c
  | fill set => exact footprint_fill b set

namespace Footprint

variable {c : BackendCall} {asked : List Transaction}
  {r : Except Fault Unit × Backend (Recorded Device)}

theorem link (h : Footprint b c asked r) : r.2.link = b.link.askAll asked := by
  cases h with
  | refused f h => rfl
  | asked h hplan hlink => exact hlink

theorem count (h : Footprint b c asked r) : r.2.count = b.count := by
  cases h with
  | refused f h => rfl
  | asked h hplan hlink hasked hresult hcount => exact hcount

end Footprint

/-- A call leaves as many registers as there were, and a log that is the end of the history. -/
theorem runAll_keeps {b : Backend (Recorded Device)} (hcount : b.count ≤ Backend.maxCount)
    (hlogs : b.link.link.Logs b.link.history) (cs : List BackendCall) :
    (runAll b cs).count ≤ Backend.maxCount ∧
      (runAll b cs).link.link.Logs (runAll b cs).link.history := by
  induction cs generalizing b with
  | nil => exact ⟨hcount, hlogs⟩
  | cons c cs ih =>
    obtain ⟨asked, h⟩ := footprint_run hcount c
    apply ih (b := (c.run b).2)
    · rwa [h.count]
    · rw [h.link]
      exact Recorded.logs_askAll hlogs asked

end BackendCall

/-- A backend with a history that begins with the log of its device. -/
def Backend.recorded (b : Backend Device) : Backend (Recorded Device) :=
  b.mapLink fun d => ⟨d, d.log⟩

namespace BackendCall

/-- After any calls, the next one adds to the history what its footprint says, and no more: the
round trips of the registers that it writes to, run by run, or the reads of both tables, up to the
first transfer that the device refuses, and nothing when its checks fail. A backend without the
history ends in the same state with the same result, and the log of its device is the end of the
history. -/
theorem footprint_exact (b : Backend Device) (hcount : b.count ≤ Backend.maxCount)
    (hlog : b.link.log.length ≤ Device.logCapacity) (cs : List BackendCall) (c : BackendCall) :
    let s := runAll b.recorded cs
    (∃ asked, (c.run s).2.link.history = s.link.history ++ asked ∧
      Footprint s c asked (c.run s)) ∧
    runAll b cs = s.mapLink Recorded.link ∧ (c.run (runAll b cs)).1 = (c.run s).1 ∧
    (runAll b cs).link.Logs s.link.history := by
  intro s
  have hplain : b = b.recorded.mapLink Recorded.link := rfl
  have hlogs : b.recorded.link.link.Logs b.recorded.link.history := by
    have hnone : b.link.log.length - Device.logCapacity = 0 := by omega
    show b.link.log = b.link.log.rtake Device.logCapacity
    rw [List.rtake, hnone, List.drop_zero]
  obtain ⟨hcount', hlogs'⟩ := runAll_keeps (b := b.recorded) hcount hlogs cs
  obtain ⟨asked, hfootprint⟩ := footprint_run hcount' c
  have hrun : runAll b cs = s.mapLink Recorded.link := by
    rw [hplain]
    exact Recorded.linkMap.runAll b.recorded cs
  refine ⟨⟨asked, ?_, hfootprint⟩, hrun, ?_, ?_⟩
  · rw [hfootprint.link, Recorded.history_askAll]
  · rw [hrun, Recorded.linkMap.run]
    rfl
  · rw [hrun]
    exact hlogs'

/-- Six registers are expected and four are there: the bits in the first two are set in one round
trip, and the read of the fifth is refused. -/
theorem footprint_exact_shortDevice :
    let b : Backend Device := ⟨.new [1, 2, 3, 4] [], 6, "memory", 0, 0⟩
    let c : BackendCall := .write (.setBits
      [⟨.output, 9, 0⟩, ⟨.output, 2, 3⟩, ⟨.output, 0, 7⟩, ⟨.output, 2, 3⟩])
    let s := runAll b.recorded [.write (.writeDWord ⟨.output, 3, 0⟩ 0), .fill (.zero 5)]
    (b.count ≤ Backend.maxCount ∧ b.link.log.length ≤ Device.logCapacity) ∧
      s.link.history = [.readHolding 1 3, .writeHolding 1 [2, 0, 0]] ∧
      Footprint s c [.readHolding 0 2, .writeHolding 0 [0x81, 0x0A], .readHolding 4 1] (c.run s) := by
  intro b c s
  refine ⟨by decide, by decide, ?_⟩
  obtain ⟨asked, hhistory, hfootprint⟩ := (footprint_exact b (by decide) (by decide)
    [.write (.writeDWord ⟨.output, 3, 0⟩ 0), .fill (.zero 5)] c).1
  have hasked : asked = [.readHolding 0 2, .writeHolding 0 [0x81, 0x0A], .readHolding 4 1] :=
    List.append_cancel_left (hhistory.symm.trans (by decide))
  rw [hasked] at hfootprint
  exact hfootprint

end BackendCall

end FieldImage
