import FieldImage.Proofs.Image.Encoding
import FieldImage.Proofs.Modbus.Footprint

/-! Writes that end in an error. One whose addresses are refused asks nothing of the device, and one
that the device refuses at its first run of registers has written nothing. But what a list of bits
has written is not taken back: when the device refuses a later run, the bits in the runs before it
are set. These are the runs that end within the device. -/

namespace FieldImage

open Register

/-- Behind the register of an address, before or right behind the first `n` registers, is a place
that is no register of the list. So the run of the address ends within the `n` registers. -/
def Address.EndsWithin (n : Nat) (as : List Address) (a : Address) : Prop :=
  ∃ stop, a.offset / 2 < stop ∧ stop ≤ n ∧ ∀ x ∈ as, x.offset / 2 ≠ stop

namespace Device

/-- A device with some more bits of its holding registers set. -/
structure BitsSet (more : Nat → Nat → Prop) (d d' : Device) : Prop where
  input : d'.input = d.input
  length : d'.holding.length = d.holding.length
  hasBit (k p : Nat) : Bytes.hasBit (toBytes d'.holding) k p = true ↔
    Bytes.hasBit (toBytes d.holding) k p = true ∨ more k p

theorem BitsSet.unchanged_iff {more : Nat → Nat → Prop} {d d' : Device} (h : BitsSet more d d') :
    d'.holding = d.holding ↔ ∀ k p, more k p → Bytes.hasBit (toBytes d.holding) k p = true := by
  constructor
  · intro hsame k p hmore
    rw [← hsame]
    exact (h.hasBit k p).mpr (.inr hmore)
  · intro hset
    rw [← toBytes_inj]
    apply Bytes.eq_of_hasBit
    · rw [length_toBytes, length_toBytes, h.length]
    · intro k p
      rw [Bool.eq_iff_iff, h.hasBit k p, or_iff_left_of_imp (hset k p)]

end Device

namespace Backend

variable {d d' : Device}

/-- The runs that end within a table come before those that do not. -/
theorem split_fitting {runs : List (Nat × Nat)} (hnonempty : ∀ r ∈ runs, r.1 < r.2)
    (hapart : runs.Pairwise fun r s => r.2 < s.1) (n : Nat) :
    ∃ fit rest, runs = fit ++ rest ∧ (∀ r ∈ fit, r.2 ≤ n) ∧ ∀ r ∈ rest, n < r.2 := by
  induction runs with
  | nil => exact ⟨[], [], rfl, List.forall_mem_nil _, List.forall_mem_nil _⟩
  | cons r runs ih =>
    obtain ⟨_, hnonempty⟩ := List.forall_mem_cons.mp hnonempty
    obtain ⟨hr, hapart⟩ := List.pairwise_cons.mp hapart
    by_cases hfits : r.2 ≤ n
    · obtain ⟨fit, rest, hsplit, hfit, hrest⟩ := ih hnonempty hapart
      exact ⟨r :: fit, rest, congrArg _ hsplit, List.forall_mem_cons.mpr ⟨hfits, hfit⟩, hrest⟩
    · have hbeyond : n < r.2 := Nat.lt_of_not_le hfits
      refine ⟨[], r :: runs, rfl, List.forall_mem_nil _,
        List.forall_mem_cons.mpr ⟨hbeyond, fun s hs => ?_⟩⟩
      have hgap : r.2 < s.1 := hr s hs
      have hlt : s.1 < s.2 := hnonempty s hs
      omega

theorem refused_of_checkWindow {t : Table} {function : UInt8} {first : UInt16} {count : Nat}
    {f : Fault} (h : Device.checkWindow t function first count = .error f) :
    f = .transport (.exception function Modbus.illegalDataAddress) := by
  rw [Device.checkWindow] at h
  split at h
  · cases h
  · exact (Except.error.inj h).symm

/-- A splice that fails was refused by the device, and has left its tables alone. -/
theorem splice_error {start stop : Nat} {edit : List UInt8 → List UInt8} {f : Fault}
    (h : splice d start stop edit = (.error f, d')) :
    (∃ function, f = .transport (.exception function Modbus.illegalDataAddress)) ∧
      d'.holding = d.holding ∧ d'.input = d.input := by
  let first := UInt16.ofNat start
  have hread : RegisterLink.readHolding d first (stop - start) =
      ((Device.checkWindow d.holding Modbus.readHoldingCode first (stop - start)).map fun _ =>
        Device.window d.holding first (stop - start),
        d.record (.readHolding first (stop - start))) := rfl
  rw [splice, hread] at h
  cases hcheck : Device.checkWindow d.holding Modbus.readHoldingCode first (stop - start) with
  | error e =>
    rw [hcheck] at h
    obtain ⟨⟨rfl⟩, rfl⟩ := Prod.mk.inj h
    exact ⟨⟨_, refused_of_checkWindow hcheck⟩, rfl, rfl⟩
  | ok u =>
    rw [hcheck] at h
    let values := ofBytes (edit (toBytes (Device.window d.holding first (stop - start))))
    have hwrite : (d.record (.readHolding first (stop - start))).writeHolding first values =
        (.error f, d') := h
    rw [Device.writeHolding] at hwrite
    split at hwrite
    · cases hwrite
    · rename_i hrefused
      obtain ⟨⟨rfl⟩, rfl⟩ := Prod.mk.inj hwrite
      exact ⟨⟨_, refused_of_checkWindow hrefused⟩, rfl, rfl⟩

theorem splice_beyond {start stop : Nat} (hstart : start < 65536) (hle : start ≤ stop)
    (h : d.holding.length < stop) (edit : List UInt8 → List UInt8) :
    ∃ f d', splice d start stop edit = (.error f, d') := by
  let first := UInt16.ofNat start
  have hfirst : first.toNat = start := UInt16.toNat_ofNat_of_lt' hstart
  have hout : ¬first.toNat + (stop - start) ≤ d.holding.length := by omega
  have hread : RegisterLink.readHolding d first (stop - start) =
      (.error (.transport (.exception Modbus.readHoldingCode Modbus.illegalDataAddress)),
        d.record (.readHolding first (stop - start))) := by
    show ((Device.checkWindow d.holding _ _ _).map _, _) = _
    rw [Device.checkWindow, if_neg hout]
    rfl
  rw [splice, hread]
  exact ⟨_, _, rfl⟩

theorem spliceRuns_append (as : List Address) {runs : List (Nat × Nat)} (runs' : List (Nat × Nat))
    (h : spliceRuns d as runs = (.ok (), d')) :
    spliceRuns d as (runs ++ runs') = spliceRuns d' as runs' := by
  induction runs generalizing d with
  | nil =>
    cases h
    rfl
  | cons r runs ih =>
    rw [spliceRuns] at h
    rw [List.cons_append, spliceRuns]
    cases hfirst : splice d r.1 r.2 (editRun as r.1 r.2) with
    | mk x d₁ =>
      rw [hfirst] at h
      cases x with
      | error f => cases h
      | ok u => exact ih h

theorem spliceRuns_error {as : List Address} {runs : List (Nat × Nat)} {f : Fault}
    (h : (spliceRuns d as runs).1 = .error f) :
    ∃ function, f = .transport (.exception function Modbus.illegalDataAddress) := by
  induction runs generalizing d with
  | nil => cases h
  | cons r runs ih =>
    rw [spliceRuns] at h
    cases hfirst : splice d r.1 r.2 (editRun as r.1 r.2) with
    | mk x d₁ =>
      rw [hfirst] at h
      cases x with
      | error e =>
        cases h
        exact (splice_error hfirst).1
      | ok u => exact ih h

/-- The runs that end within the device are written, and no other one is. -/
theorem spliceRuns_fitting (d : Device) (as : List Address) {runs : List (Nat × Nat)}
    (hruns : ∀ r ∈ runs, r.1 < 65536 ∧ r.1 < r.2)
    (hapart : runs.Pairwise fun r s => r.2 < s.1) :
    ∃ fit rest, runs = fit ++ rest ∧ (∀ r ∈ fit, r.2 ≤ d.holding.length) ∧
      (∀ r ∈ rest, d.holding.length < r.2) ∧
      d.ChangedBy ((fit.flatMap fun r => as.filter fun a => inRun r (a.offset / 2)).foldl
        fun bytes a => bytes.modify a.offset (· ||| a.mask)) (spliceRuns d as runs).2 := by
  obtain ⟨fit, rest, rfl, hfit, hrest⟩ :=
    split_fitting (fun r hr => (hruns r hr).2) hapart d.holding.length
  have hwithin : ∀ r ∈ fit, r.1 < 65536 ∧ r.1 ≤ r.2 ∧ r.2 ≤ d.holding.length := fun r hr =>
    have hr' := hruns r (List.mem_append_left _ hr)
    ⟨hr'.1, Nat.le_of_lt hr'.2, hfit r hr⟩
  obtain ⟨d₁, hfirst, hchanged⟩ := spliceRuns_edit as hwithin
  refine ⟨fit, rest, rfl, hfit, hrest, ?_⟩
  rw [spliceRuns_append as rest hfirst]
  cases rest with
  | nil => exact hchanged
  | cons r rest =>
    obtain ⟨hstart, hlt⟩ := hruns r (List.mem_append_right _ (.head _))
    have hkept : d₁.holding.length = d.holding.length :=
      hchanged.length_holding (Edit.length_foldl_modify ..)
    have hbeyond : d₁.holding.length < r.2 := by
      rw [hkept]
      exact hrest r (.head _)
    obtain ⟨f, d₂, hsplice⟩ :=
      splice_beyond hstart (Nat.le_of_lt hlt) hbeyond (editRun as r.1 r.2)
    obtain ⟨-, hholding, hinput⟩ := splice_error hsplice
    rw [spliceRuns, hsplice]
    refine ⟨hinput.trans hchanged.input, ?_⟩
    rw [hholding]
    exact hchanged.holding

theorem bitsSet_spliceRuns (d : Device) {as : List Address} {runs : List (Nat × Nat)}
    (hcovers : Covers runs fun n => ∃ a ∈ as, a.offset / 2 = n)
    (hplace : ∀ a ∈ as, a.offset / 2 < 65536) (hbit : ∀ a ∈ as, a.bit.toNat ≤ 7) :
    d.BitsSet (fun k p => ∃ a ∈ as, a.EndsWithin d.holding.length as ∧ a.offset = k ∧
      a.bit.toNat = p) (spliceRuns d as runs).2 := by
  have hruns : ∀ r ∈ runs, r.1 < 65536 ∧ r.1 < r.2 := by
    intro r hr
    have hlt := hcovers.nonempty r hr
    obtain ⟨a, ha, hfirst⟩ := (hcovers.mem_iff r.1).mpr ⟨r, hr, Nat.le_refl _, hlt⟩
    exact ⟨hfirst ▸ hplace a ha, hlt⟩
  obtain ⟨fit, rest, rfl, hfit, hrest, hchanged⟩ := spliceRuns_fitting d as hruns hcovers.apart
  have hfitApart := (List.pairwise_append.mp hcovers.apart).1
  let written := as.filter fun a => fit.any fun r => inRun r (a.offset / 2)
  have hbytes : toBytes (spliceRuns d as (fit ++ rest)).2.holding =
      written.foldl (fun bytes a => bytes.modify a.offset (· ||| a.mask)) (toBytes d.holding) := by
    rw [hchanged.holding]
    exact foldl_setBit_perm (perm_gather as (fun a => a.offset / 2) hfitApart) _
  have hmem (a : Address) : a ∈ written ↔ a ∈ as ∧ a.EndsWithin d.holding.length as := by
    rw [List.mem_filter, List.any_eq_true]
    apply and_congr_right
    intro ha
    constructor
    · rintro ⟨r, hr, hin⟩
      have hstop := hcovers.stop_not_mem (List.mem_append_left rest hr)
      exact ⟨r.2, (inRun_eq_true.mp hin).2, hfit r hr, fun x hx heq => hstop ⟨x, hx, heq⟩⟩
    · rintro ⟨stop, hafter, hle, hout⟩
      obtain ⟨r, hr, hfirst, hlast⟩ := (hcovers.mem_iff _).mp ⟨a, ha, rfl⟩
      -- the run of the address ends before the place that no address is in
      have hends : r.2 ≤ stop := by
        by_contra hbeyond
        obtain ⟨x, hx, heq⟩ := (hcovers.mem_iff stop).mpr ⟨r, hr, by omega, by omega⟩
        exact hout x hx heq
      rcases List.mem_append.mp hr with hr | hr
      · exact ⟨r, hr, inRun_eq_true.mpr ⟨hfirst, hlast⟩⟩
      · have hbeyond := hrest r hr
        omega
  refine ⟨hchanged.input, hchanged.length_holding (Edit.length_foldl_modify ..), fun k p => ?_⟩
  rw [hbytes, Bytes.hasBit_setBits]
  · simp only [hmem, and_assoc]
  · intro a ha
    obtain ⟨has, stop, hafter, hle, -⟩ := (hmem a).mp ha
    rw [length_toBytes]
    exact ⟨by omega, hbit a has⟩

/-- How a write that fails leaves a backend. -/
inductive FailedWrite (b : Backend Device) (c : WriteCall) : Fault → Backend Device → Prop
  | unasked {f : Fault} (h : b.check c.toWrite = .error f) : FailedWrite b c f b
  | refused {b' : Backend Device} (function : UInt8) (h : b.check c.toWrite = .ok ())
      (hpoint : ∀ as, c ≠ .setBits as) (hholding : b'.link.holding = b.link.holding)
      (hinput : b'.link.input = b.link.input) :
      FailedWrite b c (.transport (.exception function Modbus.illegalDataAddress)) b'
  | halfway {b' : Backend Device} (function : UInt8) (h : b.check c.toWrite = .ok ())
      (as : List Address) (hbits : c = .setBits as)
      (hset : b.link.BitsSet (fun k p => ∃ a ∈ as, a.EndsWithin b.link.holding.length as ∧
        a.offset = k ∧ a.bit.toNat = p) b'.link) :
      FailedWrite b c (.transport (.exception function Modbus.illegalDataAddress)) b'

variable {b : Backend Device} {c : WriteCall} {f : Fault}

theorem bit_of_check {κ : Type} {b : Backend κ} {w : Write} (h : b.check w = .ok ()) :
    ∀ t ∈ w.targets, t.1.bit.toNat ≤ 7 := by
  intro t ht
  obtain ⟨⟨⟩, hbit, -⟩ := bind_eq_ok.mp (forM_eq_ok.mp h t ht)
  rw [RuledImage.checkBit_eq] at hbit
  split at hbit
  · cases hbit
  · omega

theorem failed_modify {a : Address} {width : UInt32} {edit : Nat → List UInt8 → List UInt8}
    (hpoint : ∀ as, c ≠ .setBits as) (htargets : c.toWrite.targets = [(a, width)])
    (h : (b.modify a width edit).1 = .error f) :
    FailedWrite b c f (b.modify a width edit).2 := by
  have hcheck := b.check_point htargets
  rw [modify] at h ⊢
  cases hvalid : Register.validate a b.byteCount width true with
  | error e =>
    rw [hvalid] at h
    cases h
    exact .unasked (hcheck.trans hvalid)
  | ok u =>
    rw [hvalid] at h
    let r := span a.offset width.toNat
    have hsplice : splice b.link r.1 r.2 (edit (a.offset - 2 * r.1)) =
        (.error f, (splice b.link r.1 r.2 (edit (a.offset - 2 * r.1))).2) :=
      Prod.ext h rfl
    obtain ⟨⟨function, rfl⟩, hholding, hinput⟩ := splice_error hsplice
    exact .refused function (hcheck.trans hvalid) hpoint hholding hinput

theorem failed_setBits (hcount : b.count ≤ maxCount) {as : List Address}
    (h : (b.setBits as).1 = .error f) : FailedWrite b (.setBits as) f (b.setBits as).2 := by
  have hcheck := b.check_setBits as
  rw [setBits] at h ⊢
  cases hvalid : as.forM fun a => Register.validate a b.byteCount 1 true with
  | error e =>
    rw [hvalid] at h
    cases h
    exact .unasked (hcheck.trans hvalid)
  | ok u =>
    rw [hvalid] at h
    have hpassed : b.check (.setBits as) = .ok () := hcheck.trans hvalid
    obtain ⟨function, rfl⟩ := spliceRuns_error h
    have hcovers := (covers_contiguousRuns (as.map fun a => a.offset / 2)).congr
      (q := fun n => ∃ a ∈ as, a.offset / 2 = n) fun n => List.mem_map.symm
    refine .halfway function hpassed as rfl (bitsSet_spliceRuns b.link hcovers ?_ ?_)
    · intro a ha
      have hlast : a.offset < 2 * b.count := (within_of_check hcount hpassed a ha).2
      rw [maxCount] at hcount
      omega
    · intro a ha
      exact bit_of_check hpassed (a, 1) (List.mem_map_of_mem ha)

theorem failed_write (hcount : b.count ≤ maxCount) (h : (c.onBackend b).1 = .error f) :
    FailedWrite b c f (c.onBackend b).2 := by
  by_cases hbits : ∃ as, c = .setBits as
  · obtain ⟨as, rfl⟩ := hbits
    exact failed_setBits hcount h
  · have hpoint : ∀ as, c ≠ .setBits as := not_exists.mp hbits
    obtain ⟨a, width, edit, htargets, -, -, hwrite⟩ :=
      b.write_point fun as h => hpoint as (WriteCall.toWrite_eq_setBits.mp h)
    rw [WriteCall.onBackend_toWrite, hwrite] at h ⊢
    exact failed_modify hpoint htargets h

namespace FailedWrite

variable {b' : Backend Device}

theorem input (h : FailedWrite b c f b') : b'.link.input = b.link.input := by
  cases h with
  | unasked hrefused => rfl
  | refused function hpassed hpoint hholding hinput => exact hinput
  | halfway function hpassed as hbits hset => exact hset.input

theorem unchanged_iff (h : FailedWrite b c f b') :
    b'.link.holding = b.link.holding ↔ ∀ as, c = .setBits as → b.check c.toWrite = .ok () →
      ∀ a ∈ as, a.EndsWithin b.link.holding.length as →
        Bytes.hasBit (toBytes b.link.holding) a.offset a.bit.toNat = true := by
  cases h with
  | unasked hrefused =>
    refine ⟨fun _ as _ hpassed => ?_, fun _ => rfl⟩
    rw [hrefused] at hpassed
    cases hpassed
  | refused function hpassed hpoint hholding hinput =>
    exact ⟨fun _ as has => absurd has (hpoint as), fun _ => hholding⟩
  | halfway function hpassed as hbits hset =>
    rw [hset.unchanged_iff]
    constructor
    · rintro hall as' has' - a ha hends
      obtain rfl : as = as' := WriteCall.setBits.inj (hbits.symm.trans has')
      exact hall _ _ ⟨a, ha, hends, rfl, rfl⟩
    · rintro hall k p ⟨a, ha, hends, rfl, rfl⟩
      exact hall as hbits hpassed a ha hends

end FailedWrite

/-- A write that fails was refused before the device was asked, and then nothing has changed, or it
was refused by the device. In that case a write of one point has changed no register, and a list of
bits has set the bits in the runs that end within the device and no others; it has changed nothing
exactly when these were set before. -/
theorem failed_write_exact (b : Backend Device) (hcount : b.count ≤ maxCount) (c : WriteCall)
    {f : Fault} (h : (c.onBackend b).1 = .error f) :
    let b' := (c.onBackend b).2
    FailedWrite b c f b' ∧ b'.link.input = b.link.input ∧
      (b'.link.holding = b.link.holding ↔ ∀ as, c = .setBits as → b.check c.toWrite = .ok () →
        ∀ a ∈ as, a.EndsWithin b.link.holding.length as →
          Bytes.hasBit (toBytes b.link.holding) a.offset a.bit.toNat = true) :=
  have hend := failed_write hcount h
  ⟨hend, hend.input, hend.unchanged_iff⟩

/-- Eight registers are expected and four are there: the runs of the first two registers and of the
fourth one are written, and the read of the seventh is refused. -/
theorem failed_write_exact_thirdRun :
    let b : Backend Device := ⟨.new [0, 2, 0, 0x8000] [], 8, "memory", 0, 0⟩
    let c : WriteCall :=
      .setBits [⟨.output, 13, 1⟩, ⟨.output, 3, 1⟩, ⟨.output, 0, 0⟩, ⟨.output, 6, 4⟩]
    let f : Fault :=
      .transport (.exception Modbus.readHoldingCode Modbus.illegalDataAddress)
    let b' := (c.onBackend b).2
    (b.count ≤ maxCount ∧ (c.onBackend b).1 = .error f) ∧
      b'.link.holding = [1, 0x0202, 0, 0x8010] ∧ FailedWrite b c f b' :=
  ⟨by decide, by decide, (failed_write_exact _ (by decide) _ (by decide)).1⟩

/-- Eight registers are expected and four are there: the bit in the first one is set, and the write
fails at the seventh. -/
theorem setBits_refused_halfway :
    let b : Backend Device := ⟨.new [0, 0, 0, 0] [0, 0, 0, 0], 8, "memory", 0, 0⟩
    let r := (WriteCall.setBits [⟨.output, 1, 0⟩, ⟨.output, 12, 0⟩]).onBackend b
    r.1 = .error (.transport (.exception Modbus.readHoldingCode Modbus.illegalDataAddress)) ∧
      r.2.link.holding = [0x0100, 0, 0, 0] ∧ r.2.link.holding ≠ b.link.holding := by
  decide

end Backend

end FieldImage
