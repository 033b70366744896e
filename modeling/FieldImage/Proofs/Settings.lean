import FieldImage.Proofs.Host.Segments
import FieldImage.Proofs.Modbus.Writes
import FieldImage.Settings

/-! Settings that pass their check are good for what is made of them: a backend or a segment is not
refused for its size, and no number that is computed from a size gets lost in a word. -/

namespace FieldImage

/-! ### Registers -/

namespace Register

/-- The last register of a span lies behind a bound only if an empty window ends there. -/
theorem span_within {offset width count : Nat} (h : offset + width ≤ 2 * count) :
    (∀ n, (span offset width).1 ≤ n → n < (span offset width).2 → n < count) ↔
      0 < width ∨ offset < 2 * count := by
  rw [span]
  constructor
  · intro hin
    have hlast := hin ((offset + max width 1 - 1) / 2) (by dsimp only; omega) (Nat.lt_succ_self _)
    omega
  · intro hsome n hfirst hlast
    dsimp only at hlast
    omega

end Register

namespace Backend

variable {κ : Type}

theorem new_eq [RegisterLink κ] (link : κ) (n : Nat) : Backend.new link n =
    if 0 < n ∧ n ≤ maxCount then .ok ⟨link, n, RegisterLink.describe link, 0, 0⟩
    else .error (.config (.registerCount n maxCount)) := rfl

theorem toNat_register {start : Nat} (h : start ≤ maxCount) : (UInt16.ofNat start).toNat = start :=
  UInt16.toNat_ofNat_of_lt' (Nat.lt_succ_of_le h)

/-- The numbers of a backend are what they are counted as: its bytes, and the first register of each
read and write. -/
structure Counted (b : Backend κ) : Prop where
  byteCount : b.byteCount.toNat = 2 * b.count
  /-- The span of a checked window begins where it is said to, and ends by the last register,
  unless it is the span of no bytes right behind the last one. -/
  span : ∀ (a : Address) (width : UInt32) (write : Bool),
    Register.validate a b.byteCount width write = .ok () →
      (UInt16.ofNat (Register.span a.offset width.toNat).1).toNat =
        (Register.span a.offset width.toNat).1 ∧
      ((∀ n, (Register.span a.offset width.toNat).1 ≤ n →
        n < (Register.span a.offset width.toNat).2 → n < b.count) ↔
          0 < width ∨ a.offset < 2 * b.count)
  /-- So do the runs of checked addresses. -/
  runs : ∀ (as : List Address) (write : Bool),
    (∀ a ∈ as, Register.validate a b.byteCount 1 write = .ok ()) →
      ∀ r ∈ contiguousRuns (ascending (as.map fun a => a.offset / 2)),
        (UInt16.ofNat r.1).toNat = r.1 ∧ ∀ n, r.1 ≤ n → n < r.2 → n < b.count

theorem counted {b : Backend κ} (h : b.count ≤ maxCount) : Counted b where
  byteCount := toNat_byteCount h
  span a width write hvalid := by
    have hwindow := Register.window_of_validate hvalid
    rw [toNat_byteCount h] at hwindow
    refine ⟨toNat_register ?_, Register.span_within hwindow⟩
    show a.offset / 2 ≤ maxCount
    omega
  runs as write hvalid r hr := by
    have hin (n : Nat) (hfirst : r.1 ≤ n) (hlast : n < r.2) : n < b.count := by
      have hmem := mem_iff_inRun.mpr ⟨r, hr, inRun_eq_true.mpr ⟨hfirst, hlast⟩⟩
      obtain ⟨a, ha, rfl⟩ := List.mem_map.mp (mem_ascending.mp hmem)
      have hwindow := Register.window_of_validate (hvalid a ha)
      rw [toNat_byteCount h] at hwindow
      have hone : (1 : UInt32).toNat = 1 := rfl
      omega
    have hstart := hin r.1 (Nat.le_refl _) (contiguousRuns_nonempty _ r hr)
    exact ⟨toNat_register (Nat.le_of_lt (Nat.lt_of_lt_of_le hstart h)), hin⟩

end Backend

namespace Settings

variable {s : Settings} {n : Nat}

/-- No settings pass with this number of bytes per area. -/
def RefusesAreaSize (n : Nat) : Prop := ∀ s : Settings, s.shm.areaSize = n → s.validate ≠ .ok ()

/-- No settings pass with this number of registers. -/
def RefusesCount (n : Nat) : Prop :=
  ∀ s : Settings, s.modbus.registerCount = n → s.validate ≠ .ok ()

/-- The sizes that a segment and a device can have. -/
structure InRange (s : Settings) : Prop where
  areaSize : 0 < s.shm.areaSize ∧ s.shm.areaSize < UInt32.size
  registerCount : 0 < s.modbus.registerCount ∧ s.modbus.registerCount ≤ Backend.maxCount

/-- How the check of settings ends. -/
inductive CheckEnd (s : Settings) : Except Fault Unit → Prop where
  | areaSize (h : ¬(0 < s.shm.areaSize ∧ s.shm.areaSize < UInt32.size)) :
    CheckEnd s (.error (.config (.sharedAreaSize s.shm.areaSize maxAreaSize)))
  | registerCount (h : ¬(0 < s.modbus.registerCount ∧ s.modbus.registerCount ≤ Backend.maxCount)) :
    CheckEnd s (.error (.config (.modbusRegisterCount s.modbus.registerCount)))
  | zeroInterval (name : String) : CheckEnd s (.error (.config (.zeroInterval name)))
  | emptyHost : CheckEnd s (.error (.config .emptyHost))
  | passed (h : InRange s) : CheckEnd s (.ok ())

theorem checkEnd (s : Settings) : CheckEnd s s.validate := by
  have hmax : maxAreaSize = UInt32.size - 1 := rfl
  rw [validate]
  split
  · exact .areaSize (by omega)
  · split
    · exact .registerCount (by omega)
    · split
      · exact .zeroInterval _
      · split
        · exact .emptyHost
        · exact .passed ⟨by omega, by omega⟩

theorem inRange_of_validate (h : s.validate = .ok ()) : InRange s := by
  have hend := checkEnd s
  rw [h] at hend
  cases hend with
  | passed hrange => exact hrange

theorem refusesAreaSize_iff : RefusesAreaSize n ↔ ¬(0 < n ∧ n < UInt32.size) := by
  constructor
  · rintro hrefuses ⟨hpos, hlt⟩
    let s : Settings := { default "segment" with shm := ⟨"segment", n, 5000, 1000, 10⟩ }
    refine hrefuses s rfl ?_
    have hsize : ¬(n = 0 ∨ maxAreaSize < n) := by
      have hmax : maxAreaSize = UInt32.size - 1 := rfl
      omega
    rw [validate, if_neg hsize]
    rfl
  · rintro hout s rfl hvalid
    exact hout (inRange_of_validate hvalid).areaSize

theorem refusesCount_iff : RefusesCount n ↔ ¬(0 < n ∧ n ≤ Backend.maxCount) := by
  constructor
  · rintro hrefuses ⟨hpos, hle⟩
    let s : Settings := { default "segment" with
      modbus := { DeviceSettings.default with registerCount := n } }
    refine hrefuses s rfl ?_
    have hcount : ¬(n = 0 ∨ Backend.maxCount < n) := by omega
    have hsize : ¬(5000 = 0 ∨ maxAreaSize < 5000) := by decide
    exact (if_neg hsize).trans (if_neg hcount)
  · rintro hout s rfl hvalid
    exact hout (inRange_of_validate hvalid).registerCount

/-- What the layers below make of settings. -/
structure Fit (s : Settings) : Prop where
  /-- A backend of any link is made, and its numbers are right. -/
  backend : ∀ {κ : Type} [RegisterLink κ] (link : κ), ∃ b : Backend κ,
    Backend.new link s.modbus.registerCount = .ok b ∧ b.count = s.modbus.registerCount ∧ b.Counted
  byteWord : (2 * UInt64.ofNat s.modbus.registerCount).toUInt32.toNat = 2 * s.modbus.registerCount
  areaSize : Segment.checkAreaSize s.shm.areaSize = .ok ()
  /-- Whatever else is wrong with a segment that is made, its size is not. -/
  segment : ∀ (h : Host) (path : String) (c : ConfigFault),
    (h.createSegment path s.shm.areaSize).1 ≠ .error (.config c)
  areaWord : (UInt32.ofNat s.shm.areaSize).toNat = s.shm.areaSize
  segmentWord : (UInt64.ofNat Segment.Layout.dataOffset + 3 * UInt64.ofNat s.shm.areaSize).toNat =
    Segment.Layout.segmentSize s.shm.areaSize

theorem fit (hvalid : s.validate = .ok ()) : Fit s := by
  obtain ⟨harea, hcount⟩ := inRange_of_validate hvalid
  have hmax : Backend.maxCount = 65535 := rfl
  have hword : (UInt32.ofNat s.shm.areaSize).toNat = s.shm.areaSize :=
    UInt32.toNat_ofNat_of_lt' harea.2
  refine ⟨fun link => ?_, ?_, ?_, fun h path c hc => ?_, hword, ?_⟩
  · exact ⟨_, (Backend.new_eq link _).trans (if_pos hcount), rfl, Backend.counted hcount.2⟩
  · have hcounted : (UInt64.ofNat s.modbus.registerCount).toNat = s.modbus.registerCount :=
      UInt64.toNat_ofNat_of_lt' (by rw [UInt64.size]; omega)
    have htwo : (2 : UInt64).toNat = 2 := rfl
    rw [UInt64.toNat_toUInt32, UInt64.toNat_mul, hcounted, htwo]
    omega
  · rw [Host.checkAreaSize_eq, if_pos harea]
  · have hend := h.createEnd path s.shm.areaSize
    generalize h.createSegment path s.shm.areaSize = made at hc hend
    cases hend with
    | refused hn => exact hn harea
    | failed hn cause => cases hc
    | made hn hopen now => cases hc
  · have hwide : UInt64.ofNat s.shm.areaSize = (UInt32.ofNat s.shm.areaSize).toUInt64 := by
      have hlt : s.shm.areaSize < UInt64.size := Nat.lt_trans harea.2 (by decide)
      rw [← UInt64.toNat_inj, UInt32.toNat_toUInt64, hword, UInt64.toNat_ofNat_of_lt' hlt]
    rw [hwide]
    exact (Segment.toNat_wordSize _).trans (congrArg Segment.Layout.segmentSize hword)

/-- Settings that pass are fit for the layers below, and a size that no settings pass with is refused
there as well. -/
theorem validated_exactly :
    (∀ s : Settings, s.validate = .ok () → Fit s) ∧
    (∀ n : Nat, RefusesCount n → ∀ {κ : Type} [RegisterLink κ] (link : κ),
      Backend.new link n = .error (.config (.registerCount n Backend.maxCount))) ∧
    (∀ n : Nat, RefusesAreaSize n → ∀ (h : Host) (path : String),
      h.createSegment path n = (.error (.config (.areaSize n)), h)) ∧
    ∀ s : Settings,
      (s.validate = .error (.config (.modbusRegisterCount s.modbus.registerCount)) →
        RefusesCount s.modbus.registerCount) ∧
      (s.validate = .error (.config (.sharedAreaSize s.shm.areaSize maxAreaSize)) →
        RefusesAreaSize s.shm.areaSize) := by
  refine ⟨fun s => fit, fun n hn κ _ link => ?_, fun n hn h path => ?_, fun s => ⟨fun hs => ?_,
    fun hs => ?_⟩⟩
  · exact (Backend.new_eq link n).trans (if_neg (refusesCount_iff.mp hn))
  · have hend := h.createEnd path n
    have hout := refusesAreaSize_iff.mp hn
    generalize h.createSegment path n = made at hend ⊢
    cases hend with
    | refused hn => rfl
    | failed hn cause => exact absurd hn hout
    | made hn hopen now => exact absurd hn hout
  · have hend := checkEnd s
    rw [hs] at hend
    cases hend with
    | registerCount hout => exact refusesCount_iff.mpr hout
  · have hend := checkEnd s
    rw [hs] at hend
    cases hend with
    | areaSize hout => exact refusesAreaSize_iff.mpr hout

/-- With as many registers as there can be, three bytes at an odd place end with the last one; one
more register, or no byte at all, is refused. -/
theorem validated_exactly_atLimits :
    let s : Settings := { default "segment" with
      modbus := { DeviceSettings.default with registerCount := 65535 } }
    let a : Address := ⟨.output, 131067, 0⟩
    let d : Device := .new [] []
    s.validate = .ok () ∧ Register.span a.offset 3 = (65533, 65535) ∧
      (∃ b, Backend.new d 65535 = .ok b ∧ Register.validate a b.byteCount 3 true = .ok () ∧
        (UInt16.ofNat 65533).toNat = 65533 ∧ ∀ n, 65533 ≤ n → n < 65535 → n < b.count) ∧
      Backend.new d 65536 = .error (.config (.registerCount 65536 65535)) ∧
      Host.new.createSegment "segment" 0 = (.error (.config (.areaSize 0)), Host.new) := by
  intro s a d
  obtain ⟨hfit, hcounts, hareas, hnamed⟩ := validated_exactly
  have hvalid : s.validate = .ok () := rfl
  have hmany : RefusesCount 65536 :=
    (hnamed { s with modbus := { s.modbus with registerCount := 65536 } }).1 rfl
  have hnone : RefusesAreaSize 0 :=
    (hnamed { s with shm := { s.shm with areaSize := 0 } }).2 rfl
  obtain ⟨b, hb, hcount, hnumbers⟩ := (hfit s hvalid).backend d
  have hbytes : b.byteCount = UInt32.ofNat (2 * 65535) := by rw [Backend.byteCount, hcount]
  have hwindow : Register.validate a b.byteCount 3 true = .ok () := by
    rw [hbytes]
    decide
  have hregisters : Register.span a.offset (UInt32.toNat 3) = (65533, 65535) := by decide
  obtain ⟨hstart, hspan⟩ := hnumbers.span a 3 true hwindow
  rw [hregisters] at hstart hspan
  exact ⟨hvalid, hregisters, ⟨b, hb, hwindow, hstart, hspan.mpr (.inl (by decide))⟩, hcounts _ hmany d,
    hareas _ hnone Host.new "segment"⟩

/-- A window of no bytes ends right behind the last register, and its span is that of one byte. No
write of the program checks such a window: a bit stands in one byte, and a value has one, two or
four. -/
theorem span_of_no_bytes :
    ¬∀ (s : Settings) (a : Address) (width : UInt32), s.validate = .ok () → width ≤ 4 →
      Register.validate a (UInt32.ofNat (2 * s.modbus.registerCount)) width true = .ok () →
        ∀ n, (Register.span a.offset width.toNat).1 ≤ n →
          n < (Register.span a.offset width.toNat).2 → n < s.modbus.registerCount := by
  intro hclaim
  let s : Settings := { default "segment" with
    modbus := { DeviceSettings.default with registerCount := 2 } }
  have hin := hclaim s ⟨.output, 4, 0⟩ 0 rfl (by decide) (by decide) 2 (by decide) (by decide)
  exact absurd hin (by decide)

end Settings

end FieldImage
