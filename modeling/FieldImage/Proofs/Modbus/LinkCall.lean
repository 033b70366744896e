import FieldImage.Proofs.Image.InPlace
import FieldImage.Proofs.Modbus.Transfers

/-! A transfer that is asked of a device in memory with a slice of registers lent to it: a read fills
the slice, and a write takes its values from there. The device records the transfer, checks that it
has the registers, and only then moves them. So a transfer that is refused has changed no register,
neither on the device nor in the slice, and one that is accepted has moved its registers and no
others. -/

namespace FieldImage

open Register

/-- A transfer, without the registers that are lent to it. -/
inductive LinkCall where
  | readHolding (start : UInt16)
  | readInput (start : UInt16)
  | writeHolding (start : UInt16)

namespace LinkCall

def start : LinkCall → UInt16
  | readHolding start | readInput start | writeHolding start => start

def function : LinkCall → UInt8
  | readHolding _ => Modbus.readHoldingCode
  | readInput _ => Modbus.readInputCode
  | writeHolding _ => Modbus.writeRegistersCode

/-- The table of a device that is read or written. -/
def table (d : Device) : LinkCall → Table
  | readHolding _ | writeHolding _ => d.holding
  | readInput _ => d.input

def transaction (slice : Table) : LinkCall → Transaction
  | readHolding start => .readHolding start slice.length
  | readInput start => .readInput start slice.length
  | writeHolding start => .writeHolding start slice

/-- A slice is filled with what was read, if anything was. -/
def fill (slice : Table) : Except Fault Table × Device → Except Fault Unit × Device × Table
  | (.ok t, d) => (.ok (), d, t)
  | (.error f, d) => (.error f, d, slice)

/-- The result of a transfer, with the device and the slice after it. -/
def run (d : Device) (slice : Table) : LinkCall → Except Fault Unit × Device × Table
  | readHolding start => fill slice (d.readHolding start slice.length)
  | readInput start => fill slice (d.readInput start slice.length)
  | writeHolding start => ((d.writeHolding start slice).1, (d.writeHolding start slice).2, slice)

/-- The registers are copied, from the table into the slice or from the slice into the table. -/
def moved (d : Device) (slice : Table) : LinkCall → Device × Table
  | readHolding start => (d, Device.window d.holding start slice.length)
  | readInput start => (d, Device.window d.input start slice.length)
  | writeHolding start => ({ d with holding := Device.putWindow d.holding start slice }, slice)

/-! ### In place -/

/-- The transfer is recorded, with the slice as it stands. -/
def note (c : LinkCall) : InPlace (Device × Table) Unit := fun s =>
  some (.ok (), s.1.record (c.transaction s.2), s.2)

/-- The registers are copied. This stands still unless the table has as many of them as the slice
has. -/
def copy (c : LinkCall) : InPlace (Device × Table) Unit := fun s =>
  if (Device.window (c.table s.1) c.start s.2.length).length = s.2.length then
    some (.ok (), c.moved s.1 s.2)
  else none

/-- The transfer on a device and a slice as they stand. -/
def inPlace (c : LinkCall) : InPlace (Device × Table) Unit := do
  c.note
  InPlace.check fun s => Device.checkWindow (c.table s.1) c.function c.start s.2.length
  c.copy

/-- How a transfer ends: it is refused when the table ends before its last register, and else it
reads or writes each of its registers. -/
inductive Ends (d : Device) (slice : Table) : LinkCall → Except Fault Unit × Device × Table → Prop
  | refused {c : LinkCall} {d' : Device}
      (hbeyond : (c.table d).length < c.start.toNat + slice.length)
      (hholding : d'.holding = d.holding) (hinput : d'.input = d.input) :
      Ends d slice c
        (.error (.transport (.exception c.function Modbus.illegalDataAddress)), d', slice)
  | read {c : LinkCall} {d' : Device} {slice' : Table} (hread : ∀ start, c ≠ .writeHolding start)
      (hroom : c.start.toNat + slice.length ≤ (c.table d).length)
      (hlength : slice'.length = slice.length)
      (hslice : ∀ j < slice.length, slice'[j]? = (c.table d)[c.start.toNat + j]?)
      (hholding : d'.holding = d.holding) (hinput : d'.input = d.input) :
      Ends d slice c (.ok (), d', slice')
  | written {start : UInt16} {d' : Device}
      (hroom : start.toNat + slice.length ≤ d.holding.length)
      (hholding : ∀ n, d'.holding[n]? =
        if start.toNat ≤ n ∧ n < start.toNat + slice.length then slice[n - start.toNat]?
        else d.holding[n]?)
      (hinput : d'.input = d.input) : Ends d slice (.writeHolding start) (.ok (), d', slice)

/-! ### How transfers end -/

theorem fill_map (slice t : Table) (d : Device) (x : Except Fault Unit) :
    fill slice (x.map fun _ => t, d) =
      match x with
      | .ok _ => (.ok (), d, t)
      | .error f => (.error f, d, slice) := by
  cases x <;> rfl

theorem fill_device (slice : Table) (r : Except Fault Table × Device) :
    (fill slice r).2.1 = r.2 := by
  obtain ⟨x, d⟩ := r
  cases x <;> rfl

variable (c : LinkCall) (d : Device) (slice : Table)

/-- A transfer is recorded before its registers are looked for. -/
theorem run_eq :
    c.run d slice =
      match Device.checkWindow (c.table d) c.function c.start slice.length with
      | .ok _ => (.ok (), c.moved (d.record (c.transaction slice)) slice)
      | .error f => (.error f, d.record (c.transaction slice), slice) := by
  cases c with
  | readHolding start | readInput start => exact fill_map slice _ _ _
  | writeHolding start =>
    show ((d.writeHolding start slice).1, (d.writeHolding start slice).2, slice) =
      match Device.checkWindow d.holding Modbus.writeRegistersCode start slice.length with
      | .ok _ => _
      | .error f => _
    rw [d.writeHolding_eq, d.checkWindow_holding (by decide)]
    cases d.answer ⟨Modbus.writeRegistersCode, start.toNat, start.toNat + slice.length⟩ <;> rfl

theorem run_device : (c.run d slice).2.1 = d.perform (c.transaction slice) := by
  cases c with
  | readHolding start | readInput start => exact fill_device slice _
  | writeHolding start => rfl

theorem table_record (t : Transaction) : c.table (d.record t) = c.table d := by
  cases c <;> rfl

variable {c d slice}

theorem check_of_le (h : c.start.toNat + slice.length ≤ (c.table d).length) :
    Device.checkWindow (c.table d) c.function c.start slice.length = .ok () := if_pos h

theorem check_of_lt (h : (c.table d).length < c.start.toNat + slice.length) :
    Device.checkWindow (c.table d) c.function c.start slice.length =
      .error (.transport (.exception c.function Modbus.illegalDataAddress)) :=
  if_neg (Nat.not_le_of_lt h)

variable (c d slice)

/-- No transfer stands still, and in place each one comes to its result. -/
theorem inPlace_run : c.inPlace (d, slice) = some (c.run d slice) := by
  let s := (d.record (c.transaction slice), slice)
  have htable : c.table s.1 = c.table d := c.table_record d _
  have hchecked : InPlace.Looks (InPlace.check fun s : Device × Table =>
      Device.checkWindow (c.table s.1) c.function c.start s.2.length) s
      (Device.checkWindow (c.table d) c.function c.start slice.length) := by
    rw [← htable]
    exact InPlace.looks_check _
  rw [inPlace, InPlace.bind_run, run_eq]
  show (InPlace.check _ >>= fun _ => c.copy) s = _
  rcases Nat.lt_or_ge (c.table d).length (c.start.toNat + slice.length) with hbeyond | hroom
  · rw [check_of_lt hbeyond] at hchecked ⊢
    exact hchecked.bind_error _
  · have hlength : (Device.window (c.table s.1) c.start slice.length).length = slice.length := by
      rw [htable]
      exact Device.length_window hroom
    rw [check_of_le hroom] at hchecked ⊢
    exact (hchecked.bind_ok _).trans (if_pos hlength)

theorem ends_run : c.Ends d slice (c.run d slice) := by
  rw [run_eq]
  rcases Nat.lt_or_ge (c.table d).length (c.start.toNat + slice.length) with hbeyond | hroom
  · rw [check_of_lt hbeyond]
    exact .refused hbeyond rfl rfl
  · rw [check_of_le hroom]
    cases c with
    | readHolding start | readInput start =>
      exact .read nofun hroom (Device.length_window hroom)
        (fun j => Device.getElem?_window _ start) rfl rfl
    | writeHolding start => exact .written hroom (Device.getElem?_putWindow hroom) rfl

end LinkCall

end FieldImage
