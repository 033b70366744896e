import FieldImage.Register.Table

/-! Links to devices with register tables, and the device kept in memory, which records the latest
transfers asked of it. -/

namespace FieldImage

/-- A way to a device's registers. A transfer that fails may still change the link. -/
class RegisterLink (κ : Type) where
  readHolding : κ → (start : UInt16) → (count : Nat) → Except Fault Register.Table × κ
  readInput : κ → (start : UInt16) → (count : Nat) → Except Fault Register.Table × κ
  writeHolding : κ → (start : UInt16) → (values : Register.Table) → Except Fault Unit × κ
  /-- A short name for logs. -/
  describe : κ → String

inductive Transaction where
  | readHolding (start : UInt16) (count : Nat)
  | readInput (start : UInt16) (count : Nat)
  | writeHolding (start : UInt16) (values : Register.Table)
deriving DecidableEq, Repr

def Transaction.isWrite : Transaction → Bool
  | writeHolding .. => true
  | _ => false

namespace Modbus

def readHoldingCode : UInt8 := 0x03

def readInputCode : UInt8 := 0x04

def writeRegistersCode : UInt8 := 0x10

/-- The answer of a device that has not all the registers asked for. -/
def illegalDataAddress : UInt8 := 0x02

end Modbus

/-- A device in memory: its tables, and the latest transfers asked of it, oldest first. -/
structure Device where
  holding : Register.Table
  input : Register.Table
  log : List Transaction
deriving Repr

namespace Device

def logCapacity : Nat := 1024

def new (holding input : Register.Table) : Device := ⟨holding, input, []⟩

/-- Records a transfer, which pushes the oldest out of a full log. -/
def record (d : Device) (t : Transaction) : Device :=
  { d with log := (if d.log.length = logCapacity then d.log.tail else d.log) ++ [t] }

def checkWindow (table : Register.Table) (function : UInt8) (start : UInt16) (count : Nat) :
    Except Fault Unit :=
  if start.toNat + count ≤ table.length then pure ()
  else throw (.transport (.exception function Modbus.illegalDataAddress))

def window (table : Register.Table) (start : UInt16) (count : Nat) : Register.Table :=
  (table.drop start.toNat).take count

/-- A table with registers replaced from a start on. -/
def putWindow (table : Register.Table) (start : UInt16) (values : Register.Table) :
    Register.Table :=
  table.take start.toNat ++ values ++ table.drop (start.toNat + values.length)

def readHolding (d : Device) (start : UInt16) (count : Nat) :
    Except Fault Register.Table × Device :=
  let d := d.record (.readHolding start count)
  ((checkWindow d.holding Modbus.readHoldingCode start count).map fun _ =>
    window d.holding start count, d)

def readInput (d : Device) (start : UInt16) (count : Nat) :
    Except Fault Register.Table × Device :=
  let d := d.record (.readInput start count)
  ((checkWindow d.input Modbus.readInputCode start count).map fun _ =>
    window d.input start count, d)

def writeHolding (d : Device) (start : UInt16) (values : Register.Table) :
    Except Fault Unit × Device :=
  let d := d.record (.writeHolding start values)
  match checkWindow d.holding Modbus.writeRegistersCode start values.length with
  | .ok _ => (.ok (), { d with holding := putWindow d.holding start values })
  | .error e => (.error e, d)

/-- The log, which is empty afterwards. -/
def takeLog (d : Device) : List Transaction × Device := (d.log, { d with log := [] })

instance : RegisterLink Device where
  readHolding := readHolding
  readInput := readInput
  writeHolding := writeHolding
  describe d := "memory(" ++ toString d.holding.length ++ " registers)"

/-- Puts registers at the start of the tables, as far as these go. -/
def seed (d : Device) (holding input : Register.Table) : Device :=
  { d with
    holding := (holding ++ d.holding.drop holding.length).take d.holding.length
    input := (input ++ d.input.drop input.length).take d.input.length }

/-- A table cut or filled with zeros to a length. -/
def resizeTable (t : Register.Table) (length : Nat) : Register.Table :=
  t.take length ++ List.replicate (length - t.length) 0

def resize (d : Device) (holding input : Option Nat) : Device :=
  { d with
    holding := (holding.map (resizeTable d.holding)).getD d.holding
    input := (input.map (resizeTable d.input)).getD d.input }

end Device

end FieldImage
