import FieldImage.Modbus.Link
import FieldImage.Register.Set
import FieldImage.Write

/-! Writing points to a device with registers. A write checks its addresses, reads the registers
under its bytes, changes the bytes and writes the registers back. Bits are set run by run: each run
of neighbouring registers is read and written once. -/

namespace FieldImage

/-- A device behind a link, as an image of `count` registers per table. The uses of the link are
counted without a bound; counters of 64 bits would show them modulo `2 ^ 64`. -/
structure Backend (κ : Type) where
  link : κ
  count : Nat
  /-- The link's name when the backend was made. -/
  description : String
  transactions : Nat
  /-- The transactions that failed. -/
  failures : Nat

namespace Backend

/-- The registers that 16 bits can count. -/
def maxCount : Nat := 65535

variable {κ : Type} [RegisterLink κ]

def new (link : κ) (count : Nat) : Except Fault (Backend κ) :=
  if 0 < count ∧ count ≤ maxCount then pure ⟨link, count, RegisterLink.describe link, 0, 0⟩
  else throw (.config (.registerCount count maxCount))

def byteCount (b : Backend κ) : UInt32 := UInt32.ofNat (2 * b.count)

/-- Uses the link, and counts the use and its failure. -/
def use {α : Type} (b : Backend κ) (f : κ → Except Fault α × κ) : Except Fault α × Backend κ :=
  let (r, link) := f b.link
  let failed :=
    match r with
    | .ok _ => 0
    | .error _ => 1
  (r, { b with link, transactions := b.transactions + 1, failures := b.failures + failed })

/-- Fills both tables of a set from the device, the holding registers first. When the input
registers fail, the set has the new holding registers. -/
def fill (link : κ) (set : RegisterSet) : (Except Fault Unit × RegisterSet) × κ :=
  match RegisterLink.readHolding link 0 set.count with
  | (.error e, link) => ((.error e, set), link)
  | (.ok holding, link) =>
    let set := set.seed holding []
    match RegisterLink.readInput link 0 set.count with
    | (.error e, link) => ((.error e, set), link)
    | (.ok input, link) => ((.ok (), set.seed [] input), link)

def readRegisters (b : Backend κ) (set : RegisterSet) :
    Except Fault Unit × RegisterSet × Backend κ :=
  if set.count = b.count then
    let ((r, set), link) := fill b.link set
    let (r, b) := b.use fun _ => (r, link)
    (r, set, b)
  else (throw (.notInitialized (.backendGeometry set.count b.count)), set, b)

/-- Reads the registers from `start` to `stop`, edits their bytes and writes them back. -/
def splice (link : κ) (start stop : Nat) (edit : List UInt8 → List UInt8) :
    Except Fault Unit × κ :=
  let first := UInt16.ofNat start
  match RegisterLink.readHolding link first (stop - start) with
  | (.error e, link) => (.error e, link)
  | (.ok t, link) =>
    RegisterLink.writeHolding link first (Register.ofBytes (edit (Register.toBytes t)))

/-- Changes `width` bytes at an address, given where they begin among the bytes read. -/
def modify (b : Backend κ) (a : Address) (width : UInt32)
    (edit : (place : Nat) → List UInt8 → List UInt8) : Except Fault Unit × Backend κ :=
  match Register.validate a b.byteCount width true with
  | .error e => (.error e, b)
  | .ok _ =>
    let (start, stop) := Register.span a.offset width.toNat
    b.use fun link => splice link start stop (edit (a.offset - 2 * start))

def changeByte (b : Backend κ) (a : Address) (f : UInt8 → UInt8) : Except Fault Unit × Backend κ :=
  b.modify a 1 fun place bytes => bytes.modify place f

def replaceAt (place : Nat) (new bytes : List UInt8) : List UInt8 :=
  bytes.take place ++ new ++ bytes.drop (place + new.length)

def writeBytes (b : Backend κ) (a : Address) (new : List UInt8) : Except Fault Unit × Backend κ :=
  b.modify a (UInt32.ofNat new.length) fun place bytes => replaceAt place new bytes

def setBit (b : Backend κ) (a : Address) : Except Fault Unit × Backend κ :=
  b.changeByte a (· ||| a.mask)

def resetBit (b : Backend κ) (a : Address) : Except Fault Unit × Backend κ :=
  b.changeByte a (· &&& ~~~a.mask)

def invertBit (b : Backend κ) (a : Address) : Except Fault Unit × Backend κ :=
  b.changeByte a (· ^^^ a.mask)

/-- Puts a number into an ascending list that does not have it. -/
def insertAscending (n : Nat) : List Nat → List Nat
  | [] => [n]
  | m :: r => if n < m then n :: m :: r else if n = m then m :: r else m :: insertAscending n r

def ascending (ns : List Nat) : List Nat := ns.foldr insertAscending []

/-- The runs of neighbours in an ascending list, each from its first number to one past its last. -/
def contiguousRuns : List Nat → List (Nat × Nat)
  | [] => []
  | n :: r =>
    match contiguousRuns r with
    | (start, stop) :: runs =>
      if n + 1 = start then (n, stop) :: runs else (n, n + 1) :: (start, stop) :: runs
    | [] => [(n, n + 1)]

/-- Sets the bits of the addresses that fall into a run, in the bytes of the run. -/
def editRun (as : List Address) (start stop : Nat) (bytes : List UInt8) : List UInt8 :=
  (as.filter fun a => start ≤ a.offset / 2 && a.offset / 2 < stop).foldl
    (fun bytes a => bytes.modify (a.offset - 2 * start) (· ||| a.mask)) bytes

def spliceRuns (link : κ) (as : List Address) : List (Nat × Nat) → Except Fault Unit × κ
  | [] => (.ok (), link)
  | (start, stop) :: runs =>
    match splice link start stop (editRun as start stop) with
    | (.error e, link) => (.error e, link)
    | (.ok _, link) => spliceRuns link as runs

/-- Sets all bits, or asks nothing of the device when one address is refused. -/
def setBits (b : Backend κ) (as : List Address) : Except Fault Unit × Backend κ :=
  match as.forM fun a => Register.validate a b.byteCount 1 true with
  | .error e => (.error e, b)
  | .ok _ =>
    let runs := contiguousRuns (ascending (as.map fun a => a.offset / 2))
    b.use fun link => spliceRuns link as runs

def writeBit (b : Backend κ) (a : Address) (value : Bool) : Except Fault Unit × Backend κ :=
  if value then b.setBit a else b.resetBit a

def writeByte (b : Backend κ) (a : Address) (v : UInt8) : Except Fault Unit × Backend κ :=
  b.writeBytes a [v]

def writeWord (b : Backend κ) (a : Address) (v : UInt16) : Except Fault Unit × Backend κ :=
  b.writeBytes a (Bytes.ofWord v)

def writeDWord (b : Backend κ) (a : Address) (v : UInt32) : Except Fault Unit × Backend κ :=
  b.writeBytes a (Bytes.ofDWord v)

def writeInt (b : Backend κ) (a : Address) (v : Int32) : Except Fault Unit × Backend κ :=
  b.writeBytes a (Bytes.ofInt v)

def writeReal (b : Backend κ) (a : Address) (v : Real32) : Except Fault Unit × Backend κ :=
  b.writeBytes a (Bytes.ofReal v)

def writeValue (b : Backend κ) (a : Address) : Value → Except Fault Unit × Backend κ
  | .bit v => b.writeBit a v
  | .byte v => b.writeByte a v
  | .word v => b.writeWord a v
  | .dword v => b.writeDWord a v
  | .int v => b.writeInt a v
  | .real v => b.writeReal a v

def write (b : Backend κ) : Write → Except Fault Unit × Backend κ
  | .setBit a => b.setBit a
  | .resetBit a => b.resetBit a
  | .invertBit a => b.invertBit a
  | .setBits as => b.setBits as
  | .value a v => b.writeValue a v

def debugText (b : Backend κ) : String :=
  "ModbusBackend \x7b link: " ++ Text.quoted b.description ++ ", register_count: " ++
    toString b.count ++ " \x7d"

end Backend

end FieldImage
