import FieldImage.Image.Access
import FieldImage.Register.Table

/-! A local copy of a device's registers: the holding registers are the outputs, the input registers
the inputs. -/

namespace FieldImage

structure RegisterSet where
  count : Nat
  holding : Vector UInt16 count
  input : Vector UInt16 count
deriving DecidableEq

namespace RegisterSet

def zero (count : Nat) : RegisterSet := ⟨count, Vector.replicate _ 0, Vector.replicate _ 0⟩

instance : Inhabited RegisterSet := ⟨zero 0⟩

def table? (s : RegisterSet) : Area → Option (Vector UInt16 s.count)
  | .input => some s.input
  | .output => some s.holding
  | .memory => none

/-- A set with one byte changed; a place that no table has changes nothing. -/
def set (s : RegisterSet) (area : Area) (offset : Nat) (b : UInt8) : RegisterSet :=
  let put (t : Vector UInt16 s.count) :=
    match t[offset / 2]? with
    | some r => t.setIfInBounds (offset / 2) (Register.setHalf r offset b)
    | none => t
  match area with
  | .input => { s with input := put s.input }
  | .output => { s with holding := put s.holding }
  | .memory => s

instance : ByteImage RegisterSet where
  areas _ := Area.field
  byteCount s := UInt32.ofNat (2 * s.count)
  byte? s area offset := do (← s.table? area)[offset / 2]?.map (Register.half · offset)
  setByte := set
  checkArea _ a := Register.checkArea a
  checkWritable _ a := Register.checkWritable a

def copyFrom (s other : RegisterSet) : Except Fault RegisterSet :=
  if s.count = other.count then pure other
  else throw (.notInitialized (.registerGeometry s.count other.count))

/-- A vector whose first places hold the items of a list, as far as it goes. -/
def overlay {n : Nat} (t : Vector UInt16 n) (items : Register.Table) : Vector UInt16 n :=
  Vector.ofFn fun i => items[i.val]?.getD t[i]

def seed (s : RegisterSet) (holding input : Register.Table) : RegisterSet :=
  { s with holding := overlay s.holding holding, input := overlay s.input input }

end RegisterSet

end FieldImage
