import FieldImage.Address
import FieldImage.Bytes

/-! Typed access to images. An image shows one byte at a time; reading and writing points is the
same for every image, and checks the address first: bit, area, window, and for a write whether the
area is writable. A refused write returns no image, so the caller's image stays as it was. -/

namespace FieldImage

/-- Bytes by area, the same number of them in each. -/
class ByteImage (ι : Type) where
  /-- The areas that the image has, in order. -/
  areas : ι → List Area
  /-- The bytes of each area. -/
  byteCount : ι → UInt32
  byte? : ι → Area → Nat → Option UInt8
  /-- Puts a byte at a place the image has; elsewhere nothing changes. -/
  setByte : ι → Area → Nat → UInt8 → ι
  checkArea : ι → Address → Except Fault Unit := fun i a => a.checkArea (areas i)
  /-- Refuses writes that the image forbids although it has the point. -/
  checkWritable : ι → Address → Except Fault Unit := fun _ _ => pure ()

namespace ByteImage

variable {ι : Type} [ByteImage ι]

def window (i : ι) (area : Area) : (offset count : Nat) → List UInt8
  | _, 0 => []
  | offset, count + 1 => (byte? i area offset).getD 0 :: window i area (offset + 1) count

/-- The bytes at `count` places from `offset`, when the image has them all. -/
def window? (i : ι) (area : Area) : (offset count : Nat) → Option (List UInt8)
  | _, 0 => some []
  | offset, count + 1 => do
    let b ← byte? i area offset
    let bs ← window? i area (offset + 1) count
    pure (b :: bs)

def putWindow (i : ι) (area : Area) : (offset : Nat) → List UInt8 → ι
  | _, [] => i
  | offset, b :: bs => putWindow (setByte i area offset b) area (offset + 1) bs

def areaBytes (i : ι) (area : Area) : List UInt8 := window i area 0 (byteCount i).toNat

def dump (i : ι) : List (Area × List UInt8) := (areas i).map fun a => (a, areaBytes i a)

def validate (i : ι) (a : Address) (width : UInt32) : Except Fault Unit := do
  a.checkBit
  checkArea i a
  a.checkByte (byteCount i) width

def validateWrite (i : ι) (a : Address) (width : UInt32) : Except Fault Unit := do
  validate i a width
  checkWritable i a

def readPoint (i : ι) (a : Address) (width : UInt32) : Except Fault (List UInt8) := do
  validate i a width
  pure (window i a.area a.offset width.toNat)

def getBit (i : ι) (a : Address) : Except Fault Bool := do
  let bs ← readPoint i a 1
  pure (bs.headD 0 &&& a.mask != 0)

/-- One answer for each address, in order; the first refused address decides. -/
def getBits (i : ι) (as : List Address) : Except Fault (List Bool) := as.mapM (getBit i)

def getByte (i : ι) (a : Address) : Except Fault UInt8 := do
  let bs ← readPoint i a 1
  pure (bs.headD 0)

def getWord (i : ι) (a : Address) : Except Fault UInt16 := do
  pure (Bytes.toWord (← readPoint i a 2))

def getDWord (i : ι) (a : Address) : Except Fault UInt32 := do
  pure (Bytes.toDWord (← readPoint i a 4))

def getInt (i : ι) (a : Address) : Except Fault Int32 := do
  pure (Bytes.toInt (← readPoint i a 4))

def getReal (i : ι) (a : Address) : Except Fault Real32 := do
  pure (Bytes.toReal (← readPoint i a 4))

def getValue (i : ι) (a : Address) : DataType → Except Fault Value
  | .bit => .bit <$> getBit i a
  | .byte => .byte <$> getByte i a
  | .word => .word <$> getWord i a
  | .dword => .dword <$> getDWord i a
  | .int => .int <$> getInt i a
  | .real => .real <$> getReal i a

/-- Changes the byte of an address, which the image has. -/
def updateByte (i : ι) (a : Address) (f : UInt8 → UInt8) : ι :=
  setByte i a.area a.offset (f ((byte? i a.area a.offset).getD 0))

/-- Changes the bit of an address by a function of its byte. -/
def changeBit (i : ι) (a : Address) (f : UInt8 → UInt8) : Except Fault ι := do
  validateWrite i a 1
  pure (updateByte i a f)

def setBit (i : ι) (a : Address) : Except Fault ι := changeBit i a (· ||| a.mask)

def resetBit (i : ι) (a : Address) : Except Fault ι := changeBit i a (· &&& ~~~a.mask)

def invertBit (i : ι) (a : Address) : Except Fault ι := changeBit i a (· ^^^ a.mask)

def writeBit (i : ι) (a : Address) (value : Bool) : Except Fault ι :=
  if value then setBit i a else resetBit i a

/-- Sets all bits, or none when one address is refused. -/
def setBits (i : ι) (as : List Address) : Except Fault ι := do
  as.forM fun a => validateWrite i a 1
  pure (as.foldl (fun i a => updateByte i a (· ||| a.mask)) i)

def writePoint (i : ι) (a : Address) (bytes : List UInt8) : Except Fault ι := do
  validateWrite i a (UInt32.ofNat bytes.length)
  pure (putWindow i a.area a.offset bytes)

def writeByte (i : ι) (a : Address) (value : UInt8) : Except Fault ι := writePoint i a [value]

def writeWord (i : ι) (a : Address) (value : UInt16) : Except Fault ι :=
  writePoint i a (Bytes.ofWord value)

def writeDWord (i : ι) (a : Address) (value : UInt32) : Except Fault ι :=
  writePoint i a (Bytes.ofDWord value)

def writeInt (i : ι) (a : Address) (value : Int32) : Except Fault ι :=
  writePoint i a (Bytes.ofInt value)

def writeReal (i : ι) (a : Address) (value : Real32) : Except Fault ι :=
  writePoint i a (Bytes.ofReal value)

def writeValue (i : ι) (a : Address) : Value → Except Fault ι
  | .bit v => writeBit i a v
  | .byte v => writeByte i a v
  | .word v => writeWord i a v
  | .dword v => writeDWord i a v
  | .int v => writeInt i a v
  | .real v => writeReal i a v

end ByteImage

end FieldImage
