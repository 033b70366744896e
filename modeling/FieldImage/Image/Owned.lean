import FieldImage.Image.Access

/-! An image that owns its bytes: three areas of one size. -/

namespace FieldImage

structure Image where
  areaSize : Nat
  input : Vector UInt8 areaSize
  output : Vector UInt8 areaSize
  memory : Vector UInt8 areaSize
deriving DecidableEq

/-- Two images belong together when their areas are of one size. -/
def checkGeometry (expected actual : Nat) : Except Fault Unit :=
  if expected = actual then pure () else throw (.notInitialized (.imageGeometry expected actual))

namespace Image

/-- The bytes per area that a plant without settings of its own has. -/
def defaultAreaSize : Nat := 5000

def zero (areaSize : Nat) : Image :=
  ⟨areaSize, Vector.replicate _ 0, Vector.replicate _ 0, Vector.replicate _ 0⟩

instance : Inhabited Image := ⟨zero 0⟩

def area (i : Image) : Area → Vector UInt8 i.areaSize
  | .input => i.input
  | .output => i.output
  | .memory => i.memory

/-- An image with one byte changed; a place past the area changes nothing. -/
def set (i : Image) (area : Area) (offset : Nat) (b : UInt8) : Image :=
  match area with
  | .input => { i with input := i.input.setIfInBounds offset b }
  | .output => { i with output := i.output.setIfInBounds offset b }
  | .memory => { i with memory := i.memory.setIfInBounds offset b }

instance : ByteImage Image where
  areas _ := Area.all
  byteCount i := UInt32.ofNat i.areaSize
  byte? i area offset := (i.area area)[offset]?
  setByte := set

def copyFrom (i other : Image) : Except Fault Image := do
  checkGeometry i.areaSize other.areaSize
  pure other

def clear (i : Image) : Image := zero i.areaSize

/-- Puts bytes at the start of an area; those past its end are left out. -/
def fill (i : Image) (area : Area) (bytes : List UInt8) : Image :=
  ByteImage.putWindow i area 0 (bytes.take i.areaSize)

end Image

end FieldImage
