import FieldImage.Image.Owned

/-! An image inside one run of bytes: input, output and memory one after the other, as a shared
segment holds them. -/

namespace FieldImage

/-- A run of bytes read as three areas. -/
structure ImageView where
  areaSize : Nat
  bytes : Vector UInt8 (3 * areaSize)
deriving DecidableEq

namespace ImageView

def ofBytes (bytes : Array UInt8) (areaSize : Nat) : Except Fault ImageView :=
  if h : bytes.size = 3 * areaSize then pure ⟨areaSize, ⟨bytes, h⟩⟩
  else throw (.notInitialized (.bufferLength bytes.size (3 * areaSize)))

/-- The place of an area's byte in the run. -/
def place (v : ImageView) (area : Area) (offset : Nat) : Nat := area.index * v.areaSize + offset

/-- A view with one byte changed; a place past the area changes nothing. -/
def set (v : ImageView) (area : Area) (offset : Nat) (b : UInt8) : ImageView :=
  if offset < v.areaSize then
    { v with bytes := v.bytes.setIfInBounds (v.place area offset) b }
  else v

instance : ByteImage ImageView where
  areas _ := Area.all
  byteCount v := UInt32.ofNat v.areaSize
  byte? v area offset := if offset < v.areaSize then v.bytes[v.place area offset]? else none
  setByte := set

def area (v : ImageView) (a : Area) : Vector UInt8 v.areaSize :=
  Vector.ofFn fun i => v.bytes[v.place a i]?.getD 0

def toImage (v : ImageView) : Image := ⟨v.areaSize, v.area .input, v.area .output, v.area .memory⟩

def ofImage (i : Image) : ImageView :=
  ⟨i.areaSize,
    ⟨i.input.toArray ++ i.output.toArray ++ i.memory.toArray, by simp; omega⟩⟩

def copyTo (v : ImageView) (target : Image) : Except Fault Image := do
  checkGeometry target.areaSize v.areaSize
  pure v.toImage

def loadFrom (v : ImageView) (source : Image) : Except Fault ImageView := do
  checkGeometry v.areaSize source.areaSize
  pure (ofImage source)

end ImageView

end FieldImage
