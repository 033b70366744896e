import FieldImage.Area
import FieldImage.Fault

/-! Addresses of points: an area, a byte in it and a bit in the byte, and the checks that an image
makes before it serves one. -/

namespace FieldImage

/-- One point of the image. Nothing bounds the byte and the bit; that is what the checks are for. -/
structure Address where
  area : Area
  byte : UInt32
  bit : UInt32
deriving DecidableEq, Repr, Inhabited

namespace Address

def ofByte (area : Area) (byte : UInt32) : Address := ⟨area, byte, 0⟩

def offset (a : Address) : Nat := a.byte.toNat

def mask (a : Address) : UInt8 := 1 <<< (a.bit.toUInt8 &&& 7)

def checkBit (a : Address) : Except Fault Unit :=
  if 7 < a.bit then throw (.address (.bitOutOfRange a.bit)) else pure ()

def checkArea (a : Address) (allowed : List Area) : Except Fault Unit :=
  if a.area ∈ allowed then pure () else throw (.address (.areaOutOfRange a.area.name))

/-- `width` bytes from the address end by `max`, without wrapping. -/
def checkByte (a : Address) (max width : UInt32) : Except Fault Unit :=
  if max.toNat < a.byte.toNat + width.toNat then
    throw (.address (.byteOutOfRange a.byte width max))
  else pure ()

/-- Bit, area and window, in this order. -/
def validate (a : Address) (allowed : List Area) (max width : UInt32) : Except Fault Unit := do
  a.checkBit
  a.checkArea allowed
  a.checkByte max width

/-- The written form, such as `M5.3`. -/
def text (a : Address) : String :=
  String.ofList
    (a.area.letter :: (Nat.toDigits 10 a.byte.toNat ++ '.' :: Nat.toDigits 10 a.bit.toNat))

end Address

end FieldImage
