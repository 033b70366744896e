import FieldImage.Command
import FieldImage.Image.Access

/-! Writes of points, as a caller asks for them whatever serves them. -/

namespace FieldImage

/-- A write of one point, or the setting of several bits. -/
inductive Write where
  | setBit (a : Address)
  | resetBit (a : Address)
  | invertBit (a : Address)
  | setBits (as : List Address)
  | value (a : Address) (v : Value)
deriving DecidableEq, Repr

namespace Write

def command : Write → Command
  | setBit a => .setBit a
  | resetBit a => .resetBit a
  | invertBit a => .invertBit a
  | setBits as => .setBits as
  | value a (.bit v) => if v then .setBit a else .resetBit a
  | value a (.byte v) => .writeByte a v
  | value a (.word v) => .writeWord a v
  | value a (.dword v) => .writeDWord a v
  | value a (.int v) => .writeInt a v
  | value a (.real v) => .writeReal a v

def apply {ι : Type} [ByteImage ι] (i : ι) : Write → Except Fault ι
  | setBit a => ByteImage.setBit i a
  | resetBit a => ByteImage.resetBit i a
  | invertBit a => ByteImage.invertBit i a
  | setBits as => ByteImage.setBits i as
  | value a v => ByteImage.writeValue i a v

end Write

end FieldImage
