import FieldImage.Address

/-! Tables of 16-bit registers as bytes: byte `k` is in register `k / 2`, the low half for an even
`k` and the high half for an odd one. With it go the rules of a device that has only tables: no
memory area, and no writing to inputs. -/

namespace FieldImage.Register

abbrev Table := List UInt16

def low (r : UInt16) : UInt8 := r.toUInt8

def high (r : UInt16) : UInt8 := (r >>> 8).toUInt8

def ofHalves (low high : UInt8) : UInt16 := low.toUInt16 ||| (high.toUInt16 <<< 8)

/-- One half of a register by the parity of a byte's place. -/
def half (r : UInt16) (offset : Nat) : UInt8 := if offset % 2 = 0 then low r else high r

def setHalf (r : UInt16) (offset : Nat) (b : UInt8) : UInt16 :=
  if offset % 2 = 0 then ofHalves b (high r) else ofHalves (low r) b

/-- The registers under `width` bytes from `offset`, as the first and the one past the last. No
bytes count as one. -/
def span (offset width : Nat) : Nat × Nat := (offset / 2, (offset + max width 1 - 1) / 2 + 1)

def toBytes (t : Table) : List UInt8 := t.flatMap fun r => [low r, high r]

/-- Pairs of bytes as registers; a last byte without a partner is left out. -/
def ofBytes : List UInt8 → Table
  | a :: b :: r => ofHalves a b :: ofBytes r
  | _ => []

def byte? (t : Table) (offset : Nat) : Option UInt8 := t[offset / 2]?.map (half · offset)

def setByte (t : Table) (offset : Nat) (b : UInt8) : Table :=
  t.modify (offset / 2) fun r => setHalf r offset b

/-- A device with register tables has no memory area. -/
def checkArea (a : Address) : Except Fault Unit :=
  if a.area = .memory then throw (.address (.areaNotAllowed a.area.name)) else pure ()

def checkWritable (a : Address) : Except Fault Unit :=
  if a.area = .input then throw (.address (.inputNotWritable a.byte)) else pure ()

def validate (a : Address) (byteCount width : UInt32) (write : Bool) : Except Fault Unit := do
  a.checkBit
  checkArea a
  a.checkByte byteCount width
  if write then checkWritable a else pure ()

end FieldImage.Register
