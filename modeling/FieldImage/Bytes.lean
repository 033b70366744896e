import FieldImage.Real

/-! Words as bytes, lowest first. An INT and a REAL are the bytes of the word with the same bits. -/

namespace FieldImage.Bytes

/-- The lowest `count` bytes of a number. -/
def ofNat : (count n : Nat) → List UInt8
  | 0, _ => []
  | count + 1, n => UInt8.ofNat n :: ofNat count (n / 256)

def toNat : List UInt8 → Nat
  | [] => 0
  | b :: r => b.toNat + 256 * toNat r

def ofWord (w : UInt16) : List UInt8 := ofNat 2 w.toNat

def toWord (bs : List UInt8) : UInt16 := UInt16.ofNat (toNat bs)

def ofDWord (w : UInt32) : List UInt8 := ofNat 4 w.toNat

def toDWord (bs : List UInt8) : UInt32 := UInt32.ofNat (toNat bs)

def ofInt (i : Int32) : List UInt8 := ofDWord i.toUInt32

def toInt (bs : List UInt8) : Int32 := (toDWord bs).toInt32

def ofReal (r : Real32) : List UInt8 := ofDWord r.bits

def toReal (bs : List UInt8) : Real32 := ⟨toDWord bs⟩

def hex (bs : List UInt8) : String :=
  String.ofList (bs.flatMap fun b => Text.digits 16 2 b.toNat [])

/-- The bytes of a text of hexadecimal digit pairs. -/
def ofHex? : List Char → Option (List UInt8)
  | [] => some []
  | [_] => none
  | a :: b :: r => do
    let high ← Text.digit? 16 a
    let low ← Text.digit? 16 b
    let rest ← ofHex? r
    pure (UInt8.ofNat (16 * high + low) :: rest)

end FieldImage.Bytes
