import FieldImage.Address
import FieldImage.Bytes

/-! Commands of the mailbox: what each asks for, its id, its reply code, and its payload of 32-bit
values. An address is three values; a written value is one more. -/

namespace FieldImage

inductive Command where
  | exit
  | ping
  | setBit (a : Address)
  | resetBit (a : Address)
  | invertBit (a : Address)
  | setBits (as : List Address)
  | writeByte (a : Address) (value : UInt8)
  | writeWord (a : Address) (value : UInt16)
  | writeDWord (a : Address) (value : UInt32)
  | writeInt (a : Address) (value : Int32)
  | writeReal (a : Address) (value : Real32)
deriving DecidableEq, Repr

namespace Command

def capacity : Nat := 100

def addressLength : Nat := 3

def maxAddresses : Nat := capacity / addressLength

def id : Command → Int32
  | exit => 1
  | ping => 2
  | setBit _ => 3
  | resetBit _ => 4
  | invertBit _ => 5
  | setBits _ => 6
  | writeByte .. => 7
  | writeWord .. => 8
  | writeDWord .. => 9
  | writeInt .. => 10
  | writeReal .. => 11

def nameOf (id : Int32) : String :=
  if id = 1 then "EXIT"
  else if id = 2 then "PING"
  else if id = 3 then "SET_BIT"
  else if id = 4 then "RESET_BIT"
  else if id = 5 then "INVERT_BIT"
  else if id = 6 then "SET_BITS"
  else if id = 7 then "WRITE_BYTE"
  else if id = 8 then "WRITE_WORD"
  else if id = 9 then "WRITE_DWORD"
  else if id = 10 then "WRITE_INT"
  else if id = 11 then "WRITE_REAL"
  else "UNKNOWN"

def success : Command → Int32
  | ping => 1
  | _ => 0

def failed : Int32 := -1

def encodeAddress (a : Address) : List Int32 := [a.area.code, a.byte.toInt32, a.bit.toInt32]

def encode : Command → Except Fault (List Int32)
  | exit => pure []
  | ping => pure []
  | setBit a => pure (encodeAddress a)
  | resetBit a => pure (encodeAddress a)
  | invertBit a => pure (encodeAddress a)
  | setBits as =>
    if as = [] then throw (.protocol (.lengthMismatch 6 "at least one address" 0))
    else if capacity < as.length * addressLength then
      throw (.protocol (.payloadTooLarge (as.length * addressLength) capacity))
    else pure (as.flatMap encodeAddress)
  | writeByte a v => pure (encodeAddress a ++ [Int32.ofNat v.toNat])
  | writeWord a v => pure (encodeAddress a ++ [Int32.ofNat v.toNat])
  | writeDWord a v => pure (encodeAddress a ++ [v.toInt32])
  | writeInt a v => pure (encodeAddress a ++ [v])
  | writeReal a v => pure (encodeAddress a ++ [v.bits.toInt32])

/-- An address from its three payload values. Every bit pattern is a byte and a bit; an image
refuses those it does not have. -/
def decodeAddress (area byte bit : Int32) : Except Fault Address :=
  match Area.ofCode? area with
  | some a => pure ⟨a, byte.toUInt32, bit.toUInt32⟩
  | none => throw (.protocol (.unknownArea area))

def decodeAddresses : List Int32 → Except Fault (List Address)
  | area :: byte :: bit :: r => do
    let a ← decodeAddress area byte bit
    let as ← decodeAddresses r
    pure (a :: as)
  | _ => pure []

def wrongLength {α : Type} (id : Int32) (expected : String) (values : List Int32) :
    Except Fault α :=
  throw (.protocol (.lengthMismatch id expected (Int32.ofNat values.length)))

def decodePoint (id : Int32) (make : Address → Command) : List Int32 → Except Fault Command
  | [area, byte, bit] => do
    let a ← decodeAddress area byte bit
    pure (make a)
  | values => wrongLength id "3" values

def decodeWrite (id : Int32) (make : Address → Int32 → Except Fault Command) :
    List Int32 → Except Fault Command
  | [area, byte, bit, value] => do
    let a ← decodeAddress area byte bit
    make a value
  | values => wrongLength id "4" values

/-- A payload value as an unsigned number below `bound`. -/
def narrow (id : Int32) (bound : Nat) (value : Int32) : Except Fault Nat :=
  if 0 ≤ value ∧ value.toInt < bound then pure value.toInt.toNat
  else throw (.protocol (.malformed (.valueOutOfRange (nameOf id) value)))

/-- The command of an id and a payload. Lengths, areas and widths are checked here, bytes and bits
by the image. -/
def decode (id : Int32) (values : List Int32) : Except Fault Command :=
  if id = 1 then if values = [] then pure exit else wrongLength id "0" values
  else if id = 2 then if values = [] then pure ping else wrongLength id "0" values
  else if id = 3 then decodePoint id setBit values
  else if id = 4 then decodePoint id resetBit values
  else if id = 5 then decodePoint id invertBit values
  else if id = 6 then
    if values = [] ∨ values.length % addressLength ≠ 0 ∨
        maxAddresses * addressLength < values.length then
      wrongLength id "multiple of 3 in 3..=99" values
    else (decodeAddresses values).map setBits
  else if id = 7 then
    decodeWrite id (fun a v => do pure (writeByte a (UInt8.ofNat (← narrow id 256 v)))) values
  else if id = 8 then
    decodeWrite id (fun a v => do pure (writeWord a (UInt16.ofNat (← narrow id 65536 v)))) values
  else if id = 9 then decodeWrite id (fun a v => pure (writeDWord a v.toUInt32)) values
  else if id = 10 then decodeWrite id (fun a v => pure (writeInt a v)) values
  else if id = 11 then decodeWrite id (fun a v => pure (writeReal a ⟨v.toUInt32⟩)) values
  else throw (.protocol (.unknownCommand id))

def text (c : Command) : String :=
  let name := nameOf c.id
  match c with
  | exit => name
  | ping => name
  | setBit a => name ++ " " ++ a.text
  | resetBit a => name ++ " " ++ a.text
  | invertBit a => name ++ " " ++ a.text
  | setBits as => name ++ " x" ++ toString as.length
  | writeByte a v => name ++ " " ++ a.text ++ " = " ++ toString v.toNat
  | writeWord a v => name ++ " " ++ a.text ++ " = " ++ toString v.toNat
  | writeDWord a v => name ++ " " ++ a.text ++ " = " ++ toString v.toNat
  | writeInt a v => name ++ " " ++ a.text ++ " = " ++ toString v.toInt
  | writeReal a v => name ++ " " ++ a.text ++ " = " ++ v.text

end Command

end FieldImage
