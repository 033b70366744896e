import FieldImage.Fault
import FieldImage.Text.Blank

/-! The text of a value, and values read from text. A byte, word or double word is read in decimal,
or in hexadecimal after `0x`; it is never cut to fit. -/

namespace FieldImage

/-- The type of a name, letters in either case. -/
def DataType.parse (s : String) : Except Fault DataType :=
  let lower := String.ofList (s.toList.map Char.toLower)
  match DataType.ofLowerName? lower with
  | some t => pure t
  | none => throw (.config (.unknownDataType lower))

namespace Value

def hexDigits? : List Char → Option (List Char)
  | '0' :: 'x' :: r => some r
  | '0' :: 'X' :: r => some r
  | _ => none

/-- The number that the text of an unsigned value denotes, below `2 ^ 64`. -/
def readNumber (cs : List Char) : Except Text.NumeralFault Nat :=
  match hexDigits? cs with
  | some hex => Text.readUnsigned 16 (UInt64.size - 1) hex
  | none => Text.readUnsigned 10 (UInt64.size - 1) cs

/-- A number below `2 ^ width`. -/
def readUnsigned (width : Nat) (cs : List Char) : Except ValueFault Nat :=
  match readNumber cs with
  | .error e => .error (.numeral e)
  | .ok n => if n < Nat.pow 2 width then .ok n else .error (.doesNotFit n)

def readInt (cs : List Char) : Except ValueFault Int32 :=
  match Text.readSigned (Nat.pow 2 31) (Nat.pow 2 31 - 1) cs with
  | .error e => .error (.numeral e)
  | .ok i => .ok (Int32.ofInt i)

def readBit (s : String) : Except ValueFault Bool :=
  if s == "1" || s == "true" || s == "on" then .ok true
  else if s == "0" || s == "false" || s == "off" then .ok false
  else .error .notABit

def readTrimmed (type : DataType) (cs : List Char) : Except ValueFault Value :=
  match type with
  | .bit => (readBit (String.ofList cs)).map .bit
  | .byte => (readUnsigned 8 cs).map fun n => .byte (UInt8.ofNat n)
  | .word => (readUnsigned 16 cs).map fun n => .word (UInt16.ofNat n)
  | .dword => (readUnsigned 32 cs).map fun n => .dword (UInt32.ofNat n)
  | .int => (readInt cs).map .int
  | .real => ((Real32.read (String.ofList cs)).mapError .real).map .real

/-- A value of a type from text; the fault quotes the text as it was given. -/
def parse (type : DataType) (text : String) : Except Fault Value :=
  match readTrimmed type (Text.trimChars text.toList) with
  | .ok v => pure v
  | .error cause => throw (.config (.invalidValue type text cause))

/-- A number and its hexadecimal form of `width` digits. -/
def textWithHex (width n : Nat) : String :=
  String.ofList (Nat.toDigits 10 n) ++ " (0x" ++ Text.hexUpper width n ++ ")"

def text : Value → String
  | .bit b => if b then "1" else "0"
  | .byte v => textWithHex 2 v.toNat
  | .word v => textWithHex 4 v.toNat
  | .dword v => textWithHex 8 v.toNat
  | .int v => toString v.toInt
  | .real v => v.text

end Value

end FieldImage
