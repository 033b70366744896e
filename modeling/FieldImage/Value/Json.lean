import FieldImage.Area
import FieldImage.Json.Reader
import FieldImage.Value

/-! Values, types and areas in JSON. A value is an object of a type and a value, or an array of the
two; a number for a bit, a byte, a word or an INT has to fit. -/

namespace FieldImage

def Area.ofJson? (j : Json) : Option Area := do Area.ofKeyword? (← j.choice?)

def DataType.ofJson? (j : Json) : Option DataType := do DataType.ofKeyword? (← j.choice?)

def Real32.ofJson? : Json → Option Real32
  | .natural n => some (ofMagnitude false (BinaryFormat.single.nearest n 1))
  | .negative n => some (ofMagnitude true (BinaryFormat.single.nearest n 1))
  | .double isNegative m =>
    some (ofMagnitude isNegative (BinaryFormat.double.convert BinaryFormat.single m))
  | _ => none

namespace Value

def ofJsonContent? (type : DataType) (j : Json) : Option Value :=
  match type, j with
  | .bit, .bool b => some (.bit b)
  | .byte, .natural n => if n < UInt8.size then some (.byte (UInt8.ofNat n)) else none
  | .word, .natural n => if n < UInt16.size then some (.word (UInt16.ofNat n)) else none
  | .dword, .natural n => if n < UInt32.size then some (.dword (UInt32.ofNat n)) else none
  | .int, .natural n => if n < Nat.pow 2 31 then some (.int (Int32.ofNat n)) else none
  | .int, .negative n => if n ≤ Nat.pow 2 31 then some (.int (Int32.ofInt (-n))) else none
  | .real, j => (Real32.ofJson? j).map .real
  | _, _ => none

def soleMember? (name : String) (members : List (String × Json)) : Option Json :=
  match members.filter (·.1 == name) with
  | [(_, j)] => some j
  | _ => none

/-- A value from JSON; in an array the type is a string. -/
def ofJson? : Json → Option Value
  | .array [type, content] => do
    ofJsonContent? (← DataType.ofKeyword? (← type.toText?)) content
  | .object members => do
    let type ← soleMember? "type" members
    let content ← soleMember? "value" members
    ofJsonContent? (← DataType.ofJson? type) content
  | _ => none

def jsonContent : Value → String
  | .bit b => if b then "true" else "false"
  | .byte v => toString v.toNat
  | .word v => toString v.toNat
  | .dword v => toString v.toNat
  | .int v => toString v.toInt
  | .real v => v.json

def jsonMembers (v : Value) : List (String × String) :=
  [("type", Json.quotedString v.type.keyword), ("value", v.jsonContent)]

def json (v : Value) : String := Json.writeObject v.jsonMembers

end Value

end FieldImage
