import FieldImage.Real

/-! Values of the image's points and their types. -/

namespace FieldImage

/-- How a point is read and written. -/
inductive DataType where
  | bit
  | byte
  | word
  | dword
  | int
  | real
deriving DecidableEq, Repr, Inhabited

namespace DataType

def all : List DataType := [bit, byte, word, dword, int, real]

def width : DataType → UInt32
  | bit => 1
  | byte => 1
  | word => 2
  | dword => 4
  | int => 4
  | real => 4

def name : DataType → String
  | bit => "Bit"
  | byte => "Byte"
  | word => "Word"
  | dword => "DWord"
  | int => "Int"
  | real => "Real"

def keyword : DataType → String
  | bit => "bit"
  | byte => "byte"
  | word => "word"
  | dword => "dword"
  | int => "int"
  | real => "real"

def ofKeyword? (s : String) : Option DataType := all.find? (·.keyword == s)

/-- The type of a name in lower case, short names included. -/
def ofLowerName? (s : String) : Option DataType :=
  if s == "bit" || s == "bool" then some bit
  else if s == "byte" || s == "u8" then some byte
  else if s == "word" || s == "u16" then some word
  else if s == "dword" || s == "u32" then some dword
  else if s == "int" || s == "i32" then some int
  else if s == "real" || s == "f32" || s == "float" then some real
  else none

end DataType

inductive Value where
  | bit (value : Bool)
  | byte (value : UInt8)
  | word (value : UInt16)
  | dword (value : UInt32)
  | int (value : Int32)
  | real (value : Real32)
deriving DecidableEq, Repr

def Value.type : Value → DataType
  | .bit _ => .bit
  | .byte _ => .byte
  | .word _ => .word
  | .dword _ => .dword
  | .int _ => .int
  | .real _ => .real

end FieldImage
