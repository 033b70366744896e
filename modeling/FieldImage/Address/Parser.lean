import FieldImage.Address
import FieldImage.Text.Blank

/-! Reading an address: an area letter, an optional size letter, a byte, and for an address without
a size letter an optional bit after a point. Blanks around it and the case of letters do not count.
-/

namespace FieldImage.Address

def number? (cs : List Char) : Option UInt32 :=
  match Text.readUnsigned 10 (UInt32.size - 1) cs with
  | .ok n => some (UInt32.ofNat n)
  | .error _ => none

/-- Whether a letter says that the point is a byte, a word or a double word. -/
def isSize (c : Char) : Bool := c == 'B' || c == 'W' || c == 'D'

/-- What follows the area letter, when there is a size letter: a byte and no bit. -/
def sized? (area : Area) (cs : List Char) : Option Address := (number? cs).map (ofByte area)

/-- What follows the area letter, when there is no size letter: a byte and perhaps a bit. -/
def unsized? (area : Area) (cs : List Char) : Option Address :=
  match Text.splitAt? (· == '.') cs with
  | none => (number? cs).map (ofByte area)
  | some (byte, bit) => do
    let byte ← number? byte
    let bit ← number? bit
    pure ⟨area, byte, bit⟩

/-- An address in capital letters without blanks, its bit unchecked. -/
def ofCapitals? : List Char → Option Address
  | [] => none
  | c :: r =>
    match Area.ofLetter? c with
    | none => none
    | some area =>
      match r with
      | s :: r' => if isSize s then sized? area r' else unsized? area r
      | [] => none

def parse (s : String) : Except Fault Address :=
  match ofCapitals? ((Text.trimChars s.toList).map Char.toUpper) with
  | none => throw (.address (.unreadable s))
  | some a => do
    a.checkBit
    pure a

end FieldImage.Address
