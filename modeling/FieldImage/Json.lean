import FieldImage.Text.Numeral

/-! JSON values, which also hold what settings files say. Numbers are kept apart as they are
written: whole numbers, and all others as double-precision patterns. JSON text gives a whole number
past 64 bits as a pattern too. -/

namespace FieldImage

/-- A JSON value; an object keeps its members in order, repeated names included. -/
inductive Json where
  | null
  | bool (b : Bool)
  /-- A whole number without a sign. -/
  | natural (n : Nat)
  /-- The negative of a positive whole number. -/
  | negative (n : Nat)
  | double (isNegative : Bool) (magnitude : Nat)
  | string (s : String)
  | array (items : List Json)
  | object (members : List (String × Json))
  /-- What is well formed but stands for no value: a number past the largest double, half of a
  surrogate pair, or collections that nest too deep. -/
  | unreadable
deriving Repr, Inhabited

namespace Json

def toText? : Json → Option String
  | string s => some s
  | _ => none

/-- The name of a choice without data: a string, or an object with that name for null. -/
def choice? : Json → Option String
  | string s => some s
  | object [(name, null)] => some name
  | _ => none

/-- Members with one put at the end, or in place of the one of its name. -/
def putMember (name : String) (value : Json) : List (String × Json) → List (String × Json)
  | [] => [(name, value)]
  | (n, v) :: r => if n == name then (n, value) :: r else (n, v) :: putMember name value r

def escapedChar (c : Char) : List Char :=
  if c == '"' then ['\\', '"']
  else if c == '\\' then ['\\', '\\']
  else if c.toNat == 8 then ['\\', 'b']
  else if c.toNat == 12 then ['\\', 'f']
  else if c == '\n' then ['\\', 'n']
  else if c == '\r' then ['\\', 'r']
  else if c == '\t' then ['\\', 't']
  else if c.toNat < 0x20 then ['\\', 'u'] ++ Text.digits 16 4 c.toNat []
  else [c]

def quotedString (s : String) : String :=
  "\"" ++ String.ofList (s.toList.flatMap escapedChar) ++ "\""

/-- The text of an object whose values are texts. -/
def writeObject (members : List (String × String)) : String :=
  "\x7b" ++ String.intercalate "," (members.map fun (k, v) => quotedString k ++ ":" ++ v) ++ "\x7d"

end Json

end FieldImage
