import FieldImage.Json
import FieldImage.Real.Reader

/-! Plain scalars of YAML: the value that a text without quotes stands for. It is null, a truth
value or a number when it reads as one, and a string otherwise. -/

namespace FieldImage.Yaml

/-- A text without the sign before it. -/
def unsigned : List Char → List Char
  | '-' :: r => r
  | '+' :: r => r
  | cs => cs

/-- Digits after a zero, which make no number. -/
def isZeroLed (cs : List Char) : Bool :=
  match unsigned cs with
  | '0' :: c :: r => (c :: r).all Real32.isDigit
  | _ => false

def digits? (base : Nat) (cs : List Char) : Option Nat :=
  if cs.isEmpty then none
  else (cs.mapM (Text.digit? base)).map fun ds => ds.foldl (fun n d => n * base + d) 0

/-- A number after the mark of its base, or in decimal. -/
def magnitude? : List Char → Option Nat
  | '0' :: 'x' :: r => digits? 16 r
  | '0' :: 'o' :: r => digits? 8 r
  | '0' :: 'b' :: r => digits? 2 r
  | cs => digits? 10 cs

/-- A whole number with an optional sign, of at most 128 bits. -/
def whole? (cs : List Char) : Option Json :=
  let upTo (limit : Nat) (cs : List Char) := (magnitude? cs).filter (· ≤ limit)
  if isZeroLed cs then none
  else
    match cs with
    | '-' :: r =>
      (upTo (Nat.pow 2 127) r).map fun n => if n = 0 then .natural 0 else .negative n
    | '+' :: r => (upTo (Nat.pow 2 128 - 1) r).map .natural
    | cs => (upTo (Nat.pow 2 128 - 1) cs).map .natural

def finite? (isNegative : Bool) (cs : List Char) : Option Json :=
  match Real32.readDecimal? cs with
  | none => none
  | some d =>
    let m := Real32.nearestMagnitude BinaryFormat.double d
    if m < BinaryFormat.double.infinity then some (.double isNegative m) else none

/-- The pattern of a word for infinity or for no number. -/
def word? (s : String) : Option Nat :=
  if s == ".inf" || s == ".Inf" || s == ".INF" then some BinaryFormat.double.infinity
  else if s == ".nan" || s == ".NaN" || s == ".NAN" then
    some (BinaryFormat.double.infinity + Nat.pow 2 51)
  else none

def real? (cs : List Char) : Option Json :=
  match cs with
  | '-' :: r =>
    match word? (String.ofList r) with
    | some m => if m = BinaryFormat.double.infinity then some (.double true m) else none
    | none => finite? true r
  | '+' :: r =>
    match word? (String.ofList r) with
    | some m => if m = BinaryFormat.double.infinity then some (.double false m) else none
    | none => finite? false r
  | cs =>
    match word? (String.ofList cs) with
    | some m => some (.double false m)
    | none => finite? false cs

def isNull (s : String) : Bool := s == "" || s == "~" || s == "null" || s == "Null" || s == "NULL"

def truth? (s : String) : Option Bool :=
  if s == "true" || s == "True" || s == "TRUE" then some true
  else if s == "false" || s == "False" || s == "FALSE" then some false
  else none

def resolve (s : String) : Json :=
  let cs := s.toList
  if isNull s then .null
  else
    match truth? s with
    | some b => .bool b
    | none =>
      match whole? cs with
      | some j => j
      | none => if isZeroLed cs then .string s else (real? cs).getD (.string s)

end FieldImage.Yaml
