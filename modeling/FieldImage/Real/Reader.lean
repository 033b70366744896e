import FieldImage.Real

/-! Reading a single-precision number from decimal text: an optional sign, digits with an optional
point and an optional exponent, or a word for infinity or NaN. The result is the number nearest to
the written one. -/

namespace FieldImage

inductive RealFault where
  | empty
  | invalid
deriving DecidableEq, Repr

def RealFault.message : RealFault → String
  | .empty => "cannot parse float from empty string"
  | .invalid => "invalid float literal"

namespace Real32

def isDigit (c : Char) : Bool := '0' ≤ c && c ≤ '9'

def natOfDigits (ds : List Char) : Nat := ds.foldl (fun n c => 10 * n + (c.toNat - 0x30)) 0

/-- The exponent after its letter: an optional sign and at least one digit, and nothing after. -/
def readExponent? : List Char → Option Int
  | '+' :: ds => if ds ≠ [] ∧ ds.all isDigit then some (natOfDigits ds) else none
  | '-' :: ds => if ds ≠ [] ∧ ds.all isDigit then some (-(natOfDigits ds : Int)) else none
  | ds => if ds ≠ [] ∧ ds.all isDigit then some (natOfDigits ds : Int) else none

/-- What follows the mantissa: nothing, or an exponent. -/
def readTail? : List Char → Option Int
  | [] => some 0
  | c :: r => if c == 'e' || c == 'E' then readExponent? r else none

/-- An unsigned decimal: digits before and after a point, at least one in all. -/
def readDecimal? (cs : List Char) : Option Decimal :=
  let whole := cs.takeWhile isDigit
  let rest := cs.dropWhile isDigit
  let (fraction, rest) :=
    match rest with
    | '.' :: r => (r.takeWhile isDigit, r.dropWhile isDigit)
    | _ => ([], rest)
  if whole.isEmpty && fraction.isEmpty then none
  else (readTail? rest).map fun e => ⟨natOfDigits (whole ++ fraction), e - fraction.length⟩

/-- The magnitude nearest to a decimal. Four hundred places from the point, on either side, the
answer is infinity or zero. -/
def nearestMagnitude (f : BinaryFormat) (d : Decimal) : Nat :=
  let point : Int := (Nat.toDigits 10 d.digits).length + d.exponent
  if d.digits = 0 ∨ point < -400 then 0
  else if 400 < point then f.infinity
  else
    let (tens, tenths) := BinaryFormat.powerOfTen d.exponent
    f.nearest (d.digits * tens) tenths

/-- The words for numbers that are not finite, letters in either case. -/
def readWord? (cs : List Char) : Option Nat :=
  let word := String.ofList (cs.map Char.toLower)
  if word == "inf" || word == "infinity" then some BinaryFormat.single.infinity
  else if word == "nan" then some (BinaryFormat.single.infinity + 0x400000)
  else none

def readMagnitude? (cs : List Char) : Option Nat :=
  match readDecimal? cs with
  | some d => some (nearestMagnitude BinaryFormat.single d)
  | none => readWord? cs

def read (s : String) : Except RealFault Real32 :=
  let (negative, cs) :=
    match s.toList with
    | '-' :: r => (true, r)
    | '+' :: r => (false, r)
    | cs => (false, cs)
  if s.isEmpty then .error .empty
  else
    match readMagnitude? cs with
    | some m => .ok (ofMagnitude negative m)
    | none => .error .invalid

end Real32

end FieldImage
