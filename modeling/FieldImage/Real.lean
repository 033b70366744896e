import FieldImage.Real.Shortest

/-! Single-precision numbers as their bit patterns, so that the payload of a NaN is kept, and the
two ways of writing them. -/

namespace FieldImage

structure Real32 where
  bits : UInt32
deriving DecidableEq, Repr

structure RealLayout where
  /-- Numbers are positional when the point falls from this place on, counted from the first digit.
  -/
  leastPoint : Option Int
  /-- Numbers are positional when the point falls up to this place. -/
  greatestPoint : Option Int
  /-- Whether a whole number ends in `.0`. -/
  pointZero : Bool
  tie : DecimalTie

namespace RealLayout

/-- Never an exponent, and no point in a whole number. -/
def plain : RealLayout := ⟨none, none, false, .up⟩

/-- A point in every positional number, an exponent for the very small and the very large. -/
def json : RealLayout := ⟨some (-5), some 13, true, .even⟩

/-- Whether a number with its point at `point` is written without an exponent. -/
def positional (l : RealLayout) (point : Int) : Bool :=
  l.leastPoint.all (· ≤ point) && l.greatestPoint.all (point ≤ ·)

def zeros (n : Nat) : List Char := List.replicate n '0'

def layDigits (l : RealLayout) (d : Decimal) : List Char :=
  let ds := Nat.toDigits 10 d.digits
  let point : Int := ds.length + d.exponent
  if l.positional point then
    if point ≤ 0 then ['0', '.'] ++ zeros (-point).toNat ++ ds
    else if 0 ≤ d.exponent then
      ds ++ zeros d.exponent.toNat ++ if l.pointZero then ['.', '0'] else []
    else ds.take point.toNat ++ ['.'] ++ ds.drop point.toNat
  else
    let e := point - 1
    ds.take 1 ++ (if ds.length ≤ 1 then [] else '.' :: ds.drop 1) ++
      ['e', if e < 0 then '-' else '+'] ++ Nat.toDigits 10 e.natAbs

/-- A decimal without the zeros at the end of its digits. -/
def strip : (fuel : Nat) → Decimal → Decimal
  | 0, d => d
  | fuel + 1, d =>
    if d.digits ≠ 0 ∧ d.digits % 10 = 0 then strip fuel ⟨d.digits / 10, d.exponent + 1⟩ else d

/-- The text of a finite number. -/
def write (l : RealLayout) (r : Real32) : String :=
  let magnitude := r.bits.toNat % Nat.pow 2 31
  let sign := if Nat.pow 2 31 ≤ r.bits.toNat then ['-'] else []
  let body :=
    if magnitude = 0 then if l.pointZero then ['0', '.', '0'] else ['0']
    else
      let d := BinaryFormat.single.shortest l.tie magnitude
      l.layDigits (strip (Nat.log2 d.digits) d)
  String.ofList (sign ++ body)

end RealLayout

namespace Real32

def magnitude (r : Real32) : Nat := r.bits.toNat % Nat.pow 2 31

def isNaN (r : Real32) : Bool := BinaryFormat.single.infinity < r.magnitude

def isFinite (r : Real32) : Bool := r.magnitude < BinaryFormat.single.infinity

def isNegative (r : Real32) : Bool := Nat.pow 2 31 ≤ r.bits.toNat

def text (r : Real32) : String :=
  if r.isNaN then "NaN"
  else if r.isFinite then RealLayout.plain.write r
  else if r.isNegative then "-inf" else "inf"

/-- The JSON text of a number, null for one that is not finite. -/
def json (r : Real32) : String :=
  if r.isFinite then RealLayout.json.write r else "null"

def ofMagnitude (negative : Bool) (magnitude : Nat) : Real32 :=
  ⟨UInt32.ofNat (if negative then magnitude + Nat.pow 2 31 else magnitude)⟩

end Real32

end FieldImage
