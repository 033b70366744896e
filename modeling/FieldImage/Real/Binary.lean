/-! Binary floating-point formats: bit patterns without the sign as natural numbers, the exact value
of a pattern, and the pattern nearest to a quotient, a tie going to the even one. -/

namespace FieldImage

/-- A format whose finite patterns stand for `m * 2 ^ q` with `m < 2 ^ precision` and
`minExponent ≤ q`. -/
structure BinaryFormat where
  precision : Nat
  minExponent : Int
  /-- The pattern of infinity; every smaller pattern is finite. -/
  infinity : Nat

namespace BinaryFormat

/-- Patterns of 32 bits with 24 bits of precision. -/
def single : BinaryFormat := ⟨24, -149, 0x7F800000⟩

/-- Patterns of 64 bits with 53 bits of precision. -/
def double : BinaryFormat := ⟨53, -1074, 0x7FF0000000000000⟩

def hidden (f : BinaryFormat) : Nat := Nat.pow 2 (f.precision - 1)

/-- The whole number and the exponent of two that a finite pattern stands for. -/
def parts (f : BinaryFormat) (pattern : Nat) : Nat × Int :=
  let e := pattern / f.hidden
  let m := pattern % f.hidden
  if e = 0 then (m, f.minExponent) else (m + f.hidden, f.minExponent + (e - 1 : Nat))

def powerOfTwo (q : Int) : Nat × Nat := (Nat.pow 2 q.toNat, Nat.pow 2 (-q).toNat)

def powerOfTen (k : Int) : Nat × Nat := (Nat.pow 10 k.toNat, Nat.pow 10 (-k).toNat)

/-- The whole number nearest to a quotient, a tie going to the even one. -/
def roundEven (num den : Nat) : Nat :=
  let m := num / den
  let r := num % den
  if 2 * r < den then m
  else if den < 2 * r then m + 1
  else if m % 2 = 0 then m else m + 1

/-- The exponent at which the whole part of a positive quotient has `precision` bits. -/
def exponentOf (f : BinaryFormat) (num den : Nat) : Int :=
  let q : Int := (Nat.log2 num : Int) - (Nat.log2 den : Int) - f.precision
  let (up, down) := powerOfTwo q
  if num * down / (den * up) < 2 * f.hidden then q else q + 1

/-- The pattern nearest to a quotient, infinity when the quotient is past the largest finite
pattern. -/
def nearest (f : BinaryFormat) (num den : Nat) : Nat :=
  if num = 0 then 0
  else
    let q := max f.minExponent (f.exponentOf num den)
    let (up, down) := powerOfTwo q
    let m := roundEven (num * down) (den * up)
    min f.infinity ((q - f.minExponent).toNat * f.hidden + m)

def value (f : BinaryFormat) (pattern : Nat) : Nat × Nat :=
  let (m, q) := f.parts pattern
  let (up, down) := powerOfTwo q
  (m * up, down)

def mul (f : BinaryFormat) (a b : Nat) : Nat :=
  let (an, ad) := f.value a
  let (bn, bd) := f.value b
  f.nearest (an * bn) (ad * bd)

def div (f : BinaryFormat) (a b : Nat) : Nat :=
  let (an, ad) := f.value a
  let (bn, bd) := f.value b
  f.nearest (an * bd) (ad * bn)

/-- The pattern of another format nearest to a finite pattern or infinity. -/
def convert (f g : BinaryFormat) (pattern : Nat) : Nat :=
  if f.infinity ≤ pattern then g.infinity
  else
    let (num, den) := f.value pattern
    g.nearest num den

end BinaryFormat

end FieldImage
