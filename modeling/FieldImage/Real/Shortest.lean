import FieldImage.Real.Binary
import FieldImage.Text.Numeral

/-! The fewest digits that read back: for a finite pattern, the coarsest power of ten with a
multiple among the numbers that round to the pattern, and of its multiples there the one nearest to
the pattern's value. -/

namespace FieldImage

inductive DecimalTie where
  | up
  | even
deriving DecidableEq, Repr

/-- A positive decimal `digits * 10 ^ exponent`. -/
structure Decimal where
  digits : Nat
  exponent : Int
deriving DecidableEq, Repr

namespace BinaryFormat

/-- The numbers that round to `m * 2 ^ q`, in quarters of its unit; the ends belong to it when `m`
is even. -/
structure Basin where
  low : Nat
  value : Nat
  high : Nat
  closed : Bool

/-- The half unit below is a quarter where a binade begins above the least exponent. -/
def basin (f : BinaryFormat) (m : Nat) (q : Int) : Basin :=
  { low := if m = f.hidden ∧ f.minExponent < q then 4 * m - 1 else 4 * m - 2
    value := 4 * m
    high := 4 * m + 2
    closed := m % 2 = 0 }

/-- Whether `x` lies in a basin scaled by `unit`. -/
def Basin.holds (b : Basin) (unit x : Nat) : Bool :=
  if b.closed then b.low * unit ≤ x && x ≤ b.high * unit
  else b.low * unit < x && x < b.high * unit

/-- The multiple of `10 ^ k` in the basin that is nearest to the value. -/
def onGrid? (tie : DecimalTie) (b : Basin) (q k : Int) : Option Nat :=
  let (tens, tenths) := powerOfTen k
  let (twos, halves) := powerOfTwo (q - 2)
  let unit := twos * tenths
  let step := tens * halves
  let v := b.value * unit
  let d := v / step
  let below := b.holds unit (d * step)
  let above := b.holds unit ((d + 1) * step)
  if below && above then
    let gap := 2 * (v - d * step)
    let up : Bool :=
      match tie with
      | .up => step ≤ gap
      | .even => step < gap || (gap == step && d % 2 == 1)
    some (if up then d + 1 else d)
  else if below then some d
  else if above then some (d + 1)
  else none

/-- The shortest decimal of a positive finite pattern, sought on `steps` grids from `10 ^ top`
down. -/
def shortestFrom (tie : DecimalTie) (b : Basin) (q : Int) : (steps : Nat) → (top : Int) → Decimal
  | 0, top => ⟨0, top⟩
  | steps + 1, top =>
    match onGrid? tie b q top with
    | some d => ⟨d, top⟩
    | none => shortestFrom tie b q steps (top - 1)

/-- The shortest decimal of a positive finite pattern. Three tenths of the binary places bound the
decimal ones. -/
def shortest (f : BinaryFormat) (tie : DecimalTie) (pattern : Nat) : Decimal :=
  let (m, q) := f.parts pattern
  let top := 3 * (f.precision + f.minExponent.natAbs) / 10 + 1
  shortestFrom tie (f.basin m q) q (2 * top + 1) top

end BinaryFormat

end FieldImage
