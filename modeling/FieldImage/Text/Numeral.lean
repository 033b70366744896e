/-! Whole numbers in writing: the digits of a base, what is wrong with a text that is no number, and
readers that refuse a number above a limit as soon as its digits pass it. -/

namespace FieldImage.Text

/-- What is wrong with the text of a whole number. -/
inductive NumeralFault where
  | empty
  | invalidDigit
  | tooLarge
  | tooSmall
deriving DecidableEq, Repr

def NumeralFault.message : NumeralFault → String
  | .empty => "cannot parse integer from empty string"
  | .invalidDigit => "invalid digit found in string"
  | .tooLarge => "number too large to fit in target type"
  | .tooSmall => "number too small to fit in target type"

/-- The value of a digit; letters count from ten in either case. -/
def digit? (base : Nat) (c : Char) : Option Nat :=
  let n := c.toNat
  let v :=
    if 0x30 ≤ n ∧ n ≤ 0x39 then n - 0x30
    else if 0x61 ≤ n ∧ n ≤ 0x7A then n - 0x61 + 10
    else if 0x41 ≤ n ∧ n ≤ 0x5A then n - 0x41 + 10
    else base
  if v < base then some v else none

/-- A character by its number, when there is one. -/
def charOf? (n : Nat) : Option Char := if n.isValidChar then some (Char.ofNat n) else none

/-- Reads digits after `acc`; the first digit that is no digit or passes `limit` decides the
fault. -/
def readDigits (base limit : Nat) (fault : NumeralFault) : List Char → Nat → Except NumeralFault Nat
  | [], acc => .ok acc
  | c :: r, acc =>
    match digit? base c with
    | none => .error .invalidDigit
    | some d =>
      let next := acc * base + d
      if limit < next then .error fault else readDigits base limit fault r next

/-- Reads an optional `+` and digits of a number up to `limit`. -/
def readUnsigned (base limit : Nat) : List Char → Except NumeralFault Nat
  | [] => .error .empty
  | ['+'] => .error .invalidDigit
  | '+' :: r => readDigits base limit .tooLarge r 0
  | cs => readDigits base limit .tooLarge cs 0

def readSigned (low high : Nat) : List Char → Except NumeralFault Int
  | [] => .error .empty
  | ['+'] => .error .invalidDigit
  | ['-'] => .error .invalidDigit
  | '+' :: r => (readDigits 10 high .tooLarge r 0).map Int.ofNat
  | '-' :: r => (readDigits 10 low .tooSmall r 0).map fun n => -Int.ofNat n
  | cs => (readDigits 10 high .tooLarge cs 0).map Int.ofNat

/-- The letter or figure of a digit below sixteen, letters in lower case. -/
def digitChar (d : Nat) : Char :=
  if d < 10 then Char.ofNat (0x30 + d) else Char.ofNat (0x61 + (d - 10))

/-- The digits of `n` in a base, highest first and at least `width` of them. -/
def digits (base : Nat) : (width n : Nat) → List Char → List Char
  | 0, n, tail => if n = 0 then tail else (Nat.toDigits base n) ++ tail
  | width + 1, n, tail => digits base width (n / base) (digitChar (n % base) :: tail)

def hexLower (width n : Nat) : String := String.ofList (digits 16 width n [])

def hexUpper (width n : Nat) : String := String.ofList ((digits 16 width n []).map Char.toUpper)

end FieldImage.Text
