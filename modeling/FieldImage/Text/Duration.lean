import FieldImage.Text.Numeral

/-! Lengths of time, and their text: the largest unit that gives a whole part, and a fraction
without the zeros at its end. -/

namespace FieldImage

/-- A length of time in nanoseconds. -/
structure Duration where
  nanos : Nat
deriving DecidableEq, Repr

namespace Duration

def ofMicros (n : Nat) : Duration := ⟨n * 1000⟩

def ofMillis (n : Nat) : Duration := ⟨n * 1000000⟩

def ofSecs (n : Nat) : Duration := ⟨n * 1000000000⟩

def millis (d : Duration) : Nat := d.nanos / 1000000

/-- A point and the places of a fraction below `10 ^ places`, nothing for zero. -/
def fraction (places n : Nat) : String :=
  if n = 0 then ""
  else
    let shown := ((Text.digits 10 places n []).reverse.dropWhile (· == '0')).reverse
    "." ++ String.ofList shown

/-- The text of a duration in seconds, milliseconds, microseconds or nanoseconds. -/
def text (d : Duration) : String :=
  let n := d.nanos
  if 1000000000 ≤ n then toString (n / 1000000000) ++ fraction 9 (n % 1000000000) ++ "s"
  else if 1000000 ≤ n then toString (n / 1000000) ++ fraction 6 (n % 1000000) ++ "ms"
  else if 1000 ≤ n then toString (n / 1000) ++ fraction 3 (n % 1000) ++ "µs"
  else toString n ++ "ns"

end Duration

end FieldImage
