/-! Blank characters, and texts without the blanks around them. -/

namespace FieldImage.Text

/-- A character with the Unicode property White_Space. -/
def isBlank (c : Char) : Bool :=
  let n := c.toNat
  (9 ≤ n && n ≤ 13) || n == 0x20 || n == 0x85 || n == 0xA0 || n == 0x1680 ||
    (0x2000 ≤ n && n ≤ 0x200A) || n == 0x2028 || n == 0x2029 || n == 0x202F || n == 0x205F ||
    n == 0x3000

/-- The characters from the first to the last that is not blank. -/
def trimChars (cs : List Char) : List Char :=
  ((cs.dropWhile isBlank).reverse.dropWhile isBlank).reverse

/-- Splits at the first character that satisfies `p`, which belongs to neither side. -/
def splitAt? (p : Char → Bool) : List Char → Option (List Char × List Char)
  | [] => none
  | c :: r => if p c then some ([], r) else (splitAt? p r).map fun (a, b) => (c :: a, b)

/-- What follows `start`, when the text begins with it. -/
def dropStart? : (start text : List Char) → Option (List Char)
  | [], text => some text
  | _ :: _, [] => none
  | a :: start, b :: text => if a == b then dropStart? start text else none

end FieldImage.Text
