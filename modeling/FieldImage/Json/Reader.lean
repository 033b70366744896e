import FieldImage.Json
import FieldImage.Real.Binary

/-! Reading JSON text. A number with a point or an exponent, and a whole number past 64 bits, is
rounded in two steps: its first digits to a double, and that times or over a power of ten. What is
well formed is read, also where it stands for no value. -/

namespace FieldImage.Json

def isBlank (c : Char) : Bool := c == ' ' || c == '\n' || c == '\t' || c == '\r'

def skipBlanks (cs : List Char) : List Char := cs.dropWhile isBlank

def isDigit (c : Char) : Bool := '0' ≤ c && c ≤ '9'

/-- Digits gathered as long as the number stays below `2 ^ 64`: the number, how many digits it took,
and the digits left over. -/
def gather : List Char → (n taken : Nat) → Nat × Nat × List Char
  | [], n, taken => (n, taken, [])
  | c :: r, n, taken =>
    let next := 10 * n + (c.toNat - 0x30)
    if next < UInt64.size then gather r next (taken + 1) else (n, taken, c :: r)

/-- A double for `n * 10 ^ exponent`, none when it is past the largest double. The power is a
double, and a power below `10 ^ -308` is taken in steps. -/
def scale? : (fuel : Nat) → (pattern : Nat) → (exponent : Int) → Option Nat
  | 0, pattern, _ => some pattern
  | fuel + 1, pattern, exponent =>
    let power := BinaryFormat.double.nearest (Nat.pow 10 (min exponent.natAbs 308)) 1
    if pattern = 0 then some 0
    else if 308 < exponent then none
    else if 0 ≤ exponent then
      let p := BinaryFormat.double.mul pattern power
      if p < BinaryFormat.double.infinity then some p else none
    else if -308 ≤ exponent then some (BinaryFormat.double.div pattern power)
    else scale? fuel (BinaryFormat.double.div pattern power) (exponent + 308)

/-- The fraction and exponent after the whole digits of a number: the digits after the point, the
exponent, and the rest. None when a point or an exponent letter has no digit after it. -/
def fractionAndExponent? (cs : List Char) :
    Option (List Char × Option (Bool × List Char) × List Char) :=
  let afterPoint? : Option (List Char × List Char) :=
    match cs with
    | '.' :: r =>
      if (r.takeWhile isDigit).isEmpty then none
      else some (r.takeWhile isDigit, r.dropWhile isDigit)
    | _ => some ([], cs)
  match afterPoint? with
  | none => none
  | some (fraction, rest) =>
    match rest with
    | c :: r =>
      if c == 'e' || c == 'E' then
        let (down, r) :=
          match r with
          | '-' :: r => (true, r)
          | '+' :: r => (false, r)
          | _ => (false, r)
        if (r.takeWhile isDigit).isEmpty then none
        else some (fraction, some (down, r.takeWhile isDigit), r.dropWhile isDigit)
      else some (fraction, none, rest)
    | [] => some (fraction, none, rest)

/-- The magnitude of a number that is not whole, from its digits. -/
def magnitude? (whole fraction : List Char) (exponent : Option (Bool × List Char)) : Option Nat :=
  let (n, _, unread) := gather whole 0 0
  let (n, used, _) := gather fraction n 0
  let shift : Int := (unread.length : Int) - (used : Int)
  let pattern := BinaryFormat.double.nearest n 1
  match exponent with
  | none => scale? 40 pattern shift
  | some (down, ds) =>
    let e : Nat := ds.foldl (fun e c => 10 * e + (c.toNat - 0x30)) 0
    if Nat.pow 2 31 ≤ e then if n = 0 ∨ down then some 0 else none
    else
      let total : Int := if down then shift - (e : Int) else shift + (e : Int)
      if total < -20000 then some 0 else scale? 80 pattern total

def number? (cs : List Char) : Option (Json × List Char) :=
  let (isNegative, cs) :=
    match cs with
    | '-' :: r => (true, r)
    | _ => (false, cs)
  let whole := cs.takeWhile isDigit
  match whole with
  | [] => none
  | '0' :: _ :: _ => none
  | _ =>
    match fractionAndExponent? (cs.dropWhile isDigit) with
    | none => none
    | some (fraction, exponent, rest) =>
      let (n, _, unread) := gather whole 0 0
      if fraction.isEmpty && exponent.isNone && unread.isEmpty then
        if !isNegative then some (natural n, rest)
        else if 0 < n ∧ n ≤ Nat.pow 2 63 then some (negative n, rest)
        else some (double true (BinaryFormat.double.nearest n 1), rest)
      else
        match magnitude? whole fraction exponent with
        | some m => some (double isNegative m, rest)
        | none => some (unreadable, rest)

def hex4? : List Char → Option (Nat × List Char)
  | a :: b :: c :: d :: r => do
    let a ← Text.digit? 16 a
    let b ← Text.digit? 16 b
    let c ← Text.digit? 16 c
    let d ← Text.digit? 16 d
    pure (((a * 16 + b) * 16 + c) * 16 + d, r)
  | _ => none

/-- The second half of a pair, escaped like the first. -/
def secondHalf? : List Char → Option (Nat × List Char)
  | '\\' :: 'u' :: r => (hex4? r).filter fun (m, _) => 0xDC00 ≤ m && m < 0xE000
  | _ => none

/-- A code point that is escaped as one or two groups of digits; half of a pair stands for no
character. -/
def unicode? (cs : List Char) : Option (Option Char × List Char) := do
  let (n, r) ← hex4? cs
  if 0xD800 ≤ n ∧ n < 0xDC00 then
    match secondHalf? r with
    | some (m, r) => pure (some (Char.ofNat (0x10000 + (n - 0xD800) * 0x400 + (m - 0xDC00))), r)
    | none => pure (none, r)
  else if 0xDC00 ≤ n ∧ n < 0xE000 then pure (none, r)
  else pure (some (Char.ofNat n), r)

def short? (c : Char) : Option Char :=
  if c == '"' || c == '\\' || c == '/' then some c
  else if c == 'b' then some (Char.ofNat 8)
  else if c == 'f' then some (Char.ofNat 12)
  else if c == 'n' then some '\n'
  else if c == 'r' then some '\r'
  else if c == 't' then some '\t'
  else none

/-- The rest of a string after its opening quote; `back` holds the characters before, last first,
if all of them are characters. -/
def stringRest? : (fuel : Nat) → List Char → (back : Option (List Char)) →
    Option (Option String × List Char)
  | 0, _, _ => none
  | _, [], _ => none
  | fuel + 1, c :: r, back =>
    if c == '"' then some (back.map fun back => String.ofList back.reverse, r)
    else if c.toNat < 0x20 then none
    else if c == '\\' then
      match r with
      | [] => none
      | 'u' :: r => do
        let (c, r) ← unicode? r
        stringRest? fuel r (do pure ((← c) :: (← back)))
      | e :: r => do
        let c ← short? e
        stringRest? fuel r (back.map (c :: ·))
    else stringRest? fuel r (back.map (c :: ·))

def afterQuote? : List Char → Option (List Char)
  | '"' :: r => some r
  | _ => none

mutual

/-- A value at the start of a text; arrays and objects that nest deeper than `depth` stand for
none. -/
def value? : (fuel depth : Nat) → List Char → Option (Json × List Char)
  | 0, _, _ => none
  | fuel + 1, depth, cs =>
    let nested (j : Json) := if depth = 0 then unreadable else j
    match skipBlanks cs with
    | [] => none
    | c :: r =>
      if c == '"' then
        (stringRest? (r.length + 1) r (some [])).map fun (s, r) =>
          ((s.map string).getD unreadable, r)
      else if c == '[' then
        match skipBlanks r with
        | ']' :: r => some (nested (array []), r)
        | r => (items? fuel (depth - 1) r).map fun (items, r) => (nested (array items), r)
      else if c == '\x7b' then
        match skipBlanks r with
        | '\x7d' :: r => some (nested (object []), r)
        | r =>
          (members? fuel (depth - 1) r).map fun (members, r) =>
            (nested ((members.map object).getD unreadable), r)
      else
        match c :: r with
        | 'n' :: 'u' :: 'l' :: 'l' :: r => some (null, r)
        | 't' :: 'r' :: 'u' :: 'e' :: r => some (bool true, r)
        | 'f' :: 'a' :: 'l' :: 's' :: 'e' :: r => some (bool false, r)
        | cs => number? cs

def items? : (fuel depth : Nat) → List Char → Option (List Json × List Char)
  | 0, _, _ => none
  | fuel + 1, depth, cs => do
    let (item, r) ← value? fuel depth cs
    match skipBlanks r with
    | ',' :: r => do
      let (items, r) ← items? fuel depth r
      pure (item :: items, r)
    | ']' :: r => pure ([item], r)
    | _ => none

/-- The members of an object, if all their names are texts, and its closing brace. -/
def members? : (fuel depth : Nat) → List Char → Option (Option (List (String × Json)) × List Char)
  | 0, _, _ => none
  | fuel + 1, depth, cs => do
    let r ← afterQuote? (skipBlanks cs)
    let (name, r) ← stringRest? (r.length + 1) r (some [])
    match skipBlanks r with
    | ':' :: r => do
      let (member, r) ← value? fuel depth r
      let named := name.map fun name => (name, member)
      match skipBlanks r with
      | ',' :: r => do
        let (members, r) ← members? fuel depth r
        pure (do pure ((← named) :: (← members)), r)
      | '\x7d' :: r => pure (named.map fun m => [m], r)
      | _ => none
    | _ => none

end

def parse? (s : String) : Option Json :=
  let cs := s.toList
  match value? (2 * cs.length + 2) 127 cs with
  | some (j, r) => if (skipBlanks r).isEmpty then some j else none
  | none => none

end FieldImage.Json
