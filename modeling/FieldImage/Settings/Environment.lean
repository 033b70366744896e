import FieldImage.Text.Blank
import FieldImage.Yaml.Scalar

/-! Settings in environment variables. What follows a common start of the names is a path of keys,
which two underscores or a point part, in any case; a value is a truth value, a number, an array, an
object or a text. -/

namespace FieldImage.Environment

/-- A value that is being read, with what follows it. -/
abbrev Read := Json × List Char

def isBlank (c : Char) : Bool := c == ' ' || ('\t' ≤ c && c ≤ '\r' && c.toNat != 11)

def skipBlanks (cs : List Char) : List Char := cs.dropWhile isBlank

/-- The character that a backslash and a letter stand for. -/
def letter? (c : Char) : Option Char :=
  if c == 'b' then some (Char.ofNat 8)
  else if c == 'f' then some (Char.ofNat 12)
  else if c == 'n' then some '\n'
  else if c == 'r' then some '\r'
  else if c == 't' then some '\t'
  else if c == '"' || c == '\\' then some c
  else none

/-- The characters that fit into the first `n` octets of a text. -/
def firstOctets : (n : Nat) → List Char → List Char
  | _, [] => []
  | n, c :: r => if c.utf8Size ≤ n then c :: firstOctets (n - c.utf8Size) r else []

/-- What is kept of the characters before the first escape, last first: as many octets as there are
characters, so that only ASCII is kept as a whole. -/
def keptBefore (back : List Char) : List Char := (firstOctets back.length back.reverse).reverse

/-- A text between double quotes, after the first of them. -/
def quoted? : (fuel : Nat) → (escaped : Bool) → (back : List Char) → List Char →
    Option (String × List Char)
  | 0, _, _, _ => none
  | _, _, _, [] => none
  | _, _, back, '"' :: r => some (String.ofList back.reverse, r)
  | fuel + 1, escaped, back, '\\' :: c :: r =>
    let back := if escaped then back else keptBefore back
    if c == 'u' || c == 'U' then
      let width := if c == 'u' then 4 else 8
      let ds := r.take width
      if ds.length = width then
        ((Yaml.digits? 16 ds).bind Text.charOf?).bind fun e =>
          quoted? fuel true (e :: back) (r.drop width)
      else none
    else (letter? c).bind fun e => quoted? fuel true (e :: back) r
  | fuel + 1, escaped, back, c :: r =>
    if c == '\t' || 0x20 ≤ c.toNat && c.toNat != 0x7F then quoted? fuel escaped (c :: back) r
    else none

/-- A value without quotes: a number, or a text. -/
def bare (cs : List Char) : Json :=
  let cs := Text.trimChars cs
  let text := Json.string (String.ofList cs)
  let real? : Option Json :=
    match cs with
    | '-' :: r => (Real32.readDecimal? r).map fun d =>
      .double true (Real32.nearestMagnitude BinaryFormat.double d)
    | _ => (Real32.readDecimal? (Yaml.unsigned cs)).map fun d =>
      .double false (Real32.nearestMagnitude BinaryFormat.double d)
  match if cs.contains '.' then real? else none with
  | some j => j
  | none =>
    let half := Nat.pow 2 63
    match Text.readUnsigned 10 (UInt64.size - 1) cs, Text.readSigned half (half - 1) cs with
    | .ok n, _ => .natural n
    | _, .ok i => if i = 0 then .natural 0 else .negative i.natAbs
    | _, _ => text

def isSeparator (c : Char) : Bool :=
  c == ',' || c == '[' || c == ']' || c == '\x7b' || c == '\x7d'

def isKeyChar (c : Char) : Bool := c.isAlphanum || c == '_' || c == '-'

def key? (cs : List Char) : Option (String × List Char) :=
  match cs with
  | '"' :: r => quoted? (r.length + 1) false [] r
  | _ =>
    let name := cs.takeWhile isKeyChar
    if name.isEmpty then none else some (String.ofList name, cs.drop name.length)

mutual

def value? : (fuel : Nat) → List Char → Option Read
  | 0, _ => none
  | fuel + 1, cs =>
    let cs := skipBlanks cs
    let plain : Option Read :=
      let word := cs.takeWhile fun c => !isSeparator c
      some (bare word, cs.drop word.length)
    let read : Option Read :=
      match cs with
      | 't' :: 'r' :: 'u' :: 'e' :: r => some (.bool true, r)
      | 'f' :: 'a' :: 'l' :: 's' :: 'e' :: r => some (.bool false, r)
      | '\x7b' :: r => members? fuel [] r
      | '[' :: r => items? fuel [] r
      | '"' :: r => (quoted? (r.length + 1) false [] r).map fun (s, r) => (.string s, r)
      | c :: r =>
        if c.toNat == 0x27 then
          match r with
          | d :: e :: r =>
            if e.toNat == 0x27 then some (.string (String.singleton d), r) else none
          | _ => none
        else plain
      | [] => plain
    read.map fun (j, r) => (j, skipBlanks r)

def items? : (fuel : Nat) → (back : List Json) → List Char → Option Read
  | 0, _, _ => none
  | fuel + 1, back, cs =>
    match cs with
    | ']' :: r => some (.array back.reverse, r)
    | _ => do
      let (item, r) ← value? fuel cs
      match r with
      | ',' :: r => items? fuel (item :: back) r
      | ']' :: r => pure (.array (item :: back).reverse, r)
      | _ => none

def members? : (fuel : Nat) → (members : List (String × Json)) → List Char → Option Read
  | 0, _, _ => none
  | fuel + 1, members, cs =>
    match cs with
    | '\x7d' :: r => some (.object members, r)
    | _ => do
      let (name, r) ← key? (skipBlanks cs)
      match skipBlanks r with
      | '=' :: r => do
        let (value, r) ← value? fuel r
        let members := Json.putMember name value members
        match r with
        | ',' :: r => members? fuel members r
        | '\x7d' :: r => pure (.object members, r)
        | _ => none
      | _ => none

end

/-- The value of a variable; what does not read as one is a text. -/
def valueOf (s : String) : Json :=
  let cs := s.toList
  match value? (2 * cs.length + 4) cs with
  | some (j, []) => j
  | _ => .string s

/-- The keys of a name, which are parted by two underscores or a point. -/
def keys : (back : List Char) → List Char → List (List Char)
  | back, [] => [back.reverse]
  | back, '_' :: '_' :: r => back.reverse :: keys [] r
  | back, '.' :: r => back.reverse :: keys [] r
  | back, c :: r => keys (c :: back) r

/-- The keys of a variable's name after its start, none for a name with another start or an empty
key. -/
def path? (start name : String) : Option (List String) :=
  let lower := (Text.trimChars name.toList).map Char.toLower
  match Text.dropStart? (start.toList.map Char.toLower) lower with
  | none => none
  | some r =>
    let ks := keys [] (Text.trimChars r)
    if ks.any (·.isEmpty) then none else some (ks.map String.ofList)

/-- A value under a path of keys. -/
def nest (value : Json) : List String → Json
  | [] => value
  | k :: ks => .object [(k, nest value ks)]

end FieldImage.Environment
