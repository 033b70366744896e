import FieldImage.Text.Numeral
import FieldImage.Yaml.Place
import FieldImage.Yaml.Token

/-! Anchors, references, tags and directives: the tokens that are names. -/

namespace FieldImage.Yaml

def word (t : List Spot) : List Char × List Spot :=
  ((t.takeWhile fun s => isWordChar s.char).map Spot.char, t.dropWhile fun s => isWordChar s.char)

/-- A character that can follow the name of an anchor at once. -/
def endsName (c : Char) : Bool :=
  c == '?' || c == ':' || c == ',' || c == ']' || c == '\x7d' || c == '%' || c == '@' ||
    c.toNat == 0x60

def name? (t : List Spot) : Option (String × List Spot) :=
  let (name, r) := word t
  if name.isEmpty then none
  else if endsWord r || r.head?.any fun s => endsName s.char then some (String.ofList name, r)
  else none

/-! ## Tags -/

/-- A character of a tag; a tag between angle brackets has some more. -/
def isTagChar (bracketed : Bool) (c : Char) : Bool :=
  isWordChar c || c == ';' || c == '/' || c == '?' || c == ':' || c == '@' || c == '&' ||
    c == '=' || c == '+' || c == '$' || c == '.' || c == '!' || c == '~' || c == '*' ||
    c.toNat == 0x27 || c == '(' || c == ')' || bracketed && (c == ',' || c == '[' || c == ']')

/-- An octet that is written as a percent sign and two digits. -/
def octet? : List Spot → Option (UInt8 × List Spot)
  | p :: a :: b :: r => do
    let a ← Text.digit? 16 a.char
    let b ← Text.digit? 16 b.char
    if p.char == '%' then some (UInt8.ofNat (16 * a + b), r) else none
  | _ => none

/-- How many octets a character has after its first. -/
def following? (octet : UInt8) : Option Nat :=
  if octet < 0x80 then some 0
  else if octet < 0xC0 then none
  else if octet < 0xE0 then some 1
  else if octet < 0xF0 then some 2
  else if octet < 0xF8 then some 3
  else none

/-- A number of octets that go on with a character. -/
def continuation? : Nat → List Spot → Option (List UInt8 × List Spot)
  | 0, t => some ([], t)
  | n + 1, t => do
    let (o, t) ← octet? t
    let (os, t) ← continuation? n t
    if 0x80 ≤ o && o < 0xC0 then some (o :: os, t) else none

/-- The octets of one character at the start of a tag, none at its end. -/
def tagOctets? (bracketed : Bool) (t : List Spot) : Option (Option (List UInt8 × List Spot)) :=
  match t with
  | [] => some none
  | s :: r =>
    if s.char == '%' then do
      let (o, t) ← octet? t
      let (os, t) ← continuation? (← following? o) t
      some (some (o :: os, t))
    else if isTagChar bracketed s.char then some (some ([UInt8.ofNat s.char.toNat], r))
    else some none

def tagText? (bracketed : Bool) : (fuel : Nat) → List Spot → Option (List UInt8 × List Spot)
  | 0, t => some ([], t)
  | fuel + 1, t => do
    match ← tagOctets? bracketed t with
    | none => some ([], t)
    | some (os, t) =>
      let (rest, t) ← tagText? bracketed fuel t
      some (os ++ rest, t)

/-- The octets of a tag, of which those from a zero on do not count. -/
def counted (octets : List UInt8) : List UInt8 := octets.takeWhile (· != 0)

/-- The octets of a tag, written as one character at least. -/
def tagOctets1? (bracketed : Bool) (t : List Spot) : Option (List UInt8 × List Spot) := do
  let (os, r) ← tagText? bracketed t.length t
  if os.isEmpty then none else some (counted os, r)

def octetsOf (cs : List Char) : List UInt8 := cs.map fun c => UInt8.ofNat c.toNat

/-- A tag after its exclamation mark. A name between two marks is a handle; else the mark alone is
one, and a mark without anything after it is the whole tag. -/
def tag? (flow : Bool) (t : List Spot) : Option (Token × List Spot) := do
  let (token, r) ←
    if startsWith '<' t then do
      let (os, r) ← tagOctets1? true (t.drop 1)
      if startsWith '>' r then some (Token.tag "" os, r.drop 1) else none
    else
      let (name, r) := word t
      if startsWith '!' r then do
        let (os, r) ← tagOctets1? false (r.drop 1)
        some (Token.tag ("!" ++ String.ofList name ++ "!") os, r)
      else do
        let (os, r) ← tagText? false r.length r
        let os := counted (octetsOf name ++ os)
        some (if os.isEmpty then Token.tag "" (octetsOf ['!']) else Token.tag "!" os, r)
  if endsWord r || flow && startsWith ',' r then some (token, r) else none

/-! ## Directives -/

/-- A number of at most nine figures. -/
def versionNumber? (t : List Spot) : Option (Nat × List Spot) :=
  let isFigure (s : Spot) := s.char.isDigit
  let ds := t.takeWhile isFigure
  if ds.isEmpty || 9 < ds.length then none
  else some (ds.foldl (fun n d => 10 * n + (d.char.toNat - 0x30)) 0, t.dropWhile isFigure)

def version? (t : List Spot) : Option (Token × List Spot) := do
  let (major, t) ← versionNumber? (t.dropWhile Spot.isBlank)
  if startsWith '.' t then
    let (minor, t) ← versionNumber? (t.drop 1)
    some (.version major minor, t)
  else none

/-- A handle of a directive: one mark, two marks, or a name between two. -/
def handle? (t : List Spot) : Option (String × List Spot) :=
  if startsWith '!' t then
    let (name, r) := word (t.drop 1)
    if startsWith '!' r then some ("!" ++ String.ofList name ++ "!", r.drop 1)
    else if name.isEmpty then some ("!", r) else none
  else none

def tagHandle? (t : List Spot) : Option (Token × List Spot) := do
  let (handle, t) ← handle? (t.dropWhile Spot.isBlank)
  if t.head?.any Spot.isBlank then
    let (os, t) ← tagOctets1? true (t.dropWhile Spot.isBlank)
    if endsWord t then some (.tagHandle handle os, t) else none
  else none

/-- A directive after its percent sign, to the end of its line. -/
def directive? (t : List Spot) : Option (Token × List Spot) := do
  let (name, t) := word t
  let (token, t) ←
    if !endsWord t then none
    else if name == "YAML".toList then version? t
    else if name == "TAG".toList then tagHandle? t
    else none
  some (token, ← nextLine? t)

end FieldImage.Yaml
