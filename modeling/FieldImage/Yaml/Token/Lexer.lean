import FieldImage.Yaml.Token.Scalar
import FieldImage.Yaml.Token.Tag

/-! From text to tokens. A colon shows that the node before it on its line was a key, so the places
where a key may have begun are kept until then. -/

namespace FieldImage.Yaml

structure KeyPlace where
  /-- How many tokens come before it. -/
  before : Nat
  /-- Whether nothing else than a key can begin there. -/
  isRequired : Bool
  spot : Spot
deriving Repr

/-- Whether the key would be on an earlier line, or too long. -/
def KeyPlace.isPast (k : KeyPlace) (s : Spot) : Bool :=
  k.spot.line < s.line || k.spot.index + 1024 < s.index

/-- What is known between two tokens. -/
structure Lexer where
  /-- The tokens so far, last first. -/
  back : List Token
  /-- The columns of the block collections around, the innermost first. -/
  indents : List Nat
  /-- Whether a key may begin at the next token. -/
  allowsKey : Bool
  /-- Where a key may have begun in the collection at hand. -/
  key : Option KeyPlace
  /-- The same for the collections around a flow collection, the innermost first. -/
  outer : List (Option KeyPlace)

namespace Lexer

def start : Lexer := ⟨[], [], true, none, []⟩

def inFlow (l : Lexer) : Bool := !l.outer.isEmpty

def push (l : Lexer) (t : Token) : Lexer := { l with back := t :: l.back }

/-- Puts a token behind the first `n`. -/
def insert (l : Lexer) (n : Nat) (t : Token) : Lexer :=
  let k := l.back.length - n
  { l with back := l.back.take k ++ t :: l.back.drop k }

/-- The column where the nodes of the block collection at hand begin, at least. -/
def nodeColumn (l : Lexer) : Nat := (l.indents.head?.map (· + 1)).getD 0

/-- Begins a block collection behind the first `n` tokens when a column is to the right of all
those around. -/
def indent (l : Lexer) (column n : Nat) (t : Token) : Lexer :=
  if l.inFlow || !l.indents.head?.all (· < column) then l
  else { l.insert n t with indents := column :: l.indents }

/-- Ends the block collections to the right of a column, or all of them. -/
def outdent (l : Lexer) (column : Option Nat) : Lexer :=
  if l.inFlow then l
  else
    let isOpen (i : Nat) := column.all (· < i)
    { l with
      back := List.replicate (l.indents.takeWhile isOpen).length .blockEnd ++ l.back
      indents := l.indents.dropWhile isOpen }

/-- Forgets the key that may have begun, unless one had to. -/
def dropKey? (l : Lexer) : Option Lexer :=
  if l.key.any (·.isRequired) then none else some { l with key := none }

def dropPast? (l : Lexer) (s : Spot) : Option Lexer :=
  if (l.key :: l.outer).any fun k => k.any fun k => k.isRequired && k.isPast s then none
  else
    let current (k : Option KeyPlace) := k.filter (!·.isPast s)
    some { l with key := current l.key, outer := l.outer.map current }

def noteKey? (l : Lexer) (s : Spot) : Option Lexer :=
  if l.allowsKey then do
    let isRequired := !l.inFlow && l.indents.head? == some s.column
    let l ← l.dropKey?
    some { l with key := some ⟨l.back.length, isRequired, s⟩ }
  else some l

/-- A token that a key may begin with. -/
def node? (l : Lexer) (s : Spot) (t : Token) : Option Lexer := do
  let l ← l.noteKey? s
  some { l.push t with allowsKey := false }

/-- A mark between documents, or a directive. -/
def between? (l : Lexer) (t : Token) : Option Lexer := do
  let l ← (l.outdent none).dropKey?
  some { l.push t with allowsKey := false }

def openFlow? (l : Lexer) (s : Spot) (t : Token) : Option Lexer := do
  let l ← l.noteKey? s
  some { l.push t with allowsKey := true, key := none, outer := l.key :: l.outer }

def closeFlow? (l : Lexer) (t : Token) : Option Lexer := do
  let l ← l.dropKey?
  let l := { l.push t with allowsKey := false }
  match l.outer with
  | [] => some l
  | key :: outer => some { l with key, outer }

def comma? (l : Lexer) : Option Lexer := do
  let l ← l.dropKey?
  some { l.push .comma with allowsKey := true }

/-- Begins a block collection at the token at hand, where one may begin. -/
def openBlock? (l : Lexer) (s : Spot) (t : Token) : Option Lexer :=
  if l.inFlow then some l
  else if l.allowsKey then some (l.indent s.column l.back.length t)
  else none

def dash? (l : Lexer) (s : Spot) : Option Lexer := do
  let l ← (← l.openBlock? s .blockSequence).dropKey?
  some { l.push .dash with allowsKey := true }

def key? (l : Lexer) (s : Spot) : Option Lexer := do
  let l ← (← l.openBlock? s .blockMapping).dropKey?
  some { l.push .key with allowsKey := !l.inFlow }

/-- A colon, which makes a key of the node that may have begun one. -/
def value? (l : Lexer) (s : Spot) : Option Lexer :=
  match l.key with
  | some k =>
    let l := (l.insert k.before .key).indent k.spot.column k.before .blockMapping
    some { l.push .value with allowsKey := false, key := none }
  | none => do
    let l ← l.openBlock? s .blockMapping
    some { l.push .value with allowsKey := !l.inFlow }

/-- Passes blanks, comments and line ends up to a token, and tells whether a key may begin there. At
the start of a line, and where a key may begin, a tab is no blank outside flow collections. -/
def passBlanks (inFlow : Bool) (allowsKey inComment : Bool) : List Spot → Bool × List Spot
  | [] => (allowsKey, [])
  | s :: r =>
    if s.isLineEnd then passBlanks inFlow (allowsKey || !inFlow) false r
    else if inComment then passBlanks inFlow allowsKey true r
    else if s.char == ' ' || s.char == '\t' && (inFlow || !allowsKey) ||
        s.isFirst && s.char.toNat == 0xFEFF then
      passBlanks inFlow allowsKey false r
    else if s.char == '#' then passBlanks inFlow allowsKey true r
    else (allowsKey, s :: r)

/-- A scalar in quotes or in a block, from its mark on. -/
def marked? (l : Lexer) (s : Spot) (r : List Spot) : Option (Lexer × List Spot) :=
  if (s.char == '|' || s.char == '>') && !l.inFlow then do
    let l ← l.dropKey?
    let (text, r) ← block? (s.char == '>') l.nodeColumn r
    some ({ l.push (.scalar false text) with allowsKey := true }, r)
  else if s.char.toNat == 0x27 || s.char == '"' then do
    let (text, r) ← if s.char == '"' then doubleQuoted (r.length + 1) Words.empty r
      else singleQuoted Words.empty r
    some (← l.node? s (.scalar false text), r)
  else if startsPlain l.inFlow (s :: r) then do
    let (w, r) ← plain l.inFlow l.nodeColumn true Words.empty (s :: r)
    let l ← l.node? s (.scalar true w.text)
    some ({ l with allowsKey := w.gap.isLines }, r)
  else none

/-- The token at a place, and what follows it. -/
def token? (l : Lexer) (s : Spot) (r : List Spot) : Option (Lexer × List Spot) :=
  let c := s.char
  let one (l : Option Lexer) := l.map fun l => (l, r)
  if s.isFirst && c == '%' then do
    let (t, r) ← directive? r
    some (← l.between? t, r)
  else if opensWith '-' (s :: r) then (l.between? .documentStart).map fun l => (l, r.drop 2)
  else if opensWith '.' (s :: r) then (l.between? .documentEnd).map fun l => (l, r.drop 2)
  else if c == '[' then one (l.openFlow? s .flowSequence)
  else if c == '\x7b' then one (l.openFlow? s .flowMapping)
  else if c == ']' then one (l.closeFlow? .flowSequenceEnd)
  else if c == '\x7d' then one (l.closeFlow? .flowMappingEnd)
  else if c == ',' then one l.comma?
  else if c == '-' && endsWord r then one (l.dash? s)
  else if c == '?' && (l.inFlow || endsWord r) then one (l.key? s)
  else if c == ':' && (l.inFlow || endsWord r) then one (l.value? s)
  else if c == '*' || c == '&' then do
    let (name, r) ← name? r
    some (← l.node? s (if c == '*' then .reference name else .anchor name), r)
  else if c == '!' then do
    let (t, r) ← tag? l.inFlow r
    some (← l.node? s t, r)
  else l.marked? s r

/-- The tokens of a whole text after those found. -/
def run : (fuel : Nat) → Lexer → List Spot → Option (List Token)
  | 0, _, _ => none
  | fuel + 1, l, t =>
    let (allowsKey, t) := passBlanks l.inFlow l.allowsKey false t
    let l := { l with allowsKey }
    match t with
    | [] => (l.outdent none).dropKey?.map fun l => l.back.reverse
    | s :: r => do
      let l ← l.dropPast? s
      let (l, r) ← (l.outdent (some s.column)).token? s r
      run fuel l r

end Lexer

/-- The tokens of a text, none when it has characters or marks that cannot stand where they are. -/
def tokens? (s : String) : Option (List Token) :=
  if s.toList.all isAllowed then Lexer.start.run (s.length + 1) (spots s) else none

end FieldImage.Yaml
