import FieldImage.LogFilter.CharSet
import FieldImage.Text.Letter

/-! Patterns of the values of fields: which texts are one. A pattern has groups, alternatives,
repetitions and sets of characters; how deep they nest is limited. -/

namespace FieldImage.LogFilter

def maxDepth : Nat := 250

structure Parts where
  /-- The alternatives before the one at hand. -/
  closed : Nat
  /-- How deep the deepest of them nests. -/
  closedDepth : Nat
  /-- The parts of the alternative at hand. -/
  count : Nat
  /-- How deep the deepest of them nests, the last one apart. -/
  deepest : Nat
  /-- How deep the last of them nests. -/
  last : Nat
  /-- Whether the last of them can be repeated. -/
  repeatable : Bool
deriving DecidableEq, Repr

namespace Parts

def empty : Parts := ⟨0, 0, 0, 0, 0, false⟩

def push (p : Parts) (depth : Nat) (repeatable : Bool) : Parts :=
  { p with count := p.count + 1, deepest := max p.deepest p.last, last := depth, repeatable }

/-- How deep the alternative at hand nests. -/
def alternativeDepth (p : Parts) : Nat :=
  if p.count < 2 then p.last else max p.deepest p.last + 1

def alternate (p : Parts) : Parts :=
  { empty with closed := p.closed + 1, closedDepth := max p.closedDepth p.alternativeDepth }

def repeated? (p : Parts) : Option Parts :=
  if p.repeatable then some { p with last := p.last + 1 } else none

def depth (p : Parts) : Nat :=
  if p.closed = 0 then p.alternativeDepth else max p.closedDepth p.alternativeDepth + 1

end Parts

/-! ## Groups -/

/-- The name of a group up to its bracket; `back` holds the characters before, last first. -/
def groupName? (back : List Char) : List Char → Option (String × List Char)
  | [] => none
  | c :: r =>
    let fits :=
      if back.isEmpty then c == '_' || Text.isLetter c
      else c == '_' || c == '.' || c == '[' || c == ']' || Text.isLetterOrFigure c
    if c == '>' then if back.isEmpty then none else some (String.ofList back.reverse, r)
    else if fits then groupName? (c :: back) r
    else none

def flagLetters : List Char := ['i', 'm', 's', 'U', 'u', 'R', 'x']

/-- Flags up to a colon or a bracket, each at most once, and those after a hyphen switched off. -/
def flagItems? (back : List Char) : List Char → Option (List Char × Char × List Char)
  | [] => none
  | c :: r =>
    if c == ':' || c == ')' then
      if back.head? == some '-' then none else some (back.reverse, c, r)
    else if !back.contains c && (c == '-' || flagLetters.contains c) then flagItems? (c :: back) r
    else none

/-- What some flags say about one letter. -/
def stateOf (items : List Char) (letter : Char) (before : Bool) : Bool :=
  if (items.takeWhile (· != '-')).contains letter then true
  else if items.contains letter then false
  else before

def Flags.apply (f : Flags) (items : List Char) : Flags :=
  ⟨stateOf items 'x' f.spaced, stateOf items 'u' f.unicode, stateOf items 'i' f.anyCase⟩

inductive Opening where
  /-- A group, perhaps with a name, and the flags in it. -/
  | group (name : Option String) (flags : Flags)
  /-- Flags for the rest of the group around. -/
  | flags (flags : Flags)

/-- Whether a text begins with a look around, which patterns do not have. -/
def looksAround (cs : List Char) : Bool :=
  ["?=", "?!", "?<=", "?<!"].any fun s => (Text.dropStart? s.toList cs).isSome

def opening? (f : Flags) (cs : List Char) : Option (Opening × List Char) :=
  let cs := f.pass cs
  let named (r : List Char) := (groupName? [] r).map fun (name, r) => (Opening.group (some name) f, r)
  if looksAround cs then none
  else
    match cs with
    | '?' :: 'P' :: '<' :: r => named r
    | '?' :: '<' :: r => named r
    | '?' :: r => do
      let (items, stop, r) ← flagItems? [] r
      if stop == ':' then some (.group none (f.apply items), r)
      else if items.isEmpty then none
      else some (.flags (f.apply items), r)
    | cs => some (.group none f, cs)

/-! ## Patterns -/

structure Reading where
  flags : Flags
  /-- The names of groups so far. -/
  names : List String
  parts : Parts
  /-- The groups around, the innermost first, and the flags in them. -/
  outer : List (Parts × Flags)

namespace Reading

def start : Reading := ⟨.initial, [], .empty, []⟩

def push (p : Reading) (depth : Nat) (repeatable : Bool) : Reading :=
  { p with parts := p.parts.push depth repeatable }

def open? (p : Reading) : Opening → Option Reading
  | .flags flags => some { p.push 0 false with flags }
  | .group name flags =>
    if name.any p.names.contains then none
    else some ⟨flags, name.toList ++ p.names, .empty, (p.parts, p.flags) :: p.outer⟩

def close? (p : Reading) : Option Reading :=
  match p.outer with
  | [] => none
  | (parts, flags) :: outer =>
    some { p with flags, outer, parts := parts.push (p.parts.depth + 1) true }

def isWhole (p : Reading) : Bool := p.outer.isEmpty && p.parts.depth ≤ maxDepth

/-- The next part of a pattern, at its first character. -/
def step? (p : Reading) (c : Char) (r : List Char) : Option (Reading × List Char) :=
  if c == '(' then do
    let (opening, r) ← opening? p.flags r
    some (← p.open? opening, r)
  else if c == ')' then p.close?.map fun p => (p, r)
  else if c == '|' then some ({ p with parts := p.parts.alternate }, r)
  else if c == '[' then (set? p.flags r).map fun (depth, r) => (p.push depth true, r)
  else if c == '?' || c == '*' || c == '+' then
    p.parts.repeated?.map fun parts =>
      ({ p with parts }, if r.head? == some '?' then r.drop 1 else r)
  else if c == '\x7b' then none
  else do
    let (s, r) ← symbol? p.flags (c :: r)
    if p.flags.allows s then some (p.push 0 true, r) else none

/-- Whether a text goes on as a pattern to its end. -/
def accepts : (fuel : Nat) → Reading → List Char → Bool
  | 0, _, _ => false
  | fuel + 1, p, cs =>
    match p.flags.pass cs with
    | [] => p.isWhole
    | c :: r =>
      match p.step? c r with
      | none => false
      | some (p, r) => accepts fuel p r

end Reading

/-- Whether a text without a closing brace is a pattern. -/
def isPattern (cs : List Char) : Bool := Reading.start.accepts (cs.length + 1) cs

end FieldImage.LogFilter
