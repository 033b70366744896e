import FieldImage.LogFilter.Symbol

/-! Sets of characters in patterns: characters, ranges, named sets and sets in brackets, and the
operations on them. Only how deep they nest is kept. -/

namespace FieldImage.LogFilter

def setNames : List String :=
  ["alnum", "alpha", "ascii", "blank", "cntrl", "digit", "graph", "lower", "print", "punct", "space",
   "upper", "word", "xdigit"]

structure SetItems where
  count : Nat
  /-- How deep the deepest item nests. -/
  deepest : Nat
  /-- How deep the operand on the left nests. -/
  left : Option Nat
deriving DecidableEq, Repr

namespace SetItems

def empty : SetItems := ⟨0, 0, none⟩

def push (s : SetItems) (depth : Nat) : SetItems :=
  { s with count := s.count + 1, deepest := max s.deepest depth }

/-- How deep the items nest as one set. -/
def depth (s : SetItems) : Nat :=
  let items := if s.count < 2 then s.deepest else s.deepest + 1
  match s.left with
  | none => items
  | some l => max l items + 1

/-- The items as the operand on the left of an operation. -/
def operate (s : SetItems) : SetItems := ⟨0, 0, some s.depth⟩

end SetItems

/-- The character that decides whether a hyphen makes a range: the next one that counts, where that
of a comment counts too. -/
def peekFrom (all : List Char) : (inComment : Bool) → List Char → Option Char
  | _, [] => all.head?
  | inComment, c :: r =>
    if Text.isBlank c then peekFrom all inComment r
    else if !inComment && c == '#' then peekFrom all true r
    else some c

def Flags.peek (f : Flags) (cs : List Char) : Option Char :=
  if f.spaced then peekFrom cs false cs else cs.head?

/-- A named set after its bracket: whether it is negated, and what follows. -/
def namedSet? : List Char → Option (Bool × List Char)
  | ':' :: r =>
    let (isNegated, r) :=
      match r with
      | '^' :: r => (true, r)
      | _ => (false, r)
    let name := r.takeWhile (· != ':')
    match r.drop name.length with
    | ':' :: ']' :: r => if setNames.contains (String.ofList name) then some (isNegated, r) else none
    | _ => none
  | _ => none

def Flags.allowsNamed (f : Flags) (isNegated : Bool) : Bool :=
  if f.unicode then !f.anyCase else !isNegated

/-- A symbol of a set: after a backslash, or a character. -/
def setSymbol? (f : Flags) : List Char → Option (Symbol × List Char)
  | [] => none
  | '\\' :: r => escape? f r
  | c :: r => some (.char c false, r)

def isRange : Symbol → Symbol → Bool
  | .char a _, .char b _ => a ≤ b
  | _, _ => false

/-- An item that is a symbol or a range: what follows it. -/
def rangeItem? (f : Flags) (cs : List Char) : Option (List Char) := do
  let (a, r) ← setSymbol? f cs
  let r := f.pass r
  match r with
  | [] => none
  | '-' :: t =>
    if f.peek t == some ']' || f.peek t == some '-' then if f.allowsInSet a then some r else none
    else
      let (b, t) ← setSymbol? f (f.pass t)
      if f.allowsInSet a && f.allowsInSet b && isRange a b then some t else none
  | _ => if f.allowsInSet a then some r else none

/-- The hyphens at the start of a set, which stand for themselves. -/
def hyphens (f : Flags) : (fuel : Nat) → SetItems → List Char → SetItems × List Char
  | fuel + 1, s, '-' :: r => hyphens f fuel (s.push 0) (f.pass r)
  | _, s, cs => (s, cs)

/-- The start of a set after its bracket: the items that stand for themselves there. -/
def setStart? (f : Flags) (cs : List Char) : Option (SetItems × List Char) :=
  let cs := f.pass cs
  let (isNegated, cs) :=
    match cs with
    | '^' :: r => (true, f.pass r)
    | _ => (false, cs)
  let (s, cs) := hyphens f cs.length .empty cs
  let (s, cs) :=
    match s.count, cs with
    | 0, ']' :: r => (s.push 0, f.pass r)
    | _, _ => (s, cs)
  if (isNegated && !f.unicode) || (0 < s.count && !f.allowsInSet (.char '-' false)) then none
  else some (s, cs)

/-- The rest of a set after some items: how deep it nests, and what follows it. -/
def setRest? (f : Flags) : (fuel : Nat) → SetItems → List Char → Option (Nat × List Char)
  | 0, _, _ => none
  | fuel + 1, s, cs =>
    match f.pass cs with
    | [] => none
    | '&' :: '&' :: r => setRest? f fuel s.operate r
    | '-' :: '-' :: r => setRest? f fuel s.operate r
    | '~' :: '~' :: r => setRest? f fuel s.operate r
    | ']' :: r => some (s.depth + 1, r)
    | '[' :: r =>
      match namedSet? r with
      | some (isNegated, r) =>
        if f.allowsNamed isNegated then setRest? f fuel (s.push 0) r else none
      | none => do
        let (inner, r) ← setStart? f r
        let (depth, r) ← setRest? f fuel inner r
        setRest? f fuel (s.push depth) r
    | cs => do setRest? f fuel (s.push 0) (← rangeItem? f cs)

def set? (f : Flags) (cs : List Char) : Option (Nat × List Char) := do
  let (s, r) ← setStart? f cs
  setRest? f (cs.length + 1) s r

end FieldImage.LogFilter
