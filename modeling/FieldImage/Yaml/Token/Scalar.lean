import FieldImage.Text.Numeral
import FieldImage.Yaml.Place

/-! The scalars of YAML: plain words, words in single or double quotes, and literal and folded
blocks. Between two words a single line end counts as a space, and of several all but the first
count; in a literal block each counts. -/

namespace FieldImage.Yaml

/-- What stands between two words: blanks of a line, or line ends. -/
inductive Gap where
  /-- Blanks, last first. -/
  | blanks (back : List Char)
  /-- The first line end, none when a backslash hides it, and the others, last first. -/
  | lines (first : Option Char) (back : List Char)
deriving Repr

namespace Gap

/-- What the gap counts as, last character first. -/
def back : Gap → List Char
  | blanks b => b
  | lines first b =>
    match first with
    | some '\n' => if b.isEmpty then [' '] else b
    | some c => b ++ [c]
    | none => b

def push (c : Char) : Gap → Gap
  | blanks b => if isLineEnd c then lines (some c) [] else blanks (c :: b)
  | lines first b => lines first (if isLineEnd c then c :: b else b)

def isLines : Gap → Bool
  | blanks _ => false
  | lines .. => true

end Gap

/-- The words of a scalar so far, last character first, and the gap after them. -/
structure Words where
  back : List Char
  gap : Gap
deriving Repr

namespace Words

def empty : Words := ⟨[], .blanks []⟩

def closed (w : Words) : List Char := w.gap.back ++ w.back

def take (w : Words) (c : Char) : Words := ⟨c :: w.closed, .blanks []⟩

def pass (w : Words) (c : Char) : Words := { w with gap := w.gap.push c }

def text (w : Words) : String := String.ofList w.back.reverse

def closedText (w : Words) : String := String.ofList w.closed.reverse

end Words

/-! ## Plain scalars -/

def startsPlain (flow : Bool) : List Spot → Bool
  | [] => false
  | s :: r =>
    let c := s.char
    if c == '-' then !r.head?.any Spot.isBlank
    else if c == '?' || c == ':' then !flow && !endsWord r
    else
      !(s.isBlank || s.isLineEnd || isFlowMark c || c == '#' || c == '&' || c == '*' || c == '!' ||
        c == '|' || c == '>' || c.toNat == 0x27 || c == '"' || c == '%' || c == '@' ||
        c.toNat == 0x60)

/-- The rest of a plain scalar. Outside flow collections its further lines begin at `indent` or to
the right of it. -/
def plain (flow : Bool) (indent : Nat) (inWord : Bool) (w : Words) :
    List Spot → Option (Words × List Spot)
  | [] => some (w, [])
  | s :: r =>
    let c := s.char
    let stop := some (w, s :: r)
    if s.isBlank || s.isLineEnd then
      if c == '\t' && w.gap.isLines && s.column < indent then none
      else plain flow indent false (w.pass c) r
    else if !inWord && (c == '#' || isMarker (s :: r) ||
        !flow && w.gap.isLines && s.column < indent) then stop
    else if flow && c == ':' && r.head?.any fun n => isFlowMark n.char || n.char == '?' then none
    else if c == ':' && endsWord r || flow && isFlowMark c then stop
    else plain flow indent true (w.take c) r

/-! ## Quoted scalars -/

/-- The rest of a scalar in single quotes, where a quote is written twice. -/
def singleQuoted (w : Words) : List Spot → Option (String × List Spot)
  | [] => none
  | s :: r =>
    if isMarker (s :: r) then none
    else if s.char.toNat == 0x27 then
      match r with
      | [] => some (w.closedText, [])
      | q :: t =>
        if q.char.toNat == 0x27 then singleQuoted (w.take q.char) t else some (w.closedText, q :: t)
    else if s.isBlank || s.isLineEnd then singleQuoted (w.pass s.char) r
    else singleQuoted (w.take s.char) r

def escaped? (c : Char) : Option Char :=
  if c == '0' then some (Char.ofNat 0)
  else if c == 'a' then some (Char.ofNat 7)
  else if c == 'b' then some (Char.ofNat 8)
  else if c == 't' || c == '\t' then some '\t'
  else if c == 'n' then some '\n'
  else if c == 'v' then some (Char.ofNat 11)
  else if c == 'f' then some (Char.ofNat 12)
  else if c == 'r' then some '\r'
  else if c == 'e' then some (Char.ofNat 0x1B)
  else if c == ' ' || c == '"' || c == '/' || c == '\\' then some c
  else if c == 'N' then some (Char.ofNat 0x85)
  else if c == '_' then some (Char.ofNat 0xA0)
  else if c == 'L' then some (Char.ofNat 0x2028)
  else if c == 'P' then some (Char.ofNat 0x2029)
  else none

/-- How many digits follow the letter of a numeric escape. -/
def escapeWidth? (c : Char) : Option Nat :=
  if c == 'x' then some 2 else if c == 'u' then some 4 else if c == 'U' then some 8 else none

def numbered? (digits : List Spot) : Option Char := do
  let ds ← digits.mapM fun s => Text.digit? 16 s.char
  Text.charOf? (ds.foldl (fun n d => n * 16 + d) 0)

/-- The character after a backslash, and what follows it. -/
def escape? : List Spot → Option (Char × List Spot)
  | [] => none
  | s :: r =>
    match escapeWidth? s.char with
    | none => (escaped? s.char).map fun c => (c, r)
    | some width =>
      if (r.take width).length = width then
        (numbered? (r.take width)).map fun c => (c, r.drop width)
      else none

def doubleQuoted : (fuel : Nat) → Words → List Spot → Option (String × List Spot)
  | 0, _, _ => none
  | _, _, [] => none
  | fuel + 1, w, s :: r =>
    if isMarker (s :: r) then none
    else if s.char == '"' then some (w.closedText, r)
    else if s.isBlank || s.isLineEnd then doubleQuoted fuel (w.pass s.char) r
    else if s.char != '\\' then doubleQuoted fuel (w.take s.char) r
    else if r.head?.any Spot.isLineEnd then
      doubleQuoted fuel ⟨w.closed, .lines none []⟩ (r.drop 1)
    else
      match escape? r with
      | none => none
      | some (c, r) => doubleQuoted fuel (w.take c) r

/-! ## Literal and folded blocks -/

inductive Chomp where
  | strip
  | clip
  | keep
deriving DecidableEq, Repr

/-- The sign for what becomes of the last line ends. -/
def chomp : List Spot → Chomp × List Spot
  | [] => (.clip, [])
  | s :: r => if s.char == '-' then (.strip, r) else if s.char == '+' then (.keep, r)
    else (.clip, s :: r)

/-- What follows the mark of a block: its indentation, when it is said, the fate of the last line
ends, and the lines. -/
def blockHeader? (t : List Spot) : Option (Option Nat × Chomp × List Spot) := do
  let (sign, t) := chomp t
  match t with
  | [] => some (none, sign, [])
  | s :: r =>
    match Text.digit? 10 s.char with
    | none => some (none, sign, ← nextLine? t)
    | some 0 => none
    | some n =>
      let (sign, r) := if sign = .clip then chomp r else (sign, r)
      some (some n, sign, ← nextLine? r)

/-- Passes the lines that hold only indentation, up to a known one or as far as there is: the
widest, the line ends passed, last first, and the rest. -/
def emptyLines? (indent : Option Nat) (widest : Nat) (ends : List Char) :
    List Spot → Option (Nat × List Char × List Spot)
  | [] => some (widest, ends, [])
  | s :: r =>
    let indenting := indent.all (s.column < ·)
    let widest := max widest s.column
    if s.char == ' ' && indenting then emptyLines? indent widest ends r
    else if s.char == '\t' && indenting then none
    else if s.isLineEnd then emptyLines? indent widest (s.char :: ends) r
    else some (widest, ends, s :: r)

/-- The lines of a block so far: its characters, last first, the last line end, the ends of the
empty lines after that, last first, and whether the last line began with a blank. -/
structure BlockLines where
  back : List Char
  lineEnd : Option Char
  empties : List Char
  blankBefore : Bool

namespace BlockLines

/-- The lines with the beginning of one more. -/
def opening (b : BlockLines) (folded blankNow : Bool) : List Char :=
  let joint :=
    if folded && b.lineEnd == some '\n' && !b.blankBefore && !blankNow then
      if b.empties.isEmpty then [' '] else []
    else b.lineEnd.toList
  b.empties ++ joint ++ b.back

def text (b : BlockLines) (sign : Chomp) : String :=
  let last := if sign = .strip then [] else b.lineEnd.toList
  let empties := if sign = .keep then b.empties else []
  String.ofList (empties ++ last ++ b.back).reverse

/-- The further lines, all of one indentation. -/
def gather (folded : Bool) (indent : Nat) :
    (fuel : Nat) → BlockLines → List Spot → Option (BlockLines × List Spot)
  | 0, _, _ => none
  | _, b, [] => some (b, [])
  | fuel + 1, b, s :: r =>
    if s.column ≠ indent then some (b, s :: r)
    else
      let line := (s :: r).takeWhile (!·.isLineEnd)
      let back := (line.map Spot.char).reverse ++ b.opening folded s.isBlank
      match (s :: r).dropWhile (!·.isLineEnd) with
      | [] => some (⟨back, none, [], s.isBlank⟩, [])
      | e :: r => do
        let (_, empties, r) ← emptyLines? (some indent) 0 [] r
        gather folded indent fuel ⟨back, some e.char, empties, s.isBlank⟩ r

end BlockLines

/-- A block after its mark, in a collection whose nodes begin at `indent` or to the right of it. -/
def block? (folded : Bool) (indent : Nat) (t : List Spot) : Option (String × List Spot) := do
  let (said, sign, t) ← blockHeader? t
  let known := said.map fun n => max 1 indent - 1 + n
  let (widest, empties, t) ← emptyLines? known 0 [] t
  let indent := known.getD (max 1 (max indent widest))
  let (b, t) ← BlockLines.gather folded indent (t.length + 1) ⟨[], none, empties, false⟩ t
  some (b.text sign, t)

end FieldImage.Yaml
