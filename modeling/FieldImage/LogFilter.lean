import FieldImage.LogFilter.Pattern
import FieldImage.Real.Reader

/-! Log filters: directives between commas. A directive is a level, a target, or a target and
perhaps a span with an equals sign and a level. A span can have fields between braces, where a field
can have a value that is a number or a pattern. -/

namespace FieldImage.LogFilter

/-- The names of the levels, the quietest first. -/
def levelNames : List String := ["off", "error", "warn", "info", "debug", "trace"]

/-- Whether a text is a level: its name, its number, or nothing. -/
def isLevel (cs : List Char) : Bool :=
  let lower := String.ofList (cs.map Char.toLower)
  match Text.readUnsigned 10 (UInt64.size - 1) cs with
  | .ok n => n < levelNames.length
  | .error _ => cs.isEmpty || levelNames.contains lower

/-- Whether a text is the value of a field: a number or a pattern. -/
def isValue (cs : List Char) : Bool := (Real32.read (String.ofList cs)).toBool || isPattern cs

/-- Whether a text is a field: a name, or a name, an equals sign and a value. What follows a second
equals sign counts for nothing. -/
def isField (cs : List Char) : Bool :=
  match cs.dropWhile (· != '=') with
  | _ :: r => isValue (r.takeWhile (· != '='))
  | [] => true

/-- The characters from one octet of a text to another. -/
def octets (start stop : Nat) : (place : Nat) → List Char → List Char
  | _, [] => []
  | place, c :: r =>
    let rest := octets start stop (place + c.utf8Size) r
    if start ≤ place && place < stop then c :: rest else rest

inductive Stage where
  | start
  | target
  | span
  /-- In a field that began at an octet. -/
  | field (first : Nat)
  | fields
  | afterSpan
  /-- In a level that began at an octet. -/
  | level (first : Nat)
deriving DecidableEq, Repr

/-- The stage after a character at an octet, none when the character cannot stand there. Fields are
looked for in `whole`. -/
def Stage.next? (whole : List Char) (place : Nat) : Stage → Char → Option Stage
  | start, c =>
    if c == '[' then some span
    else if c == '-' || c == ':' || c == '_' || Text.isLetterOrFigure c then some target
    else none
  | target, c => some (if c == '=' then level (place + 1) else if c == '[' then span else target)
  | span, c =>
    some (if c == ']' then afterSpan else if c == '\x7b' then field (place + 1) else span)
  | field first, c =>
    if c != '\x7d' then some (field first)
    else if first < place && isField (octets first place 0 whole) then some fields
    else none
  | fields, c => if c == ']' then some afterSpan else none
  | afterSpan, c => if c == '=' then some (level (place + 1)) else none
  | level first, _ => some (level first)

/-- The stage at the end of some characters, the first of them at an octet. -/
def run (whole : List Char) : (place : Nat) → Stage → List Char → Option Stage
  | _, s, [] => some s
  | place, s, c :: r => (s.next? whole place c).bind fun s => run whole (place + c.utf8Size) s r

/-- Whether a directive can be read. Blanks around it are passed over, but its fields and its level
are looked for at the same distance from the start of the whole text. -/
def acceptsDirective (cs : List Char) : Bool :=
  match run cs 0 .start (Text.trimChars cs) with
  | some .target => true
  | some .afterSpan => true
  | some (.level first) => isLevel (octets first (String.ofList cs).utf8ByteSize 0 cs)
  | _ => false

def directives : (back : List Char) → List Char → List (List Char)
  | back, [] => [back.reverse]
  | back, c :: r =>
    if c == ',' then back.reverse :: directives [] r else directives (c :: back) r

/-- Whether a filter can be read; nothing between two commas is no directive. -/
def accepts (filter : String) : Bool :=
  ((directives [] filter.toList).filter (!·.isEmpty)).all acceptsDirective

end FieldImage.LogFilter
