import FieldImage.Yaml.Place
import FieldImage.Yaml.Scalar

/-! Writing YAML in block style. A string is plain when it reads back as itself there, else in
single quotes, and in double quotes when it has characters that only escapes can show; a string of
several lines is literal text. -/

namespace FieldImage.Yaml

def isPrintable (c : Char) : Bool :=
  let n := c.toNat
  n == 0x0A || (0x20 ≤ n && n ≤ 0x7E) || (0xA0 ≤ n && n ≤ 0xD7FF) ||
    (0xE000 ≤ n && n ≤ 0xFFFD && n != 0xFEFF) || 0x10000 ≤ n

/-- Whether a text is over, or goes on with a character that ends a word. -/
def wordEnds : List Char → Bool
  | [] => true
  | c :: _ => c == ' ' || c == '\t' || isLineEnd c || c.toNat == 0

/-- A character that cannot begin a plain scalar. -/
def isIndicator (c : Char) : Bool :=
  c == '#' || c == ',' || c == '[' || c == ']' || c == '\x7b' || c == '\x7d' || c == '&' ||
    c == '*' || c == '!' || c == '|' || c == '>' || c.toNat == 0x27 || c == '"' || c == '%' ||
    c == '@' || c.toNat == 0x60

/-- Whether the first character, before others, would be an indicator. -/
def opensIndicator : List Char → Bool
  | [] => false
  | c :: r => isIndicator c || (c == '?' || c == ':' || c == '-') && wordEnds r

/-- Whether a later character would end the scalar: a colon before a blank, or a number sign after
one. -/
def hasInnerIndicator : (previous : Char) → List Char → Bool
  | _, [] => false
  | previous, c :: r =>
    c == ':' && wordEnds r || c == '#' && wordEnds [previous] || hasInnerIndicator c r

/-- Whether a text begins like a document mark. -/
def opensMark : List Char → Bool
  | '-' :: '-' :: '-' :: _ => true
  | '.' :: '.' :: '.' :: _ => true
  | _ => false

def hasIndicator (cs : List Char) : Bool :=
  match cs with
  | [] => false
  | c :: r => opensMark cs || opensIndicator cs || hasInnerIndicator c r

/-- Whether a character of one kind stands right before one of another. -/
def hasPair (p q : Char → Bool) : List Char → Bool
  | [] => false
  | [_] => false
  | a :: b :: r => p a && q b || hasPair p q (b :: r)

def isSpace (c : Char) : Bool := c == ' '

/-- Whether only escapes show a text faithfully. -/
def needsEscapes (cs : List Char) : Bool :=
  !cs.all isPrintable || hasPair isSpace isLineEnd cs

def allowsPlain (cs : List Char) : Bool :=
  let open_ (c : Option Char) := c.any fun c => c == ' '
  !needsEscapes cs && !open_ cs.head? && !open_ cs.getLast? && !cs.any isLineEnd &&
    !hasIndicator cs

/-- Whether a text can be in single quotes. -/
def allowsSingle (cs : List Char) : Bool := !needsEscapes cs && !hasPair isLineEnd isSpace cs

def allowsLiteral (cs : List Char) : Bool := !needsEscapes cs && !cs.getLast?.any isSpace

inductive Style where
  | plain
  | single
  | double
  | literal
deriving DecidableEq, Repr

/-- Whether a text would not be read as a string without quotes. -/
def isAmbiguous (s : String) : Bool :=
  match resolve s with
  | .string _ => isZeroLed s.toList
  | _ => true

def styleOf (s : String) : Style :=
  let cs := s.toList
  if cs.contains '\n' then if allowsLiteral cs then .literal else .double
  else if !isAmbiguous s && allowsPlain cs then .plain
  else if allowsSingle cs then .single else .double

def doubleChar (c : Char) : List Char :=
  let n := c.toNat
  if c == '"' || c == '\\' then ['\\', c]
  else if isPrintable c && !isLineEnd c then [c]
  else if n == 0 then ['\\', '0']
  else if n == 7 then ['\\', 'a']
  else if n == 8 then ['\\', 'b']
  else if c == '\t' then ['\\', 't']
  else if c == '\n' then ['\\', 'n']
  else if n == 11 then ['\\', 'v']
  else if n == 12 then ['\\', 'f']
  else if c == '\r' then ['\\', 'r']
  else if n == 0x1B then ['\\', 'e']
  else if n == 0x85 then ['\\', 'N']
  else if n == 0x2028 then ['\\', 'L']
  else if n == 0x2029 then ['\\', 'P']
  else if n < 0x100 then ['\\', 'x'] ++ (Text.hexUpper 2 n).toList
  else if n < 0x10000 then ['\\', 'u'] ++ (Text.hexUpper 4 n).toList
  else ['\\', 'U'] ++ (Text.hexUpper 8 n).toList

/-- A text with every line after the first indented, empty lines apart, and behind a line end as
much indentation as `last`. -/
def indentLines (indent last : Nat) : (starting : Bool) → List Char → List Char
  | starting, [] => if starting then List.replicate last ' ' else []
  | starting, c :: r =>
    if isLineEnd c then c :: indentLines indent last true r
    else
      (if starting then List.replicate indent ' ' else []) ++ c :: indentLines indent last false r

/-- The mark of literal text: a digit when its first line begins with a blank, and how it ends. -/
def literalHeader (cs : List Char) : List Char :=
  let hint := if cs.head?.any fun c => isSpace c || isLineEnd c then ['2'] else []
  let chomp :=
    match cs.reverse with
    | c :: d :: _ => if isLineEnd c then if isLineEnd d then ['+'] else [] else ['-']
    | [c] => if isLineEnd c then ['+'] else ['-']
    | [] => ['-']
  '|' :: (hint ++ chomp)

/-- A string whose further lines are indented. -/
def writeString (indent : Nat) (s : String) : List Char :=
  let cs := s.toList
  let quote := Char.ofNat 0x27
  match styleOf s with
  | .plain => cs
  | .single =>
    let doubled := cs.flatMap fun c => if c == quote then [c, c] else [c]
    quote :: indentLines indent indent false doubled ++ [quote]
  | .double => '"' :: cs.flatMap doubleChar ++ ['"']
  | .literal => literalHeader cs ++ '\n' :: indentLines indent 0 true cs

inductive Datum where
  | null
  | flag (b : Bool)
  | number (n : Nat)
  | text (s : String)
deriving DecidableEq, Repr

/-- A value, whose further lines are indented. -/
def writeDatum (indent : Nat) : Datum → List Char
  | .null => "null".toList
  | .flag b => (toString b).toList
  | .number n => (toString n).toList
  | .text s => writeString indent s

/-- The line end after a value, which a literal text that ends in one has already. -/
def endLine (cs : List Char) : List Char :=
  if cs.getLast?.any isLineEnd then cs else cs ++ ['\n']

def writeMember (indent : Nat) (name : String) (value : Datum) : List Char :=
  List.replicate indent ' ' ++ name.toList ++ [':', ' '] ++
    endLine (writeDatum (indent + 2) value)

inductive Entry where
  | datum (value : Datum)
  | group (members : List (String × Datum))
deriving DecidableEq, Repr

def writeEntries (entries : List (String × Entry)) : String :=
  String.ofList (entries.flatMap fun (name, entry) =>
    match entry with
    | .datum value => writeMember 0 name value
    | .group members =>
      name.toList ++ [':', '\n'] ++ members.flatMap fun (name, value) => writeMember 2 name value)

end FieldImage.Yaml
