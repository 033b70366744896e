/-! The characters of a YAML text, each with its place. A line ends in one way wherever the text
says how it is written, and a line or paragraph separator stays one. -/

namespace FieldImage.Yaml

def isLineEnd (c : Char) : Bool :=
  let n := c.toNat
  n == 0x0A || n == 0x0D || n == 0x85 || n == 0x2028 || n == 0x2029

def isBlank (c : Char) : Bool := c == ' ' || c == '\t'

/-- A letter, a figure, an underscore or a hyphen, of ASCII alone. -/
def isWordChar (c : Char) : Bool := c.isAlphanum || c == '_' || c == '-'

def isFlowMark (c : Char) : Bool :=
  c == ',' || c == '[' || c == ']' || c == '\x7b' || c == '\x7d'

/-- A character that a YAML text can hold. -/
def isAllowed (c : Char) : Bool :=
  let n := c.toNat
  n == 0x09 || n == 0x0A || n == 0x0D || (0x20 ≤ n && n ≤ 0x7E) || n == 0x85 ||
    (0xA0 ≤ n && n ≤ 0xFFFD) || 0x10000 ≤ n

/-- A character, and how many characters, lines, and characters of its line are before it. -/
structure Spot where
  char : Char
  index : Nat
  line : Nat
  column : Nat
deriving Repr

/-- A text with one way to end a line; only the two separators stay as they are. -/
def uniformEnds : List Char → List Char
  | [] => []
  | '\r' :: '\n' :: r => '\n' :: uniformEnds r
  | c :: r => (if c == '\r' || c.toNat == 0x85 then '\n' else c) :: uniformEnds r

/-- The characters at their places, from a first place on. -/
def spotsFrom (index line column : Nat) : List Char → List Spot
  | [] => []
  | c :: r =>
    ⟨c, index, line, column⟩ ::
      if isLineEnd c then spotsFrom (index + 1) (line + 1) 0 r
      else spotsFrom (index + 1) line (column + 1) r

def spots (s : String) : List Spot := spotsFrom 0 0 0 (uniformEnds s.toList)

namespace Spot

def isBlank (s : Spot) : Bool := Yaml.isBlank s.char

def isLineEnd (s : Spot) : Bool := Yaml.isLineEnd s.char

/-- Whether the character begins its line. -/
def isFirst (s : Spot) : Bool := s.column == 0

end Spot

def startsWith (c : Char) (t : List Spot) : Bool := t.head?.any (·.char == c)

/-- Whether a text is over, or begins with a blank or a line end. -/
def endsWord (t : List Spot) : Bool := t.head?.all fun s => s.isBlank || s.isLineEnd

/-- Whether a line begins with three of a character that end a word. -/
def opensWith (c : Char) : List Spot → Bool
  | x :: y :: z :: r =>
    x.isFirst && x.char == c && y.char == c && z.char == c && endsWord r
  | _ => false

/-- Whether a line begins with the mark that starts or ends a document. -/
def isMarker (t : List Spot) : Bool := opensWith '-' t || opensWith '.' t

/-- What follows the line, none when it holds more than blanks and a comment. -/
def nextLine? (t : List Spot) : Option (List Spot) :=
  let t := t.dropWhile Spot.isBlank
  match if startsWith '#' t then t.dropWhile (!·.isLineEnd) else t with
  | [] => some []
  | s :: r => if s.isLineEnd then some r else none

end FieldImage.Yaml
