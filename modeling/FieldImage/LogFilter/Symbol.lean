import FieldImage.Text.Blank
import FieldImage.Text.Numeral

/-! The symbols of patterns: characters, escapes, and the flags that say how they are understood.
Patterns know nothing of the properties of characters, so that a symbol that needs them has no
meaning. -/

namespace FieldImage.LogFilter

/-- How the symbols of a pattern are understood. -/
structure Flags where
  /-- Blanks and comments count for nothing. -/
  spaced : Bool
  /-- Symbols stand for characters, else for octets. -/
  unicode : Bool
  /-- Letters match in either case. -/
  anyCase : Bool
deriving DecidableEq, Repr

/-- The flags at the start of a pattern. -/
def Flags.initial : Flags := ⟨false, true, false⟩

def passBlanks : (inComment : Bool) → List Char → List Char
  | _, [] => []
  | true, c :: r => passBlanks (c != '\n') r
  | false, c :: r =>
    if Text.isBlank c then passBlanks false r
    else if c == '#' then passBlanks true r
    else c :: r

/-- What comes next in a pattern. -/
def Flags.pass (f : Flags) (cs : List Char) : List Char := if f.spaced then passBlanks false cs else cs

inductive Symbol where
  /-- A character; `isOctet` when it is written as an octet. -/
  | char (c : Char) (isOctet : Bool)
  /-- Any character. -/
  | any
  /-- Figures, blanks or letters, or all else. -/
  | kind (isNegated : Bool)
  /-- The start or the end of a line or of the text. -/
  | anchor
  /-- The edge of a word, or the lack of one. -/
  | edge
deriving DecidableEq, Repr

/-- A character that stands for itself behind a backslash. -/
def isEscapable (c : Char) : Bool :=
  c.toNat < 0x80 && !c.isAlphanum && c != '<' && c != '>'

/-- A number of hexadecimal digits after `n`. -/
def hexNumber? (f : Flags) : (count n : Nat) → List Char → Option (Nat × List Char)
  | 0, n, cs => some (n, cs)
  | _ + 1, _, [] => none
  | count + 1, n, c :: r =>
    (Text.digit? 16 c).bind fun d => hexNumber? f count (n * 16 + d) (f.pass r)

def numbered? (f : Flags) (width : Nat) (cs : List Char) : Option (Symbol × List Char) := do
  let (n, r) ← hexNumber? f width 0 (f.pass cs)
  some (.char (← Text.charOf? n) (width == 2), r)

/-- The symbol after a backslash. -/
def escape? (f : Flags) : List Char → Option (Symbol × List Char)
  | [] => none
  | c :: r =>
    let char (n : Nat) := some (Symbol.char (Char.ofNat n) false, r)
    if isEscapable c then some (.char c false, r)
    else if c == 'x' then numbered? f 2 r
    else if c == 'u' then numbered? f 4 r
    else if c == 'U' then numbered? f 8 r
    else if c == 'd' || c == 's' || c == 'w' then some (.kind false, r)
    else if c == 'D' || c == 'S' || c == 'W' then some (.kind true, r)
    else if c == 'A' || c == 'z' then some (.anchor, r)
    else if c == 'b' || c == 'B' || c == '<' || c == '>' then some (.edge, r)
    else if c == 'a' then char 7
    else if c == 'f' then char 12
    else if c == 't' then char 9
    else if c == 'n' then char 10
    else if c == 'r' then char 13
    else if c == 'v' then char 11
    else none

def symbol? (f : Flags) : List Char → Option (Symbol × List Char)
  | [] => none
  | '\\' :: r => escape? f r
  | c :: r =>
    if c == '.' then some (.any, r)
    else if c == '^' || c == '$' then some (.anchor, r)
    else some (.char c false, r)

/-- Whether a character has a meaning by itself. Octets past ASCII are no text. -/
def Flags.allowsChar (f : Flags) (c : Char) (isOctet : Bool) : Bool :=
  if f.unicode then !f.anyCase else c.toNat < 0x80 || !isOctet && !f.anyCase

/-- Whether a symbol has a meaning by itself. -/
def Flags.allows (f : Flags) : Symbol → Bool
  | .char c isOctet => f.allowsChar c isOctet
  | .any => f.unicode
  | .kind isNegated => !f.unicode && !isNegated
  | .anchor => true
  | .edge => !f.unicode

/-- Whether a symbol has a meaning in a set of characters. -/
def Flags.allowsInSet (f : Flags) : Symbol → Bool
  | .char c _ => if f.unicode then !f.anyCase else c.toNat < 0x80
  | .kind isNegated => !f.unicode && !isNegated
  | _ => false

end FieldImage.LogFilter
