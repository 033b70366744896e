/-! The three areas of a process image, with their wire codes, letters and names. -/

namespace FieldImage

/-- An area of the process image: what is read from the field, what is written to it, and local
markers. -/
inductive Area where
  | input
  | output
  | memory
deriving DecidableEq, Repr, Inhabited

namespace Area

/-- All areas in the order of their codes. -/
def all : List Area := [input, output, memory]

/-- The areas that a device with register tables serves. -/
def field : List Area := [input, output]

/-- The place of an area among all, which is also its code on the wire. -/
def index : Area → Nat
  | input => 0
  | output => 1
  | memory => 2

def code (a : Area) : Int32 := Int32.ofNat a.index

def ofCode? (code : Int32) : Option Area :=
  if code = 0 then some input
  else if code = 1 then some output
  else if code = 2 then some memory
  else none

def letter : Area → Char
  | input => 'I'
  | output => 'Q'
  | memory => 'M'

def ofLetter? (c : Char) : Option Area :=
  if c = 'I' then some input
  else if c = 'Q' then some output
  else if c = 'M' then some memory
  else none

def name : Area → String
  | input => "INPUT"
  | output => "OUTPUT"
  | memory => "MEMORY"

def keyword : Area → String
  | input => "input"
  | output => "output"
  | memory => "memory"

def ofKeyword? (s : String) : Option Area := all.find? (·.keyword == s)

end Area

end FieldImage
