import FieldImage.Fault

/-! Paths of files: the names between the slashes, as they are walked one after the other, and the
path of the directory around. -/

namespace FieldImage

structure Path where
  fromRoot : Bool
  names : List String
  /-- Whether a slash follows the last name. -/
  endsInSlash : Bool
deriving DecidableEq, Repr

namespace Path

def maxLength : Nat := 4096

def maxName : Nat := 255

/-- The texts between the slashes. -/
def pieces : (back : List Char) → List Char → List (List Char)
  | back, [] => [back.reverse]
  | back, c :: r => if c == '/' then back.reverse :: pieces [] r else pieces (c :: back) r

def ofText (s : String) : Except PathFault Path :=
  let cs := s.toList
  if cs.any (·.toNat == 0) then throw .holdsNul
  else if s.isEmpty then throw .absent
  else if maxLength ≤ s.utf8ByteSize then throw .tooLong
  else
    let names := (pieces [] cs).filter (!·.isEmpty)
    pure ⟨cs.head? == some '/', names.map String.ofList, cs.getLast? == some '/'⟩

/-- Whether a name is a step in the tree and not the name of a node. -/
def isStep (name : String) : Bool := name == "." || name == ".."

/-- What a path begins with before its first name: a slash, a point, or nothing. -/
def lead : List Char → List Char
  | '/' :: _ => ['/']
  | ['.'] => ['.']
  | '.' :: '/' :: _ => ['.']
  | _ => []

/-- The texts between slashes without those at the end that name nothing. -/
def dropEnd (back : List (List Char)) : List (List Char) :=
  back.dropWhile fun p => p.isEmpty || p == ['.']

/-- The path of the directory that holds what a path names, none for the root and for the empty
path. -/
def parent? (path : String) : Option String :=
  let cs := path.toList
  let lead := lead cs
  match dropEnd (pieces [] (cs.drop lead.length)).reverse with
  | [] => if lead == ['.'] then some "" else none
  | _ :: back =>
    let body := List.intercalate ['/'] (dropEnd back).reverse
    some (String.ofList (lead ++ body))

end Path

end FieldImage
