import FieldImage.Yaml.Token

/-! The nodes of a YAML document. A name of an anchor stands for a number: how many different names
there were before it. A name that is used again takes a new number, which a later name can take
too. -/

namespace FieldImage.Yaml

inductive Tag where
  | absent
  | truth
  | whole
  | real
  | null
  /-- A tag of the document's own, by its name where that is a text. -/
  | own (name : Option String)
  | foreign
deriving DecidableEq, Repr

def Tag.ofOctets (octets : List UInt8) : Tag :=
  let text := String.fromUTF8? ⟨octets.toArray⟩
  if octets.head? == some 0x21 then
    own (text.map fun s => if s == "!" then s else String.ofList (s.toList.drop 1))
  else if text == some "tag:yaml.org,2002:bool" then truth
  else if text == some "tag:yaml.org,2002:int" then whole
  else if text == some "tag:yaml.org,2002:float" then real
  else if text == some "tag:yaml.org,2002:null" then null
  else foreign

inductive Node where
  | reference (id : Nat)
  | scalar (anchor : Option Nat) (tag : Tag) (isPlain : Bool) (text : String)
  | sequence (anchor : Option Nat) (tag : Tag) (items : List Node)
  | mapping (anchor : Option Nat) (tag : Tag) (members : List (Node × Node))
deriving Repr, Inhabited

namespace Node

def empty : Node := scalar none .absent true ""

mutual

def anchored : Node → List (Nat × Node)
  | reference _ => []
  | scalar a tag isPlain text => a.toList.map fun id => (id, scalar a tag isPlain text)
  | sequence a tag items =>
    a.toList.map (fun id => (id, sequence a tag items)) ++ anchoredItems items
  | mapping a tag members =>
    a.toList.map (fun id => (id, mapping a tag members)) ++ anchoredMembers members

def anchoredItems : List Node → List (Nat × Node)
  | [] => []
  | n :: r => n.anchored ++ anchoredItems r

def anchoredMembers : List (Node × Node) → List (Nat × Node)
  | [] => []
  | (k, v) :: r => k.anchored ++ v.anchored ++ anchoredMembers r

end

mutual

/-- The length of a node: a collection counts at its start and at its end. -/
def length : Node → Nat
  | reference _ => 1
  | scalar .. => 1
  | sequence _ _ items => itemsLength items + 2
  | mapping _ _ members => membersLength members + 2

def itemsLength : List Node → Nat
  | [] => 0
  | n :: r => n.length + itemsLength r

def membersLength : List (Node × Node) → Nat
  | [] => 0
  | (k, v) :: r => k.length + v.length + membersLength r

end

end Node

end FieldImage.Yaml
