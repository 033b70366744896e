import FieldImage.Yaml.Node.Reader
import FieldImage.Yaml.Scalar
import FieldImage.Yaml.Token.Lexer

/-! The value of a YAML document. A reference stands for the node of its anchor; how often nodes are
taken again and how deep collections nest is limited. The keys of a mapping are texts, and a key
that comes again replaces the earlier member. -/

namespace FieldImage.Yaml

def maxDepth : Nat := 128

/-- How many references are followed at most for each unit of a document's length. -/
def maxUses : Nat := 100

/-- The nodes with an anchor, and how many references are followed at most. -/
structure Anchors where
  nodes : List (Nat × Node)
  limit : Nat

def Anchors.ofNode (n : Node) : Anchors := ⟨n.anchored.reverse, n.length * maxUses⟩

/-- A result, with how many references were followed before and after it. -/
abbrev Following := StateT Nat Option

def Anchors.follow (a : Anchors) : Node → Following Node
  | .reference id => fun uses =>
    if a.limit ≤ uses then none
    else (a.nodes.find? (·.1 == id)).map fun n => (n.2, uses + 1)
  | n => pure n

/-- Whether a plain text is the word for null, or nothing. -/
def isNullText (isPlain : Bool) (text : String) : Bool := isPlain && isNull text

/-- The value of a scalar, none when it is not what its tag says. -/
def scalarValue? (tag : Tag) (isPlain : Bool) (text : String) : Option Json :=
  let cs := text.toList
  match tag with
  | .absent | .own none => some (if isPlain then resolve text else .string text)
  | .truth => (truth? text).map .bool
  | .whole => whole? cs
  | .real => real? cs
  | .null => if isNull text && !text.isEmpty then some .null else none
  | .own (some name) => if isNullText isPlain text then some (.string name) else none
  | .foreign => some (.string text)

def Tag.allowsItems : Tag → Bool
  | .own (some _) => false
  | _ => true

def Anchors.key (a : Anchors) (n : Node) : Following String := do
  match ← a.follow n with
  | .scalar _ _ _ text => pure text
  | _ => failure

/-- The value of a node with `depth` levels of collections in it at most. -/
def Anchors.value (a : Anchors) : (depth : Nat) → Node → Following Json
  | 0, n => do
    match ← a.follow n with
    | .scalar _ tag isPlain text => scalarValue? tag isPlain text
    | _ => failure
  | depth + 1, n => do
    match ← a.follow n with
    | .scalar _ tag isPlain text => scalarValue? tag isPlain text
    | .sequence _ tag items =>
      if tag.allowsItems then .array <$> items.mapM (a.value depth) else failure
    | .mapping _ tag members =>
      if tag.allowsItems then
        .object <$> members.foldlM (fun found (k, v) => do
          let name ← a.key k
          let value ← a.value depth v
          pure (Json.putMember name value found)) []
      else failure
    | .reference _ => failure

/-- The members of a document; a document without text has none. -/
def Node.topMembers? (n : Node) : Option (List (String × Json)) :=
  let a := Anchors.ofNode n
  match n with
  | .mapping anchor _ members =>
    match (a.value maxDepth (.mapping anchor .absent members)).run 0 with
    | some (.object members, _) => some members
    | _ => none
  | .scalar _ _ isPlain text => if isPlain && text.isEmpty then some [] else none
  | _ => none

/-- The members of the document in a text, none when it cannot be read or is no mapping. -/
def members? (text : String) : Option (List (String × Json)) := do
  match ← Node.ofTokens? (← tokens? text) with
  | none => some []
  | some n => n.topMembers?

end FieldImage.Yaml
