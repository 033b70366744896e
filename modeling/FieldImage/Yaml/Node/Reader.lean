import FieldImage.Yaml.Node

/-! From tokens to the one document of a stream. -/

namespace FieldImage.Yaml.Node

/-- What the directives of a document say: whether there was a version, and the handles. -/
structure Directives where
  hasVersion : Bool
  handles : List (String × List UInt8)

def octets (s : String) : List UInt8 := s.toUTF8.toList

/-- The octets that a handle stands for. -/
def Directives.lookup? (d : Directives) (handle : String) : Option (List UInt8) :=
  let always := [("!", octets "!"), ("!!", octets "tag:yaml.org,2002:")]
  ((d.handles ++ always).find? (·.1 == handle)).map (·.2)

/-- The directives at the start of a document; each is said once, and the version is known. -/
def Directives.read? (d : Directives) : List Token → Option (Directives × List Token)
  | .version major minor :: r =>
    if !d.hasVersion && major == 1 && (minor == 1 || minor == 2) then
      read? { d with hasVersion := true } r
    else none
  | .tagHandle handle os :: r =>
    if d.handles.any (·.1 == handle) then none
    else read? { d with handles := d.handles ++ [(handle, os)] } r
  | ts => some (d, ts)

/-- The tokens that are left, and the numbers of the names so far. -/
structure Rest where
  tokens : List Token
  names : List (String × Nat)

def Rest.number (r : Rest) (name : String) : Nat × Rest :=
  let id := r.names.length
  let others := r.names.filter (·.1 != name)
  (id, { r with names := others ++ [(name, id)] })

def Rest.after (r : Rest) (tokens : List Token) : Rest := { r with tokens }

/-- The anchor and the tag before a node. -/
structure Properties where
  anchor : Option Nat
  /-- The octets of the tag. -/
  tag : Option (List UInt8)

def Properties.kind (p : Properties) : Tag := (p.tag.map Tag.ofOctets).getD .absent

/-- The tag of a scalar, for which a mark alone is none. -/
def Properties.scalarKind (p : Properties) : Tag :=
  if p.tag == some (octets "!") then .absent else p.kind

/-- A tag by its handle. -/
def resolve? (d : Directives) (handle : String) (os : List UInt8) : Option (List UInt8) :=
  if handle.isEmpty then some os else (d.lookup? handle).map (· ++ os)

/-- The properties before a node, in either order. -/
def properties? (d : Directives) (r : Rest) : Option (Properties × Rest) :=
  match r.tokens with
  | .anchor name :: .tag handle os :: ts => do
    let (id, r) := r.number name
    some (⟨some id, ← resolve? d handle os⟩, r.after ts)
  | .tag handle os :: .anchor name :: ts => do
    let (id, r) := r.number name
    some (⟨some id, ← resolve? d handle os⟩, r.after ts)
  | .anchor name :: ts =>
    let (id, r) := r.number name
    some (⟨some id, none⟩, r.after ts)
  | .tag handle os :: ts => do some (⟨none, ← resolve? d handle os⟩, r.after ts)
  | _ => some (⟨none, none⟩, r)

def Rest.isAt (r : Rest) (ts : List Token) : Bool := r.tokens.head?.any ts.contains

def Rest.pass? (r : Rest) (t : Token) : Option Rest :=
  match r.tokens with
  | u :: ts => if u == t then some (r.after ts) else none
  | [] => none

def Rest.skip (r : Rest) : Rest := r.after (r.tokens.drop 1)

mutual

/-- A node. Where `block` holds it can be a block collection, and where `indentless` holds, the
items of a sequence can stand without an indentation of their own. -/
def read? (d : Directives) :
    (fuel : Nat) → (block indentless : Bool) → Rest → Option (Node × Rest)
  | 0, _, _, _ => none
  | fuel + 1, block, indentless, r =>
    match r.tokens with
    | .reference name :: ts => do
      let (_, id) ← r.names.find? (·.1 == name)
      some (reference id, r.after ts)
    | _ => do
      let (p, r) ← properties? d r
      let items (found : List Node × Rest) := (sequence p.anchor p.kind found.1, found.2)
      let members (found : List (Node × Node) × Rest) := (mapping p.anchor p.kind found.1, found.2)
      let bare := if p.anchor.isSome || p.tag.isSome then
        some (scalar p.anchor p.kind true "", r) else none
      match r.tokens with
      | .dash :: _ => if indentless then (looseItems? d fuel r).map items else bare
      | .scalar isPlain text :: ts =>
        some (scalar p.anchor p.scalarKind isPlain text, r.after ts)
      | .flowSequence :: ts => (flowItems? d fuel true (r.after ts)).map items
      | .flowMapping :: ts => (flowMembers? d fuel true (r.after ts)).map members
      | .blockSequence :: ts => if block then (items? d fuel (r.after ts)).map items else bare
      | .blockMapping :: ts => if block then (members? d fuel (r.after ts)).map members else bare
      | _ => bare

/-- A node, or the empty node where the next token ends it. -/
def readUnless? (d : Directives) : (fuel : Nat) → (block indentless : Bool) → (ends : List Token) →
    Rest → Option (Node × Rest)
  | 0, _, _, _, _ => none
  | fuel + 1, block, indentless, ends, r =>
    if r.isAt ends then some (empty, r) else read? d fuel block indentless r

def items? (d : Directives) : (fuel : Nat) → Rest → Option (List Node × Rest)
  | 0, _ => none
  | fuel + 1, r =>
    match r.pass? .dash with
    | none => (r.pass? .blockEnd).map fun r => ([], r)
    | some r => do
      let (n, r) ← readUnless? d fuel true false [.dash, .blockEnd] r
      let (ns, r) ← items? d fuel r
      some (n :: ns, r)

/-- The items of a block sequence at the column of the collection around. -/
def looseItems? (d : Directives) : (fuel : Nat) → Rest → Option (List Node × Rest)
  | 0, _ => none
  | fuel + 1, r =>
    match r.pass? .dash with
    | none => some ([], r)
    | some r => do
      let (n, r) ← readUnless? d fuel true false [.dash, .key, .value, .blockEnd] r
      let (ns, r) ← looseItems? d fuel r
      some (n :: ns, r)

/-- A value behind its mark, or the empty node. -/
def valueUnless? (d : Directives) : (fuel : Nat) → (block : Bool) → (ends : List Token) →
    Rest → Option (Node × Rest)
  | 0, _, _, _ => none
  | fuel + 1, block, ends, r =>
    match r.pass? .value with
    | none => some (empty, r)
    | some r => readUnless? d fuel block block ends r

def members? (d : Directives) : (fuel : Nat) → Rest → Option (List (Node × Node) × Rest)
  | 0, _ => none
  | fuel + 1, r =>
    match r.pass? .key with
    | none => (r.pass? .blockEnd).map fun r => ([], r)
    | some r => do
      let ends : List Token := [.key, .value, .blockEnd]
      let (k, r) ← readUnless? d fuel true true ends r
      let (v, r) ← valueUnless? d fuel true ends r
      let (ms, r) ← members? d fuel r
      some ((k, v) :: ms, r)

/-- The items of a flow sequence and its end. An item with a key is a mapping of one member; where
such a key is empty, the token behind it is passed over. -/
def flowItems? (d : Directives) :
    (fuel : Nat) → (first : Bool) → Rest → Option (List Node × Rest)
  | 0, _, _ => none
  | fuel + 1, first, r =>
    match r.pass? .flowSequenceEnd with
    | some r => some ([], r)
    | none => do
      let r ← if first then some r else r.pass? .comma
      match r.pass? .key with
      | some r => do
        let emptyKey := r.isAt [.value, .comma, .flowSequenceEnd]
        let (k, r) ← if emptyKey then some (empty, r.skip) else read? d fuel false false r
        let (v, r) ← valueUnless? d fuel false [.comma, .flowSequenceEnd] r
        let (ns, r) ← flowItems? d fuel false r
        some (mapping none .absent [(k, v)] :: ns, r)
      | none =>
        match r.pass? .flowSequenceEnd with
        | some r => some ([], r)
        | none => do
          let (n, r) ← read? d fuel false false r
          let (ns, r) ← flowItems? d fuel false r
          some (n :: ns, r)

def flowMembers? (d : Directives) :
    (fuel : Nat) → (first : Bool) → Rest → Option (List (Node × Node) × Rest)
  | 0, _, _ => none
  | fuel + 1, first, r =>
    match r.pass? .flowMappingEnd with
    | some r => some ([], r)
    | none => do
      let r ← if first then some r else r.pass? .comma
      match r.pass? .key with
      | some r => do
        let (k, r) ← readUnless? d fuel false false [.value, .comma, .flowMappingEnd] r
        let (v, r) ← valueUnless? d fuel false [.comma, .flowMappingEnd] r
        let (ms, r) ← flowMembers? d fuel false r
        some ((k, v) :: ms, r)
      | none =>
        match r.pass? .flowMappingEnd with
        | some r => some ([], r)
        | none => do
          let (k, r) ← read? d fuel false false r
          let (ms, r) ← flowMembers? d fuel false r
          some ((k, empty) :: ms, r)

end

/-- Whether a token begins a document that is announced. -/
def announces : Token → Bool
  | .version .. => true
  | .tagHandle .. => true
  | .documentStart => true
  | _ => false

def isOutside (t : Token) : Bool := announces t || t == .documentEnd

/-- The document of a stream, if there is one; more than one is refused. -/
def ofTokens? (ts : List Token) : Option (Option Node) := do
  let fuel := 4 * ts.length + 8
  let alone (found : Node × Rest) :=
    if found.2.tokens.all (· == .documentEnd) then some (some found.1) else none
  match ts with
  | [] => some none
  | t :: _ =>
    let (d, ts) ← Directives.read? ⟨false, []⟩ ts
    let r : Rest := ⟨ts, []⟩
    if !announces t then alone (← read? d fuel true false r)
    else
      let r ← r.pass? .documentStart
      if r.tokens.head?.all isOutside then alone (empty, r)
      else alone (← read? d fuel true false r)

end FieldImage.Yaml.Node
