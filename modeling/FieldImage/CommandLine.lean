/-! Command lines. A grammar names the switches, the operands and the commands of each level of a
program; reading arguments gives for each level what was given there. A text is only judged when the
next item begins or the level ends, so an item that nobody knows is found before a bad text in front
of it. -/

namespace FieldImage

/-- Why the arguments are no command, or why the program only explains itself. -/
inductive UsageFault where
  | help
  | version
  /-- Nothing was given where a command has to be. -/
  | nothingGiven
  | missingCommand
  | unknownCommand
  | missingOperand
  | unknownArgument
  | missingText
  | badText
  | repeated
  | unwantedText
deriving DecidableEq, Repr

/-- The exit code of a program that was not begun: explanations that were asked for are no failure.
-/
def UsageFault.exitCode : UsageFault → UInt8
  | .help | .version => 0
  | _ => 2

namespace CommandLine

/-- The meaning of a text, as a value of the program. -/
abbrev Reader (α : Type) := String → Except UsageFault α

/-- How a switch acts. -/
inductive Action (α : Type) where
  | help
  | version
  | flag
  /-- An option takes one text; `fallback` is the text of an option that is not given. -/
  | option (read : Reader α) (fallback : Option String)

/-- A switch, written with its name or its letter. -/
structure Switch (α : Type) where
  name : String
  letter : Option Char
  action : Action α

/-- An argument that is known by its place; only the last one of a level can have many texts. -/
structure Operand (α : Type) where
  name : String
  read : Reader α
  many : Bool

/-- What one level takes. A level with commands takes no operands and needs a command. -/
structure Grammar (α : Type) where
  switches : List (Switch α)
  operands : List (Operand α)
  commands : List (String × Grammar α)

/-- What was given on a level: the values of its items by name, those that stand in for options that
were not given, and the command that the level ends with. -/
structure Level (α : Type) where
  entries : List (String × List α)
  fallbacks : List (String × α)
  command : Option String

/-- An item whose texts are being gathered. -/
structure Pending (α : Type) where
  name : String
  read : Reader α
  many : Bool
  texts : List String

/-- A level whose arguments are being read. -/
structure Progress (α : Type) where
  entries : List (String × List α)
  pending : Option (Pending α)
  /-- How many operands are behind. -/
  place : Nat
  /-- After `--` every argument is an operand. -/
  operandsOnly : Bool

variable {α : Type}

namespace Progress

def start : Progress α := ⟨[], none, 0, false⟩

def has (p : Progress α) (name : String) : Bool := p.entries.any (·.1 == name)

def isWaiting (p : Progress α) : Bool :=
  match p.pending with
  | some item => item.texts.isEmpty
  | none => false

def add (p : Progress α) (name : String) (values : List α) : Progress α :=
  { p with
    entries := if p.has name then
        p.entries.map fun e => if e.1 == name then (e.1, e.2 ++ values) else e
      else p.entries ++ [(name, values)] }

/-- Ends the pending item: it has a text, it was not given before unless it can have many, and its
texts mean something. -/
def settle (p : Progress α) : Except UsageFault (Progress α) :=
  match p.pending with
  | none => pure p
  | some item =>
    if item.texts.isEmpty then throw .missingText
    else if !item.many && p.has item.name then throw .repeated
    else do
      let values ← item.texts.mapM item.read
      pure ({ p with pending := none }.add item.name values)

def begin (p : Progress α) (item : Pending α) : Except UsageFault (Progress α) := do
  let p ← p.settle
  pure { p with pending := some item }

def append (p : Progress α) (text : String) : Progress α :=
  { p with pending := p.pending.map fun item => { item with texts := item.texts ++ [text] } }

end Progress

inductive Token where
  | separator
  | long (name : String) (text : Option String)
  | short (letters : List Char)
  | plain
deriving DecidableEq, Repr

/-- A name and what is behind its `=`. -/
def splitText (cs : List Char) : String × Option String :=
  let name := String.ofList (cs.takeWhile (· != '='))
  match cs.dropWhile (· != '=') with
  | [] => (name, none)
  | _ :: text => (name, some (String.ofList text))

def Token.ofText (s : String) : Token :=
  match s.toList with
  | ['-', '-'] => .separator
  | '-' :: '-' :: r => let (name, text) := splitText r; .long name text
  | ['-'] => .plain
  | '-' :: r => .short r
  | _ => .plain

namespace Grammar

def helpCommand : String := "help"

def isCommand (g : Grammar α) (name : String) : Bool :=
  !g.commands.isEmpty && (name == helpCommand || g.commands.any (·.1 == name))

def command? (g : Grammar α) (name : String) : Option (Grammar α) :=
  (g.commands.find? (·.1 == name)).map (·.2)

/-- The answer to `help` with the names of commands, each one of the level before. -/
def explain (g : Grammar α) : List String → UsageFault
  | [] => .help
  | name :: rest =>
    match g.command? name with
    | some inner => inner.explain rest
    | none => if g.isCommand name && rest.isEmpty then .help else .unknownCommand

/-- Takes a switch, with the text that is attached to it. -/
def takeSwitch (p : Progress α) (s : Switch α) (text : Option String) :
    Except UsageFault (Progress α) :=
  match s.action, text with
  | .option read _, some text => do (← p.begin ⟨s.name, read, false, [text]⟩).settle
  | .option read _, none => p.begin ⟨s.name, read, false, []⟩
  | _, some _ => throw .unwantedText
  | .help, none => do
    discard p.settle
    throw .help
  | .version, none => do
    discard p.settle
    throw .version
  | .flag, none => do
    let p ← p.settle
    if p.has s.name then throw .repeated else pure (p.add s.name [])

def takeLong (g : Grammar α) (p : Progress α) (name : String) (text : Option String) :
    Except UsageFault (Progress α) :=
  match g.switches.find? (·.name == name) with
  | some s => takeSwitch p s text
  | none => throw .unknownArgument

/-- The text behind the letter of an option, in the same argument. -/
def attachedText : List Char → Option String
  | [] => none
  | '=' :: r => some (String.ofList r)
  | r => some (String.ofList r)

/-- Takes letters up to the first option, whose text is the rest. -/
def takeShort (g : Grammar α) (p : Progress α) : List Char → Except UsageFault (Progress α)
  | [] => pure p
  | c :: rest =>
    match g.switches.find? (·.letter == some c) with
    | none => throw .unknownArgument
    | some s =>
      match s.action with
      | .option .. => takeSwitch p s (attachedText rest)
      | _ => do g.takeShort (← takeSwitch p s none) rest

def takeOperand (g : Grammar α) (p : Progress α) (text : String) :
    Except UsageFault (Progress α) :=
  match g.operands[p.place]? with
  | some o =>
    match p.pending with
    | some item =>
      if o.many && item.name == o.name then pure (p.append text)
      else p.begin ⟨o.name, o.read, o.many, [text]⟩ |>.map (next o)
    | none => p.begin ⟨o.name, o.read, o.many, [text]⟩ |>.map (next o)
  | none =>
    if g.commands.isEmpty || (p.operandsOnly && g.isCommand text) then throw .unknownArgument
    else throw .unknownCommand
where
  next (o : Operand α) (p : Progress α) : Progress α :=
    if o.many then p else { p with place := p.place + 1 }

def take (g : Grammar α) (p : Progress α) (text : String) : Except UsageFault (Progress α) :=
  if p.operandsOnly then g.takeOperand p text
  else
    match Token.ofText text with
    | .separator => pure { p with operandsOnly := true }
    | .long name text => g.takeLong p name text
    | .short letters => g.takeShort p letters
    | .plain => if p.isWaiting then pure (p.append text) else g.takeOperand p text

/-- The value that stands in for a switch that was not given. -/
def fallback (p : Progress α) (s : Switch α) : Except UsageFault (Option (String × α)) :=
  match s.action with
  | .option read (some text) =>
    if p.has s.name then pure none else do pure (some (s.name, ← read text))
  | _ => pure none

/-- Ends a level: it has a command if it needs one, and all its operands. -/
def finish (g : Grammar α) (p : Progress α) (command : Option String) :
    Except UsageFault (Level α) := do
  let p ← p.settle
  let fallbacks ← g.switches.mapM (fallback p)
  let fallbacks := fallbacks.filterMap id
  if !g.commands.isEmpty && command.isNone then
    throw (if p.entries.isEmpty && fallbacks.isEmpty then .nothingGiven else .missingCommand)
  if g.operands.any fun o => !p.has o.name then throw .missingOperand
  pure ⟨p.entries, fallbacks, command⟩

/-- Reads the arguments of a level, and of the levels inside it, which are ended first. -/
def read (g : Grammar α) (p : Progress α) : List String → Except UsageFault (List (Level α))
  | [] => do pure [← g.finish p none]
  | text :: rest =>
    if !p.operandsOnly && !p.isWaiting && g.isCommand text then
      match g.command? text with
      | none => throw (g.explain rest)
      | some inner => do
        let levels ← inner.read .start rest
        pure ((← g.finish p (some text)) :: levels)
    else do g.read (← g.take p text) rest

/-- The levels that the arguments of a program give, the outermost first. -/
def parse (g : Grammar α) (arguments : List String) : Except UsageFault (List (Level α)) :=
  g.read .start arguments

end Grammar

def commands (levels : List (Level α)) : List String := levels.filterMap (·.command)

def hasFlag (levels : List (Level α)) (name : String) : Bool :=
  levels.any fun l => l.entries.any (·.1 == name)

/-- The values of an item: those of the innermost level that was given it. -/
def valuesOf (levels : List (Level α)) (name : String) : List α :=
  ((levels.reverse.findSome? fun l => l.entries.find? (·.1 == name)).map (·.2)).getD []

/-- The value of an option, which another stands in for when no level was given it. -/
def value? (levels : List (Level α)) (name : String) : Option α :=
  match valuesOf levels name with
  | v :: _ => some v
  | [] => (levels.findSome? fun l => l.fallbacks.find? (·.1 == name)).map (·.2)

end CommandLine

end FieldImage
