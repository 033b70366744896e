import FieldImage.Address.Parser
import FieldImage.CommandLine
import FieldImage.Settings.Load
import FieldImage.Value.Text
import FieldImage.Write

/-! What the program is asked to do on its command line, and the settings that come of it: those of
the file and the environment, with the overrides of the command line over them. -/

namespace FieldImage

/-- What is asked of the process data, or of the server. -/
inductive Request where
  | ping
  | exit
  | write (w : Write)
deriving DecidableEq, Repr

/-- The write that a request asks for; a server command asks for none. -/
def Request.toWrite : Request → Except Fault Write
  | ping => throw (.config (.notAWrite "Ping"))
  | exit => throw (.config (.notAWrite "Exit"))
  | write w => pure w

inductive Activity where
  | serve (path : Option String) (areaSize : Option Nat)
  | poll (interval : Option Nat)
  /-- A request whose value may not be readable. -/
  | send (request : Except Fault Request)
  | read (addresses : List Address) (type : DataType) (json : Bool)
  | config

structure Invocation where
  /-- The file with the settings. -/
  path : Option String
  backend : Option BackendKind
  logLevel : Option String
  activity : Activity

namespace Invocation

inductive Argument where
  | text (s : String)
  | number (n : Nat)
  | backend (k : BackendKind)
  | type (t : DataType)
  | address (a : Address)
deriving DecidableEq, Repr

open CommandLine

/-! ## Readers -/

def readText : Reader Argument := fun s => pure (.text s)

def readPath : Reader Argument := fun s =>
  if s.isEmpty then throw .missingText else pure (.text s)

def readNumber : Reader Argument := fun s =>
  match Text.readUnsigned 10 (UInt64.size - 1) s.toList with
  | .ok n => pure (.number n)
  | .error _ => throw .badText

/-- A text that `parse` understands. -/
def readBy {β : Type} (parse : String → Except Fault β) (f : β → Argument) : Reader Argument :=
  fun s =>
    match parse s with
    | .ok b => pure (f b)
    | .error _ => throw .badText

def readBackend : Reader Argument := readBy BackendKind.parse .backend

def readType : Reader Argument := readBy DataType.parse .type

def readAddress : Reader Argument := readBy Address.parse .address

/-! ## Grammar -/

def helpSwitch : Switch Argument := ⟨"help", some 'h', .help⟩

def option (name : String) (letter : Option Char) (read : Reader Argument) : Switch Argument :=
  ⟨name, letter, .option read none⟩

/-- The switches of every level. The environment may name the file with the settings. -/
def commonSwitches (path : Option String) : List (Switch Argument) :=
  [⟨"config", some 'c', .option readPath path⟩, option "backend" (some 'b') readBackend,
    option "log-level" none readText, helpSwitch]

def addressOperand : Operand Argument := ⟨"address", readAddress, false⟩

def addressesOperand : Operand Argument := ⟨"addresses", readAddress, true⟩

def valueOperand : Operand Argument := ⟨"value", readText, false⟩

/-- The commands of `send` that write one value, and the types of the values. -/
def valueCommands : List (String × DataType) :=
  [("write-byte", .byte), ("write-word", .word), ("write-dword", .dword), ("write-int", .int),
    ("write-real", .real)]

def sendGrammar (common : List (Switch Argument)) : Grammar Argument :=
  let leaf (operands : List (Operand Argument)) : Grammar Argument := ⟨common, operands, []⟩
  ⟨common, [],
    [("ping", leaf []), ("exit", leaf []), ("set", leaf [addressOperand]),
      ("reset", leaf [addressOperand]), ("invert", leaf [addressOperand]),
      ("set-bits", leaf [addressesOperand])] ++
    valueCommands.map fun (name, _) => (name, leaf [addressOperand, valueOperand])⟩

def grammar (path : Option String) : Grammar Argument :=
  let common := commonSwitches path
  let leaf (switches : List (Switch Argument)) (operands : List (Operand Argument)) :
      Grammar Argument := ⟨switches ++ common, operands, []⟩
  ⟨common ++ [⟨"version", some 'V', .version⟩], [],
    [("serve", leaf [option "path" none readPath, option "area-size" none readNumber] []),
      ("poll", leaf [option "interval-ms" none readNumber] []),
      ("send", sendGrammar common),
      ("read", leaf [option "as" none readType, ⟨"json", none, .flag⟩] [addressesOperand]),
      ("config", leaf [] [])]⟩

/-! ## Meaning -/

def Argument.text? : Argument → Option String
  | .text s => some s
  | _ => none

def Argument.number? : Argument → Option Nat
  | .number n => some n
  | _ => none

def Argument.backend? : Argument → Option BackendKind
  | .backend k => some k
  | _ => none

def Argument.type? : Argument → Option DataType
  | .type t => some t
  | _ => none

def Argument.address? : Argument → Option Address
  | .address a => some a
  | _ => none

abbrev Levels := List (Level Argument)

def textOf? (levels : Levels) (name : String) : Option String :=
  (value? levels name).bind Argument.text?

def numberOf? (levels : Levels) (name : String) : Option Nat :=
  (value? levels name).bind Argument.number?

def addressOf? (levels : Levels) : Option Address :=
  (value? levels addressOperand.name).bind Argument.address?

def addressesOf (levels : Levels) : List Address :=
  (valuesOf levels addressesOperand.name).filterMap Argument.address?

def request? (levels : Levels) : String → Option (Except Fault Request)
  | "ping" => some (pure .ping)
  | "exit" => some (pure .exit)
  | "set" => (addressOf? levels).map fun a => pure (.write (.setBit a))
  | "reset" => (addressOf? levels).map fun a => pure (.write (.resetBit a))
  | "invert" => (addressOf? levels).map fun a => pure (.write (.invertBit a))
  | "set-bits" => some (pure (.write (.setBits (addressesOf levels))))
  | name => do
    let (_, type) ← valueCommands.find? (·.1 == name)
    let a ← addressOf? levels
    let text ← textOf? levels valueOperand.name
    pure ((Value.parse type text).map fun v => .write (.value a v))

def activity? (levels : Levels) : Option Activity :=
  match commands levels with
  | ["serve"] => some (.serve (textOf? levels "path") (numberOf? levels "area-size"))
  | ["poll"] => some (.poll (numberOf? levels "interval-ms"))
  | ["send", name] => (request? levels name).map .send
  | ["read"] =>
    some (.read (addressesOf levels) (((value? levels "as").bind Argument.type?).getD .byte)
      (hasFlag levels "json"))
  | ["config"] => some .config
  | _ => none

def pathVariable : String := "IOSRV_CONFIG"

def parse (environment : List (String × String)) (arguments : List String) :
    Except UsageFault Invocation := do
  let path := (environment.find? (·.1 == pathVariable)).map (·.2)
  let levels ← (grammar path).parse arguments
  match activity? levels with
  | some activity =>
    pure ⟨textOf? levels "config", (value? levels "backend").bind Argument.backend?,
      textOf? levels "log-level", activity⟩
  | none => throw .missingCommand

/-! ## Settings -/

/-- The settings with what the activity says over them. -/
def Activity.override (s : Settings) : Activity → Settings
  | .serve path areaSize =>
    { s with shm := { s.shm with
      path := path.getD s.shm.path, areaSize := areaSize.getD s.shm.areaSize } }
  | .poll (some interval) =>
    { s with
      shm := { s.shm with pollInterval := interval }
      modbus := { s.modbus with pollInterval := interval } }
  | _ => s

/-- The settings with what the command line says over them. -/
def override (i : Invocation) (s : Settings) : Settings :=
  Activity.override
    { s with
      backend := i.backend.getD s.backend
      logging := { s.logging with level := i.logLevel.getD s.logging.level } } i.activity

/-- The settings in effect: loaded and good by themselves, and good with the overrides. -/
def settings (i : Invocation) (s : Surroundings) : Except Fault Settings := do
  let settings := i.override (← Settings.load s i.path)
  settings.validate
  pure settings

end Invocation

end FieldImage
