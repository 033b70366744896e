import FieldImage.LogFilter
import FieldImage.Settings.Load

/-! Setting up the log: its filter is read, its directory made, and it is installed once in a
process. -/

namespace FieldImage.Logging

/-- The variable with a filter that takes the place of the configured one. -/
def filterVariable : String := "RUST_LOG"

def filter (environment : List (String × String)) (s : LoggingSettings) : String :=
  match (environment.find? (·.1 == filterVariable)).map (·.2) with
  | some text => if (Text.trimChars text.toList).isEmpty then s.level else text
  | none => s.level

/-- Makes the directory of the log, when there is one. -/
def makeDirectory (tree : FileTree) (s : LoggingSettings) : Except Fault Unit × FileTree :=
  match s.dir with
  | none => (pure (), tree)
  | some dir =>
    let (r, tree) := tree.makeDirectories dir
    (r.mapError fun _ => .config (.logDirectory dir), tree)

/-- Sets the log up in a process that may have one already: the result, and the files after it. -/
def setUp (installed : Bool) (environment : List (String × String)) (tree : FileTree)
    (s : LoggingSettings) : Except Fault Unit × FileTree :=
  let filter := filter environment s
  if !LogFilter.accepts filter then (throw (.config (.logFilter filter)), tree)
  else
    match makeDirectory tree s with
    | (.error e, tree) => (.error e, tree)
    | (.ok _, tree) => (if installed then throw (.config .loggingInstalled) else pure (), tree)

end FieldImage.Logging
