import FieldImage.Fault

/-! The task that updates a shared image again and again, and what it logs: its start and end, every
failed update, and the first good update after failures. -/

namespace FieldImage

inductive LogLevel where
  | info
  | warn
deriving DecidableEq, Repr

structure LogLine where
  level : LogLevel
  message : String
deriving DecidableEq, Repr

namespace LogLine

def info (message : String) : LogLine := ⟨.info, message⟩

def warn (message : String) : LogLine := ⟨.warn, message⟩

def text (l : LogLine) : String :=
  (match l.level with
    | .info => "INFO "
    | .warn => "WARN ") ++ l.message

end LogLine

namespace UpdateTask

def threadName : String := "process-data-updater"

/-- The lines of updates with given results, after some failures in a row. -/
def cycles : (failures : Nat) → List (Except Fault Unit) → List LogLine
  | _, [] => []
  | failures, .ok _ :: r =>
    if failures = 0 then cycles 0 r
    else
      .info ("Updater recovered after " ++ toString failures ++ " failed cycles") :: cycles 0 r
  | failures, .error e :: r =>
    .warn ("Update failed [" ++ e.code ++ "]: " ++ e.message) :: cycles (failures + 1) r

/-- The log of a task whose updates end in these results before it is stopped. -/
def log (description : String) (interval : Duration) (results : List (Except Fault Unit)) :
    List LogLine :=
  .info ("Updater started for " ++ description ++ " every " ++ interval.text) ::
    cycles 0 results ++ [.info ("Updater stopped for " ++ description)]

end UpdateTask

end FieldImage
