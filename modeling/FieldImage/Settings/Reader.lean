import FieldImage.Json
import FieldImage.Settings

/-! Settings from JSON values. Each section is an object, or an array of its members in their order,
and takes what it does not name from the defaults; names it does not know are passed over. -/

namespace FieldImage

namespace Json

/-- The members of an object, or of an array whose items go by given names in order. Strictly, an
array has no more items than there are names, and an object has each name at most once. -/
def membersOf? (strict : Bool) (names : List String) : Json → Option (List (String × Json))
  | object members =>
    let known := members.filter fun (name, _) => names.contains name
    if strict && !decide ((known.map (·.1)).Nodup) then none else some known
  | array items =>
    if strict && names.length < items.length then none else some (names.zip items)
  | _ => none

/-- The member whose name comes first. -/
def firstMember? : List (String × Json) → Option (String × Json)
  | [] => none
  | m :: r =>
    match firstMember? r with
    | some n => some (if n.1 < m.1 then n else m)
    | none => some m

/-- The name of a choice; unless strictly, members after the first one count for nothing. -/
def choiceOf? (strict : Bool) : Json → Option String
  | object members =>
    if strict then choice? (object members) else choice? (object (firstMember? members).toList)
  | j => j.choice?

/-- A member read by `read`, or what stands in for it. -/
def readOr {α : Type} (members : List (String × Json)) (name : String) (absent : α)
    (read : Json → Option α) : Option α :=
  match members.find? (·.1 == name) with
  | none => some absent
  | some (_, j) => read j

def toFlag? : Json → Option Bool
  | bool b => some b
  | _ => none

def toNumber? (limit : Nat) : Json → Option Nat
  | natural n => if n < limit then some n else none
  | _ => none

/-- A text, or none for null. -/
def toTextOrNull? : Json → Option (Option String)
  | null => some none
  | string s => some (some s)
  | _ => none

end Json

open Json

def entryNames {α : Type} (entries : List (String × α)) : List String := entries.map (·.1)

namespace LoggingSettings

def ofJson? (strict : Bool) (d : LoggingSettings) (j : Json) : Option LoggingSettings := do
  let ms ← membersOf? strict (entryNames d.entries) j
  pure ⟨← readOr ms "level" d.level toText?, ← readOr ms "dir" d.dir toTextOrNull?,
    ← readOr ms "json" d.json toFlag?, ← readOr ms "file_prefix" d.fileStem toText?⟩

end LoggingSettings

namespace SegmentSettings

def ofJson? (strict : Bool) (d : SegmentSettings) (j : Json) : Option SegmentSettings := do
  let ms ← membersOf? strict (entryNames d.entries) j
  let number (name : String) (absent : Nat) := readOr ms name absent (toNumber? UInt64.size)
  pure ⟨← readOr ms "path" d.path toText?, ← number "area_size" d.areaSize,
    ← number "reply_timeout_ms" d.replyTimeout, ← number "lock_timeout_ms" d.lockTimeout,
    ← number "poll_interval_ms" d.pollInterval⟩

end SegmentSettings

namespace DeviceSettings

def ofJson? (strict : Bool) (d : DeviceSettings) (j : Json) : Option DeviceSettings := do
  let ms ← membersOf? strict (entryNames d.entries) j
  let number (name : String) (absent : Nat) := readOr ms name absent (toNumber? UInt64.size)
  pure ⟨← readOr ms "host" d.host toText?,
    ← readOr ms "port" d.port fun j => (j.toNumber? UInt16.size).map UInt16.ofNat,
    ← readOr ms "unit_id" d.unit fun j => (j.toNumber? UInt8.size).map UInt8.ofNat,
    ← number "register_count" d.registerCount, ← number "connect_timeout_ms" d.connectTimeout,
    ← number "response_timeout_ms" d.responseTimeout,
    ← number "poll_interval_ms" d.pollInterval⟩

end DeviceSettings

namespace Settings

/-- Settings from a value, over defaults. -/
def ofJson? (strict : Bool) (d : Settings) (j : Json) : Option Settings := do
  let ms ← membersOf? strict (entryNames d.entries) j
  pure ⟨← readOr ms "backend" d.backend fun j =>
      (j.choiceOf? strict).bind BackendKind.ofKeyword?,
    ← readOr ms "logging" d.logging (LoggingSettings.ofJson? strict d.logging),
    ← readOr ms "shm" d.shm (SegmentSettings.ofJson? strict d.shm),
    ← readOr ms "modbus" d.modbus (DeviceSettings.ofJson? strict d.modbus)⟩

end Settings

end FieldImage
