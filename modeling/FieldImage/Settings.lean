import FieldImage.Client
import FieldImage.Modbus.Backend
import FieldImage.Modbus.Tcp
import FieldImage.Segment.Layout
import FieldImage.Yaml.Writer

/-! Settings: which backend to use and how, and where the log goes. Settings that pass `validate`
make no size and no count that the backends refuse. -/

namespace FieldImage

/-- What serves the process image: a shared segment, or a device with registers. -/
inductive BackendKind where
  | shm
  | modbus
deriving DecidableEq, Repr, Inhabited

namespace BackendKind

def keyword : BackendKind → String
  | shm => "shm"
  | modbus => "modbus"

def name : BackendKind → String
  | shm => "Shm"
  | modbus => "Modbus"

def ofKeyword? (s : String) : Option BackendKind :=
  if s == "shm" then some shm else if s == "modbus" then some modbus else none

def parse (s : String) : Except Fault BackendKind :=
  let lower := String.ofList (s.toList.map Char.toLower)
  match ofKeyword? lower with
  | some k => pure k
  | none => throw (.config (.unknownBackend lower))

end BackendKind

structure LoggingSettings where
  /-- The filter that is used when the environment gives none. -/
  level : String
  dir : Option String
  json : Bool
  fileStem : String
deriving DecidableEq, Repr

/-- A shared segment; times are in milliseconds. -/
structure SegmentSettings where
  path : String
  areaSize : Nat
  replyTimeout : Nat
  lockTimeout : Nat
  pollInterval : Nat
deriving DecidableEq, Repr

/-- A device with registers; times are in milliseconds. -/
structure DeviceSettings where
  host : String
  port : UInt16
  unit : UInt8
  registerCount : Nat
  connectTimeout : Nat
  responseTimeout : Nat
  pollInterval : Nat
deriving DecidableEq, Repr

structure Settings where
  backend : BackendKind
  logging : LoggingSettings
  shm : SegmentSettings
  modbus : DeviceSettings
deriving DecidableEq, Repr

namespace LoggingSettings

def default : LoggingSettings := ⟨"info", none, false, "iosrv"⟩

def entries (s : LoggingSettings) : List (String × Yaml.Datum) :=
  [("level", .text s.level), ("dir", (s.dir.map .text).getD .null), ("json", .flag s.json),
    ("file_prefix", .text s.fileStem)]

end LoggingSettings

namespace SegmentSettings

def default (path : String) : SegmentSettings := ⟨path, 5000, 5000, 1000, 10⟩

def limits (s : SegmentSettings) : ClientLimits :=
  ⟨Duration.ofMillis s.replyTimeout, Duration.ofMillis s.lockTimeout⟩

def entries (s : SegmentSettings) : List (String × Yaml.Datum) :=
  [("path", .text s.path), ("area_size", .number s.areaSize),
    ("reply_timeout_ms", .number s.replyTimeout), ("lock_timeout_ms", .number s.lockTimeout),
    ("poll_interval_ms", .number s.pollInterval)]

end SegmentSettings

namespace DeviceSettings

def default : DeviceSettings := ⟨"127.0.0.1", 502, 1, 2500, 3000, 1000, 100⟩

def tcp (s : DeviceSettings) : TcpSettings :=
  ⟨s.host, s.port, s.unit, Duration.ofMillis s.connectTimeout, Duration.ofMillis s.responseTimeout⟩

def entries (s : DeviceSettings) : List (String × Yaml.Datum) :=
  [("host", .text s.host), ("port", .number s.port.toNat), ("unit_id", .number s.unit.toNat),
    ("register_count", .number s.registerCount), ("connect_timeout_ms", .number s.connectTimeout),
    ("response_timeout_ms", .number s.responseTimeout),
    ("poll_interval_ms", .number s.pollInterval)]

end DeviceSettings

namespace Settings

/-- Where a segment is when neither the settings nor the environment say it. -/
def defaultSegmentPath : String := "/dev/shm/iosrv-process-data.shm"

/-- The settings that a segment path completes. -/
def default (segmentPath : String) : Settings :=
  ⟨.shm, LoggingSettings.default, SegmentSettings.default segmentPath, DeviceSettings.default⟩

def maxAreaSize : Nat := UInt32.size - 1

/-- The times that must not be zero, in the order in which they are checked. -/
def times (s : Settings) : List (String × Nat) :=
  [("shm.reply_timeout_ms", s.shm.replyTimeout), ("shm.lock_timeout_ms", s.shm.lockTimeout),
    ("shm.poll_interval_ms", s.shm.pollInterval),
    ("modbus.connect_timeout_ms", s.modbus.connectTimeout),
    ("modbus.response_timeout_ms", s.modbus.responseTimeout),
    ("modbus.poll_interval_ms", s.modbus.pollInterval)]

/-- Refuses sizes and counts out of range, a time of zero and an empty host; the first that is found
decides. -/
def validate (s : Settings) : Except Fault Unit :=
  if s.shm.areaSize = 0 ∨ maxAreaSize < s.shm.areaSize then
    throw (.config (.sharedAreaSize s.shm.areaSize maxAreaSize))
  else if s.modbus.registerCount = 0 ∨ Backend.maxCount < s.modbus.registerCount then
    throw (.config (.modbusRegisterCount s.modbus.registerCount))
  else
    match s.times.find? (·.2 == 0) with
    | some (name, _) => throw (.config (.zeroInterval name))
    | none => if s.modbus.host.isEmpty then throw (.config .emptyHost) else pure ()

def entries (s : Settings) : List (String × Yaml.Entry) :=
  [("backend", .datum (.text s.backend.keyword)), ("logging", .group s.logging.entries),
    ("shm", .group s.shm.entries), ("modbus", .group s.modbus.entries)]

def text (s : Settings) : String := Yaml.writeEntries s.entries

/-- The settings of the selected backend, with its name in front. -/
def selected (s : Settings) : List (String × Yaml.Datum) :=
  ("type", .text s.backend.keyword) ::
    match s.backend with
    | .shm => s.shm.entries
    | .modbus => s.modbus.entries

def pollInterval (s : Settings) : Duration :=
  Duration.ofMillis (match s.backend with
    | .shm => s.shm.pollInterval
    | .modbus => s.modbus.pollInterval)

end Settings

end FieldImage
