import FieldImage.Real.Reader
import FieldImage.Text.Duration
import FieldImage.Text.Quoted
import FieldImage.Value

/-! What can go wrong, as causes. Each cause has one wording, one code, and two marks: whether the
caller can mend it, and whether the device link has to be opened again. -/

namespace FieldImage

/-- An address that an image cannot serve. -/
inductive AddressFault where
  | bitOutOfRange (bit : UInt32)
  | byteOutOfRange (byte width max : UInt32)
  | areaOutOfRange (area : String)
  | areaNotAllowed (area : String)
  | inputNotWritable (byte : UInt32)
  | unreadable (text : String)
deriving DecidableEq, Repr

/-- A frame whose parts do not fit together. -/
inductive FrameFault where
  | valueOutOfRange (command : String) (value : Int32)
  | replyLength
  | requestLength
  | startPastEnd (start offset : Nat)
  | other (text : String)
deriving DecidableEq, Repr

/-- A command payload or a handshake that breaks the rules of the mailbox. -/
inductive ProtocolFault where
  | notReady (request reply : Bool)
  | outOfSequence (request reply : Bool)
  | commandMismatch (expected actual : Int32)
  | lengthMismatch (command : Int32) (expected : String) (actual : Int32)
  | unknownCommand (id : Int32)
  | unknownArea (code : Int32)
  | payloadTooLarge (length capacity : Nat)
  | commandFailed (command code : Int32)
  | unexpectedReply (command code : Int32)
  | malformed (cause : FrameFault)
deriving DecidableEq, Repr

/-- Why the file system refuses a path. -/
inductive PathFault where
  | absent
  | present
  | notDirectory
  | isDirectory
  | tooLong
  | holdsNul
  /-- What is asked makes no sense for what the path names. -/
  | invalid
deriving DecidableEq, Repr

/-- A segment file that cannot be made or attached. -/
inductive SegmentFault where
  | directory (path : String) (cause : PathFault)
  | unopened (path : String) (cause : PathFault)
  | unsized (path : String) (cause : PathFault)
  | short (path : String) (length : Nat)
  | badMagic (path : String) (magic : UInt64)
  | badVersion (path : String) (version expected : UInt32)
  | badLength (path : String) (length areaSize needed : Nat)
  | live (path : String) (age : Nat)
  | other (text : String)
deriving DecidableEq, Repr

/-- A lock, a file or a device link that fails under the caller. -/
inductive TransportFault where
  | replyTimeout (after : Duration)
  | lockTimeout (after : Duration)
  | segment (cause : SegmentFault)
  | connection (text : String)
  | notConnected
  | io (text : String)
  | linkTimeout (text : String)
  | exception (function code : UInt8)
deriving DecidableEq, Repr

/-- What an operation found missing or of another shape. -/
inductive Missing where
  | containerDropped
  | imageGeometry (expected actual : Nat)
  | bufferLength (actual expected : Nat)
  | registerGeometry (expected actual : Nat)
  | backendGeometry (set backend : Nat)
  | segmentAbsent (path : String)
  | segmentUnfinished (path : String)
  | other (text : String)
deriving DecidableEq, Repr

/-- Why a text is no value of a type. -/
inductive ValueFault where
  | numeral (cause : Text.NumeralFault)
  | real (cause : RealFault)
  | notABit
  | doesNotFit (number : Nat)
deriving DecidableEq, Repr

/-- Settings, requests and texts that are refused before anything is done. -/
inductive ConfigFault where
  | unknownDataType (name : String)
  | invalidValue (type : DataType) (text : String) (cause : ValueFault)
  | unknownBackend (name : String)
  | areaSize (size : Nat)
  | registerCount (count limit : Nat)
  | sharedAreaSize (size limit : Nat)
  | modbusRegisterCount (count : Nat)
  | zeroInterval (setting : String)
  | emptyHost
  | fileAbsent (path : String)
  | unreadableSettings
  | logFilter (directive : String)
  | logDirectory (path : String)
  | loggingInstalled
  | serverCommand
  | notAWrite (request : String)
  | other (text : String)
deriving DecidableEq, Repr

inductive Fault where
  | address (cause : AddressFault)
  | protocol (cause : ProtocolFault)
  | transport (cause : TransportFault)
  | notInitialized (cause : Missing)
  | config (cause : ConfigFault)
deriving DecidableEq, Repr

def AddressFault.message : AddressFault → String
  | .bitOutOfRange bit => "Bit offset out of range: " ++ toString bit.toNat ++ " (valid 0..=7)"
  | .byteOutOfRange byte width max =>
    "Byte offset out of range: " ++ toString byte.toNat ++ " + " ++ toString width.toNat ++
      " bytes exceeds " ++ toString max.toNat
  | .areaOutOfRange area => "Area out of range: " ++ area
  | .areaNotAllowed area => "Area not allowed by this backend: " ++ area
  | .inputNotWritable byte => "Write to input area not allowed: byte " ++ toString byte.toNat
  | .unreadable text => "Invalid address notation: " ++ text

def FrameFault.message : FrameFault → String
  | .valueOutOfRange command value =>
    command ++ " value " ++ toString value.toInt ++ " out of range"
  | .replyLength => "reply length out of bounds"
  | .requestLength => "request length out of bounds"
  | .startPastEnd start offset =>
    "register " ++ toString start ++ " + " ++ toString offset ++ " exceeds 16-bit addressing"
  | .other text => text

def flags (request reply : Bool) : String :=
  "request_pending=" ++ toString request ++ ", reply_pending=" ++ toString reply

def ProtocolFault.message : ProtocolFault → String
  | .notReady request reply => "Mailbox not ready: " ++ flags request reply
  | .outOfSequence request reply => "Out of sequence reply: " ++ flags request reply
  | .commandMismatch expected actual =>
    "Command mismatch: expected " ++ toString expected.toInt ++ ", got " ++ toString actual.toInt
  | .lengthMismatch command expected actual =>
    "Payload length mismatch for command " ++ toString command.toInt ++ ": expected " ++ expected ++
      ", got " ++ toString actual.toInt
  | .unknownCommand id => "Unknown command id: " ++ toString id.toInt
  | .unknownArea code => "Unknown area code: " ++ toString code.toInt
  | .payloadTooLarge length capacity =>
    "Payload too large: " ++ toString length ++ " values (capacity " ++ toString capacity ++ ")"
  | .commandFailed command code =>
    "Command " ++ toString command.toInt ++ " failed on the server (reply code " ++
      toString code.toInt ++ ")"
  | .unexpectedReply command code =>
    "Unexpected reply code " ++ toString code.toInt ++ " for command " ++ toString command.toInt
  | .malformed cause => "Malformed frame: " ++ cause.message

def PathFault.message : PathFault → String
  | .absent => "No such file or directory (os error 2)"
  | .present => "File exists (os error 17)"
  | .notDirectory => "Not a directory (os error 20)"
  | .isDirectory => "Is a directory (os error 21)"
  | .tooLong => "File name too long (os error 36)"
  | .holdsNul => "file name contained an unexpected NUL byte"
  | .invalid => "Invalid argument (os error 22)"

def SegmentFault.message : SegmentFault → String
  | .directory path cause =>
    "failed to create directory " ++ Text.quoted path ++ ": " ++ cause.message
  | .unopened path cause => "failed to open " ++ Text.quoted path ++ ": " ++ cause.message
  | .unsized path cause => "failed to size " ++ Text.quoted path ++ ": " ++ cause.message
  | .short path length =>
    "segment " ++ Text.quoted path ++ " is " ++ toString length ++
      " bytes, smaller than its header"
  | .badMagic path magic =>
    "bad magic 0x" ++ Text.hexLower 16 magic.toNat ++ " in " ++ Text.quoted path
  | .badVersion path version expected =>
    "layout version " ++ toString version.toNat ++ " in " ++ Text.quoted path ++ ", expected " ++
      toString expected.toNat
  | .badLength path length areaSize needed =>
    "segment " ++ Text.quoted path ++ " is " ++ toString length ++ " bytes, area size " ++
      toString areaSize ++ " needs " ++ toString needed
  | .live path age =>
    Text.quoted path ++ " belongs to a running server (heartbeat " ++ toString age ++ " ms ago)"
  | .other text => text

def TransportFault.message : TransportFault → String
  | .replyTimeout after => "Timed out after " ++ after.text ++ " waiting for reply"
  | .lockTimeout after => "Timed out after " ++ after.text ++ " waiting for lock"
  | .segment cause => "Shared segment error: " ++ cause.message
  | .connection text => "Connection error: " ++ text
  | .notConnected => "Not connected"
  | .io text => "IO error: " ++ text
  | .linkTimeout text => "Link timeout: " ++ text
  | .exception function code =>
    "Modbus exception: function 0x" ++ Text.hexUpper 2 function.toNat ++ ", code 0x" ++
      Text.hexUpper 2 code.toNat

def Missing.message : Missing → String
  | .containerDropped => "container has been dropped"
  | .imageGeometry expected actual =>
    "process image geometry mismatch: " ++ toString expected ++ " vs " ++ toString actual ++
      " bytes per area"
  | .bufferLength actual expected =>
    "process data buffer is " ++ toString actual ++ " bytes, expected " ++ toString expected
  | .registerGeometry expected actual =>
    "register set geometry mismatch: " ++ toString expected ++ " vs " ++ toString actual ++
      " registers"
  | .backendGeometry set backend =>
    "register set has " ++ toString set ++ " registers, backend " ++ toString backend
  | .segmentAbsent path => "shared memory segment " ++ Text.quoted path ++ " does not exist"
  | .segmentUnfinished path => "segment " ++ Text.quoted path ++ " is still being initialized"
  | .other text => text

def ValueFault.message : ValueFault → String
  | .numeral cause => cause.message
  | .real cause => cause.message
  | .notABit => "expected 0/1/true/false"
  | .doesNotFit number => toString number ++ " does not fit"

def ConfigFault.message : ConfigFault → String
  | .unknownDataType name => "unknown data type: " ++ name
  | .invalidValue type text cause =>
    "invalid " ++ type.name ++ " value '" ++ text ++ "': " ++ cause.message
  | .unknownBackend name => "unknown backend: " ++ name
  | .areaSize size => "invalid area size " ++ toString size
  | .registerCount count limit =>
    "register count " ++ toString count ++ " outside 1..=" ++ toString limit
  | .sharedAreaSize size limit =>
    "shm.area_size must be in 1..=" ++ toString limit ++ ", got " ++ toString size
  | .modbusRegisterCount count =>
    "modbus.register_count must be in 1..=65535, got " ++ toString count
  | .zeroInterval setting => setting ++ " must be greater than 0"
  | .emptyHost => "modbus.host cannot be empty"
  | .fileAbsent path => "config file " ++ Text.quoted path ++ " does not exist"
  | .unreadableSettings => "unreadable settings"
  | .logFilter directive => "invalid log filter '" ++ directive ++ "'"
  | .logDirectory path => "cannot create log directory " ++ Text.quoted path
  | .loggingInstalled => "logging already initialized"
  | .serverCommand => "ping/exit are shm server commands; use --backend shm"
  | .notAWrite request => request ++ " is not a process-data write"
  | .other text => text

namespace Fault

def message : Fault → String
  | address cause => cause.message
  | protocol cause => cause.message
  | transport cause => cause.message
  | notInitialized cause => "Not initialized: " ++ cause.message
  | config cause => "Configuration error: " ++ cause.message

/-- A fixed name for logs and for programs. -/
def code : Fault → String
  | address (.bitOutOfRange _) => "BIT_OUT_OF_RANGE"
  | address (.byteOutOfRange ..) => "BYTE_OUT_OF_RANGE"
  | address (.areaOutOfRange _) => "AREA_OUT_OF_RANGE"
  | address (.areaNotAllowed _) => "AREA_NOT_ALLOWED"
  | address (.inputNotWritable _) => "WRITE_TO_INPUT_NOT_ALLOWED"
  | address (.unreadable _) => "INVALID_ADDRESS"
  | protocol (.notReady ..) => "NOT_READY"
  | protocol (.outOfSequence ..) => "OUT_OF_SEQUENCE"
  | protocol (.commandMismatch ..) => "COMMAND_MISMATCH"
  | protocol (.lengthMismatch ..) => "LENGTH_MISMATCH"
  | protocol (.unknownCommand _) => "UNKNOWN_COMMAND"
  | protocol (.unknownArea _) => "UNKNOWN_AREA"
  | protocol (.payloadTooLarge ..) => "PAYLOAD_TOO_LARGE"
  | protocol (.commandFailed ..) => "COMMAND_FAILED"
  | protocol (.unexpectedReply ..) => "UNEXPECTED_REPLY"
  | protocol (.malformed _) => "MALFORMED_FRAME"
  | transport (.replyTimeout _) => "REPLY_TIMEOUT"
  | transport (.lockTimeout _) => "LOCK_TIMEOUT"
  | transport (.segment _) => "SEGMENT_ERROR"
  | transport (.connection _) => "CONNECTION_ERROR"
  | transport .notConnected => "NOT_CONNECTED"
  | transport (.io _) => "IO_ERROR"
  | transport (.linkTimeout _) => "LINK_TIMEOUT"
  | transport (.exception ..) => "MODBUS_EXCEPTION"
  | notInitialized _ => "NOT_INITIALIZED"
  | config _ => "CONFIGURATION_ERROR"

/-- Whether the caller mends it; the link and the server are sound. -/
def isRecoverable : Fault → Bool
  | address _ | protocol _ => true
  | _ => false

/-- Whether the device link has to be opened again. -/
def needsReconnect : Fault → Bool
  | transport (.io _) | transport (.connection _) | transport .notConnected
  | transport (.linkTimeout _) | protocol (.malformed _) => true
  | _ => false

/-- What a failed transfer is to the caller: a timeout of the link, or a failure of it. -/
def ofTransfer (timedOut : Bool) (text : String) : Fault :=
  transport (if timedOut then .linkTimeout text else .io text)

end Fault

end FieldImage
