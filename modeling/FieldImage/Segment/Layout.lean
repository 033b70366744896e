import FieldImage.Bytes
import FieldImage.Mailbox
import FieldImage.Image.View

/-! The layout of a segment: a header, the locked mailbox, the reply lock with its signal, the data
lock, and the process data behind them. All words are little-endian. -/

namespace FieldImage.Segment

abbrev Memory := Array UInt8

inductive LockName where
  | mailbox
  | reply
  | data
deriving DecidableEq, Repr

namespace Layout

def magic : UInt64 := 0x494F53525653484D

/-- The layout that this module describes. -/
def version : UInt32 := 1

def magicAt : Nat := 0

def versionAt : Nat := 8

def areaSizeAt : Nat := 12

/-- The word that is one once the segment can be attached. -/
def initializedAt : Nat := 16

/-- The time of the server's last sign of life, in milliseconds. -/
def heartbeatAt : Nat := 24

def headerSize : Nat := 64

def lockAt : LockName → Nat
  | .mailbox => 64
  | .reply => 484
  | .data => 492

def commandAt : Nat := 68

def valuesAt : Nat := 72

def lengthAt : Nat := 472

def requestAt : Nat := 476

def replyAt : Nat := 480

/-- The bytes of the mailbox without its lock. -/
def mailboxSize : Nat := 416

/-- The signal's counter. -/
def sequenceAt : Nat := 488

def dataOffset : Nat := 512

def segmentSize (areaSize : Nat) : Nat := dataOffset + 3 * areaSize

end Layout

open Layout

/-- The bytes at `count` places from `offset`. -/
def peek (m : Memory) (offset : Nat) : (count : Nat) → List UInt8
  | 0 => []
  | count + 1 => m[offset]?.getD 0 :: peek m (offset + 1) count

/-- Puts bytes from `offset` on; those past the end are left out. -/
def poke (m : Memory) (offset : Nat) : List UInt8 → Memory
  | [] => m
  | b :: bs => poke (m.setIfInBounds offset b) (offset + 1) bs

def word (m : Memory) (offset : Nat) : UInt32 := Bytes.toDWord (peek m offset 4)

def setWord (m : Memory) (offset : Nat) (w : UInt32) : Memory := poke m offset (Bytes.ofDWord w)

def long (m : Memory) (offset : Nat) : UInt64 := UInt64.ofNat (Bytes.toNat (peek m offset 8))

def setLong (m : Memory) (offset : Nat) (w : UInt64) : Memory :=
  poke m offset (Bytes.ofNat 8 w.toNat)

def mailbox (m : Memory) : Mailbox :=
  { command := (word m commandAt).toInt32
    values := Vector.ofFn fun i => (word m (valuesAt + 4 * i.val)).toInt32
    length := (word m lengthAt).toInt32
    request := (word m requestAt).toInt32
    reply := (word m replyAt).toInt32 }

def mailboxBytes (b : Mailbox) : List UInt8 :=
  Bytes.ofInt b.command ++ b.values.toList.flatMap Bytes.ofInt ++ Bytes.ofInt b.length ++
    Bytes.ofInt b.request ++ Bytes.ofInt b.reply

def setMailbox (m : Memory) (b : Mailbox) : Memory := poke m commandAt (mailboxBytes b)

def isFree (m : Memory) (l : LockName) : Bool := word m (lockAt l) == 0

def takeLock (m : Memory) (l : LockName) : Memory := setWord m (lockAt l) 1

def freeLock (m : Memory) (l : LockName) : Memory := setWord m (lockAt l) 0

def sequence (m : Memory) : UInt32 := word m sequenceAt

def raiseSignal (m : Memory) : Memory := setWord m sequenceAt (sequence m + 1)

def heartbeat (m : Memory) : UInt64 := long m heartbeatAt

def isInitialized (m : Memory) : Bool := word m initializedAt == 1

def data (m : Memory) (areaSize : Nat) : Except Fault ImageView :=
  ImageView.ofBytes (m.extract dataOffset (segmentSize areaSize)) areaSize

def setData (m : Memory) (v : ImageView) : Memory := poke m dataOffset v.bytes.toList

def fresh (areaSize : Nat) (now : UInt64) : Memory :=
  let header := Bytes.ofNat 8 magic.toNat ++ Bytes.ofDWord version ++
    Bytes.ofNat 4 areaSize ++ Bytes.ofDWord 1 ++ Bytes.ofDWord 0 ++ Bytes.ofNat 8 now.toNat
  poke (Array.replicate (segmentSize areaSize) 0) 0 header

/-- The age of a segment's heartbeat in milliseconds; one from the future has no age. -/
def age (m : Memory) (now : Nat) : Nat := now - (heartbeat m).toNat

/-- The checks of a file that is to be attached, which give its bytes per area. -/
def attach (path : String) (m : Memory) : Except Fault Nat :=
  let size := m.size
  let broken (f : SegmentFault) : Except Fault Nat := throw (.transport (.segment f))
  let areaSize := (word m areaSizeAt).toNat
  if size < dataOffset then broken (.short path size)
  else if long m magicAt ≠ magic then broken (.badMagic path (long m magicAt))
  else if word m versionAt ≠ version then broken (.badVersion path (word m versionAt) version)
  else if !isInitialized m then throw (.notInitialized (.segmentUnfinished path))
  else if segmentSize areaSize ≠ size then
    broken (.badLength path size areaSize (segmentSize areaSize))
  else pure areaSize

/-- The bytes per area of a new segment: at least one, and a number of 32 bits. -/
def checkAreaSize (areaSize : Nat) : Except Fault Unit :=
  if 0 < areaSize ∧ areaSize < UInt32.size then pure () else throw (.config (.areaSize areaSize))

/-- A heartbeat younger than this, in milliseconds, belongs to a running server. -/
def liveWithin : Nat := 2000

def describe (path : String) (areaSize length : Nat) : String :=
  "Segment \x7b path: " ++ Text.quoted path ++ ", area_size: " ++ toString areaSize ++ ", len: " ++
    toString length ++ " \x7d"

end FieldImage.Segment
