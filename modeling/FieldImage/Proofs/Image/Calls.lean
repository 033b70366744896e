import FieldImage.Proofs.Bytes
import FieldImage.Proofs.Fault
import FieldImage.Write

/-! Typed calls on an image as data: the reads with their answers, the writes, and a call of either
kind as a step from one image to the next. A write is its checks, one for each address that it
covers, and then a change that cannot fail. -/

namespace FieldImage

open ByteImage

inductive ReadCall where
  | bit (a : Address)
  | bits (as : List Address)
  | byte (a : Address)
  | word (a : Address)
  | dword (a : Address)
  | int (a : Address)
  | real (a : Address)
  | value (a : Address) (type : DataType)

inductive WriteCall where
  | setBit (a : Address)
  | resetBit (a : Address)
  | invertBit (a : Address)
  | writeBit (a : Address) (b : Bool)
  | setBits (as : List Address)
  | writeByte (a : Address) (b : UInt8)
  | writeWord (a : Address) (w : UInt16)
  | writeDWord (a : Address) (w : UInt32)
  | writeInt (a : Address) (i : Int32)
  | writeReal (a : Address) (r : Real32)
  | writeValue (a : Address) (v : Value)

/-- What a call answers; a write only says that it is done. -/
inductive Answer where
  | done
  | bit (b : Bool)
  | bits (bs : List Bool)
  | byte (b : UInt8)
  | word (w : UInt16)
  | dword (w : UInt32)
  | int (i : Int32)
  | real (r : Real32)
  | value (v : Value)
deriving DecidableEq

variable {ι : Type} [ByteImage ι]

namespace ReadCall

def addresses : ReadCall → List Address
  | bits as => as
  | bit a | byte a | word a | dword a | int a | real a | value a _ => [a]

def ask (i : ι) : ReadCall → Except Fault Answer
  | bit a => .bit <$> getBit i a
  | bits as => .bits <$> getBits i as
  | byte a => .byte <$> getByte i a
  | word a => .word <$> getWord i a
  | dword a => .dword <$> getDWord i a
  | int a => .int <$> getInt i a
  | real a => .real <$> getReal i a
  | value a type => .value <$> getValue i a type

end ReadCall

/-- A change of bytes: one function for the bytes of some addresses, one after the other, or bytes
put from an address on. -/
inductive Edit where
  | change (as : List Address) (f : Address → UInt8 → UInt8)
  | put (a : Address) (bs : List UInt8)

namespace Edit

def targets : Edit → List (Address × UInt32)
  | change as _ => as.map fun a => (a, 1)
  | put a bs => [(a, UInt32.ofNat bs.length)]

def perform (i : ι) : Edit → ι
  | change as f => as.foldl (fun i a => updateByte i a (f a)) i
  | put a bs => putWindow i a.area a.offset bs

/-- What holds of an image and is kept by the change of any byte is kept by an edit. -/
theorem perform_keeps {P : ι → Prop} {i : ι} (h : P i)
    (hset : ∀ j area k b, P j → P (setByte j area k b)) (e : Edit) : P (e.perform i) := by
  cases e with
  | change as f =>
    rw [perform]
    induction as generalizing i with
    | nil => exact h
    | cons a as ih => exact ih (hset i _ _ _ h)
  | put a bs =>
    rw [perform]
    generalize a.offset = k
    induction bs generalizing i k with
    | nil => exact h
    | cons b bs ih => exact ih (hset i _ _ _ h) (k + 1)

/-- The bytes that are put can be counted as the width of a point. -/
def Counted : Edit → Prop
  | change _ _ => True
  | put _ bs => bs.length < 2 ^ 32

end Edit

namespace Write

def edit : Write → Edit
  | setBit a => .change [a] fun a b => b ||| a.mask
  | resetBit a => .change [a] fun a b => b &&& ~~~a.mask
  | invertBit a => .change [a] fun a b => b ^^^ a.mask
  | setBits as => .change as fun a b => b ||| a.mask
  | value a (.bit true) => .change [a] fun a b => b ||| a.mask
  | value a (.bit false) => .change [a] fun a b => b &&& ~~~a.mask
  | value a (.byte v) => .put a [v]
  | value a (.word v) => .put a (Bytes.ofWord v)
  | value a (.dword v) => .put a (Bytes.ofDWord v)
  | value a (.int v) => .put a (Bytes.ofInt v)
  | value a (.real v) => .put a (Bytes.ofReal v)

theorem counted_edit (w : Write) : w.edit.Counted := by
  cases w with
  | setBit a | resetBit a | invertBit a | setBits as => trivial
  | value a v =>
    cases v with
    | bit b => cases b <;> trivial
    | byte v | word v | dword v | int v | real v =>
      simp [edit, Edit.Counted, Bytes.ofWord, Bytes.ofReal]

def targets (w : Write) : List (Address × UInt32) := w.edit.targets

def check (i : ι) (w : Write) : Except Fault Unit :=
  w.targets.forM fun t => validateWrite i t.1 t.2

def perform (i : ι) (w : Write) : ι := w.edit.perform i

theorem check_single (i : ι) (a : Address) (width : UInt32) :
    [(a, width)].forM (fun t => validateWrite i t.1 t.2) = validateWrite i a width :=
  forM_singleton _ (a, width)

theorem check_setBits (i : ι) (as : List Address) :
    (setBits as).check i = as.forM fun a => validateWrite i a 1 := forM_map _ _ as

/-- All checks come before the change. -/
theorem apply_eq (i : ι) (w : Write) : w.apply i = w.check i >>= fun _ => pure (w.perform i) := by
  have hsingle {a : Address} {width : UInt32} (ht : w.targets = [(a, width)]) :
      w.check i = validateWrite i a width := by
    rw [check, ht, check_single]
  cases w with
  | setBit a | resetBit a | invertBit a =>
    rw [hsingle rfl]
    rfl
  | setBits as =>
    rw [check_setBits]
    rfl
  | value a v =>
    cases v with
    | bit b =>
      cases b with
      | true | false =>
        rw [hsingle rfl]
        rfl
    | byte v | word v | dword v | int v | real v =>
      rw [hsingle rfl]
      rfl

end Write

namespace WriteCall

/-- The write that a call asks for; a call of one type writes a value of this type. -/
def toWrite : WriteCall → Write
  | setBit a => .setBit a
  | resetBit a => .resetBit a
  | invertBit a => .invertBit a
  | writeBit a b => .value a (.bit b)
  | setBits as => .setBits as
  | writeByte a b => .value a (.byte b)
  | writeWord a w => .value a (.word w)
  | writeDWord a w => .value a (.dword w)
  | writeInt a i => .value a (.int i)
  | writeReal a r => .value a (.real r)
  | writeValue a v => .value a v

def targets (c : WriteCall) : List (Address × UInt32) := c.toWrite.targets

def apply (i : ι) : WriteCall → Except Fault ι
  | setBit a => ByteImage.setBit i a
  | resetBit a => ByteImage.resetBit i a
  | invertBit a => ByteImage.invertBit i a
  | writeBit a b => ByteImage.writeBit i a b
  | setBits as => ByteImage.setBits i as
  | writeByte a b => ByteImage.writeByte i a b
  | writeWord a w => ByteImage.writeWord i a w
  | writeDWord a w => ByteImage.writeDWord i a w
  | writeInt a n => ByteImage.writeInt i a n
  | writeReal a r => ByteImage.writeReal i a r
  | writeValue a v => ByteImage.writeValue i a v

theorem apply_toWrite (i : ι) (c : WriteCall) : c.toWrite.apply i = c.apply i := by
  cases c <;> rfl

end WriteCall

inductive Call where
  | read (c : ReadCall)
  | write (c : WriteCall)

namespace Call

def addresses : Call → List Address
  | read c => c.addresses
  | write c => c.targets.map (·.1)

/-- A call that fails leaves the image as it was. -/
def run (i : ι) : Call → Except Fault Answer × ι
  | read c => (c.ask i, i)
  | write c =>
    match c.apply i with
    | .ok j => (.ok .done, j)
    | .error f => (.error f, i)

theorem run_write (i : ι) (c : WriteCall) :
    (write c).run i =
      match c.toWrite.check i with
      | .ok _ => (.ok .done, c.toWrite.perform i)
      | .error f => (.error f, i) := by
  rw [run, ← WriteCall.apply_toWrite, Write.apply_eq]
  cases c.toWrite.check i <;> rfl

end Call

end FieldImage
