import FieldImage.Proofs.Register.Image

/-! A register set is the flat image of its bytes. Every sequence of typed calls on inputs and
outputs answers from the tables what it answers from an image of twice as many bytes, and leaves the
tables with the bytes that the image has, except that a write to an input is refused. -/

namespace FieldImage

open ByteImage Register

namespace Address

/-- The checks of an address that the image around it has no say in: its bit, and the end of its
bytes. -/
def checkPlace (a : Address) (max width : UInt32) : Except Fault Unit := do
  a.checkBit
  a.checkByte max width

end Address

namespace WriteCall

/-- The first address in a list that is on the inputs, by its byte, unless one before it or this one
itself has its bit or its bytes out of range. -/
def firstInput? (max : UInt32) : List (Address × UInt32) → Option UInt32
  | [] => none
  | (a, width) :: ts =>
    match a.checkPlace max width with
    | .error _ => none
    | .ok _ => if a.area = .input then some a.byte else firstInput? max ts

end WriteCall

/-- A call on an image whose inputs are not written. -/
def Call.runGuarded (i : Image) : Call → Except Fault Answer × Image
  | write c =>
    match WriteCall.firstInput? (byteCount i) c.targets with
    | some byte => (.error (.address (.inputNotWritable byte)), i)
    | none => (write c).run i
  | read c => (read c).run i

def Call.trace {σ : Type} (step : σ → Call → Except Fault Answer × σ) (s : σ) :
    List Call → List (Except Fault Answer × σ)
  | [] => []
  | c :: cs => step s c :: trace step (step s c).2 cs

namespace RegisterSet

structure Shows (s : RegisterSet) (i : Image) : Prop where
  areaSize : i.areaSize = 2 * s.count
  input : i.input.toList = toBytes s.input.toList
  output : i.output.toList = toBytes s.holding.toList

def flat (s : RegisterSet) : Image :=
  ⟨2 * s.count, ⟨(toBytes s.input.toList).toArray, by simp⟩,
    ⟨(toBytes s.holding.toList).toArray, by simp⟩, Vector.replicate _ 0⟩

theorem shows_flat (s : RegisterSet) : Shows s s.flat := ⟨rfl, rfl, rfl⟩

variable {s : RegisterSet} {i : Image}

theorem Shows.agree (h : Shows s i) : Agree (· ≠ .memory) i s where
  byteCount := congrArg UInt32.ofNat h.areaSize
  checkArea a ha := (checkArea_all a).trans (checkArea_field ha).symm
  storage area harea := by
    cases area with
    | input => exact h.input
    | output => exact h.output
    | memory => exact absurd rfl harea

theorem shows_of_agree (h : Agree (· ≠ .memory) i s) : Shows s i := by
  have hinput : i.input.toList = toBytes s.input.toList := h.storage .input (by decide)
  have hlength := congrArg List.length hinput
  rw [length_toBytes, Vector.length_toList, Vector.length_toList] at hlength
  exact ⟨hlength, hinput, h.storage .output (by decide)⟩

theorem validateWrite_flat (i : Image) (a : Address) (width : UInt32) :
    validateWrite i a width = a.checkPlace (byteCount i) width := by
  show (a.checkBit >>= fun _ => a.checkArea Area.all >>= fun _ =>
    a.checkByte (byteCount i) width) >>= (fun _ => pure ()) = _
  rw [checkArea_all, Address.checkPlace]
  cases a.checkBit with
  | error f => rfl
  | ok u => cases a.checkByte (byteCount i) width <;> rfl

theorem validateWrite_field (s : RegisterSet) {a : Address} (ha : a.area ≠ .memory)
    (width : UInt32) :
    validateWrite s a width =
      a.checkPlace (byteCount s) width >>= fun _ => Register.checkWritable a := by
  show (a.checkBit >>= fun _ => Register.checkArea a >>= fun _ =>
    a.checkByte (byteCount s) width) >>= (fun _ => Register.checkWritable a) = _
  rw [checkArea_field ha, Address.checkPlace]
  cases a.checkBit with
  | error f => rfl
  | ok u => rfl

/-- The checks of a register set are those of its bytes, until they come to an input. -/
theorem forM_validateWrite (h : Shows s i) {ts : List (Address × UInt32)}
    (hts : ∀ t ∈ ts, t.1.area ≠ .memory) :
    ts.forM (fun t => validateWrite s t.1 t.2) =
      match WriteCall.firstInput? (byteCount i) ts with
      | some byte => .error (.address (.inputNotWritable byte))
      | none => ts.forM fun t => validateWrite i t.1 t.2 := by
  induction ts with
  | nil => rfl
  | cons t ts ih =>
    obtain ⟨a, width⟩ := t
    obtain ⟨ha, hts⟩ := List.forall_mem_cons.mp hts
    rw [forM_cons_eq, forM_cons_eq, validateWrite_field s ha, validateWrite_flat, ih hts,
      ← h.agree.byteCount, WriteCall.firstInput?]
    cases a.checkPlace (byteCount i) width with
    | error f => rfl
    | ok u =>
      by_cases hinput : a.area = .input
      · simp only [Register.checkWritable, if_pos hinput]
        rfl
      · simp only [Register.checkWritable, if_neg hinput]
        rfl

theorem run_write (h : Shows s i) {c : WriteCall} (hc : ∀ t ∈ c.targets, t.1.area ≠ .memory) :
    ((Call.write c).run s).1 = ((Call.write c).runGuarded i).1 ∧
      Shows ((Call.write c).run s).2 ((Call.write c).runGuarded i).2 := by
  have hcheck : c.toWrite.check s =
      match WriteCall.firstInput? (byteCount i) c.targets with
      | some byte => .error (.address (.inputNotWritable byte))
      | none => c.toWrite.check i := forM_validateWrite h hc
  rw [Call.runGuarded, Call.run_write, hcheck]
  cases WriteCall.firstInput? (byteCount i) c.targets with
  | some byte => exact ⟨rfl, h⟩
  | none =>
    simp only [Call.run_write]
    cases c.toWrite.check i with
    | error f => exact ⟨rfl, h⟩
    | ok u => exact ⟨rfl, shows_of_agree (h.agree.perform hc)⟩

theorem run_call (h : Shows s i) {c : Call} (hc : ∀ a ∈ c.addresses, a.area ≠ .memory) :
    (c.run s).1 = (c.runGuarded i).1 ∧ Shows (c.run s).2 (c.runGuarded i).2 := by
  cases c with
  | read c => exact ⟨(h.agree.ask_eq hc).symm, h⟩
  | write c => exact run_write h fun t ht => hc t.1 (List.mem_map_of_mem ht)

/-- A register set is a faithful image of its bytes: after every call of a sequence on inputs and
outputs the result is that of the flat image, and the tables have the bytes that it has. -/
theorem trace_flat (s : RegisterSet) {cs : List Call}
    (hcs : ∀ c ∈ cs, ∀ a ∈ c.addresses, a.area ≠ .memory) :
    List.Forall₂ (fun p q => p.1 = q.1 ∧ Shows p.2 q.2)
      (Call.trace Call.run s cs) (Call.trace Call.runGuarded s.flat cs) := by
  -- the induction is over every image that shows the tables; `flat` is the one it starts from
  have h := s.shows_flat
  generalize s.flat = i at h
  induction cs generalizing s i with
  | nil => exact .nil
  | cons c cs ih =>
    obtain ⟨hc, hcs⟩ := List.forall_mem_cons.mp hcs
    have hstep := run_call h hc
    exact .cons hstep (ih _ hcs _ hstep.2)

/-- A word across two registers, the bytes around it, and a list of bits that ends on an input. -/
theorem trace_flat_straddle :
    let calls : List Call :=
      [.write (.writeWord ⟨.output, 1, 0⟩ 0xBEEF), .read (.dword ⟨.output, 0, 0⟩),
        .write (.setBits [⟨.output, 3, 7⟩, ⟨.input, 0, 0⟩]), .read (.word ⟨.input, 3, 0⟩)]
    (∀ c ∈ calls, ∀ a ∈ c.addresses, a.area ≠ .memory) ∧
      (Call.trace Call.runGuarded (flat ⟨2, #v[0x1122, 0x3344], #v[0, 0xFF00]⟩) calls).map (·.1) =
        [.ok .done, .ok (.dword 0x33BEEF22), .error (.address (.inputNotWritable 0)),
          .error (.address (.byteOutOfRange 3 2 4))] ∧
      List.Forall₂ (fun p q => p.1 = q.1 ∧ Shows p.2 q.2)
        (Call.trace Call.run ⟨2, #v[0x1122, 0x3344], #v[0, 0xFF00]⟩ calls)
        (Call.trace Call.runGuarded (flat ⟨2, #v[0x1122, 0x3344], #v[0, 0xFF00]⟩) calls) :=
  ⟨by decide, by decide, trace_flat _ (by decide)⟩

end RegisterSet

end FieldImage
