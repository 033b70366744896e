import FieldImage.Proofs.Image.InPlace
import FieldImage.Proofs.Image.Owned
import FieldImage.Proofs.Image.View
import FieldImage.Proofs.Register.Image

/-! The three kinds of images check addresses by their rules, and a call on any of them is carried
out as a whole or refused for the first address that breaks a rule. -/

namespace FieldImage

open ByteImage RuledImage

/-! ### The rules of the three kinds -/

instance : RuledImage Image where
  rules i := .whole (byteCount i)
  rules_count _ := rfl
  checkArea_eq _ _ := rfl
  checkWritable_eq _ _ := rfl
  byteCount_le i area _ := by
    show i.areaSize % 2 ^ 32 ≤ (i.area area).toList.length
    rw [Vector.length_toList]
    exact Nat.mod_le i.areaSize (2 ^ 32)

instance : RuledImage ImageView where
  rules v := .whole (byteCount v)
  rules_count _ := rfl
  checkArea_eq _ _ := rfl
  checkWritable_eq _ _ := rfl
  byteCount_le v area _ := by
    show v.areaSize % 2 ^ 32 ≤ (v.area area).toList.length
    rw [Vector.length_toList]
    exact Nat.mod_le v.areaSize (2 ^ 32)

/-- Only the memory area has no table, and only the inputs are not written. -/
instance : RuledImage RegisterSet where
  rules s := .field (byteCount s)
  rules_count _ := rfl
  checkArea_eq _ a := by
    show Register.checkArea a = _
    rw [Register.checkArea]
    cases a.area <;> rfl
  checkWritable_eq _ a := by
    show Register.checkWritable a = _
    rw [Register.checkWritable]
    cases a.area <;> rfl
  byteCount_le s area h := by
    have hlength : (s.areaStorage area).length = 2 * s.count := by
      cases area with
      | input | output =>
        rw [RegisterSet.areaStorage, Register.length_toBytes, Vector.length_toList]
      | memory =>
        have hnot : Area.memory ∉ Area.field := by decide
        exact absurd h hnot
    show 2 * s.count % 2 ^ 32 ≤ (s.areaStorage area).length
    rw [hlength]
    exact Nat.mod_le (2 * s.count) (2 ^ 32)

/-! ### Calls and their checks -/

namespace ReadCall

def points : ReadCall → List (Address × DataType)
  | bit a => [(a, .bit)]
  | bits as => as.map fun a => (a, .bit)
  | byte a => [(a, .byte)]
  | word a => [(a, .word)]
  | dword a => [(a, .dword)]
  | int a => [(a, .int)]
  | real a => [(a, .real)]
  | value a type => [(a, type)]

def targets (c : ReadCall) : List (Address × UInt32) := c.points.map fun p => (p.1, p.2.width)

def check {ι : Type} [ByteImage ι] (i : ι) (c : ReadCall) : Except Fault Unit :=
  c.targets.forM fun t => validate i t.1 t.2

end ReadCall

namespace Call

def access : Call → Access
  | read _ => .read
  | write _ => .write

def targets : Call → List (Address × UInt32)
  | read c => c.targets
  | write c => c.targets

end Call

/-- What is left of a result when only its fault is asked for. -/
def outcome {α : Type} (x : Except Fault α) : Except Fault Unit := x.map fun _ => ()

section

variable {α β : Type}

theorem outcome_eq_ok {x : Except Fault α} : outcome x = .ok () ↔ ∃ a, x = .ok a := by
  cases x with
  | error f => exact ⟨nofun, nofun⟩
  | ok a => exact ⟨fun _ => ⟨a, rfl⟩, fun _ => rfl⟩

theorem outcome_eq_error {x : Except Fault α} {f : Fault} :
    outcome x = .error f ↔ x = .error f := by
  cases x with
  | error e => simp [outcome, Except.map]
  | ok a => exact ⟨nofun, nofun⟩

theorem outcome_bind_pure (x : Except Fault α) (g : α → β) :
    outcome (x >>= fun a => pure (g a)) = outcome x := by
  cases x <;> rfl

theorem outcome_map (x : Except Fault α) (g : α → β) : outcome (g <$> x) = outcome x := by
  cases x <;> rfl

end

variable {ι : Type} [ByteImage ι]

theorem outcome_readPoint (i : ι) (a : Address) (width : UInt32) :
    outcome (readPoint i a width) = validate i a width := by
  rw [readPoint]
  cases validate i a width <;> rfl

theorem outcome_getBits (i : ι) (as : List Address) :
    outcome (getBits i as) = as.forM fun a => validate i a 1 := by
  induction as with
  | nil => rfl
  | cons a as ih =>
    have hbit : outcome (getBit i a) = validate i a 1 :=
      (outcome_bind_pure _ _).trans (outcome_readPoint i a 1)
    rw [getBits] at ih ⊢
    rw [List.mapM_cons, forM_cons_eq, ← hbit, ← ih]
    cases getBit i a with
    | error f => rfl
    | ok b => cases as.mapM (getBit i) <;> rfl

/-- A read fails as its checks do. -/
theorem ReadCall.outcome_ask (i : ι) (c : ReadCall) : outcome (c.ask i) = c.check i := by
  have hsingle (a : Address) (width : UInt32) :
      [(a, width)].forM (fun t => validate i t.1 t.2) = validate i a width :=
    forM_singleton _ (a, width)
  rw [check]
  cases c with
  | bits as =>
    rw [ask, outcome_map, outcome_getBits, targets, points, List.map_map, forM_map]
    rfl
  | value a type =>
    rw [ask, outcome_map, getValue_eq, outcome_bind_pure, outcome_readPoint]
    exact (hsingle a type.width).symm
  | bit a | byte a | word a | dword a | int a | real a =>
    refine (outcome_map _ _).trans ?_
    refine (outcome_bind_pure _ _).trans ?_
    rw [outcome_readPoint]
    exact (hsingle _ _).symm

namespace Call

variable [RuledImage ι]

/-- A call fails for the first of its addresses that breaks a rule. -/
theorem outcome_run (i : ι) (c : Call) :
    outcome (c.run i).1 = verdict ((rules i).firstFault? c.access c.targets) := by
  cases c with
  | read c =>
    show outcome (c.ask i) = _
    rw [c.outcome_ask, ReadCall.check, Rules.firstFault?, ← forM_verdict]
    exact forM_congr fun t _ => validate_eq i t.1 t.2
  | write c =>
    have hcheck : c.toWrite.check i = verdict ((rules i).firstFault? .write c.targets) := by
      rw [Write.check, Rules.firstFault?, ← forM_verdict]
      exact forM_congr fun t _ => validateWrite_eq i t.1 t.2
    rw [access, targets, ← hcheck, run_write]
    cases c.toWrite.check i <;> rfl

omit [RuledImage ι] in
theorem run_error {i : ι} {c : Call} {f : Fault} (h : (c.run i).1 = .error f) :
    c.run i = (.error f, i) := by
  cases c with
  | read c => exact Prod.ext h rfl
  | write c =>
    rw [run_write] at h ⊢
    cases hcheck : c.toWrite.check i with
    | error e =>
      rw [hcheck] at h
      cases h
      rfl
    | ok u =>
      rw [hcheck] at h
      cases h

end Call

/-- An image whose checks are the rules `r`, and come before every change. -/
structure Guarded (r : Rules) (i : ι) : Prop where
  validate_eq (a : Address) (width : UInt32) :
    validate i a width = verdict (r.fault? .read a width)
  validateWrite_eq (a : Address) (width : UInt32) :
    validateWrite i a width = verdict (r.fault? .write a width)
  validate_iff (a : Address) (width : UInt32) :
    validate i a width = .ok () ↔ r.Allows .read a width
  validateWrite_iff (a : Address) (width : UInt32) :
    validateWrite i a width = .ok () ↔ r.Allows .write a width
  /-- Changed in place, the image answers and ends as it does by `run`. -/
  inPlace_eq (c : Call) : c.inPlace i = some (c.run i)
  done_iff (c : Call) :
    (∃ x j, c.inPlace i = some (.ok x, j)) ↔ ∀ t ∈ c.targets, r.Allows c.access t.1 t.2
  /-- The first bad address of a call decides, and leaves the image as it is. -/
  refused (c : Call) (f : AddressFault) (h : r.firstFault? c.access c.targets = some f) :
    c.inPlace i = some (.error (.address f), i)
  /-- A window that passes has all its bytes. -/
  present (a : Address) (width : UInt32) (h : validate i a width = .ok ()) :
    ∀ k < width.toNat, (byte? i a.area (a.offset + k)).isSome

theorem RuledImage.guarded [RuledImage ι] (i : ι) : Guarded (rules i) i where
  validate_eq := validate_eq i
  validateWrite_eq := validateWrite_eq i
  validate_iff _ _ := validate_eq_ok
  validateWrite_iff _ _ := validateWrite_eq_ok
  inPlace_eq := Call.inPlace_run i
  done_iff c := by
    rw [← Rules.firstFault?_eq_none, ← verdict_eq_ok, ← c.outcome_run i, outcome_eq_ok,
      c.inPlace_run]
    constructor
    · rintro ⟨x, j, h⟩
      exact ⟨x, congrArg Prod.fst (Option.some.inj h)⟩
    · rintro ⟨x, h⟩
      exact ⟨x, (c.run i).2, congrArg some (Prod.ext h rfl)⟩
  refused c f h := by
    have houtcome := c.outcome_run i
    rw [h] at houtcome
    rw [c.inPlace_run, Call.run_error (outcome_eq_error.mp houtcome)]
  present a width h k hk := by
    have hwindow := window_le_storage h
    rw [StoredImage.byte?_eq_some (by omega)]
    rfl

/-- An image, a view and a register set are guarded by their rules. -/
theorem images_guarded :
    (∀ i : Image, Guarded (.whole (byteCount i)) i) ∧
      (∀ v : ImageView, Guarded (.whole (byteCount v)) v) ∧
      ∀ s : RegisterSet, Guarded (.field (byteCount s)) s :=
  ⟨guarded, guarded, guarded⟩

/-- Three bits of which the second is past the end and the third wrong in all ways: the second
decides, and the first is not set. -/
theorem images_guarded_secondBit :
    let c : Call := .write (.setBits [⟨.output, 3, 7⟩, ⟨.input, 4, 0⟩, ⟨.memory, 9, 8⟩])
    c.inPlace (RegisterSet.zero 2) =
      some (.error (.address (.byteOutOfRange 4 1 4)), RegisterSet.zero 2) :=
  (images_guarded.2.2 (RegisterSet.zero 2)).refused _ _ (by decide)

end FieldImage
