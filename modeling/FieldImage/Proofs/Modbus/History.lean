import FieldImage.Proofs.Modbus.Writes
import Mathlib.Data.List.DropRight

/-! The history of what is asked through a link. Keeping it changes nothing that the link does, so a
backend does the same with and without it; and the log of a device in memory is the latest part of
it. -/

namespace FieldImage

open Register

/-- A link, and all transfers that were asked through it, oldest first. -/
structure Recorded (κ : Type) where
  link : κ
  history : List Transaction

namespace Recorded

variable {κ : Type}

def asking {α : Type} (l : Recorded κ) (t : Transaction) (r : Except Fault α × κ) :
    Except Fault α × Recorded κ :=
  (r.1, ⟨r.2, l.history ++ [t]⟩)

instance [RegisterLink κ] : RegisterLink (Recorded κ) where
  readHolding l start count :=
    l.asking (.readHolding start count) (RegisterLink.readHolding l.link start count)
  readInput l start count :=
    l.asking (.readInput start count) (RegisterLink.readInput l.link start count)
  writeHolding l start values :=
    l.asking (.writeHolding start values) (RegisterLink.writeHolding l.link start values)
  describe l := RegisterLink.describe l.link

end Recorded

/-- A call of a backend: a write, or a set of registers filled from the device. -/
inductive BackendCall where
  | write (c : WriteCall)
  | fill (set : RegisterSet)

namespace BackendCall

variable {κ : Type} [RegisterLink κ]

def run (b : Backend κ) : BackendCall → Except Fault Unit × Backend κ
  | write c => c.onBackend b
  | fill set => ((b.readRegisters set).1, (b.readRegisters set).2.2)

/-- A backend after calls one after the other. -/
def runAll (b : Backend κ) (cs : List BackendCall) : Backend κ :=
  cs.foldl (fun b c => (c.run b).2) b

end BackendCall

/-! ### Links that do the same -/

/-- A map of links under which each transfer has the same result. -/
structure LinkMap {κ κ' : Type} [RegisterLink κ] [RegisterLink κ'] (f : κ → κ') : Prop where
  readHolding (l : κ) (start : UInt16) (count : Nat) :
    RegisterLink.readHolding (f l) start count =
      (RegisterLink.readHolding l start count).map id f
  readInput (l : κ) (start : UInt16) (count : Nat) :
    RegisterLink.readInput (f l) start count = (RegisterLink.readInput l start count).map id f
  writeHolding (l : κ) (start : UInt16) (values : Table) :
    RegisterLink.writeHolding (f l) start values =
      (RegisterLink.writeHolding l start values).map id f

theorem Recorded.linkMap {κ : Type} [RegisterLink κ] : LinkMap (Recorded.link (κ := κ)) :=
  ⟨fun _ _ _ => rfl, fun _ _ _ => rfl, fun _ _ _ => rfl⟩

/-- A backend over the image of its link. -/
def Backend.mapLink {κ κ' : Type} (f : κ → κ') (b : Backend κ) : Backend κ' :=
  ⟨f b.link, b.count, b.description, b.transactions, b.failures⟩

namespace LinkMap

variable {κ κ' : Type} [RegisterLink κ] [RegisterLink κ'] {f : κ → κ'} (h : LinkMap f)
include h

theorem splice (l : κ) (start stop : Nat) (edit : List UInt8 → List UInt8) :
    Backend.splice (f l) start stop edit = (Backend.splice l start stop edit).map id f := by
  rw [Backend.splice, Backend.splice, h.readHolding]
  obtain ⟨r, l'⟩ := RegisterLink.readHolding l (UInt16.ofNat start) (stop - start)
  cases r with
  | error e => rfl
  | ok t => exact h.writeHolding l' _ _

theorem spliceRuns (l : κ) (as : List Address) (runs : List (Nat × Nat)) :
    Backend.spliceRuns (f l) as runs = (Backend.spliceRuns l as runs).map id f := by
  induction runs generalizing l with
  | nil => rfl
  | cons r runs ih =>
    rw [Backend.spliceRuns, Backend.spliceRuns, h.splice]
    obtain ⟨x, l'⟩ := Backend.splice l r.1 r.2 (Backend.editRun as r.1 r.2)
    cases x with
    | error e => rfl
    | ok u => exact ih l'

theorem fill (l : κ) (set : RegisterSet) :
    Backend.fill (f l) set = (Backend.fill l set).map id f := by
  rw [Backend.fill, Backend.fill, h.readHolding]
  obtain ⟨r, l'⟩ := RegisterLink.readHolding l 0 set.count
  cases r with
  | error e => rfl
  | ok holding =>
    simp only [Prod.map_apply, id_eq, h.readInput]
    obtain ⟨r, l'⟩ := RegisterLink.readInput l' 0 (set.seed holding []).count
    cases r <;> rfl

omit [RegisterLink κ] [RegisterLink κ'] h in
theorem use {α : Type} {b : Backend κ} {g : κ → Except Fault α × κ}
    {g' : κ' → Except Fault α × κ'} (hg : g' (f b.link) = (g b.link).map id f) :
    (b.mapLink f).use g' = (b.use g).map id (Backend.mapLink f) := by
  have hlink : g' (b.mapLink f).link = (g b.link).map id f := hg
  rw [Backend.use, Backend.use, hlink]
  rfl

theorem modify (b : Backend κ) (a : Address) (width : UInt32)
    (edit : Nat → List UInt8 → List UInt8) :
    (b.mapLink f).modify a width edit = (b.modify a width edit).map id (Backend.mapLink f) := by
  have hcount : (b.mapLink f).byteCount = b.byteCount := rfl
  rw [Backend.modify, Backend.modify, hcount]
  cases Register.validate a b.byteCount width true with
  | error e => rfl
  | ok u => exact use (h.splice _ _ _ _)

theorem writeBytes (b : Backend κ) (a : Address) (new : List UInt8) :
    (b.mapLink f).writeBytes a new = (b.writeBytes a new).map id (Backend.mapLink f) :=
  h.modify b a _ _

theorem setBits (b : Backend κ) (as : List Address) :
    (b.mapLink f).setBits as = (b.setBits as).map id (Backend.mapLink f) := by
  have hcount : (b.mapLink f).byteCount = b.byteCount := rfl
  rw [Backend.setBits, Backend.setBits, hcount]
  cases as.forM fun a => Register.validate a b.byteCount 1 true with
  | error e => rfl
  | ok u => exact use (h.spliceRuns _ _ _)

theorem write (b : Backend κ) (w : Write) :
    (b.mapLink f).write w = (b.write w).map id (Backend.mapLink f) := by
  cases w with
  | setBit a | resetBit a | invertBit a => exact h.modify b a 1 _
  | setBits as => exact h.setBits b as
  | value a v =>
    cases v with
    | bit v =>
      cases v with
      | true | false => exact h.modify b a 1 _
    | byte v | word v | dword v | int v | real v => exact h.writeBytes b a _

theorem run (b : Backend κ) (c : BackendCall) :
    c.run (b.mapLink f) = (c.run b).map id (Backend.mapLink f) := by
  cases c with
  | write c =>
    simp only [BackendCall.run, WriteCall.onBackend_toWrite]
    exact h.write b c.toWrite
  | fill set =>
    have hcount : (b.mapLink f).count = b.count := rfl
    have hlink : (b.mapLink f).link = f b.link := rfl
    simp only [BackendCall.run, Backend.readRegisters, hcount, hlink, h.fill]
    split
    · rfl
    · rfl

theorem runAll (b : Backend κ) (cs : List BackendCall) :
    BackendCall.runAll (b.mapLink f) cs = (BackendCall.runAll b cs).mapLink f := by
  induction cs generalizing b with
  | nil => rfl
  | cons c cs ih =>
    have hstep : (c.run (b.mapLink f)).2 = ((c.run b).2).mapLink f := by
      rw [h.run]
      rfl
    show BackendCall.runAll (c.run (b.mapLink f)).2 cs = _
    rw [hstep]
    exact ih _

end LinkMap

/-! ### The log of a device -/

/-- The latest part of a longer list: the oldest of a full part makes room. -/
theorem rtake_concat {α : Type} {n : Nat} (hn : 0 < n) (xs : List α) (x : α) :
    (xs ++ [x]).rtake n =
      (if (xs.rtake n).length = n then (xs.rtake n).tail else xs.rtake n) ++ [x] := by
  obtain ⟨n, rfl⟩ : ∃ m, n = m + 1 := ⟨n - 1, by omega⟩
  rw [List.rtake_concat_succ]
  simp only [List.rtake, List.length_drop, List.tail_drop]
  split
  · rename_i hfull
    rw [(by omega : xs.length - n = xs.length - (n + 1) + 1)]
  · rename_i hroom
    rw [(by omega : xs.length - n = xs.length - (n + 1))]

namespace Device

/-- The log has the latest transfers of a history. -/
def Logs (d : Device) (history : List Transaction) : Prop := d.log = history.rtake logCapacity

theorem Logs.record {d : Device} {history : List Transaction} (h : d.Logs history)
    (t : Transaction) : (d.record t).Logs (history ++ [t]) := by
  have hcapacity : 0 < logCapacity := by decide
  have hlog : d.log = history.rtake logCapacity := h
  rw [Logs, rtake_concat hcapacity, ← hlog]
  rfl

theorem Logs.latest {d : Device} {history : List Transaction} (h : d.Logs history) :
    d.log <:+ history ∧ d.log.length = min history.length logCapacity := by
  have hlog : d.log = history.drop (history.length - logCapacity) := h
  refine ⟨hlog ▸ List.drop_suffix _ _, ?_⟩
  rw [hlog, List.length_drop]
  omega

end Device

end FieldImage
