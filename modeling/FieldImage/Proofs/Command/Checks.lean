import FieldImage.Client
import FieldImage.Image.View
import FieldImage.Proofs.Image.Calls
import FieldImage.Server

/-! The checks of a command: one for each address that it writes, with the width of what it writes
there. Process data take a command exactly when all of them pass, and otherwise give the fault of the
first that does not; a client makes the same checks before it posts the command. -/

namespace FieldImage

open ByteImage

/-- What becomes of the checks does not depend on the change behind them. -/
theorem map_bind_pure {α : Type} (x : Except Fault Unit) (a : α) :
    (x >>= fun _ => (pure a : Except Fault α)).map (fun _ => ()) = x := by
  cases x <;> rfl

namespace Command

variable {ι : Type} [ByteImage ι]

/-- The addresses that a command writes, with the number of bytes from each on. -/
def targets : Command → List (Address × UInt32)
  | exit | ping => []
  | setBit a | resetBit a | invertBit a => [(a, 1)]
  | setBits as => as.map fun a => (a, 1)
  | writeByte a _ => [(a, 1)]
  | writeWord a _ => [(a, 2)]
  | writeDWord a _ | writeInt a _ | writeReal a _ => [(a, 4)]

def check (data : ι) (c : Command) : Except Fault Unit :=
  c.targets.forM fun t => validateWrite data t.1 t.2

theorem check_setBits (data : ι) (as : List Address) :
    (setBits as).check data = as.forM fun a => validateWrite data a 1 := forM_map _ _ as

/-- A command is carried out, or fails, as its checks do. -/
theorem map_apply (data : ι) (c : Command) : (c.apply data).map (fun _ => ()) = c.check data := by
  have hsingle {a : Address} {width : UInt32} (ht : c.targets = [(a, width)]) :
      validateWrite data a width = c.check data := by
    rw [check, ht, Write.check_single]
  cases c with
  | exit | ping => rfl
  | setBits as =>
    rw [check_setBits]
    exact map_bind_pure _ _
  | setBit a | resetBit a | invertBit a | writeByte a v | writeWord a v | writeDWord a v
  | writeInt a v | writeReal a v =>
    rw [← hsingle rfl]
    exact map_bind_pure _ _

theorem check_eq_ok_iff {data : ι} {c : Command} :
    c.check data = .ok () ↔ ∃ after, c.apply data = .ok after := by
  rw [← map_apply]
  cases c.apply data <;> simp [Except.map]

theorem check_eq_error_iff {data : ι} {c : Command} {f : Fault} :
    c.check data = .error f ↔ c.apply data = .error f := by
  rw [← map_apply]
  cases c.apply data <;> simp [Except.map]

end Command

namespace Client

theorem checkAddress_eq {c : Client} {v : ImageView} (h : c.areaSize = v.areaSize) (a : Address)
    (width : UInt32) : c.checkAddress width a = validateWrite v a width := by
  rw [checkAddress, h]
  show _ = (validate v a width >>= fun _ => pure ())
  exact (bind_pure _).symm

/-- A client of a segment makes the checks that the process data of the segment make. -/
theorem prevalidate_eq {c : Client} {v : ImageView} (h : c.areaSize = v.areaSize)
    (command : Command) : c.prevalidate command = command.check v := by
  have hsingle {a : Address} {width : UInt32} (ht : command.targets = [(a, width)]) :
      c.checkAddress width a = command.check v := by
    rw [Command.check, ht, Write.check_single, checkAddress_eq h]
  cases command with
  | exit | ping => rfl
  | setBits as =>
    rw [Command.check_setBits]
    exact forM_congr fun a _ => checkAddress_eq h a 1
  | setBit a | resetBit a | invertBit a | writeByte a v | writeWord a v | writeDWord a v
  | writeInt a v | writeReal a v => exact hsingle rfl

end Client

namespace Write

variable {ι : Type} [ByteImage ι]

theorem apply_command (i : ι) (w : Write) : w.command.apply i = w.apply i := by
  cases w with
  | value a v =>
    cases v with
    | bit b => cases b <;> rfl
    | byte v | word v | dword v | int v | real v => rfl
  | _ => rfl

/-- The checks of a write are those of its command. -/
theorem check_command (i : ι) (w : Write) : w.command.check i = w.check i := by
  rw [← Command.map_apply, apply_command, apply_eq]
  exact map_bind_pure _ _

end Write

end FieldImage
