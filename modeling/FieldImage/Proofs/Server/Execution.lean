import FieldImage.Proofs.Fault
import FieldImage.Server

/-! What a server does with a request that it copied out: a request that is carried out is applied
to the process data and answered with the success code of its command, and every other one is
answered with the code for failure. -/

namespace FieldImage.Server

variable {ι : Type} [ByteImage ι]

theorem carryOut_eq_ok {s : Server} {dataFree : Bool} {data : ι} {c : Command} {e : Execution ι}
    (h : s.carryOut dataFree data c = .ok e) :
    c.apply data = .ok e.data ∧ e.code = c.success := by
  cases c with
  | exit | ping =>
    cases h
    exact ⟨rfl, rfl⟩
  | _ =>
    simp only [carryOut] at h
    obtain ⟨-, -, h⟩ := bind_eq_ok.mp h
    obtain ⟨data', happly, h⟩ := bind_eq_ok.mp h
    cases h
    exact ⟨happly, rfl⟩

/-- A request that is carried out decodes to a command that the process data takes. -/
theorem dispatch_eq_ok {s : Server} {dataFree : Bool} {data : ι} {command : Int32}
    {payload : Option (List Int32)} {e : Execution ι}
    (h : s.dispatch dataFree data command payload = .ok e) :
    ∃ c, decodeRequest command payload = .ok c ∧ c.apply data = .ok e.data ∧
      e.code = c.success := by
  obtain ⟨c, hc, h⟩ := bind_eq_ok.mp h
  exact ⟨c, hc, carryOut_eq_ok h⟩

/-- No success code is the code for failure. -/
theorem success_ne_failed (c : Command) : c.success ≠ Command.failed := by
  cases c <;> simp [Command.success, Command.failed]

end FieldImage.Server
