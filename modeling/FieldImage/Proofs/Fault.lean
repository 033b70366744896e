import FieldImage.Fault

/-! A chain of checks: it gives a result when every check does, and the fault of the first one that
does not. -/

namespace FieldImage

variable {α β : Type} {x : Except Fault α} {next : α → Except Fault β}

@[simp] theorem throw_ne_ok {f : Fault} {a : α} : (throw f : Except Fault α) ≠ .ok a := nofun

theorem bind_eq_ok {ε : Type} {x : Except ε α} {next : α → Except ε β} {b : β} :
    x >>= next = .ok b ↔ ∃ a, x = .ok a ∧ next a = .ok b := by
  cases x with
  | error f => simp [bind, Except.bind]
  | ok a => simp [bind, Except.bind]

theorem bind_eq_error {f : Fault} :
    x >>= next = .error f ↔ x = .error f ∨ ∃ a, x = .ok a ∧ next a = .error f := by
  cases x with
  | error e => simp [bind, Except.bind]
  | ok a => simp [bind, Except.bind]

theorem forM_cons_eq (f : α → Except Fault Unit) (a : α) (as : List α) :
    (a :: as).forM f = f a >>= fun _ => as.forM f := rfl

theorem forM_singleton (f : α → Except Fault Unit) (a : α) : [a].forM f = f a := by
  rw [forM_cons_eq]
  cases f a <;> rfl

theorem forM_map (f : β → Except Fault Unit) (g : α → β) (as : List α) :
    (as.map g).forM f = as.forM fun a => f (g a) := by
  induction as with
  | nil => rfl
  | cons a as ih => rw [List.map_cons, forM_cons_eq, forM_cons_eq, ih]

theorem forM_eq_ok {f : α → Except Fault Unit} {as : List α} :
    as.forM f = .ok () ↔ ∀ a ∈ as, f a = .ok () := by
  induction as with
  | nil => exact ⟨fun _ => List.forall_mem_nil _, fun _ => rfl⟩
  | cons a as ih =>
    rw [forM_cons_eq, bind_eq_ok, List.forall_mem_cons, ← ih]
    constructor
    · rintro ⟨⟨⟩, ha, has⟩
      exact ⟨ha, has⟩
    · rintro ⟨ha, has⟩
      exact ⟨(), ha, has⟩

/-- Checks of a list depend only on what each member gives. -/
theorem forM_congr {as : List α} {f g : α → Except Fault Unit} (h : ∀ a ∈ as, f a = g a) :
    as.forM f = as.forM g := by
  induction as with
  | nil => rfl
  | cons a as ih =>
    obtain ⟨ha, has⟩ := List.forall_mem_cons.mp h
    rw [forM_cons_eq, forM_cons_eq, ha, ih has]

end FieldImage
