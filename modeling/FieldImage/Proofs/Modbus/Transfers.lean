import FieldImage.Proofs.Image.Checks
import FieldImage.Proofs.Modbus.History

/-! The transfers that an operation plans, and those that it asks for: a device refuses what is
beyond its tables, and after the first transfer that it refuses no other one is asked. -/

namespace FieldImage

open Register

theorem outcome_map_unit {α : Type} (x : Except Fault Unit) (g : Unit → α) :
    outcome (x.map g) = x := by
  cases x <;> rfl

theorem outcome_unit (x : Except Fault Unit) : outcome x = x := by
  cases x <;> rfl

/-- What a transfer is about: its function, and the registers from the first to one past the
last. -/
structure Transfer where
  function : UInt8
  start : Nat
  stop : Nat
deriving DecidableEq

namespace Transfer

/-- Registers are read, and then written. -/
def roundTrip (r : Nat × Nat) : List Transfer :=
  [⟨Modbus.readHoldingCode, r.1, r.2⟩, ⟨Modbus.writeRegistersCode, r.1, r.2⟩]

end Transfer

def Transaction.transfer : Transaction → Transfer
  | readHolding start count => ⟨Modbus.readHoldingCode, start.toNat, start.toNat + count⟩
  | readInput start count => ⟨Modbus.readInputCode, start.toNat, start.toNat + count⟩
  | writeHolding start values =>
    ⟨Modbus.writeRegistersCode, start.toNat, start.toNat + values.length⟩

namespace Device

/-- How many registers a function reaches. -/
def size (d : Device) (function : UInt8) : Nat :=
  if function = Modbus.readInputCode then d.input.length else d.holding.length

def answer (d : Device) (t : Transfer) : Except Fault Unit :=
  if t.stop ≤ d.size t.function then .ok ()
  else .error (.transport (.exception t.function Modbus.illegalDataAddress))

/-- Transfers up to the first one that the device refuses. -/
def upToRefusal (d : Device) : List Transfer → List Transfer
  | [] => []
  | t :: ts =>
    match d.answer t with
    | .ok _ => t :: d.upToRefusal ts
    | .error _ => [t]

def perform (d : Device) : Transaction → Device
  | .readHolding start count => (d.readHolding start count).2
  | .readInput start count => (d.readInput start count).2
  | .writeHolding start values => (d.writeHolding start values).2

theorem length_window {t : Table} {start : UInt16} {count : Nat}
    (h : start.toNat + count ≤ t.length) : (window t start count).length = count := by
  rw [window, List.length_take, List.length_drop]
  omega

theorem getElem?_window (t : Table) (start : UInt16) {count j : Nat} (h : j < count) :
    (window t start count)[j]? = t[start.toNat + j]? := by
  rw [window, List.getElem?_take_of_lt h, List.getElem?_drop]

theorem length_putWindow {t values : Table} {start : UInt16}
    (h : start.toNat + values.length ≤ t.length) :
    (putWindow t start values).length = t.length := by
  simp only [putWindow, List.length_append, List.length_take, List.length_drop]
  omega

theorem getElem?_putWindow {t values : Table} {start : UInt16}
    (h : start.toNat + values.length ≤ t.length) (n : Nat) :
    (putWindow t start values)[n]? =
      if start.toNat ≤ n ∧ n < start.toNat + values.length then values[n - start.toNat]?
      else t[n]? := by
  have hbefore : (t.take start.toNat).length = start.toNat := List.length_take_of_le (by omega)
  rw [putWindow, List.append_assoc]
  by_cases hfirst : n < start.toNat
  · rw [List.getElem?_append_left (by omega), List.getElem?_take_of_lt hfirst,
      if_neg (by omega)]
  · rw [List.getElem?_append_right (by omega), hbefore]
    by_cases hlast : n < start.toNat + values.length
    · rw [List.getElem?_append_left (by omega), if_pos (by omega)]
    · rw [List.getElem?_append_right (by omega), List.getElem?_drop, if_neg (by omega)]
      congr 1
      omega

variable {d d' : Device}

theorem answer_congr (h : d'.size = d.size) : d'.answer = d.answer := by
  funext t
  rw [answer, answer, h]

theorem upToRefusal_congr (h : d'.size = d.size) (ts : List Transfer) :
    d'.upToRefusal ts = d.upToRefusal ts := by
  induction ts with
  | nil => rfl
  | cons t ts ih => rw [upToRefusal, upToRefusal, answer_congr h, ih]

theorem forM_answer_append (d : Device) (ts us : List Transfer) :
    (ts ++ us).forM d.answer = ts.forM d.answer >>= fun _ => us.forM d.answer := by
  induction ts with
  | nil => rfl
  | cons t ts ih =>
    rw [List.cons_append, forM_cons_eq, forM_cons_eq, ih]
    cases d.answer t <;> rfl

theorem upToRefusal_append (d : Device) (ts us : List Transfer) :
    d.upToRefusal (ts ++ us) =
      match ts.forM d.answer with
      | .ok _ => ts ++ d.upToRefusal us
      | .error _ => d.upToRefusal ts := by
  induction ts with
  | nil => rfl
  | cons t ts ih =>
    rw [List.cons_append, upToRefusal, forM_cons_eq, ih, upToRefusal]
    cases d.answer t with
    | error f => rfl
    | ok u =>
      show t :: _ = match ts.forM d.answer with
        | .ok _ => t :: ts ++ d.upToRefusal us
        | .error _ => t :: d.upToRefusal ts
      cases ts.forM d.answer <;> rfl

theorem upToRefusal_of_ok {ts : List Transfer} (h : ts.forM d.answer = .ok ()) :
    d.upToRefusal ts = ts := by
  have happend := d.upToRefusal_append ts []
  rw [h, List.append_nil] at happend
  rw [happend, upToRefusal, List.append_nil]

theorem checkWindow_holding (d : Device) {function : UInt8} (h : function ≠ Modbus.readInputCode)
    (start : UInt16) (count : Nat) :
    checkWindow d.holding function start count =
      d.answer ⟨function, start.toNat, start.toNat + count⟩ := by
  rw [answer, size, if_neg h]
  rfl

theorem writeHolding_eq (d : Device) (start : UInt16) (values : Table) :
    d.writeHolding start values =
      match d.answer ⟨Modbus.writeRegistersCode, start.toNat, start.toNat + values.length⟩ with
      | .ok _ =>
        (.ok (), { d.record (.writeHolding start values) with
          holding := putWindow d.holding start values })
      | .error e => (.error e, d.record (.writeHolding start values)) := by
  rw [← d.checkWindow_holding (by decide : Modbus.writeRegistersCode ≠ _)]
  rfl

/-- No transfer makes a table longer or shorter. -/
theorem size_perform (d : Device) (t : Transaction) : (d.perform t).size = d.size := by
  cases t with
  | readHolding start count | readInput start count => rfl
  | writeHolding start values =>
    rw [perform, writeHolding_eq, answer]
    by_cases hroom : start.toNat + values.length ≤ d.size Modbus.writeRegistersCode
    · have hlength : (putWindow d.holding start values).length = d.holding.length :=
        length_putWindow hroom
      rw [if_pos hroom]
      funext function
      show (if function = Modbus.readInputCode then d.input.length
        else (putWindow d.holding start values).length) = _
      rw [hlength]
      rfl
    · rw [if_neg hroom]
      rfl

theorem Logs.perform {history : List Transaction} (h : d.Logs history) (t : Transaction) :
    (d.perform t).Logs (history ++ [t]) := by
  have hrecord := h.record t
  cases t with
  | readHolding start count | readInput start count => exact hrecord
  | writeHolding start values =>
    rw [Device.perform, Device.writeHolding]
    split
    · exact hrecord
    · exact hrecord

end Device

namespace Recorded

variable {l : Recorded Device}

def ask (l : Recorded Device) (t : Transaction) : Recorded Device :=
  ⟨l.link.perform t, l.history ++ [t]⟩

/-- A device after transfers one after the other. -/
def askAll (l : Recorded Device) (ts : List Transaction) : Recorded Device := ts.foldl ask l

theorem askAll_append (l : Recorded Device) (ts us : List Transaction) :
    l.askAll (ts ++ us) = (l.askAll ts).askAll us := List.foldl_append

theorem history_askAll (l : Recorded Device) (ts : List Transaction) :
    (l.askAll ts).history = l.history ++ ts := by
  induction ts generalizing l with
  | nil => exact (List.append_nil _).symm
  | cons t ts ih =>
    show ((l.ask t).askAll ts).history = _
    rw [ih]
    exact List.append_assoc l.history [t] ts

theorem size_askAll (l : Recorded Device) (ts : List Transaction) :
    (l.askAll ts).link.size = l.link.size := by
  induction ts generalizing l with
  | nil => rfl
  | cons t ts ih => exact (ih (l.ask t)).trans (l.link.size_perform t)

theorem logs_askAll (h : l.link.Logs l.history) (ts : List Transaction) :
    (l.askAll ts).link.Logs (l.askAll ts).history := by
  induction ts generalizing l with
  | nil => exact h
  | cons t ts ih => exact ih (l := l.ask t) (h.perform t)

/-- The device is asked what is planned, up to the first refusal, and the result says whether there
was one. -/
structure Asks {α : Type} (l : Recorded Device) (plan : List Transfer)
    (r : Except Fault α × Recorded Device) : Prop where
  asked : ∃ ts, r.2 = l.askAll ts ∧ ts.map Transaction.transfer = l.link.upToRefusal plan
  result : outcome r.1 = plan.forM l.link.answer

variable {α β : Type} {l' : Recorded Device} {plan plan' : List Transfer}

theorem asks_nil (l : Recorded Device) (a : α) : Asks l [] (.ok a, l) := ⟨⟨[], rfl, rfl⟩, rfl⟩

theorem asks_single {t : Transaction} {r : Except Fault α × Recorded Device}
    (hlink : r.2 = l.ask t) (hresult : outcome r.1 = l.link.answer t.transfer) :
    Asks l [t.transfer] r := by
  refine ⟨⟨[t], hlink, ?_⟩, ?_⟩
  · rw [Device.upToRefusal]
    cases l.link.answer t.transfer <;> rfl
  · rw [forM_singleton, hresult]

/-- What comes after a refusal is not asked. -/
theorem Asks.stop {f : Fault} (h : Asks (α := α) l plan (.error f, l')) :
    Asks (α := β) l (plan ++ plan') (.error f, l') := by
  obtain ⟨⟨ts, hlink, hts⟩, hresult⟩ := h
  have hrefused : plan.forM l.link.answer = .error f := hresult.symm
  refine ⟨⟨ts, hlink, ?_⟩, ?_⟩
  · rw [Device.upToRefusal_append, hrefused, hts]
  · rw [Device.forM_answer_append, hrefused]
    rfl

theorem Asks.answer {a : α} (h : Asks l plan (.ok a, l')) (b : β) : Asks l plan (.ok b, l') :=
  ⟨h.asked, h.result⟩

theorem Asks.next {a : α} {r : Except Fault β × Recorded Device} (h : Asks l plan (.ok a, l'))
    (h' : Asks l' plan' r) : Asks l (plan ++ plan') r := by
  obtain ⟨⟨ts, hlink, hts⟩, hresult⟩ := h
  obtain ⟨⟨ts', hlink', hts'⟩, hresult'⟩ := h'
  have haccepted : plan.forM l.link.answer = .ok () := hresult.symm
  have hsize : l'.link.size = l.link.size := by
    rw [show l' = l.askAll ts from hlink, size_askAll]
  refine ⟨⟨ts ++ ts', ?_, ?_⟩, ?_⟩
  · rw [hlink', askAll_append, ← show l' = l.askAll ts from hlink]
  · rw [List.map_append, hts, hts', Device.upToRefusal_append, haccepted,
      Device.upToRefusal_of_ok haccepted, Device.upToRefusal_congr hsize]
  · rw [hresult', Device.forM_answer_append, haccepted, Device.answer_congr hsize]
    rfl

theorem asks_readHolding (l : Recorded Device) (start : UInt16) (count : Nat) :
    Asks l [⟨Modbus.readHoldingCode, start.toNat, start.toNat + count⟩]
      (RegisterLink.readHolding l start count) := by
  apply asks_single (t := .readHolding start count) rfl
  have hcheck := l.link.checkWindow_holding (by decide : Modbus.readHoldingCode ≠ _) start count
  show outcome ((Device.checkWindow l.link.holding Modbus.readHoldingCode start count).map _) = _
  rw [outcome_map_unit, hcheck]
  rfl

theorem asks_readInput (l : Recorded Device) (start : UInt16) (count : Nat) :
    Asks l [⟨Modbus.readInputCode, start.toNat, start.toNat + count⟩]
      (RegisterLink.readInput l start count) := by
  apply asks_single (t := .readInput start count) rfl
  show outcome ((Device.checkWindow l.link.input Modbus.readInputCode start count).map _) = _
  rw [outcome_map_unit]
  rfl

theorem asks_writeHolding (l : Recorded Device) (start : UInt16) (values : Table) :
    Asks l [⟨Modbus.writeRegistersCode, start.toNat, start.toNat + values.length⟩]
      (RegisterLink.writeHolding l start values) := by
  apply asks_single (t := .writeHolding start values) rfl
  show outcome (l.link.writeHolding start values).1 =
    l.link.answer ⟨Modbus.writeRegistersCode, start.toNat, start.toNat + values.length⟩
  rw [Device.writeHolding_eq]
  cases l.link.answer ⟨Modbus.writeRegistersCode, start.toNat, start.toNat + values.length⟩ <;> rfl

end Recorded

end FieldImage
