import FieldImage.Proofs.Modbus.LinkCall

/-! Devices in memory that are used through links. A clone of a link leads to the same device, so all
of them ask the one device and take the one log. A log that is taken has the latest transfers that
the device was asked for since its log was last taken, through whichever links, and those that it
refused are among them. -/

namespace FieldImage

open Register

/-- Devices in memory, and the links to them, each as the place of its device. -/
structure Rack where
  devices : List Device
  links : List Nat

/-- What is done with a rack: a device is made with a link to it, a link is cloned, the tables of a
device are set from outside, a transfer is asked for with registers lent to it, or a log is
taken. -/
inductive RackMove where
  | make (count : Nat)
  | clone (link : Nat)
  | edit (link : Nat) (holding input : Table)
  | call (link : Nat) (c : LinkCall) (slice : Table)
  | takeLog (link : Nat)

/-- What has come of a move at a device. -/
inductive RackEvent where
  | called (device : Nat) (c : LinkCall) (slice : Table) (result : Except Fault Unit)
    (slice' : Table)
  | taken (device : Nat) (log : List Transaction)

namespace RackEvent

def device : RackEvent → Nat
  | called k .. | taken k _ => k

/-- The transfers asked for since a log was taken. -/
def after (asked : List Transaction) : RackEvent → List Transaction
  | called _ c slice _ _ => asked ++ [c.transaction slice]
  | taken .. => []

end RackEvent

/-- The transfers that a device was asked for since its log was last taken. -/
def askedSince (k : Nat) (events : List RackEvent) : List Transaction :=
  (events.filter fun e => e.device = k).foldl RackEvent.after []

namespace Rack

def empty : Rack := ⟨[], []⟩

def device? (r : Rack) (link : Nat) : Option (Nat × Device) := do
  let k ← r.links[link]?
  let d ← r.devices[k]?
  pure (k, d)

def put (r : Rack) (k : Nat) (d : Device) : Rack := { r with devices := r.devices.set k d }

/-- Uses the device of a link, where there is one. -/
def useDevice (r : Rack) (link : Nat) (f : Nat → Device → Option RackEvent × Device) :
    Option RackEvent × Rack :=
  match r.device? link with
  | some (k, d) => ((f k d).1, r.put k (f k d).2)
  | none => (none, r)

def step (r : Rack) : RackMove → Option RackEvent × Rack
  | .make count =>
    (none, {
      devices := r.devices ++ [.new (List.replicate count 0) (List.replicate count 0)]
      links := r.links ++ [r.devices.length] })
  | .clone link => (none, { r with links := r.links ++ r.links[link]?.toList })
  | .edit link holding input => r.useDevice link fun _ d => (none, { d with holding, input })
  | .call link c slice => r.useDevice link fun k d =>
    let (result, d, slice') := c.run d slice
    (some (.called k c slice result slice'), d)
  | .takeLog link => r.useDevice link fun k d =>
    let (log, d) := d.takeLog
    (some (.taken k log), d)

/-- The events of moves one after the other, and the rack that they leave. -/
def run (r : Rack) : List RackMove → List RackEvent × Rack
  | [] => ([], r)
  | m :: ms => ((r.step m).1.toList ++ ((r.step m).2.run ms).1, ((r.step m).2.run ms).2)

variable {events : List RackEvent} {r : Rack} {link k : Nat} {d d' : Device} {e : RackEvent}

theorem device?_eq_some :
    r.device? link = some (k, d) ↔ r.links[link]? = some k ∧ r.devices[k]? = some d := by
  simp only [device?, Option.bind_eq_bind, Option.bind_eq_some_iff, Option.pure_def,
    Option.some.injEq, Prod.mk.injEq]
  constructor
  · rintro ⟨k, hlink, d, hd, rfl, rfl⟩
    exact ⟨hlink, hd⟩
  · rintro ⟨hlink, hd⟩
    exact ⟨k, hlink, d, hd, rfl, rfl⟩

theorem useDevice_of_some (h : r.device? link = some (k, d))
    (f : Nat → Device → Option RackEvent × Device) :
    r.useDevice link f = ((f k d).1, r.put k (f k d).2) := by
  simp only [useDevice, h]

/-! ### Logs -/

theorem askedSince_same (events : List RackEvent) (h : e.device = k) :
    askedSince k (events ++ [e]) = e.after (askedSince k events) := by
  rw [askedSince, List.filter_append, List.filter_singleton, decide_eq_true h, List.foldl_append]
  rfl

theorem askedSince_other (events : List RackEvent) (h : e.device ≠ k) :
    askedSince k (events ++ [e]) = askedSince k events := by
  rw [askedSince, List.filter_append, List.filter_singleton, decide_eq_false h, askedSince]
  simp

/-- Links lead to devices, the log of each device has the latest of what it was asked for since its
log was taken, and there are no events at devices that are not made yet. -/
structure Kept (events : List RackEvent) (r : Rack) : Prop where
  links : ∀ k ∈ r.links, k < r.devices.length
  logs (k : Nat) (d : Device) : r.devices[k]? = some d → d.Logs (askedSince k events)
  unmade : ∀ k, r.devices.length ≤ k → askedSince k events = []

namespace Kept

theorem empty : Kept [] empty where
  links := nofun
  logs k d h := by cases h
  unmade _ _ := rfl

theorem make (h : Kept events r) (count : Nat) : Kept events (r.step (.make count)).2 := by
  have hlength : (r.step (.make count)).2.devices.length = r.devices.length + 1 :=
    List.length_append
  refine ⟨fun j hj => ?_, fun j dj hdj => ?_, fun j hj => h.unmade j (by omega)⟩
  · rw [hlength]
    rcases List.mem_append.mp hj with hj | hj
    · have hlt := h.links j hj
      omega
    · rw [List.mem_singleton.mp hj]
      omega
  · have happend : (r.devices ++ [.new (List.replicate count 0) (List.replicate count 0)])[j]? =
        some dj := hdj
    rcases Nat.lt_or_ge j r.devices.length with hold | hnew
    · rw [List.getElem?_append_left hold] at happend
      exact h.logs j dj happend
    · -- a new device was asked for nothing, and its log is empty
      rw [List.getElem?_append_right hnew, List.getElem?_singleton] at happend
      split at happend
      · rw [← Option.some.inj happend, h.unmade j hnew]
        rfl
      · cases happend

theorem clone (h : Kept events r) (link : Nat) : Kept events (r.step (.clone link)).2 := by
  refine ⟨fun j hj => ?_, h.logs, h.unmade⟩
  rcases List.mem_append.mp hj with hj | hj
  · exact h.links j hj
  · exact h.links j (List.mem_of_getElem? (Option.mem_toList.mp hj))

/-- One device is changed, and the history of the others stays as it is. -/
theorem put {events' : List RackEvent} (h : Kept events r) (hd : r.devices[k]? = some d)
    (hother : ∀ j, j ≠ k → askedSince j events' = askedSince j events)
    (hlogs : d'.Logs (askedSince k events')) : Kept events' (r.put k d') := by
  have hlt : k < r.devices.length := (List.getElem?_eq_some_iff.mp hd).1
  have hlength : (r.put k d').devices.length = r.devices.length := List.length_set
  refine ⟨fun j hj => ?_, fun j dj hdj => ?_, fun j hj => ?_⟩
  · rw [hlength]
    exact h.links j hj
  · have hset : (r.devices.set k d')[j]? = some dj := hdj
    by_cases hjk : j = k
    · subst hjk
      rw [List.getElem?_set_self hlt] at hset
      rwa [← Option.some.inj hset]
    · rw [List.getElem?_set_ne (Ne.symm hjk)] at hset
      rw [hother j hjk]
      exact h.logs j dj hset
  · rw [hlength] at hj
    rw [hother j (by omega)]
    exact h.unmade j hj

/-- A use of a device is told of that device only, and its log is kept by what is told. -/
theorem useDevice (h : Kept events r) (link : Nat) {f : Nat → Device → Option RackEvent × Device}
    (hdevice : ∀ k d e, (f k d).1 = some e → e.device = k)
    (hlogs : ∀ k d, d.Logs (askedSince k events) →
      (f k d).2.Logs (askedSince k (events ++ (f k d).1.toList))) :
    Kept (events ++ (r.useDevice link f).1.toList) (r.useDevice link f).2 := by
  cases hlink : r.device? link with
  | none =>
    simp only [Rack.useDevice, hlink]
    exact (List.append_nil events).symm ▸ h
  | some found =>
    obtain ⟨k, d⟩ := found
    have hd := (device?_eq_some.mp hlink).2
    rw [useDevice_of_some hlink]
    refine h.put hd (fun j hj => ?_) (hlogs k d (h.logs k d hd))
    cases hevent : (f k d).1 with
    | none => exact congrArg (askedSince j) (List.append_nil events)
    | some e =>
      have hk := hdevice k d e hevent
      exact askedSince_other events (hk ▸ Ne.symm hj)

theorem step (h : Kept events r) (m : RackMove) :
    Kept (events ++ (r.step m).1.toList) (r.step m).2 := by
  cases m with
  | make count => exact (List.append_nil events).symm ▸ h.make count
  | clone link => exact (List.append_nil events).symm ▸ h.clone link
  | edit link holding input =>
    refine h.useDevice link (fun _ _ _ => nofun) fun k d hd => ?_
    exact (List.append_nil events).symm ▸ hd
  | call link c slice =>
    refine h.useDevice link (fun _ _ _ he => Option.some.inj he ▸ rfl) fun k d hd => ?_
    show (c.run d slice).2.1.Logs (askedSince k (events ++ [_]))
    rw [askedSince_same (k := k) events rfl, c.run_device]
    exact hd.perform (c.transaction slice)
  | takeLog link =>
    refine h.useDevice link (fun _ _ _ he => Option.some.inj he ▸ rfl) fun k d hd => ?_
    show Device.Logs { d with log := [] } (askedSince k (events ++ [_]))
    rw [askedSince_same (k := k) events rfl]
    exact (List.rtake_nil _).symm

theorem run (h : Kept events r) (ms : List RackMove) :
    Kept (events ++ (r.run ms).1) (r.run ms).2 := by
  induction ms generalizing events r with
  | nil => exact (List.append_nil events).symm ▸ h
  | cons m ms ih =>
    show Kept (events ++ ((r.step m).1.toList ++ _)) _
    rw [← List.append_assoc]
    exact ih (h.step m)

end Kept

/-- After any moves, a link leads to its device. A transfer that is asked for through it is refused
or carried out there as it is in place, with no register changed but its own. A log that is taken
through it is the end of what the device was asked for, through any link, since the log was last
taken: all of it, or as much as a log has room for. It is empty then. -/
theorem latest_log_exact (ms : List RackMove) (link k : Nat)
    (hlink : (empty.run ms).2.links[link]? = some k) :
    let events := (empty.run ms).1
    let r := (empty.run ms).2
    ∃ d, r.devices[k]? = some d ∧
      (∀ c slice, ∃ result d' slice', c.Ends d slice (result, d', slice') ∧
        c.inPlace (d, slice) = some (result, d', slice') ∧
        r.step (.call link c slice) = (some (.called k c slice result slice'), r.put k d')) ∧
      ∃ log, log <:+ askedSince k events ∧
        log.length = min (askedSince k events).length Device.logCapacity ∧
        r.step (.takeLog link) = (some (.taken k log), r.put k { d with log := [] }) := by
  intro events r
  have hkept : Kept events r := Kept.empty.run ms
  have hlt := hkept.links k (List.mem_of_getElem? hlink)
  have hd := List.getElem?_eq_getElem hlt
  have hfound := device?_eq_some.mpr ⟨hlink, hd⟩
  obtain ⟨hsuffix, hlength⟩ := (hkept.logs k _ hd).latest
  refine ⟨_, hd, fun c slice => ?_, _, hsuffix, hlength, useDevice_of_some hfound _⟩
  exact ⟨_, _, _, c.ends_run _ slice, c.inPlace_run _ slice, useDevice_of_some hfound _⟩

/-- Two links lead to the first of two devices, whose log was taken once. Since then it has refused a
write through one of them and, with other tables, answered a read through the other. A read beyond
its tables leaves the registers that were lent to it. -/
theorem latest_log_exact_clones :
    let ms : List RackMove := [.make 2, .make 1, .clone 0, .call 2 (.writeHolding 1) [7],
      .call 1 (.readHolding 0) [0], .takeLog 0, .call 0 (.writeHolding 1) [5, 6],
      .edit 2 [1, 2, 3] [4], .call 2 (.readInput 0) [9]]
    let r := (empty.run ms).2
    r.links[2]? = some 0 ∧
      (r.step (.takeLog 2)).1 = some (.taken 0 [.writeHolding 1 [5, 6], .readInput 0 1]) ∧
      ∃ d d', (LinkCall.readHolding 2).Ends d [8, 9]
        (.error (.transport (.exception Modbus.readHoldingCode Modbus.illegalDataAddress)), d',
          [8, 9]) := by
  intro ms r
  have hlink : r.links[2]? = some 0 := by decide
  obtain ⟨d, -, hcalls, log, hsuffix, hlength, htake⟩ := latest_log_exact ms 2 0 hlink
  have hasked : askedSince 0 (empty.run ms).1 = [.writeHolding 1 [5, 6], .readInput 0 1] := by
    decide
  rw [hasked] at hsuffix hlength
  obtain ⟨result, d', slice', hends, -, hcall⟩ := hcalls (.readHolding 2) [8, 9]
  have hevent : some (RackEvent.called 0 (.readHolding 2) [8, 9] result slice') =
      some (.called 0 (.readHolding 2) [8, 9]
        (.error (.transport (.exception Modbus.readHoldingCode Modbus.illegalDataAddress)))
        [8, 9]) := (congrArg Prod.fst hcall).symm.trans rfl
  cases hevent
  refine ⟨hlink, ?_, d, d', hends⟩
  rw [← hsuffix.eq_of_length hlength]
  exact congrArg Prod.fst htake

end Rack

end FieldImage
