import FieldImage.Proofs.Driver.Likeness
import FieldImage.Proofs.Driver.Mailbox
import FieldImage.Proofs.Driver.Timeline

/-! The two drivers are interchangeable on outputs. A driver of a segment whose server answers every
request, and a driver of a device with as many bytes per table, are used in the same way: they give
the same results and the same readings at every call. -/

namespace FieldImage

open ByteImage StoredImage Register

def Move.OnOutputs : Move WriteCall → Prop
  | .change c => (∀ t ∈ c.targets, t.1.area = .output) ∧ c.HasPayload
  | .read _ c => ∀ a ∈ c.addresses, a.area = .output
  | _ => True

instance : (m : Move WriteCall) → Decidable m.OnOutputs
  | .change _ => inferInstanceAs (Decidable (_ ∧ _))
  | .read _ c => inferInstanceAs (Decidable (∀ a ∈ c.addresses, a.area = .output))
  | .update | .refresh _ | .fork _ | .dropUpdater => .isTrue trivial

abbrev segmentDriver (path : String) (i : Nat) : DriverSet (MailboxDriver × Host) WriteCall Image :=
  MailboxDriver.set (MailboxDriver.write path i)

abbrev tableDriver : DriverSet (RegisterDriver Device) WriteCall RegisterSet :=
  RegisterDriver.set fun b c => c.onBackend b

structure Equipped (count : Nat) (b : Backend Device) : Prop where
  size : b.count = count
  bound : count ≤ Backend.maxCount
  holding : count ≤ b.link.holding.length
  input : count ≤ b.link.input.length

/-- Two drivers in the same state, as far as outputs go. -/
structure Alike (path : String) (id i count : Nat) (w : MailboxDriver × Host)
    (e : RegisterDriver Device) : Prop where
  served : ∃ v, Host.Serving path id i w.1.client w.2 v ∧ v.areaSize = 2 * count ∧
    (v.area .output).toList = toBytes (e.backend.link.holding.take count)
  equipped : Equipped count e.backend
  snapshots : SameSnapshots count w.1.snapshots e.snapshots

namespace Alike

variable {path : String} {id i count : Nat} {w : MailboxDriver × Host} {e : RegisterDriver Device}

theorem write (h : Alike path id i count w e) {c : WriteCall}
    (hc : ∀ t ∈ c.targets, t.1.area = .output) (hpayload : c.HasPayload) :
    ((segmentDriver path i).step w (.change c)).1 = (tableDriver.step e (.change c)).1 ∧
      Alike path id i count ((segmentDriver path i).step w (.change c)).2
        (tableDriver.step e (.change c)).2 := by
  obtain ⟨v, hserving, hsize, houtput⟩ := h.served
  obtain ⟨rfl, hbound, hholding, hinput⟩ := h.equipped
  let s := RegisterSet.ofTables e.backend.count e.backend.link.holding e.backend.link.input
  -- both sides are compared with the register set that has the tables of the device
  have hagree : Agree (· = .output) v s := by
    refine agree_output ?_ RegisterSet.checkArea_all ?_
    · exact congrArg UInt32.ofNat hsize
    · rw [RegisterSet.holding_ofTables hholding]
      exact houtput
  have halike : ∀ t ∈ c.targets, WrittenAlike (· = .output) v s t.1 := by
    intro t ht
    have hwritable : Register.checkWritable t.1 = .ok () := by
      rw [Register.checkWritable, hc t ht]
      rfl
    exact ⟨hc t ht, hwritable.symm⟩
  obtain ⟨hresult, hafter⟩ := hagree.run_write halike
  obtain ⟨hsegment, hserved⟩ := hserving.write hpayload
  have hend := Backend.writeEnd_call hbound hholding c
  obtain ⟨htable, hfirst, -, hkept⟩ := hend.registerSet hbound hholding
  have hsize' := (v.areaSize_run c).trans hsize
  have houtput' : (((Call.write c).run v).2.area .output).toList =
      toBytes ((c.onBackend e.backend).2.link.holding.take e.backend.count) := by
    rw [hfirst]
    exact hafter.storage .output rfl
  have hlength : e.backend.count ≤ (c.onBackend e.backend).2.link.holding.length := by
    have hbytes := congrArg List.length houtput'
    rw [length_toBytes, Vector.length_toList, hsize', List.length_take] at hbytes
    omega
  refine ⟨?_, ⟨_, hserved, hsize', houtput'⟩, ⟨hend.count_eq, hbound, hlength, ?_⟩, h.snapshots⟩
  · have hsame := hsegment.trans (hresult.trans htable.symm)
    show some ((((w.2.sendPolled path i w.1.client c.command).1.map fun _ => ()).map fun _ =>
      Answer.done)) = some ((c.onBackend e.backend).1.map fun _ => .done)
    rw [← hsame]
    cases (w.2.sendPolled path i w.1.client c.command).1 <;> rfl
  · show _ ≤ (c.onBackend e.backend).2.link.input.length
    rw [hkept]
    exact hinput

theorem transfers (h : Alike path id i count w e) :
    ∃ x y host backend, w.2.readData w.1.client w.1.snapshots.scratch = (.ok x, host) ∧
      e.backend.readRegisters e.snapshots.scratch = (.ok (), y, backend) ∧
      SameOutputs count x y ∧ Alike path id i count (w.1, host) { e with backend } := by
  obtain ⟨v, hserving, hsize, houtput⟩ := h.served
  obtain ⟨rfl, hbound, hholding, hinput⟩ := h.equipped
  obtain ⟨host, hread, hserved⟩ :=
    hserving.readData (h.snapshots.scratch.areaSize.trans hsize.symm)
  obtain ⟨backend, hregisters, hcount, hholding', hinput'⟩ :=
    Backend.readRegisters_device h.snapshots.scratch.count hholding hinput
  refine ⟨_, _, host, backend, hread, hregisters, ⟨hsize, rfl, ?_⟩, ?_⟩
  · rw [RegisterSet.holding_ofTables hholding]
    exact houtput
  · refine ⟨⟨v, hserved, hsize, ?_⟩, ⟨hcount, hbound, ?_, ?_⟩, h.snapshots⟩
    · rw [hholding']
      exact houtput
    · rw [hholding']
      exact hholding
    · rw [hinput']
      exact hinput

theorem update_done (h : Alike path id i count w e) (hsegment : w.1.snapshots.isUpdating = true) :
    ((segmentDriver path i).step w .update).1 = some (.ok .done) ∧
      (tableDriver.step e .update).1 = some (.ok .done) ∧
      Alike path id i count ((segmentDriver path i).step w .update).2
        (tableDriver.step e .update).2 := by
  have htables : e.snapshots.isUpdating = true := h.snapshots.isUpdating_eq.symm.trans hsegment
  obtain ⟨x, y, host, backend, hread, hregisters, hxy, hafter⟩ := h.transfers
  have hx : w.1.snapshots.update (.ok ()) x = _ :=
    Snapshots.update_eq_ok (h.snapshots.shared.areaSize.trans hxy.areaSize.symm)
  have hy : e.snapshots.update (.ok ()) y = _ :=
    Snapshots.update_eq_ok (h.snapshots.shared.count.trans hxy.count.symm)
  rw [(segmentDriver path i).step_update_some hsegment, tableDriver.step_update_some htables]
  simp only [MailboxDriver.set, RegisterDriver.set, MailboxDriver.update, RegisterDriver.update,
    hread, hregisters, Except.map, Except.toOption, Option.getD_some, hx, hy]
  exact ⟨trivial, trivial, hafter.served, hafter.equipped, h.snapshots.publish hxy⟩

theorem update (h : Alike path id i count w e) :
    ((segmentDriver path i).step w .update).1 = (tableDriver.step e .update).1 ∧
      Alike path id i count ((segmentDriver path i).step w .update).2
        (tableDriver.step e .update).2 := by
  cases hsegment : w.1.snapshots.isUpdating with
  | true =>
    obtain ⟨hx, hy, hafter⟩ := h.update_done hsegment
    exact ⟨hx.trans hy.symm, hafter⟩
  | false =>
    have htables : e.snapshots.isUpdating = false := h.snapshots.isUpdating_eq.symm.trans hsegment
    rw [(segmentDriver path i).step_update_none hsegment, tableDriver.step_update_none htables]
    exact ⟨rfl, h⟩

theorem refresh_done (h : Alike path id i count w e) {j : Nat}
    (hinUse : Chronicle.InUse j w.1.snapshots) :
    ((segmentDriver path i).step w (.refresh j)).1 = some (.ok .done) := by
  rcases h.snapshots.reader j with ⟨hx, -⟩ | ⟨x, y, hx, -, hxy⟩
  · have hpast : w.1.snapshots.readers.length ≤ j := List.getElem?_eq_none_iff.mp hx
    have hj := hinUse.reader
    omega
  · have hrefresh := Snapshots.refresh_eq_ok hinUse.updating hx
      (hxy.areaSize.trans h.snapshots.shared.areaSize.symm)
    rw [(segmentDriver path i).step_refresh_ok hx hrefresh]

theorem refresh (h : Alike path id i count w e) (j : Nat) :
    ((segmentDriver path i).step w (.refresh j)).1 = (tableDriver.step e (.refresh j)).1 ∧
      Alike path id i count ((segmentDriver path i).step w (.refresh j)).2
        (tableDriver.step e (.refresh j)).2 := by
  have hupdating : w.1.snapshots.isUpdating = e.snapshots.isUpdating := h.snapshots.isUpdating_eq
  rcases h.snapshots.reader j with ⟨hx, hy⟩ | ⟨x, y, hx, hy, hxy⟩
  · rw [(segmentDriver path i).step_refresh_none hx, tableDriver.step_refresh_none hy]
    exact ⟨rfl, h⟩
  · cases hvalid : e.snapshots.isUpdating with
    | false =>
      rw [hvalid] at hupdating
      rw [(segmentDriver path i).step_refresh_error hx (Snapshots.refresh_of_dropped hupdating j),
        tableDriver.step_refresh_error hy (Snapshots.refresh_of_dropped hvalid j)]
      exact ⟨rfl, h⟩
    | true =>
      rw [hvalid] at hupdating
      have hsegment := Snapshots.refresh_eq_ok hupdating hx
        (hxy.areaSize.trans h.snapshots.shared.areaSize.symm)
      have htables := Snapshots.refresh_eq_ok hvalid hy
        (hxy.count.trans h.snapshots.shared.count.symm)
      rw [(segmentDriver path i).step_refresh_ok hx hsegment, tableDriver.step_refresh_ok hy htables]
      exact ⟨rfl, h.served, h.equipped, h.snapshots.refresh j⟩

theorem fork (h : Alike path id i count w e) (j : Nat) :
    ((segmentDriver path i).step w (.fork j)).1 = (tableDriver.step e (.fork j)).1 ∧
      Alike path id i count ((segmentDriver path i).step w (.fork j)).2
        (tableDriver.step e (.fork j)).2 := by
  rcases h.snapshots.reader j with ⟨hx, hy⟩ | ⟨x, y, hx, hy, hxy⟩
  · rw [(segmentDriver path i).step_fork_none hx, tableDriver.step_fork_none hy]
    exact ⟨rfl, h⟩
  · rw [(segmentDriver path i).step_fork_some hx, tableDriver.step_fork_some hy]
    exact ⟨rfl, h.served, h.equipped, h.snapshots.fork hxy⟩

theorem read (h : Alike path id i count w e) (j : Nat) {c : ReadCall}
    (hc : ∀ a ∈ c.addresses, a.area = .output) :
    ((segmentDriver path i).step w (.read j c)).1 = (tableDriver.step e (.read j c)).1 := by
  show (w.1.snapshots.reader? j).map _ = (e.snapshots.reader? j).map _
  rcases h.snapshots.reader j with ⟨hx, hy⟩ | ⟨x, y, hx, hy, hxy⟩
  · rw [hx, hy]
    rfl
  · rw [hx, hy]
    exact congrArg some (hxy.agree.ask_eq hc)

/-- Every move has the same answer from both drivers, and keeps them alike. -/
theorem step (h : Alike path id i count w e) {m : Move WriteCall} (hm : m.OnOutputs) :
    ((segmentDriver path i).step w m).1 = (tableDriver.step e m).1 ∧
      Alike path id i count ((segmentDriver path i).step w m).2 (tableDriver.step e m).2 := by
  cases m with
  | change c => exact h.write hm.1 hm.2
  | update => exact h.update
  | refresh j => exact h.refresh j
  | fork j => exact h.fork j
  | read j c => exact ⟨h.read j hm, h⟩
  | dropUpdater => exact ⟨rfl, h.served, h.equipped, h.snapshots.dropUpdater⟩

theorem run (h : Alike path id i count w e) {ms : List (Move WriteCall)}
    (hms : ∀ m ∈ ms, m.OnOutputs) :
    ((segmentDriver path i).run w ms).1 = (tableDriver.run e ms).1 ∧
      Alike path id i count ((segmentDriver path i).run w ms).2 (tableDriver.run e ms).2 := by
  induction ms generalizing w e with
  | nil => exact ⟨rfl, h⟩
  | cons m ms ih =>
    obtain ⟨hm, hms⟩ := List.forall_mem_cons.mp hms
    obtain ⟨hanswer, hafter⟩ := h.step hm
    obtain ⟨hanswers, hlast⟩ := ih hafter hms
    exact ⟨congrArg₂ List.cons hanswer hanswers, hlast⟩

/-- Drivers that were opened on a segment and a device with the same outputs. -/
theorem opened {h h' : Host} {v : ImageView} {limits : ClientLimits} {d : MailboxDriver}
    {device : Device} (ho : Host.Offers path id i h v)
    (hattach : MailboxDriver.attach h path limits = .ok (d, h'))
    (hnew : RegisterDriver.new device count = .ok e) (hsize : v.areaSize = 2 * count)
    (hholding : count ≤ device.holding.length) (hinput : count ≤ device.input.length)
    (houtput : (v.area .output).toList = toBytes (device.holding.take count)) :
    Alike path id i count (d, h') e := by
  obtain ⟨hserving, hareaSize⟩ := MailboxDriver.attach_offered ho hattach
  have hsnapshots := MailboxDriver.snapshots_attach hattach
  rw [hareaSize, hsize] at hsnapshots
  obtain ⟨backend, hbackend, hdriver⟩ := bind_eq_ok.mp hnew
  have hrange : count ≤ Backend.maxCount ∧ backend = ⟨device, count, RegisterLink.describe device,
      0, 0⟩ := by
    rw [Backend.new] at hbackend
    split at hbackend
    · rename_i hbound
      cases hbackend
      exact ⟨hbound.2, rfl⟩
    · cases hbackend
  obtain ⟨hbound, rfl⟩ := hrange
  cases hdriver
  refine ⟨⟨v, hserving, hsize, houtput⟩, ⟨rfl, hbound, hholding, hinput⟩, ?_⟩
  rw [hsnapshots]
  exact .new (.zero count)

end Alike

/-- The two drivers are interchangeable on outputs: every session gives the same answers from both,
and as long as the updater is there, updates and refreshes succeed. -/
theorem interchangeable {path : String} {id i count : Nat} {h h' : Host} {v : ImageView}
    {limits : ClientLimits} {d : MailboxDriver} {device : Device} {e : RegisterDriver Device}
    (ho : Host.Offers path id i h v) (hattach : MailboxDriver.attach h path limits = .ok (d, h'))
    (hnew : RegisterDriver.new device count = .ok e) (hsize : v.areaSize = 2 * count)
    (hholding : count ≤ device.holding.length) (hinput : count ≤ device.input.length)
    (houtput : (v.area .output).toList = toBytes (device.holding.take count))
    {ms : List (Move WriteCall)} (hms : ∀ m ∈ ms, m.OnOutputs) :
    let x := (segmentDriver path i).run (d, h') ms
    let y := tableDriver.run e ms
    x.1 = y.1 ∧ (.dropUpdater ∉ ms → 0 < x.2.1.snapshots.readers.length ∧
      ∀ j < x.2.1.snapshots.readers.length,
        ((segmentDriver path i).run x.2 [.update, .refresh j]).1 =
          [some (.ok .done), some (.ok .done)] ∧
        (tableDriver.run y.2 [.update, .refresh j]).1 =
          [some (.ok .done), some (.ok .done)]) := by
  have hopened := Alike.opened ho hattach hnew hsize hholding hinput houtput
  obtain ⟨hanswers, hafter⟩ := hopened.run hms
  have hlawful := MailboxDriver.lawful (MailboxDriver.write path i)
  refine ⟨hanswers, fun hdrop => ?_⟩
  have hfirst : Chronicle.InUse 0 d.snapshots := by
    rw [MailboxDriver.snapshots_attach hattach]
    exact ⟨rfl, Nat.one_pos⟩
  have hinUse := Chronicle.inUse_run hlawful (w := (d, h')) hfirst hdrop
  refine ⟨hinUse.reader, fun j hj => ?_⟩
  have hupdate := hafter.update_done hinUse.updating
  have hrefresh := hupdate.2.2.refresh_done
    (Chronicle.inUse_step hlawful (m := .update) ⟨hinUse.updating, hj⟩ (by simp))
  have hsegment : ((segmentDriver path i).run ((segmentDriver path i).run (d, h') ms).2
      [.update, .refresh j]).1 = [some (.ok .done), some (.ok .done)] :=
    congrArg₂ (fun a b => [a, b]) hupdate.1 hrefresh
  -- the other driver gives the same two answers
  have hmoves : ∀ m ∈ ([.update, .refresh j] : List (Move WriteCall)), m.OnOutputs := by
    simp [Move.OnOutputs]
  have hboth := (hafter.run hmoves).1
  exact ⟨hsegment, hboth.symm.trans hsegment⟩

/-- A word across two registers, a list of bits of which one is out of range, and a reading. -/
theorem interchangeable_plant :
    let v : ImageView := ⟨4, Vector.replicate 12 0⟩
    let device := Device.new [0, 0] [7, 7]
    let e : RegisterDriver Device := ⟨⟨device, 2, RegisterLink.describe device, 0, 0⟩,
      Snapshots.new (RegisterSet.zero 2) (RegisterSet.zero 2)⟩
    let ms : List (Move WriteCall) :=
      [.change (.writeWord ⟨.output, 1, 0⟩ 0xBEEF),
        .change (.setBits [⟨.output, 3, 7⟩, ⟨.output, 4, 0⟩]), .update, .refresh 0,
        .read 0 (.dword ⟨.output, 0, 0⟩)]
    Host.Offers "plant" 0 0 Host.plant v ∧ RegisterDriver.new device 2 = .ok e ∧
      v.areaSize = 2 * 2 ∧ 2 ≤ device.holding.length ∧ 2 ≤ device.input.length ∧
      (v.area .output).toList = toBytes (device.holding.take 2) ∧ (∀ m ∈ ms, m.OnOutputs) ∧
      (tableDriver.run e ms).1 =
        [some (.ok .done), some (.error (.address (.byteOutOfRange 4 1 4))), some (.ok .done),
          some (.ok .done), some (.ok (.dword 0x00BEEF00))] ∧
      ∃ d h', MailboxDriver.attach Host.plant "plant" Client.defaultLimits = .ok (d, h') ∧
        let x := (segmentDriver "plant" 0).run (d, h') ms
        let y := tableDriver.run e ms
        x.1 = y.1 ∧ (.dropUpdater ∉ ms → 0 < x.2.1.snapshots.readers.length ∧
          ∀ j < x.2.1.snapshots.readers.length,
            ((segmentDriver "plant" 0).run x.2 [.update, .refresh j]).1 =
              [some (.ok .done), some (.ok .done)] ∧
            (tableDriver.run y.2 [.update, .refresh j]).1 =
              [some (.ok .done), some (.ok .done)]) := by
  intro v device e ms
  have houtput : (v.area .output).toList = toBytes (device.holding.take 2) := by decide
  have hms : ∀ m ∈ ms, m.OnOutputs := by decide
  obtain ⟨d, h', hattach⟩ := MailboxDriver.attach_plant Client.defaultLimits
  exact ⟨Host.offers_plant, rfl, rfl, by decide, by decide, houtput, hms, by decide, d, h', hattach,
    interchangeable Host.offers_plant hattach rfl rfl (by decide) (by decide) houtput hms⟩

end FieldImage
