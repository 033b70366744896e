import FieldImage.Modbus.Backend
import FieldImage.Proofs.Image.Storage
import FieldImage.Proofs.Register.Bytes

/-! A change of bytes on a device: the registers under it are read, their bytes are changed, and the
registers are written back. What comes of it is the change on the bytes of the whole table. -/

namespace FieldImage

open ByteImage StoredImage Register

namespace Edit

/-- All bytes that are changed are between two places. -/
def Within (first last : Nat) : Edit → Prop
  | change as _ => ∀ a ∈ as, first ≤ a.offset ∧ a.offset < last
  | put a bs => first ≤ a.offset ∧ a.offset + bs.length ≤ last

/-- The change on bytes that begin at a place of the area. -/
def onBytes (base : Nat) (bytes : List UInt8) : Edit → List UInt8
  | change as f => as.foldl (fun bytes a => bytes.modify (a.offset - base) (f a)) bytes
  | put a bs => Backend.replaceAt (a.offset - base) bs bytes

theorem modify_middle (a m b : List UInt8) {p : Nat} (hfirst : a.length ≤ p)
    (hlast : p < a.length + m.length) (f : UInt8 → UInt8) :
    (a ++ m ++ b).modify p f = a ++ m.modify (p - a.length) f ++ b := by
  have hdrop : a.length + (p - a.length) = p := by omega
  have hinner : p - a.length < m.length := by omega
  rw [List.modify_eq_take_drop, List.modify_eq_take_drop, List.append_assoc a m b, ← hdrop,
    List.take_length_add_append, List.drop_length_add_append, hdrop,
    List.take_append_of_le_length (by omega), List.drop_append_of_le_length (by omega),
    List.drop_eq_getElem_cons hinner]
  simp only [List.cons_append, List.modifyHead_cons, List.append_assoc]

theorem foldl_modify_middle (a m b : List UInt8) {as : List Address}
    (h : ∀ x ∈ as, a.length ≤ x.offset ∧ x.offset < a.length + m.length)
    (f : Address → UInt8 → UInt8) :
    as.foldl (fun bytes x => bytes.modify x.offset (f x)) (a ++ m ++ b) =
      a ++ as.foldl (fun bytes x => bytes.modify (x.offset - a.length) (f x)) m ++ b := by
  induction as generalizing m with
  | nil => rfl
  | cons x as ih =>
    obtain ⟨hx, has⟩ := List.forall_mem_cons.mp h
    rw [List.foldl_cons, List.foldl_cons, modify_middle a m b hx.1 hx.2]
    apply ih
    rwa [List.length_modify]

theorem replaceAt_middle (a m b : List UInt8) {p : Nat} {bs : List UInt8} (hfirst : a.length ≤ p)
    (hlast : p + bs.length ≤ a.length + m.length) :
    Backend.replaceAt p bs (a ++ m ++ b) = a ++ Backend.replaceAt (p - a.length) bs m ++ b := by
  have hbefore : a.length + (p - a.length) = p := by omega
  have hafter : a.length + (p - a.length + bs.length) = p + bs.length := by omega
  rw [Backend.replaceAt, Backend.replaceAt, List.append_assoc a m b, ← hafter, ← hbefore,
    List.take_length_add_append, hbefore, List.drop_length_add_append,
    List.take_append_of_le_length (by omega), List.drop_append_of_le_length (by omega)]
  simp

/-- A change between two places leaves the bytes before and behind them. -/
theorem onBytes_middle {a m b : List UInt8} {e : Edit}
    (h : e.Within a.length (a.length + m.length)) :
    e.onBytes 0 (a ++ m ++ b) = a ++ e.onBytes a.length m ++ b := by
  cases e with
  | change as f => exact foldl_modify_middle a m b h f
  | put x bs => exact replaceAt_middle a m b h.1 h.2

theorem length_foldl_modify {α : Type} (as : List α) (place : α → Nat) (f : α → UInt8 → UInt8)
    (bytes : List UInt8) :
    (as.foldl (fun bytes a => bytes.modify (place a) (f a)) bytes).length = bytes.length := by
  induction as generalizing bytes with
  | nil => rfl
  | cons a as ih => rw [List.foldl_cons, ih, List.length_modify]

theorem length_onBytes {base : Nat} {bytes : List UInt8} {e : Edit}
    (h : e.Within base (base + bytes.length)) : (e.onBytes base bytes).length = bytes.length := by
  cases e with
  | change as f => exact length_foldl_modify ..
  | put a bs =>
    obtain ⟨hfirst, hlast⟩ := h
    rw [onBytes, Backend.replaceAt]
    simp only [List.length_append, List.length_take, List.length_drop]
    omega

variable {ι : Type} [ByteImage ι] [StoredImage ι]

theorem storage_foldl (i : ι) (area : Area) {as : List Address} (harea : ∀ a ∈ as, a.area = area)
    (f : Address → UInt8 → UInt8) (other : Area) :
    storage (as.foldl (fun i a => updateByte i a (f a)) i) other =
      if other = area then as.foldl (fun bytes a => bytes.modify a.offset (f a)) (storage i area)
      else storage i other := by
  induction as generalizing i with
  | nil =>
    split
    · rename_i hother
      rw [hother]
      rfl
    · rfl
  | cons a as ih =>
    obtain ⟨ha, has⟩ := List.forall_mem_cons.mp harea
    rw [List.foldl_cons, ih _ has, List.foldl_cons, storage_updateByte, storage_updateByte,
      if_pos ha.symm, ha]
    split <;> rfl

theorem storage_perform (i : ι) (area : Area) {e : Edit} (harea : ∀ t ∈ e.targets, t.1.area = area)
    (h : e.Within 0 (storage i area).length) (other : Area) :
    storage (e.perform i) other =
      if other = area then e.onBytes 0 (storage i area) else storage i other := by
  cases e with
  | change as f =>
    have has : ∀ a ∈ as, a.area = area := fun a ha => harea (a, 1) (List.mem_map_of_mem ha)
    exact storage_foldl i area has f other
  | put a bs =>
    have ha : a.area = area := harea (a, UInt32.ofNat bs.length) (.head _)
    rw [perform, ha, storage_putWindow i area h.2]
    rfl

end Edit

namespace Device

/-- A device whose holding registers are those of another one with their bytes changed. -/
structure ChangedBy (f : List UInt8 → List UInt8) (d d' : Device) : Prop where
  input : d'.input = d.input
  holding : toBytes d'.holding = f (toBytes d.holding)

theorem ChangedBy.length_holding {f : List UInt8 → List UInt8} {d d' : Device}
    (h : ChangedBy f d d') (hf : (f (toBytes d.holding)).length = (toBytes d.holding).length) :
    d'.holding.length = d.holding.length := by
  have hlength := congrArg List.length h.holding
  rw [hf, length_toBytes, length_toBytes] at hlength
  omega

variable {d : Device} {before middle behind : Table}

theorem readHolding_middle (hparts : d.holding = before ++ middle ++ behind)
    (hstart : before.length < 65536) :
    d.readHolding (UInt16.ofNat before.length) middle.length =
      (.ok middle, d.record (.readHolding (UInt16.ofNat before.length) middle.length)) := by
  have hfirst : (UInt16.ofNat before.length).toNat = before.length :=
    UInt16.toNat_ofNat_of_lt' hstart
  have hroom : before.length + middle.length ≤ d.holding.length := by
    rw [hparts, List.length_append, List.length_append]
    omega
  have hwindow : (d.holding.drop before.length).take middle.length = middle := by
    rw [hparts, List.append_assoc, List.drop_left, List.take_left]
  simp only [readHolding, checkWindow, window, record, hfirst, if_pos hroom, hwindow]
  rfl

theorem writeHolding_middle {values : Table} (hparts : d.holding = before ++ middle ++ behind)
    (hstart : before.length < 65536) (hvalues : values.length = middle.length) :
    ∃ d', d.writeHolding (UInt16.ofNat before.length) values = (.ok (), d') ∧
      d'.input = d.input ∧ d'.holding = before ++ values ++ behind := by
  have hfirst : (UInt16.ofNat before.length).toNat = before.length :=
    UInt16.toNat_ofNat_of_lt' hstart
  have hroom : before.length + values.length ≤ d.holding.length := by
    rw [hparts, hvalues, List.length_append, List.length_append]
    omega
  have hbefore : d.holding.take before.length = before := by
    rw [hparts, List.append_assoc, List.take_left]
  have hbehind : d.holding.drop (before.length + values.length) = behind := by
    rw [hparts, hvalues, ← List.length_append, List.drop_left]
  simp only [writeHolding, checkWindow, putWindow, record, hfirst, if_pos hroom, hbefore, hbehind]
  exact ⟨_, rfl, rfl, rfl⟩

end Device

namespace Backend

theorem splice_middle {d : Device} {before middle behind : Table}
    {f : List UInt8 → List UInt8} (hparts : d.holding = before ++ middle ++ behind)
    (hstart : before.length < 65536) (hlength : (f (toBytes middle)).length = 2 * middle.length) :
    ∃ d', splice d before.length (before.length + middle.length) f = (.ok (), d') ∧
      d'.input = d.input ∧
      toBytes d'.holding = toBytes before ++ f (toBytes middle) ++ toBytes behind := by
  have heven : (f (toBytes middle)).length % 2 = 0 := by omega
  have hvalues : (ofBytes (f (toBytes middle))).length = middle.length := by
    have htwice := length_ofBytes heven
    omega
  have hcount : before.length + middle.length - before.length = middle.length := by omega
  obtain ⟨d', hwrite, hinput, hholding⟩ := Device.writeHolding_middle
    (d := d.record (.readHolding (UInt16.ofNat before.length) middle.length)) hparts hstart hvalues
  refine ⟨d', ?_, hinput, ?_⟩
  · have hread : RegisterLink.readHolding d (UInt16.ofNat before.length) middle.length = _ :=
      Device.readHolding_middle hparts hstart
    rw [splice, hcount, hread]
    exact hwrite
  · rw [hholding, toBytes_append, toBytes_append, toBytes_ofBytes heven]

/-- A change of the registers under it is the change of the whole table as a run of bytes. -/
theorem splice_edit {d : Device} {start stop : Nat} {e : Edit} (hstart : start < 65536)
    (hle : start ≤ stop) (hstop : stop ≤ d.holding.length) (h : e.Within (2 * start) (2 * stop)) :
    ∃ d', splice d start stop (fun bytes => e.onBytes (2 * start) bytes) = (.ok (), d') ∧
      d.ChangedBy (fun bytes => e.onBytes 0 bytes) d' := by
  -- the table in three parts, of which the splice reads and writes the middle one
  obtain ⟨before, middle, behind, hparts, rfl, rfl⟩ :
      ∃ before middle behind : Table, d.holding = before ++ middle ++ behind ∧
        before.length = start ∧ before.length + middle.length = stop := by
    refine ⟨d.holding.take start, (d.holding.drop start).take (stop - start),
      (d.holding.drop start).drop (stop - start), ?_, ?_, ?_⟩
    · rw [List.append_assoc, List.take_append_drop, List.take_append_drop]
    · exact List.length_take_of_le (by omega)
    · rw [List.length_take, List.length_take, List.length_drop]
      omega
  have hwithin : e.Within (toBytes before).length
      ((toBytes before).length + (toBytes middle).length) := by
    rwa [length_toBytes, length_toBytes, ← Nat.mul_add]
  have hlength := Edit.length_onBytes hwithin
  have hmiddle := Edit.onBytes_middle (b := toBytes behind) hwithin
  rw [length_toBytes before] at hlength hmiddle
  rw [length_toBytes] at hlength
  obtain ⟨d', hrun, hinput, hholding⟩ := splice_middle (f := fun bytes => e.onBytes
    (2 * before.length) bytes) hparts hstart hlength
  refine ⟨d', hrun, hinput, ?_⟩
  rw [hholding, hparts, toBytes_append, toBytes_append, hmiddle]

end Backend

end FieldImage
