import FieldImage.Driver.Registers
import FieldImage.Proofs.Modbus.Writes

/-! What the updater of a device with registers fills its buffer with: the first registers of both
tables, whatever was in the buffer before. -/

namespace FieldImage

open Register

/-- A link with tables behind it: a read from the start that succeeds gives the first registers of
one, and leaves both as they are. -/
class TableLink (κ : Type) extends RegisterLink κ where
  holding : κ → Table
  input : κ → Table
  readHolding_eq_ok {l l' : κ} {n : Nat} {t : Table} (h : readHolding l 0 n = (.ok t, l')) :
    n ≤ (holding l).length ∧ t = (holding l).take n ∧ input l' = input l
  readInput_eq_ok {l l' : κ} {n : Nat} {t : Table} (h : readInput l 0 n = (.ok t, l')) :
    n ≤ (input l).length ∧ t = (input l).take n

theorem Device.window_eq_ok {table t : Table} {function : UInt8} {n : Nat}
    (h : ((checkWindow table function 0 n).map fun _ => window table 0 n) = .ok t) :
    n ≤ table.length ∧ t = table.take n := by
  have hfirst : (0 : UInt16).toNat = 0 := rfl
  by_cases hn : n ≤ table.length
  · have hroom : 0 + n ≤ table.length := by omega
    simp only [checkWindow, hfirst, if_pos hroom] at h
    cases h
    exact ⟨hn, rfl⟩
  · have hroom : ¬0 + n ≤ table.length := by omega
    simp only [checkWindow, hfirst, if_neg hroom] at h
    cases h

instance : TableLink Device where
  holding d := d.holding
  input d := d.input
  readHolding_eq_ok h := by
    obtain ⟨hread, rfl⟩ := Prod.mk.inj h
    obtain ⟨hn, ht⟩ := Device.window_eq_ok hread
    exact ⟨hn, ht, rfl⟩
  readInput_eq_ok h := Device.window_eq_ok (Prod.mk.inj h).1

namespace RegisterSet

theorem overlay_nil {n : Nat} (t : Vector UInt16 n) : overlay t [] = t := by
  apply Vector.ext
  intro i hi
  simp [overlay]

theorem overlay_take {n : Nat} (t u : Vector UInt16 n) {items : Table} (h : n ≤ items.length) :
    overlay t (items.take n) = overlay u items := by
  apply Vector.ext
  intro i hi
  have hlt : i < items.length := by omega
  simp [overlay, hlt]

theorem seed_seed (s : RegisterSet) {holding input : Table} (hholding : s.count ≤ holding.length)
    (hinput : s.count ≤ input.length) :
    (s.seed (holding.take s.count) []).seed [] (input.take s.count) =
      ofTables s.count holding input := by
  simp only [seed, ofTables, overlay_nil]
  congr 1
  · exact overlay_take _ _ hholding
  · exact overlay_take _ _ hinput

end RegisterSet

namespace Backend

variable {κ : Type} [TableLink κ]

theorem fill_eq_ok {link link' : κ} {set set' : RegisterSet}
    (h : fill link set = ((.ok (), set'), link')) :
    set.count ≤ (TableLink.holding link).length ∧ set.count ≤ (TableLink.input link).length ∧
      set' = RegisterSet.ofTables set.count (TableLink.holding link) (TableLink.input link) := by
  rw [fill] at h
  split at h
  · cases h
  · rename_i holding link₁ hread
    dsimp only at h
    split at h
    · cases h
    · rename_i input link₂ hread'
      cases h
      obtain ⟨hholding, rfl, hkept⟩ := TableLink.readHolding_eq_ok hread
      obtain ⟨hinput, rfl⟩ := TableLink.readInput_eq_ok hread'
      rw [hkept] at hinput ⊢
      exact ⟨hholding, hinput, RegisterSet.seed_seed set hholding hinput⟩

/-- The registers of a backend, when both tables have them all. -/
def image? (b : Backend κ) : Option RegisterSet :=
  if b.count ≤ (TableLink.holding b.link).length ∧ b.count ≤ (TableLink.input b.link).length then
    some (RegisterSet.ofTables b.count (TableLink.holding b.link) (TableLink.input b.link))
  else none

/-- A transfer that succeeds has filled the set with the registers of the backend. -/
theorem readRegisters_eq_ok {b b' : Backend κ} {set set' : RegisterSet}
    (h : b.readRegisters set = (.ok (), set', b')) : b.image? = some set' := by
  by_cases hcount : set.count = b.count
  · rw [readRegisters, if_pos hcount] at h
    obtain ⟨hresult, hrest⟩ := Prod.mk.inj h
    have hset : (fill b.link set).1.2 = set' := (Prod.mk.inj hrest).1
    have hfill : fill b.link set = ((.ok (), set'), (fill b.link set).2) :=
      Prod.ext (Prod.ext hresult hset) rfl
    obtain ⟨hholding, hinput, rfl⟩ := fill_eq_ok hfill
    rw [hcount] at hholding hinput ⊢
    exact if_pos ⟨hholding, hinput⟩
  · rw [readRegisters, if_neg hcount] at h
    cases h

theorem readRegisters_device {b : Backend Device} {set : RegisterSet} (hcount : set.count = b.count)
    (hholding : b.count ≤ b.link.holding.length) (hinput : b.count ≤ b.link.input.length) :
    ∃ b', b.readRegisters set =
        (.ok (), RegisterSet.ofTables b.count b.link.holding b.link.input, b') ∧
      b'.count = b.count ∧ b'.link.holding = b.link.holding ∧ b'.link.input = b.link.input := by
  have hwindow {table : Table} (hroom : b.count ≤ table.length) (function : UInt8) :
      Device.checkWindow table function 0 b.count = .ok () := by
    have hsum : (0 : UInt16).toNat + b.count ≤ table.length := by
      rw [UInt16.toNat_zero]
      omega
    exact if_pos hsum
  -- that both reads succeed is enough: what they leave in the set follows from that
  obtain ⟨set', b', hread, hkept⟩ : ∃ set' b', b.readRegisters set = (.ok (), set', b') ∧
      b'.count = b.count ∧ b'.link.holding = b.link.holding ∧ b'.link.input = b.link.input := by
    rw [readRegisters, if_pos hcount]
    simp only [fill, RegisterLink.readHolding, RegisterLink.readInput, Device.readHolding,
      Device.readInput, Device.record, hcount, hwindow hholding, hwindow hinput, RegisterSet.seed,
      Except.map]
    exact ⟨_, _, rfl, rfl, rfl, rfl⟩
  have himage : b.image? = some (RegisterSet.ofTables b.count b.link.holding b.link.input) :=
    if_pos ⟨hholding, hinput⟩
  have hset := readRegisters_eq_ok hread
  rw [himage] at hset
  obtain rfl := Option.some.inj hset
  exact ⟨b', hread, hkept⟩

end Backend

end FieldImage
