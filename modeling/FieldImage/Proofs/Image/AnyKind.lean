import FieldImage.Proofs.Image.Buffer
import FieldImage.Proofs.Register.Image

/-! Images of any kind, for callers that are handed one image after another without knowing which kind
comes next. -/

namespace FieldImage

open ByteImage StoredImage

inductive AnyImage where
  | owned (i : Image)
  | borrowed (v : ImageView)
  | registers (s : RegisterSet)

namespace AnyImage

instance : ByteImage AnyImage where
  areas
    | owned i => areas i
    | borrowed v => areas v
    | registers s => areas s
  byteCount
    | owned i => byteCount i
    | borrowed v => byteCount v
    | registers s => byteCount s
  byte?
    | owned i => byte? i
    | borrowed v => byte? v
    | registers s => byte? s
  setByte
    | owned i, area, k, b => owned (setByte i area k b)
    | borrowed v, area, k, b => borrowed (setByte v area k b)
    | registers s, area, k, b => registers (setByte s area k b)
  checkArea
    | owned i => checkArea i
    | borrowed v => checkArea v
    | registers s => checkArea s
  checkWritable
    | owned i => checkWritable i
    | borrowed v => checkWritable v
    | registers s => checkWritable s

instance : StoredImage AnyImage where
  storage
    | owned i => storage i
    | borrowed v => storage v
    | registers s => storage s
  byte?_eq
    | owned i => StoredImage.byte?_eq i
    | borrowed v => StoredImage.byte?_eq v
    | registers s => StoredImage.byte?_eq s
  storage_setByte
    | owned i => StoredImage.storage_setByte i
    | borrowed v => StoredImage.storage_setByte v
    | registers s => StoredImage.storage_setByte s
  byteCount_setByte
    | owned i => StoredImage.byteCount_setByte i
    | borrowed v => StoredImage.byteCount_setByte v
    | registers s => StoredImage.byteCount_setByte s
  checkArea_setByte
    | owned i => StoredImage.checkArea_setByte i
    | borrowed v => StoredImage.checkArea_setByte v
    | registers s => StoredImage.checkArea_setByte s
  checkWritable_setByte
    | owned i => StoredImage.checkWritable_setByte i
    | borrowed v => StoredImage.checkWritable_setByte v
    | registers s => StoredImage.checkWritable_setByte s

/-- The bytes of each area. -/
def size : AnyImage → Nat
  | owned i => i.areaSize
  | borrowed v => v.areaSize
  | registers s => 2 * s.count

def SameKind : AnyImage → AnyImage → Prop
  | owned _, owned _ => True
  | borrowed _, borrowed _ => True
  | registers _, registers _ => True
  | _, _ => False

/-- Images of one geometry. -/
structure SameGeometry (i j : AnyImage) : Prop where
  areas : areas i = areas j
  size : i.size = j.size

/-- The byte of an image at a place that it has. -/
def At (i : AnyImage) (area : Area) (k : Nat) (b : UInt8) : Prop :=
  area ∈ areas i ∧ k < (byteCount i).toNat ∧ byte? i area k = some b

def SameBytes (i j : AnyImage) : Prop := ∀ area k b, i.At area k b ↔ j.At area k b

variable {i j : AnyImage} {area : Area} {k : Nat} {b : UInt8}

theorem dump_owned (i : Image) : dump (owned i) = dump i := by
  simp only [dump, areaBytes, StoredImage.window_eq]
  rfl

theorem dump_borrowed (v : ImageView) : dump (borrowed v) = dump v := by
  simp only [dump, areaBytes, StoredImage.window_eq]
  rfl

theorem dump_registers (s : RegisterSet) : dump (registers s) = dump s := by
  simp only [dump, areaBytes, StoredImage.window_eq]
  rfl

theorem areas_eq (i : AnyImage) : areas i = Area.all ∨ areas i = Area.field := by
  cases i with
  | owned | borrowed => exact .inl rfl
  | registers => exact .inr rfl

theorem byteCount_eq (i : AnyImage) : byteCount i = UInt32.ofNat i.size := by cases i <;> rfl

theorem length_storage (h : area ∈ areas i) : (storage i area).length = i.size := by
  cases i with
  | owned i => exact Vector.length_toList
  | borrowed v => exact Vector.length_toList
  | registers s =>
    cases area with
    | input | output =>
      show (Register.toBytes _).length = 2 * s.count
      rw [Register.length_toBytes, Vector.length_toList]
    | memory =>
      have hnot : Area.memory ∉ Area.field := by decide
      exact absurd h hnot

theorem lt_storage (harea : area ∈ areas i) (hk : k < (byteCount i).toNat) :
    k < (storage i area).length := by
  rw [length_storage harea]
  rw [byteCount_eq, UInt32.toNat_ofNat'] at hk
  exact Nat.lt_of_lt_of_le hk (Nat.mod_le _ _)

theorem exists_at (harea : area ∈ areas i) (hk : k < (byteCount i).toNat) : ∃ b, i.At area k b :=
  ⟨_, harea, hk, byte?_eq_some (lt_storage harea hk)⟩

theorem At.unique {c : UInt8} (hb : i.At area k b) (hc : i.At area k c) : b = c :=
  Option.some.inj (hb.2.2.symm.trans hc.2.2)

theorem getElem?_areaBytes (harea : area ∈ areas i) :
    (areaBytes i area)[k]? = some b ↔ i.At area k b := by
  rw [areaBytes, StoredImage.window_eq, List.getElem?_map]
  by_cases hk : k < (byteCount i).toNat
  · have hbyte := byte?_eq_some (lt_storage harea hk)
    rw [List.getElem?_range' hk, Option.map_some, Option.some.injEq, Nat.one_mul, Nat.zero_add,
      ← StoredImage.byte?_eq]
    constructor
    · rintro rfl
      exact ⟨harea, hk, hbyte⟩
    · rintro ⟨-, -, hb⟩
      rw [hb, Option.getD_some]
  · have hnone : (List.range' 0 (byteCount i).toNat)[k]? = none :=
      List.getElem?_eq_none (by simpa using hk)
    rw [hnone]
    exact iff_of_false nofun fun hat => hk hat.2.1

theorem length_areaBytes (i : AnyImage) (area : Area) :
    (areaBytes i area).length = (byteCount i).toNat := by
  rw [areaBytes, StoredImage.window_eq, List.length_map, List.length_range']

/-! ### Changing one byte -/

theorem areas_setByte (i : AnyImage) (area : Area) (k : Nat) (b : UInt8) :
    areas (setByte i area k b) = areas i := by
  cases i <;> rfl

theorem size_setByte (i : AnyImage) (area : Area) (k : Nat) (b : UInt8) :
    (setByte i area k b).size = i.size := by
  cases i with
  | owned i => cases area <;> rfl
  | borrowed v => exact ImageView.areaSize_setByte v area k b
  | registers s => cases area <;> rfl

theorem sameKind_setByte (i : AnyImage) (area : Area) (k : Nat) (b : UInt8) :
    SameKind (setByte i area k b) j ↔ SameKind i j := by
  cases i <;> cases j <;> exact Iff.rfl

/-- The other places of the image keep their bytes. -/
theorem at_setByte (harea : area ∈ areas i) (hk : k < (byteCount i).toNat) {other : Area} {p : Nat}
    {c : UInt8} : (setByte i area k b).At other p c ↔
      if other = area ∧ p = k then c = b else i.At other p c := by
  rw [At, areas_setByte, byteCount_setByte, byte?_setByte b (lt_storage harea hk)]
  split
  · rename_i hplace
    obtain ⟨rfl, rfl⟩ := hplace
    simp [harea, hk, eq_comm]
  · exact Iff.rfl

/-! ### What the bytes determine -/

theorem SameBytes.storage_eq (h : SameBytes i j) (hgeometry : SameGeometry i j)
    (hsize : i.size < 2 ^ 32) (harea : area ∈ areas i) : storage i area = storage j area := by
  have hlength : (storage i area).length = (storage j area).length := by
    rw [length_storage harea, length_storage (hgeometry.areas ▸ harea), hgeometry.size]
  apply List.ext_getElem?
  intro k
  by_cases hk : k < i.size
  · have hcount : k < (byteCount i).toNat := by
      rwa [byteCount_eq, UInt32.toNat_ofNat_of_lt' hsize]
    obtain ⟨b, hat⟩ := exists_at harea hcount
    rw [← StoredImage.byte?_eq, ← StoredImage.byte?_eq, hat.2.2, ((h area k b).mp hat).2.2]
  · rw [← length_storage harea] at hk
    rw [List.getElem?_eq_none (Nat.le_of_not_lt hk),
      List.getElem?_eq_none (hlength ▸ Nat.le_of_not_lt hk)]

/-- Images of one kind with the same bytes are equal, when their bytes can be counted. -/
theorem SameBytes.eq (h : SameBytes i j) (hgeometry : SameGeometry i j) (hkind : SameKind i j)
    (hsize : i.size < 2 ^ 32) : i = j := by
  have hstorage {area : Area} (harea : area ∈ areas i) : storage i area = storage j area :=
    h.storage_eq hgeometry hsize harea
  have hall (area : Area) : area ∈ Area.all := by cases area <;> decide
  match i, j, hkind with
  | owned i, owned j, _ => rw [Image.eq_of_areas fun area => hstorage (hall area)]
  | borrowed v, borrowed w, _ => rw [ImageView.eq_of_areas fun area => hstorage (hall area)]
  | registers s, registers t, _ =>
    have hfield : Area.input ∈ Area.field ∧ Area.output ∈ Area.field := by decide
    have hareas (area : Area) : s.areaStorage area = t.areaStorage area := by
      cases area with
      | input => exact hstorage hfield.1
      | output => exact hstorage hfield.2
      | memory => rfl
    rw [RegisterSet.eq_of_areaStorage hareas]

end AnyImage

end FieldImage
