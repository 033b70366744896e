import FieldImage.Proofs.Image.Agreement
import FieldImage.Proofs.Image.Owned
import FieldImage.Proofs.Image.View
import Mathlib.Data.List.Forall2

/-! A view of one buffer is the image of the buffer's three parts. Whatever is done to both, they
answer alike, and the buffer stays the areas of the image one after the other. -/

namespace FieldImage

open ByteImage StoredImage

/-- The bytes of all areas, in order. -/
def Image.bytes (i : Image) : List UInt8 := i.input.toList ++ i.output.toList ++ i.memory.toList

theorem Image.bytes_eq (i : Image) : i.bytes =
    (i.area .input).toList ++ (i.area .output).toList ++ (i.area .memory).toList := rfl

/-- The image whose areas are the parts of a buffer. -/
def Image.ofParts (bytes : Array UInt8) (areaSize : Nat) (h : bytes.size = 3 * areaSize) :
    Image where
  areaSize
  input := ⟨bytes.extract 0 areaSize, by simp; omega⟩
  output := ⟨bytes.extract areaSize (2 * areaSize), by simp; omega⟩
  memory := ⟨bytes.extract (2 * areaSize) (3 * areaSize), by simp; omega⟩

theorem Image.bytes_ofParts {bytes : Array UInt8} {areaSize : Nat} (h : bytes.size = 3 * areaSize) :
    (ofParts bytes areaSize h).bytes = bytes.toList := by
  have hparts : bytes.extract 0 areaSize ++ bytes.extract areaSize (2 * areaSize) ++
      bytes.extract (2 * areaSize) (3 * areaSize) = bytes := by
    rw [Array.extract_append_extract, Nat.min_eq_left (by omega), Nat.max_eq_right (by omega),
      Array.extract_append_extract, Nat.min_eq_left (by omega), Nat.max_eq_right (by omega)]
    apply Array.extract_eq_self_of_le
    omega
  show (bytes.extract 0 areaSize).toList ++ (bytes.extract areaSize (2 * areaSize)).toList ++
    (bytes.extract (2 * areaSize) (3 * areaSize)).toList = _
  rw [← Array.toList_append, ← Array.toList_append, hparts]

theorem ImageView.bytes_eq_areas (v : ImageView) : v.bytes.toList =
    (v.area .input).toList ++ (v.area .output).toList ++ (v.area .memory).toList := by
  apply List.ext_getElem?
  intro p
  rw [Vector.getElem?_toList, List.getElem?_append, List.getElem?_append]
  simp only [List.length_append, Vector.length_toList, getElem?_area, place, Area.index]
  -- a place is in one third of the buffer, or past its end
  by_cases hinput : p < v.areaSize
  · rw [if_pos (by omega), if_pos hinput, if_pos hinput]
    congr 1
    omega
  by_cases houtput : p < v.areaSize + v.areaSize
  · rw [if_pos houtput, if_neg hinput, if_pos (by omega)]
    congr 1
    omega
  rw [if_neg houtput]
  by_cases hmemory : p < 3 * v.areaSize
  · rw [if_pos (by omega)]
    congr 1
    omega
  · rw [if_neg (by omega), Vector.getElem?_eq_none (by omega)]

theorem ImageView.eq_of_areas {v w : ImageView}
    (h : ∀ area, (v.area area).toList = (w.area area).toList) : v = w := by
  have hsize : v.areaSize = w.areaSize := by
    have hlength := congrArg List.length (h .input)
    rwa [Vector.length_toList, Vector.length_toList] at hlength
  have hbytes : v.bytes.toList = w.bytes.toList := by
    rw [v.bytes_eq_areas, w.bytes_eq_areas, h, h, h]
  obtain ⟨n, bytes⟩ := v
  obtain ⟨m, bytes'⟩ := w
  obtain rfl : n = m := hsize
  exact congrArg (ImageView.mk n) (Vector.toList_inj.mp hbytes)

/-- A view over the bytes of an image. -/
structure Mirrors (v : ImageView) (i : Image) : Prop where
  areaSize : v.areaSize = i.areaSize
  bytes : v.bytes.toList = i.bytes

namespace Mirrors

variable {v : ImageView} {i : Image}

theorem area (h : Mirrors v i) (area : Area) : (v.area area).toList = (i.area area).toList := by
  have hbytes := h.bytes
  rw [v.bytes_eq_areas, i.bytes_eq, List.append_assoc, List.append_assoc] at hbytes
  have hlength (a : Area) : (v.area a).toList.length = (i.area a).toList.length := by
    rw [Vector.length_toList, Vector.length_toList, h.areaSize]
  obtain ⟨hinput, hrest⟩ := List.append_inj hbytes (hlength .input)
  obtain ⟨houtput, hmemory⟩ := List.append_inj hrest (hlength .output)
  cases area with
  | input => exact hinput
  | output => exact houtput
  | memory => exact hmemory

theorem agree (h : Mirrors v i) : Agree (fun _ => True) v i where
  byteCount := congrArg UInt32.ofNat h.areaSize
  checkArea _ _ := rfl
  storage area _ := h.area area

theorem of_agree (h : Agree (fun _ => True) v i) : Mirrors v i where
  areaSize := by
    have hlength := congrArg List.length (h.storage .input trivial)
    rwa [show storage v .input = (v.area .input).toList from rfl,
      show storage i .input = (i.area .input).toList from rfl, Vector.length_toList,
      Vector.length_toList] at hlength
  bytes := by
    have harea (a : Area) : (v.area a).toList = (i.area a).toList := h.storage a trivial
    rw [v.bytes_eq_areas, i.bytes_eq, harea, harea, harea]

theorem ofImage (i : Image) : Mirrors (.ofImage i) i := by
  refine ⟨rfl, ?_⟩
  show (i.input.toArray ++ i.output.toArray ++ i.memory.toArray).toList = _
  rw [Array.toList_append, Array.toList_append]
  rfl

theorem toImage (h : Mirrors v i) : v.toImage = i := by
  apply Image.eq_of_areas
  intro area
  rw [← h.area]
  cases area <;> rfl

end Mirrors

/-! ### Steps -/

/-- What is done with an image: a call on its points, bytes read or put without a check, the whole
copied out, or another image copied in. -/
inductive ImageStep where
  | call (c : Call)
  | readRaw (area : Area) (offset count : Nat)
  | writeRaw (area : Area) (offset : Nat) (bytes : List UInt8)
  | copyTo (target : Image)
  | loadFrom (source : Image)

/-- What a step answers; a copy also leaves its target. -/
inductive StepAnswer where
  | call (x : Except Fault Answer)
  | bytes (found : Option (List UInt8))
  | written
  | copied (x : Except Fault Unit) (target : Image)
  | loaded (x : Except Fault Unit)
deriving DecidableEq

def ImageView.step (v : ImageView) : ImageStep → StepAnswer × ImageView
  | .call c => (.call (c.run v).1, (c.run v).2)
  | .readRaw area offset count => (.bytes (window? v area offset count), v)
  | .writeRaw area offset bytes => (.written, putWindow v area offset bytes)
  | .copyTo target =>
    match v.copyTo target with
    | .ok copy => (.copied (.ok ()) copy, v)
    | .error f => (.copied (.error f) target, v)
  | .loadFrom source =>
    match v.loadFrom source with
    | .ok w => (.loaded (.ok ()), w)
    | .error f => (.loaded (.error f), v)

def Image.step (i : Image) : ImageStep → StepAnswer × Image
  | .call c => (.call (c.run i).1, (c.run i).2)
  | .readRaw area offset count => (.bytes (window? i area offset count), i)
  | .writeRaw area offset bytes => (.written, putWindow i area offset bytes)
  | .copyTo target =>
    match target.copyFrom i with
    | .ok copy => (.copied (.ok ()) copy, i)
    | .error f => (.copied (.error f) target, i)
  | .loadFrom source =>
    match i.copyFrom source with
    | .ok j => (.loaded (.ok ()), j)
    | .error f => (.loaded (.error f), i)

/-- The answers to a sequence of steps, each with what it leaves. -/
def stepTrace {σ : Type} (step : σ → ImageStep → StepAnswer × σ) (s : σ) :
    List ImageStep → List (StepAnswer × σ)
  | [] => []
  | a :: as => step s a :: stepTrace step (step s a).2 as

theorem checkGeometry_self (n : Nat) : checkGeometry n n = .ok () := if_pos rfl

theorem checkGeometry_ne {expected actual : Nat} (h : expected ≠ actual) :
    checkGeometry expected actual = .error (.notInitialized (.imageGeometry expected actual)) :=
  if_neg h

namespace Mirrors

variable {v : ImageView} {i : Image}

theorem copyTo_eq (h : Mirrors v i) (target : Image) : v.copyTo target = target.copyFrom i := by
  rw [ImageView.copyTo, Image.copyFrom, h.areaSize, h.toImage]

theorem run (h : Mirrors v i) (c : Call) :
    (c.run v).1 = (c.run i).1 ∧ Mirrors (c.run v).2 (c.run i).2 := by
  cases c with
  | read c => exact ⟨h.agree.ask_eq fun _ _ => trivial, h⟩
  | write c =>
    have hrun := h.agree.run_write (c := c) fun _ _ => ⟨trivial, rfl⟩
    exact ⟨hrun.1, of_agree hrun.2⟩

theorem step (h : Mirrors v i) (a : ImageStep) :
    (v.step a).1 = (i.step a).1 ∧ Mirrors (v.step a).2 (i.step a).2 := by
  cases a with
  | call c => exact ⟨congrArg StepAnswer.call (h.run c).1, (h.run c).2⟩
  | readRaw area offset count =>
    exact ⟨congrArg StepAnswer.bytes (h.agree.window?_eq trivial offset count), h⟩
  | writeRaw area offset bytes => exact ⟨rfl, of_agree (h.agree.putWindow trivial offset bytes)⟩
  | copyTo target =>
    rw [ImageView.step, Image.step, h.copyTo_eq]
    cases target.copyFrom i <;> exact ⟨rfl, h⟩
  | loadFrom source =>
    rw [ImageView.step, Image.step, ImageView.loadFrom, Image.copyFrom, h.areaSize]
    cases checkGeometry i.areaSize source.areaSize with
    | error f => exact ⟨rfl, h⟩
    | ok u => exact ⟨rfl, ofImage source⟩

theorem trace (h : Mirrors v i) (as : List ImageStep) :
    List.Forall₂ (fun p q => p.1 = q.1 ∧ Mirrors p.2 q.2) (stepTrace ImageView.step v as)
      (stepTrace Image.step i as) := by
  induction as generalizing v i with
  | nil => exact .nil
  | cons a as ih => exact .cons (h.step a) (ih (h.step a).2)

end Mirrors

theorem ImageView.ofBytes_eq_ok {bytes : Array UInt8} {areaSize : Nat} {v : ImageView} :
    ofBytes bytes areaSize = .ok v ↔
      ∃ h : bytes.size = 3 * areaSize, v = ⟨areaSize, ⟨bytes, h⟩⟩ := by
  rw [ofBytes]
  split
  · rename_i h
    constructor
    · intro hv
      cases hv
      exact ⟨h, rfl⟩
    · rintro ⟨_, rfl⟩
      rfl
  · rename_i h
    exact ⟨nofun, fun ⟨hsize, _⟩ => absurd hsize h⟩

/-- A buffer of three times the area size, and no other, can be viewed, and the view is then the
image of the buffer's parts: every sequence of steps is answered alike by both, and after each the
buffer is the areas of the image one after the other. A copy between different sizes changes
nothing; between equal sizes an image that is loaded is had back. -/
theorem view_refines_image (bytes : Array UInt8) (areaSize : Nat) :
    ((∃ v, ImageView.ofBytes bytes areaSize = .ok v) ↔ bytes.size = 3 * areaSize) ∧
    (∀ h : bytes.size = 3 * areaSize, ∃ v, ImageView.ofBytes bytes areaSize = .ok v ∧
      Mirrors v (.ofParts bytes areaSize h) ∧
      ∀ as, List.Forall₂ (fun p q => p.1 = q.1 ∧ Mirrors p.2 q.2)
        (stepTrace ImageView.step v as)
        (stepTrace Image.step (.ofParts bytes areaSize h) as)) ∧
    (∀ (v : ImageView) (i : Image), v.areaSize ≠ i.areaSize →
      v.step (.copyTo i) =
        (.copied (.error (.notInitialized (.imageGeometry i.areaSize v.areaSize))) i, v) ∧
      v.step (.loadFrom i) =
        (.loaded (.error (.notInitialized (.imageGeometry v.areaSize i.areaSize))), v)) ∧
    ∀ (v : ImageView) (source target : Image), v.areaSize = source.areaSize →
      target.areaSize = source.areaSize → ∃ w, v.step (.loadFrom source) = (.loaded (.ok ()), w) ∧
        w.step (.copyTo target) = (.copied (.ok ()) source, w) := by
  refine ⟨?_, ?_, ?_, ?_⟩
  · constructor
    · rintro ⟨v, hv⟩
      exact (ImageView.ofBytes_eq_ok.mp hv).1
    · exact fun h => ⟨_, ImageView.ofBytes_eq_ok.mpr ⟨h, rfl⟩⟩
  · intro h
    have hmirrors : Mirrors ⟨areaSize, ⟨bytes, h⟩⟩ (.ofParts bytes areaSize h) :=
      ⟨rfl, (Image.bytes_ofParts h).symm⟩
    exact ⟨_, ImageView.ofBytes_eq_ok.mpr ⟨h, rfl⟩, hmirrors, hmirrors.trace⟩
  · intro v i hne
    constructor
    · rw [ImageView.step, ImageView.copyTo, checkGeometry_ne hne.symm]
      rfl
    · rw [ImageView.step, ImageView.loadFrom, checkGeometry_ne hne]
      rfl
  · intro v source target hview htarget
    refine ⟨.ofImage source, ?_, ?_⟩
    · rw [ImageView.step, ImageView.loadFrom, hview, checkGeometry_self]
      rfl
    · rw [ImageView.step, (Mirrors.ofImage source).copyTo_eq, Image.copyFrom, htarget,
        checkGeometry_self]
      rfl

/-- Two bytes an area: a word fills the inputs and none goes past their end, a smaller image is not
loaded, and one of the same size is had back. -/
theorem view_refines_image_twoBytes :
    let bytes : Array UInt8 := #[1, 2, 3, 4, 5, 6]
    let v : ImageView := ⟨2, ⟨bytes, rfl⟩⟩
    let i := Image.ofParts bytes 2 rfl
    let steps : List ImageStep :=
      [.call (.write (.writeWord ⟨.input, 0, 0⟩ 0xBEEF)),
        .call (.write (.writeWord ⟨.input, 1, 0⟩ 0)), .writeRaw .memory 1 [9],
        .readRaw .output 0 2]
    (stepTrace Image.step i steps).map (·.1) =
        [.call (.ok .done), .call (.error (.address (.byteOutOfRange 1 2 2))), .written,
          .bytes (some [3, 4])] ∧
      (∃ v, ImageView.ofBytes bytes 2 = .ok v ∧
        List.Forall₂ (fun p q => p.1 = q.1 ∧ Mirrors p.2 q.2) (stepTrace ImageView.step v steps)
          (stepTrace Image.step i steps)) ∧
      v.step (.loadFrom (.zero 1)) =
        (.loaded (.error (.notInitialized (.imageGeometry 2 1))), v) ∧
      ∃ w, v.step (.loadFrom i) = (.loaded (.ok ()), w) ∧
        w.step (.copyTo (.zero 2)) = (.copied (.ok ()) i, w) := by
  intro bytes v i steps
  obtain ⟨-, hview, hgeometry, hrestored⟩ := view_refines_image bytes 2
  obtain ⟨u, hu, -, htrace⟩ := hview rfl
  exact ⟨by decide, ⟨u, hu, htrace steps⟩, (hgeometry v (.zero 1) (by decide)).2,
    hrestored v i (.zero 2) rfl rfl⟩

end FieldImage
