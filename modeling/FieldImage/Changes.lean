import FieldImage.Image.Access
import FieldImage.Text.Numeral

/-! The bytes that changed from one image to the next. -/

namespace FieldImage

structure Change where
  address : Address
  old : UInt8
  new : UInt8
deriving DecidableEq, Repr

/-- The line that reports a change. -/
def Change.text (c : Change) : String :=
  c.address.text ++ ": 0x" ++ Text.hexUpper 2 c.old.toNat ++ " -> 0x" ++
    Text.hexUpper 2 c.new.toNat

/-- The areas of the image that was last looked at, none before the first. -/
structure ChangeTracker where
  previous : List (Area × List UInt8)
deriving Repr

namespace ChangeTracker

def new : ChangeTracker := ⟨[]⟩

/-- The changes of an area from `place` on, as far as both byte lists go. -/
def areaChanges (area : Area) : (place : Nat) → (old new : List UInt8) → List Change
  | place, o :: old, n :: new =>
    let rest := areaChanges area (place + 1) old new
    if o = n then rest else ⟨Address.ofByte area (UInt32.ofNat place), o, n⟩ :: rest
  | _, _, _ => []

def changes : (old new : List (Area × List UInt8)) → List Change
  | (area, o) :: old, (_, n) :: new => areaChanges area 0 o n ++ changes old new
  | _, _ => []

/-- The changes since the image before, and the tracker that has seen this one. An image with
another number of areas only becomes the next baseline. -/
def diff {ι : Type} [ByteImage ι] (t : ChangeTracker) (i : ι) : List Change × ChangeTracker :=
  let current := ByteImage.dump i
  (if t.previous.length = current.length then changes t.previous current else [], ⟨current⟩)

end ChangeTracker

end FieldImage
