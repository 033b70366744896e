import FieldImage.Image.Access
import FieldImage.Value.Json
import FieldImage.Value.Text

/-! What a reader reports of a point: its address and its value, as a line of text or of JSON. -/

namespace FieldImage

structure Reading where
  address : Address
  value : Value
deriving DecidableEq, Repr

namespace Reading

def text (r : Reading) : String := r.address.text ++ " = " ++ r.value.text

/-- A JSON object: the members of the value follow the address. -/
def json (r : Reading) : String :=
  Json.writeObject (("address", Json.quotedString r.address.text) :: r.value.jsonMembers)

/-- One reading for each address, in order; the first refused address decides. -/
def all {ι : Type} [ByteImage ι] (i : ι) (as : List Address) (type : DataType) :
    Except Fault (List Reading) :=
  as.mapM fun a => (ByteImage.getValue i a type).map fun value => ⟨a, value⟩

end Reading

end FieldImage
