import FieldImage.Service.Machine

/-! The program where no device answers over TCP: every attempt to connect fails, and a transfer of
registers connects first. A transfer of no registers asks nothing of the device. -/

namespace FieldImage

/-- A link over TCP that was never connected. -/
structure TcpLink where
  settings : TcpSettings
deriving DecidableEq, Repr

namespace TcpLink

/-- Nothing listens, so a link is never connected. -/
def isConnected (_ : TcpLink) : Bool := false

def connect (l : TcpLink) : Except Fault Unit :=
  throw (.transport (.connection ("Failed to connect to " ++ l.settings.endpoint)))

def begin (l : TcpLink) (count : Nat) : Except Fault Unit :=
  if count = 0 then pure () else l.connect

instance : RegisterLink TcpLink where
  readHolding l _ count := ((l.begin count).map fun _ => [], l)
  readInput l _ count := ((l.begin count).map fun _ => [], l)
  writeHolding l _ values := (l.begin values.length, l)
  describe l :=
    "modbus-tcp://" ++ l.settings.endpoint ++ " unit " ++ toString l.settings.unit.toNat

/-- How a link shows itself in messages. -/
def debugText (l : TcpLink) : String :=
  "ModbusTcpLink \x7b config: " ++ l.settings.debugText ++ ", connected: " ++
    toString l.isConnected ++ " \x7d"

end TcpLink

instance : TcpNetwork where
  Link := TcpLink
  registers := inferInstance
  link := TcpLink.mk

end FieldImage
