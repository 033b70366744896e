import FieldImage.Modbus.Link

/-! Devices over TCP: where a device is, how long to wait for it, and the network whose links lead
to it. -/

namespace FieldImage

/-- Where a device is, and how long to wait for it. -/
structure TcpSettings where
  host : String
  port : UInt16
  unit : UInt8
  connectTimeout : Duration
  responseTimeout : Duration
deriving DecidableEq, Repr

namespace TcpSettings

def endpoint (s : TcpSettings) : String := s.host ++ ":" ++ toString s.port.toNat

/-- How the settings show themselves in messages. -/
def debugText (s : TcpSettings) : String :=
  "TcpLinkConfig \x7b host: " ++ Text.quoted s.host ++ ", port: " ++ toString s.port.toNat ++
    ", unit_id: " ++ toString s.unit.toNat ++ ", connect_timeout: " ++ s.connectTimeout.text ++
    ", response_timeout: " ++ s.responseTimeout.text ++ " \x7d"

end TcpSettings

/-- What leads to devices over TCP. -/
class TcpNetwork where
  Link : Type
  registers : RegisterLink Link
  /-- A link that was never connected. -/
  link : TcpSettings → Link

instance [TcpNetwork] : RegisterLink TcpNetwork.Link := TcpNetwork.registers

end FieldImage
