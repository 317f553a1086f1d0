import SocksTunnel.Address
import SocksTunnel.HostPort

/-!
Targets: the fixed destination that every connection is forwarded to.

A target keeps its host as text, beside the address that the text denotes; the two always agree,
so a target can be sent without further checks.
-/

namespace SocksTunnel

open SocksTunnel.Text

/-- A destination of a SOCKS5 request. -/
structure Target where
  host : String
  port : UInt16
  address : Address
  denotes : Address.ofHost host address.kind = .ok address
  deriving DecidableEq

/-- Why a text is no target. -/
inductive TargetTextError where
  | address (error : HostPortError)
  | target (error : TargetError)
  deriving DecidableEq, Repr

namespace Target

def kind (t : Target) : AddressKind := t.address.kind

/-- A target of a given kind. The port is checked first. -/
def make (host : String) (port : Int) (kind : AddressKind) : Except TargetError Target :=
  if 0 ≤ port ∧ port ≤ HostPort.maxPort then
    match h : Address.ofHost host kind with
    | .error e => .error e
    | .ok address =>
        .ok ⟨host, UInt16.ofNat port.toNat, address, (Address.kind_of_ofHost h).symm ▸ h⟩
  else .error (.portRange port)

/-- A target of the kind that its host text shows; an IP address is kept in its canonical
text. -/
def ofHostPort (host : String) (port : Int) : Except TargetError Target :=
  match IpLiteral.read? host.toList with
  | none => make host port .domain
  | some (.v4 ip) => make (String.ofList ip.text) port .ipv4
  | some literal@(.v6 ..) => make (String.ofList literal.text) port .ipv6

/-- Parse a target of the form `host:port`. -/
def parse (s : String) : Except TargetTextError Target :=
  match HostPort.parse s with
  | .error e => .error (.address e)
  | .ok hp => (ofHostPort hp.host hp.port.toNat).mapError .target

/-- A port as two bytes, the high one first. -/
def portBytes (port : UInt16) : Bytes :=
  [UInt8.ofNat (port.toNat / 256), UInt8.ofNat (port.toNat % 256)]

/-- The address and the port as a request carries them. -/
def encode (t : Target) : Bytes := t.address.encode ++ portBytes t.port

/-- The text of a target, with an IPv6 host in brackets. -/
def text (t : Target) : String :=
  let port := ":" ++ decimal t.port.toNat
  match t.kind with
  | .ipv6 => "[" ++ t.host ++ "]" ++ port
  | _ => t.host ++ port

/-- A description of a target with its parts named. -/
def description (t : Target) : String :=
  "TargetAddress(host=" ++ quote t.host ++ ", port=" ++ decimal t.port.toNat
    ++ ", kind=<AddressType." ++ t.kind.name ++ ": " ++ decimal t.kind.code.toNat ++ ">)"

end Target

end SocksTunnel
