import SocksTunnel.Domain.Wire
import SocksTunnel.Ip.Literal
import SocksTunnel.Text.Quoted

/-!
Destination addresses as a SOCKS5 request carries them: an IPv4 address, an IPv6 address, or the
bytes of a domain name, which are at most 255.

`Address.ofHost` says what a host text denotes as an address of a given kind, and why it may
denote none.
-/

namespace SocksTunnel

open SocksTunnel.Text

/-- The kinds of addresses. -/
inductive AddressKind where
  | ipv4
  | domain
  | ipv6
  deriving DecidableEq, Repr

namespace AddressKind

/-- The byte that announces an address of a kind. -/
def code : AddressKind → UInt8
  | .ipv4 => 1
  | .domain => 3
  | .ipv6 => 4

/-- The kind that a number announces. -/
def ofCode? (code : Int) : Option AddressKind :=
  if code = 1 then some .ipv4
  else if code = 3 then some .domain
  else if code = 4 then some .ipv6
  else none

def name : AddressKind → String
  | .ipv4 => "IPV4"
  | .domain => "DOMAIN"
  | .ipv6 => "IPV6"

end AddressKind

/-- Why a host and a port are no destination. -/
inductive TargetError where
  | portRange (port : Int)
  | emptyDomain
  | unencodable (host : String) (error : Domain.LabelError)
  | longDomain (length : Nat)
  | notLiteral (host : String)
  | otherVersion (host : String) (kind : AddressKind)
  | zoned (host : String)
  deriving DecidableEq, Repr

/-- A destination address. -/
inductive Address where
  | ipv4 (ip : Ipv4)
  | domain (name : Bytes) (length_le : name.length ≤ 255)
  | ipv6 (ip : Ipv6)
  deriving DecidableEq, Repr

namespace Address

def maxDomainLength : Nat := 255

def kind : Address → AddressKind
  | .ipv4 _ => .ipv4
  | .domain .. => .domain
  | .ipv6 _ => .ipv6

/-- The domain name that a host text denotes. -/
def domainOf (host : String) : Except TargetError Address :=
  if host.isEmpty then .error .emptyDomain
  else match Domain.wireName host.toList with
    | .error e => .error (.unencodable host e)
    | .ok name =>
        if h : name.length ≤ 255 then .ok (.domain name h) else .error (.longDomain name.length)

/-- The IPv4 address that a host text denotes. -/
def ipv4Of (host : String) : Except TargetError Address :=
  match IpLiteral.read? host.toList with
  | none => .error (.notLiteral host)
  | some (.v4 ip) => .ok (.ipv4 ip)
  | some (.v6 ..) => .error (.otherVersion host .ipv4)

/-- The IPv6 address that a host text denotes. There is no room for a zone on the wire. -/
def ipv6Of (host : String) : Except TargetError Address :=
  match IpLiteral.read? host.toList with
  | none => .error (.notLiteral host)
  | some (.v4 _) => .error (.otherVersion host .ipv6)
  | some (.v6 ip none) => .ok (.ipv6 ip)
  | some (.v6 _ (some _)) => .error (.zoned host)

/-- The address of a kind that a host text denotes. -/
def ofHost (host : String) : AddressKind → Except TargetError Address
  | .domain => domainOf host
  | .ipv4 => ipv4Of host
  | .ipv6 => ipv6Of host

theorem kind_of_ofHost {host : String} {kind : AddressKind} {address : Address}
    (h : ofHost host kind = .ok address) : address.kind = kind := by
  cases kind with
  | domain =>
      simp only [ofHost, domainOf] at h
      split at h
      · cases h
      · split at h
        · cases h
        · split at h
          · cases h; rfl
          · cases h
  | ipv4 =>
      simp only [ofHost, ipv4Of] at h
      split at h <;> cases h
      rfl
  | ipv6 =>
      simp only [ofHost, ipv6Of] at h
      split at h <;> cases h
      rfl

/-- The bytes of an address: its kind, a length in front of a domain name, and the address. -/
def encode : Address → Bytes
  | .ipv4 ip => AddressKind.ipv4.code :: ip.bytes
  | .domain name _ => AddressKind.domain.code :: UInt8.ofNat name.length :: name
  | .ipv6 ip => AddressKind.ipv6.code :: ip.bytes

end Address

/-! ### Messages -/

/-- The message for a label without a form on the wire. -/
def Domain.LabelError.message : Domain.LabelError → String
  | .prohibited c => "Invalid character " ++ String.ofList (quoted [c])
  | .mixedDirections => "Violation of BIDI requirement 2"
  | .directionAtEnds => "Violation of BIDI requirement 3"
  | .encodedPrefix => "Label starts with ACE prefix"
  | .length => "label empty or too long"

namespace TargetError

/-- The digit that names a version of the protocol. -/
def version : AddressKind → String
  | .ipv4 => "4"
  | _ => "6"

def message : TargetError → String
  | .portRange port => "port " ++ signedDecimal port ++ " out of range"
  | .emptyDomain => "empty domain name"
  | .unencodable host e =>
      "domain name " ++ quote host ++ " cannot be IDNA encoded: "
        ++ "encoding with 'idna' codec failed (UnicodeError: " ++ e.message ++ ")"
  | .longDomain length =>
      "domain name is " ++ decimal length ++ " bytes, SOCKS5 allows at most "
        ++ decimal Address.maxDomainLength
  | .notLiteral host => quote host ++ " does not appear to be an IPv4 or IPv6 address"
  | .otherVersion host kind => host ++ " is not an IPv" ++ version kind ++ " address"
  | .zoned host => host ++ " has a scope id, which SOCKS5 cannot carry"

end TargetError

end SocksTunnel
