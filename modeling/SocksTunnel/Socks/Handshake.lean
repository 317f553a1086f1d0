import SocksTunnel.Socks.Dialogue
import SocksTunnel.Target

/-!
The handshake of a SOCKS5 client, as a dialogue.

The client offers its methods, logs in if the proxy selects the method for that, and asks for a
connection to the target. Each answer is checked field by field in a fixed order, and the answer
to the request ends with the address that the proxy has bound.
-/

namespace SocksTunnel.Socks

open SocksTunnel.Text

/-! ### Constants of the protocol -/

def protocolVersion : UInt8 := 5

def connectCommand : UInt8 := 1

def reservedByte : UInt8 := 0

def methodNone : UInt8 := 0x00

def methodPassword : UInt8 := 0x02

def methodRefused : UInt8 := 0xFF

def loginVersion : UInt8 := 1

def loginAccepted : UInt8 := 0

/-! ### Frames sent -/

/-- The methods that a client offers, in order of preference. -/
def offeredMethods : Option Credential → List UInt8
  | none => [methodNone]
  | some _ => [methodNone, methodPassword]

/-- The offer of methods, with their number in front. -/
def greeting (methods : List UInt8) : Bytes :=
  protocolVersion :: UInt8.ofNat methods.length :: methods

/-- The login: user name and password, each with its length in front. -/
def loginFrame (c : Credential) : Bytes :=
  loginVersion :: UInt8.ofNat c.usernameBytes.length :: c.usernameBytes
    ++ UInt8.ofNat c.passwordBytes.length :: c.passwordBytes

/-- The request for a connection to a target. -/
def requestFrame (target : Target) : Bytes :=
  protocolVersion :: connectCommand :: reservedByte :: target.encode

/-! ### Answers -/

/-- The address that the proxy has bound. -/
structure BoundAddress where
  host : String
  port : UInt16
  deriving DecidableEq, Repr

open Dialogue

/-- Read a frame of two bytes. -/
def hearPair : Dialogue (UInt8 × UInt8) := do
  match ← hear 2 with
  | [first, second] => return (first, second)
  | short => fail (.truncated short.length 2)

/-- Agree on a method. -/
def negotiate (credential : Option Credential) : Dialogue UInt8 := do
  let methods := offeredMethods credential
  say (greeting methods)
  let (version, method) ← hearPair
  if version ≠ protocolVersion then fail (.methodVersion version)
  else if method = methodRefused then fail .noMethod
  else if method ∉ methods then fail (.methodNotOffered method)
  else return method

/-- Log in with user name and password. -/
def login (c : Credential) : Dialogue Unit := do
  say (loginFrame c)
  let (version, status) ← hearPair
  if version ≠ loginVersion then fail (.loginVersion version)
  else if status ≠ loginAccepted then fail (.rejected c.username)
  else return ()

/-- The host that the bytes of an IPv4 address name. -/
def ipv4Host : Bytes → String
  | [a, b, c, d] => String.ofList (Ipv4.text ⟨a, b, c, d⟩)
  | _ => ""

/-- The host that the bytes of an IPv6 address name. -/
def ipv6Host (bytes : Bytes) : String :=
  match Ipv6.ofBytes? bytes with
  | some ip => String.ofList ip.dottedText
  | none => ""

/-- The host that the bytes of a domain name give. -/
def domainHost (bytes : Bytes) : String := String.ofList (readUtf8 bytes)

/-- Read the host of a bound address, whose kind has been announced. -/
def hearHost (kind : UInt8) : Dialogue String :=
  match AddressKind.ofCode? kind.toNat with
  | some .ipv4 => return ipv4Host (← hear 4)
  | some .ipv6 => return ipv6Host (← hear 16)
  | some .domain => do
      match ← hear 1 with
      | [length] => return domainHost (← hear length.toNat)
      | short => fail (.truncated short.length 1)
  | none => fail (.unknownAddressKind kind)

/-- Read a bound address, whose kind has been announced. -/
def hearAddress (kind : UInt8) : Dialogue BoundAddress := do
  let host ← hearHost kind
  let (high, low) ← hearPair
  return ⟨host, UInt16.ofNat (256 * high.toNat + low.toNat)⟩

/-- Ask for a connection to the target. -/
def request (target : Target) : Dialogue BoundAddress := do
  say (requestFrame target)
  match ← hear 4 with
  | [version, reply, reserved, kind] =>
      if version ≠ protocolVersion then fail (.replyVersion version)
      else if reserved ≠ reservedByte then fail (.reserved reserved)
      else match ReplyCode.ofCode? reply.toNat with
        | some .succeeded => hearAddress kind
        | some code => fail (.refused code)
        | none => fail (.unknownReply reply)
  | short => fail (.truncated short.length 4)

/-- The whole handshake. Only a client with a credential offers the method that needs one. -/
def connect (target : Target) (credential : Option Credential) : Dialogue BoundAddress := do
  let method ← negotiate credential
  remark ("Proxy selected auth method 0x" ++ hexByte method)
  match credential with
  | some c => if method = methodPassword then login c
  | none => pure ()
  let bound ← request target
  remark ("Proxy connected to " ++ target.text ++ ", bound at " ++ bound.host ++ ":"
    ++ decimal bound.port.toNat)
  return bound

end SocksTunnel.Socks
