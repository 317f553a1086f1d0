import SocksTunnel.Clock
import SocksTunnel.Fault
import SocksTunnel.Proxy
import SocksTunnel.Socks.Error
import SocksTunnel.Target
import SocksTunnel.Traffic.Stats

/-!
Everything that can go wrong, as one type, and the classification of failures.

A failure says what its cause is; `Failure.message` words it. Failures of the library itself
belong to a kind, the kinds form a tree below `FailureKind.forwarder`, and some kinds also count
as bad values, which is how a bad configuration is told from a failing connection.
-/

namespace SocksTunnel

open SocksTunnel.Text SocksTunnel.Traffic

/-! ### Kinds -/

/-- The kinds of failures of the library. -/
inductive FailureKind where
  | forwarder
  | bind
  | invalidAddress
  | socks
  | noAcceptableMethod
  | authenticationFailed
  | protocolViolation
  | serverReply
  | invalidTarget
  | invalidCredential
  | relay
  | proxyUnreachable
  | handshakeFailed
  | relayIo
  deriving DecidableEq, Repr

namespace FailureKind

/-- The kind that a kind is a special case of. -/
def parent? : FailureKind → Option FailureKind
  | .forwarder => none
  | .bind | .invalidAddress | .socks | .relay => some .forwarder
  | .noAcceptableMethod | .authenticationFailed | .protocolViolation | .serverReply
  | .invalidTarget | .invalidCredential => some .socks
  | .proxyUnreachable | .handshakeFailed | .relayIo => some .relay

/-- A kind and all the kinds above it. The tree is three levels deep. -/
def ancestry (k : FailureKind) : List FailureKind :=
  k :: (k.parent?.toList.flatMap fun p => p :: p.parent?.toList)

/-- Whether failures of the kind also count as bad values. -/
def isBadValue : FailureKind → Bool
  | .invalidAddress | .invalidTarget | .invalidCredential => true
  | _ => false

end FailureKind

/-! ### Failures -/

/-- A failure. -/
inductive Failure where
  /-- A text is no address. -/
  | address (error : HostPortError)
  /-- A host and a port are no destination. -/
  | target (error : TargetError)
  /-- A user name or a password has a bad length. -/
  | credential (error : CredentialError)
  /-- The proxy refused the client or broke the protocol. -/
  | handshake (error : Socks.HandshakeError)
  /-- The system reported a fault, which is passed on as it is. -/
  | fault (fault : Fault)
  /-- A reading of the clock has no whole second. -/
  | clock (error : ClockError)
  /-- A number does not fit the floating point format. -/
  | magnitude (error : MagnitudeError)
  /-- The listening address cannot be bound. -/
  | bind (listen : String) (cause : Fault)
  /-- The proxy cannot be reached. -/
  | unreachable (proxy : String) (cause : Fault)
  /-- The handshake with the proxy failed. -/
  | handshakeFailed (cause : Failure)
  /-- One or both directions of a relay failed. -/
  | relayIo (errors : List (String × Fault))
  /-- A number is no reply code. -/
  | unknownReplyCode (code : Int)
  /-- A number is no address kind. -/
  | unknownAddressKind (code : Int)
  /-- The user interrupted the program. -/
  | interrupted
  /-- A failure of a kind with a text of its own. -/
  | stated (kind : FailureKind) (text : String)
  deriving DecidableEq

namespace Failure

/-- The kind of a handshake error. -/
def handshakeKind : Socks.HandshakeError → FailureKind
  | .noMethod => .noAcceptableMethod
  | .rejected _ => .authenticationFailed
  | .refused _ => .serverReply
  | _ => .protocolViolation

/-- The kind of a failure, if it is one of the library. -/
def kind? : Failure → Option FailureKind
  | .address e => if e.aboutAddress then some .invalidAddress else none
  | .target _ => some .invalidTarget
  | .credential _ => some .invalidCredential
  | .handshake e => some (handshakeKind e)
  | .bind .. => some .bind
  | .unreachable .. => some .proxyUnreachable
  | .handshakeFailed _ => some .handshakeFailed
  | .relayIo _ => some .relayIo
  | .stated kind _ => some kind
  | .fault _ | .clock _ | .magnitude _ | .unknownReplyCode _ | .unknownAddressKind _
  | .interrupted => none

/-- Whether a failure is of a kind, or of a special case of it. -/
def isOf (k : FailureKind) (f : Failure) : Bool :=
  f.kind?.any fun own => own.ancestry.contains k

/-- Whether a failure is about a value that was given. -/
def isBadValue : Failure → Bool
  | .address _ => true
  | .fault f => f.kind == .encoding
  | .clock e => e == .notNumber
  | .unknownReplyCode _ | .unknownAddressKind _ => true
  | f => f.kind?.any FailureKind.isBadValue

/-- Whether a failure is a fault of the system. -/
def isSystem : Failure → Bool
  | .fault f => f.isSystem
  | _ => false

def message : Failure → String
  | .address e => e.message
  | .target e => e.message
  | .credential e => e.message
  | .handshake e => e.message
  | .fault f => f.message
  | .clock e => e.message
  | .magnitude e => e.message
  | .bind listen cause => "cannot listen on " ++ listen ++ ": " ++ cause.message
  | .unreachable proxy cause => "cannot reach proxy " ++ proxy ++ ": " ++ cause.message
  | .handshakeFailed cause => "SOCKS5 handshake failed: " ++ cause.message
  | .relayIo errors =>
      let parts := errors.map fun (direction, cause) => direction ++ ": " ++ cause.message
      "relay I/O error (" ++ ", ".intercalate parts ++ ")"
  | .unknownReplyCode code => signedDecimal code ++ " is not a valid ReplyCode"
  | .unknownAddressKind code => signedDecimal code ++ " is not a valid AddressType"
  | .interrupted => ""
  | .stated _ text => text

/-- The failure of a text that is no target. -/
def ofTargetText : TargetTextError → Failure
  | .address e => .address e
  | .target e => .target e

/-- The failure of options that give no proxy. -/
def ofProxy : ProxyError → Failure
  | .address e => .address e
  | .credential e => .credential e

/-- Named faults with each name once: the first place of a name and its last fault. -/
def gathered (errors : List (String × Fault)) : List (String × Fault) :=
  errors.foldl (fun acc (name, cause) =>
    if acc.any (·.1 == name) then acc.map fun e => if e.1 == name then (name, cause) else e
    else acc ++ [(name, cause)]) []

end Failure

end SocksTunnel
