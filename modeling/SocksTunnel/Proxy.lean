import SocksTunnel.Binary64.Shortest
import SocksTunnel.Credential
import SocksTunnel.HostPort

/-!
The proxy that every connection goes through: its address, an optional credential, and the
seconds allowed for reaching it and for each step of the handshake. `none` stands for no limit.
-/

namespace SocksTunnel

open SocksTunnel.Text

/-- A limit in seconds, or none. -/
abbrev Timeout := Option Binary64

/-- The settings of a proxy. The address parses; `endpoint` is what it parses to. -/
structure Proxy where
  address : String
  endpoint : HostPort
  credential : Option Credential
  connectTimeout : Timeout
  handshakeTimeout : Timeout
  parses : HostPort.parse address = .ok endpoint
  deriving DecidableEq

/-- Why options give no proxy. -/
inductive ProxyError where
  | address (error : HostPortError)
  | credential (error : CredentialError)
  deriving DecidableEq, Repr

namespace Proxy

/-- Ten seconds. -/
def defaultTimeout : Timeout := some (.ofInt 10)

/-- A proxy with limits as they are given. -/
def make (address : String) (credential : Option Credential)
    (connectTimeout handshakeTimeout : Timeout) : Except HostPortError Proxy :=
  match h : HostPort.parse address with
  | .error e => .error e
  | .ok endpoint => .ok ⟨address, endpoint, credential, connectTimeout, handshakeTimeout, h⟩

/-- A limit that is not above zero is no limit. -/
def positive (limit : Timeout) : Timeout := limit.filter fun x => Binary64.lt (.zero false) x

/-- The credential of two options: there is one if both are given and not empty. -/
def credentialOf (username password : Option String) :
    Except CredentialError (Option Credential) :=
  match username, password with
  | some u, some p =>
      if u.isEmpty || p.isEmpty then .ok none else (Credential.make u p).map some
  | _, _ => .ok none

/-- A proxy from options. The credential is checked before the address. -/
def ofOptions (address : String) (username password : Option String)
    (connectTimeout handshakeTimeout : Timeout) : Except ProxyError Proxy :=
  match credentialOf username password with
  | .error e => .error (.credential e)
  | .ok credential =>
      (make address credential (positive connectTimeout) (positive handshakeTimeout)).mapError
        .address

/-- The text of a limit. -/
def limitText : Timeout → String
  | none => "None"
  | some x => x.shortest

/-- A description of a proxy with its parts named, the password left out. -/
def description (p : Proxy) : String :=
  let credential := match p.credential with
    | none => "None"
    | some c => c.description
  "ProxyConfig(address=" ++ quote p.address ++ ", credential=" ++ credential
    ++ ", connect_timeout=" ++ limitText p.connectTimeout
    ++ ", handshake_timeout=" ++ limitText p.handshakeTimeout ++ ")"

end Proxy

end SocksTunnel
