import SocksTunnel.Socks.Reply
import SocksTunnel.Text.Quoted

/-!
How a handshake fails on the side of the proxy: it hangs up, breaks the protocol, accepts no
method, rejects the credential, or answers the request with a reply code other than success.
-/

namespace SocksTunnel.Socks

open SocksTunnel.Text

/-- Why a handshake failed. -/
inductive HandshakeError where
  /-- The proxy closed the connection within a frame. -/
  | truncated (received expected : Nat)
  | methodVersion (version : UInt8)
  | noMethod
  | methodNotOffered (method : UInt8)
  | loginVersion (version : UInt8)
  | rejected (username : String)
  | replyVersion (version : UInt8)
  | reserved (byte : UInt8)
  | unknownReply (code : UInt8)
  | refused (reply : ReplyCode)
  | unknownAddressKind (code : UInt8)
  deriving DecidableEq, Repr

namespace HandshakeError

def hex (b : UInt8) : String := "0x" ++ hexByte b

def message : HandshakeError → String
  | .truncated received expected =>
      "proxy closed the connection after " ++ decimal received ++ " of " ++ decimal expected
        ++ " bytes"
  | .methodVersion v => "unexpected SOCKS version " ++ decimal v.toNat ++ " in method reply"
  | .noMethod => "proxy accepted none of the offered methods"
  | .methodNotOffered m => "proxy selected method " ++ hex m ++ " which was not offered"
  | .loginVersion v => "unexpected auth version " ++ decimal v.toNat
  | .rejected username => "proxy rejected credentials for " ++ quote username
  | .replyVersion v => "unexpected SOCKS version " ++ decimal v.toNat ++ " in CONNECT reply"
  | .reserved b => "non-zero reserved byte " ++ hex b ++ " in CONNECT reply"
  | .unknownReply b => "unknown reply code " ++ hex b
  | .refused r => "proxy replied " ++ r.description ++ " (" ++ hex r.code ++ ")"
  | .unknownAddressKind b => "unknown address type " ++ hex b ++ " in reply"

end HandshakeError

end SocksTunnel.Socks
