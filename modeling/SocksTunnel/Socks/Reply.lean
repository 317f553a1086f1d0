/-!
What a SOCKS5 proxy may answer: the reply codes of a connection request, and the ways in which an
answer breaks the protocol or refuses the client.
-/

namespace SocksTunnel.Socks

/-- The reply codes of a connection request. -/
inductive ReplyCode where
  | succeeded
  | generalFailure
  | connectionNotAllowed
  | networkUnreachable
  | hostUnreachable
  | connectionRefused
  | ttlExpired
  | commandNotSupported
  | addressTypeNotSupported
  deriving DecidableEq, Repr

namespace ReplyCode

/-- The byte of a reply code. -/
def code : ReplyCode → UInt8
  | .succeeded => 0
  | .generalFailure => 1
  | .connectionNotAllowed => 2
  | .networkUnreachable => 3
  | .hostUnreachable => 4
  | .connectionRefused => 5
  | .ttlExpired => 6
  | .commandNotSupported => 7
  | .addressTypeNotSupported => 8

/-- All reply codes, in the order of their bytes. -/
def all : List ReplyCode :=
  [.succeeded, .generalFailure, .connectionNotAllowed, .networkUnreachable, .hostUnreachable,
    .connectionRefused, .ttlExpired, .commandNotSupported, .addressTypeNotSupported]

/-- The reply code of a number. -/
def ofCode? (code : Int) : Option ReplyCode :=
  all.find? fun r => (r.code.toNat : Int) = code

/-- The reply code in words. -/
def words : ReplyCode → List String
  | .succeeded => ["succeeded"]
  | .generalFailure => ["general", "failure"]
  | .connectionNotAllowed => ["connection", "not", "allowed"]
  | .networkUnreachable => ["network", "unreachable"]
  | .hostUnreachable => ["host", "unreachable"]
  | .connectionRefused => ["connection", "refused"]
  | .ttlExpired => ["ttl", "expired"]
  | .commandNotSupported => ["command", "not", "supported"]
  | .addressTypeNotSupported => ["address", "type", "not", "supported"]

/-- The words of a reply code with blanks between them. -/
def description (r : ReplyCode) : String := " ".intercalate r.words

/-- The words of a reply code in capitals, joined by underscores. -/
def name (r : ReplyCode) : String := ("_".intercalate r.words).toUpper

end ReplyCode

end SocksTunnel.Socks
