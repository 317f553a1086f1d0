import SocksTunnel.Text.Blank
import SocksTunnel.Text.DigitRun

/-!
Addresses of the form `host:port`.

Blanks around an address do not count. A host that holds a colon stands in brackets; any other
host ends at the last colon. The port is a run of decimal digits of any script, at most 65535.
-/

namespace SocksTunnel

open SocksTunnel.Text

/-- A host and a port. -/
structure HostPort where
  host : String
  port : UInt16
  deriving DecidableEq, Repr

/-- Why a text is no address. The text is the one without blanks around it. -/
inductive HostPortError where
  | expectedBracketed (text : List Char)
  | expectedColon (text : List Char)
  | unbracketedColons (text : List Char)
  | missingHost (text : List Char)
  | badPort (text : List Char)
  | badNumeral (error : NumeralError)
  deriving DecidableEq, Repr

/-! ### Parsing -/

namespace HostPort

def maxPort : Nat := 65535

/-- Cut a text at the last occurrence of a character. -/
def splitLast? (separator : Char) (cs : List Char) : Option (List Char × List Char) :=
  match cs.reverse.dropWhile (· != separator) with
  | [] => none
  | _ :: before => some (before.reverse, (cs.reverse.takeWhile (· != separator)).reverse)

/-- The host and the port text of an address without blanks around it. -/
def cut (text : List Char) : Except HostPortError (List Char × List Char) :=
  match text with
  | '[' :: inside =>
      match inside.dropWhile (· != ']') with
      | ']' :: ':' :: port => .ok (inside.takeWhile (· != ']'), port)
      | _ => .error (.expectedBracketed text)
  | _ =>
      match splitLast? ':' text with
      | none => .error (.expectedColon text)
      | some (host, port) =>
          if host.contains ':' then .error (.unbracketedColons text) else .ok (host, port)

/-- Read the port of the address `text`. -/
def readPort (text port : List Char) : Except HostPortError UInt16 :=
  if port.isEmpty || !port.all isDigit then .error (.badPort text)
  else match readDigitRun port with
    | .error e => .error (.badNumeral e)
    | .ok n => if maxPort < n then .error (.badPort text) else .ok (UInt16.ofNat n)

/-- Parse the characters of an address. -/
def parseChars (cs : List Char) : Except HostPortError HostPort := do
  let text := trim cs
  let (host, port) ← cut text
  if host.isEmpty then .error (.missingHost text)
  else return ⟨String.ofList host, ← readPort text port⟩

/-- Parse an address. -/
def parse (s : String) : Except HostPortError HostPort := parseChars s.toList

end HostPort

/-! ### Messages -/

namespace HostPortError

/-- Whether the error is one about addresses, and not about the number of the port. -/
def aboutAddress : HostPortError → Bool
  | .badNumeral _ => false
  | _ => true

def message : HostPortError → String
  | .expectedBracketed text => "invalid address " ++ shown text ++ ", expected [host]:port"
  | .expectedColon text => "invalid address " ++ shown text ++ ", expected host:port"
  | .unbracketedColons text => "invalid address " ++ shown text ++ ", IPv6 hosts must be bracketed"
  | .missingHost text => "invalid address " ++ shown text ++ ", missing host"
  | .badPort text => "invalid port in " ++ shown text
  | .badNumeral e => e.message
where
  shown (text : List Char) : String := String.ofList (quoted text)

end HostPortError

end SocksTunnel
