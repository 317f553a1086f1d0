import SocksTunnel.Text.Digit
import SocksTunnel.Text.Numeral
import SocksTunnel.Text.Utf8

/-!
IPv4 addresses: four bytes, written in decimal with points between them. No byte is written with
a leading zero.
-/

namespace SocksTunnel

open SocksTunnel.Text

/-- An IPv4 address. -/
structure Ipv4 where
  first : UInt8
  second : UInt8
  third : UInt8
  fourth : UInt8
  deriving DecidableEq, Repr

namespace Ipv4

/-- Read a byte: one to three plain digits, no leading zero, at most 255. -/
def readByte? (cs : List Char) : Option UInt8 :=
  if cs.isEmpty || 3 < cs.length || !cs.all isPlainDigit then none
  else if cs.head? = some '0' ∧ 1 < cs.length then none
  else if 255 < plainNumber cs then none
  else some (UInt8.ofNat (plainNumber cs))

/-- Read an address. -/
def read? (cs : List Char) : Option Ipv4 :=
  match cs.splitOn '.' with
  | [a, b, c, d] => do return ⟨← readByte? a, ← readByte? b, ← readByte? c, ← readByte? d⟩
  | _ => none

/-- The bytes of an address, in network order. -/
def bytes (ip : Ipv4) : Bytes := [ip.first, ip.second, ip.third, ip.fourth]

/-- The text of an address. -/
def text (ip : Ipv4) : List Char :=
  ['.'].intercalate (ip.bytes.map fun b => decimalDigits b.toNat)

end Ipv4

end SocksTunnel
