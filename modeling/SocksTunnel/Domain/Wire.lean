import SocksTunnel.Domain.Nameprep
import SocksTunnel.Domain.Punycode
import SocksTunnel.Text.Utf8

/-!
The form of a domain name on the wire.

A name in ASCII is sent as it is. Any other name is cut at its dots, four characters serving as
dots, and each label is sent in ASCII: as it is, in its prepared form, or as the punycode of that
form after the mark `xn--`.
-/

namespace SocksTunnel.Domain

open SocksTunnel.Text

/-- The full stop and the three other characters that separate labels. -/
def isDot (c : Char) : Bool :=
  c == '.' || c.toNat == 0x3002 || c.toNat == 0xFF0E || c.toNat == 0xFF61

/-- The labels between the dots of a name; at least one. -/
def labels (name : List Char) : List (List Char) := name.splitOnP isDot

def allAscii (cs : List Char) : Bool := cs.all Punycode.isAscii

/-- The bytes of a text in ASCII. -/
def asciiBytes (cs : List Char) : Bytes := cs.map fun c => UInt8.ofNat c.toNat

/-- A label on the wire has between one and 63 bytes. -/
def sized (label : List Char) : Except LabelError Bytes :=
  if 0 < label.length ∧ label.length < 64 then .ok (asciiBytes label) else .error .length

/-- The mark of an encoded label. -/
def encodedMark : List Char := ['x', 'n', '-', '-']

/-- The form of a label on the wire. -/
def labelBytes (label : List Char) : Except LabelError Bytes := do
  if allAscii label then sized label
  else
    let prepared ← prepare label
    if allAscii prepared then sized prepared
    else if encodedMark.isPrefixOf prepared then .error .encodedPrefix
    else sized (encodedMark ++ Punycode.encode prepared)

/-- The form of an internationalised name: its labels with dots between them, and a dot at the
end if the name ends with one. -/
def labelledBytes (name : List Char) : Except LabelError Bytes := do
  let parts := labels name
  let trailing := parts.getLast? == some []
  let written ← (if trailing then parts.dropLast else parts).mapM labelBytes
  return [0x2E].intercalate written ++ (if trailing then [0x2E] else [])

/-- The bytes sent for a domain name. -/
def wireName (name : List Char) : Except LabelError Bytes :=
  if allAscii name then .ok (asciiBytes name) else labelledBytes name

end SocksTunnel.Domain
