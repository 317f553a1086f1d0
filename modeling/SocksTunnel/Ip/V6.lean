import SocksTunnel.Ip.V4

/-!
IPv6 addresses: eight groups of sixteen bits.

In text the groups are hexadecimal with colons between them; once, `::` may stand for one or more
groups of zeros, and the last two groups may be written as an IPv4 address. `Ipv6.read?` accepts
every such spelling. There are two written forms. `Ipv6.text` is the canonical one: lower case,
no leading zeros, the first of the longest runs of at least two zero groups shortened to `::`.
`Ipv6.dottedText` differs from it where the address embeds an IPv4 address, whose last two groups
it writes with points.
-/

namespace SocksTunnel

open SocksTunnel.Text

/-- An IPv6 address. -/
structure Ipv6 where
  groups : List UInt16
  length_groups : groups.length = 8
  deriving DecidableEq, Repr

namespace Ipv6

/-- Eight groups as an address. -/
def ofGroups? (groups : List UInt16) : Option Ipv6 :=
  if h : groups.length = 8 then some ⟨groups, h⟩ else none

/-! ### Reading -/

/-- The value of a hexadecimal digit of either case. -/
def hexValue? (c : Char) : Option Nat :=
  if '0' ≤ c ∧ c ≤ '9' then some (c.toNat - 48)
  else if 'a' ≤ c ∧ c ≤ 'f' then some (c.toNat - 87)
  else if 'A' ≤ c ∧ c ≤ 'F' then some (c.toNat - 55)
  else none

/-- Read a group: one to four hexadecimal digits. -/
def readGroup? (cs : List Char) : Option UInt16 :=
  if cs.isEmpty || 4 < cs.length then none
  else do
    let digits ← cs.mapM hexValue?
    return UInt16.ofNat (digits.foldl (16 * · + ·) 0)

/-- Two bytes as a group, the high one first. -/
def groupOf (high low : UInt8) : UInt16 := UInt16.ofNat (256 * high.toNat + low.toNat)

/-- The last piece of an address: one group, or an IPv4 address as two. -/
def readLast? (cs : List Char) : Option (List UInt16) :=
  if cs.contains '.' then
    (Ipv4.read? cs).map fun ip => [groupOf ip.first ip.second, groupOf ip.third ip.fourth]
  else (readGroup? cs).map ([·])

/-- Groups with colons between them; `dotted` tells whether the last piece may be an IPv4
address. -/
def readPieces? (dotted : Bool) : List (List Char) → Option (List UInt16)
  | [] => some []
  | [piece] => if dotted then readLast? piece else (readGroup? piece).map ([·])
  | piece :: rest => do return (← readGroup? piece) :: (← readPieces? dotted rest)

/-- The groups written in a text; an empty text holds none. -/
def readGroups? (dotted : Bool) (cs : List Char) : Option (List UInt16) :=
  if cs.isEmpty then some [] else readPieces? dotted (cs.splitOn ':')

/-- The texts before and after the first `::`. -/
def splitGap? : List Char → Option (List Char × List Char)
  | ':' :: ':' :: rest => some ([], rest)
  | c :: rest => (splitGap? rest).map fun (before, after) => (c :: before, after)
  | [] => none

/-- Read an address. -/
def read? (cs : List Char) : Option Ipv6 :=
  match splitGap? cs with
  | none => do ofGroups? (← readGroups? true cs)
  | some (before, after) => do
      let left ← readGroups? false before
      let right ← readGroups? true after
      if left.length + right.length < 8 then
        ofGroups? (left ++ List.replicate (8 - (left.length + right.length)) 0 ++ right)
      else none

/-! ### Bytes -/

/-- The bytes of an address, in network order. -/
def bytes (ip : Ipv6) : Bytes :=
  ip.groups.flatMap fun g => [UInt8.ofNat (g.toNat / 256), UInt8.ofNat (g.toNat % 256)]

/-- Bytes taken in pairs. -/
def pairs : Bytes → List UInt16
  | high :: low :: rest => groupOf high low :: pairs rest
  | _ => []

/-- Sixteen bytes as an address. -/
def ofBytes? (bytes : Bytes) : Option Ipv6 := ofGroups? (pairs bytes)

/-! ### Writing -/

/-- Hexadecimal digits of a number without leading zeros. -/
def hexText (n : Nat) : List Char :=
  if n < 16 then [digitChar n] else hexText (n / 16) ++ [digitChar (n % 16)]

/-- How many zero groups stand at the front. -/
def zerosAhead (groups : List UInt16) : Nat := (groups.takeWhile (· = 0)).length

/-- The first of the longest runs of zero groups: where it starts and how long it is. -/
def zeroRun : List UInt16 → Nat × Nat
  | [] => (0, 0)
  | g :: rest =>
      let later := zeroRun rest
      if later.2 ≤ zerosAhead (g :: rest) then (0, zerosAhead (g :: rest))
      else (later.1 + 1, later.2)

/-- Groups with colons between them. -/
def colonText (groups : List UInt16) : List Char :=
  [':'].intercalate (groups.map fun g => hexText g.toNat)

/-- The canonical text of an address. -/
def text (ip : Ipv6) : List Char :=
  let run := zeroRun ip.groups
  if run.2 < 2 then colonText ip.groups
  else colonText (ip.groups.take run.1) ++ ':' :: ':' :: colonText (ip.groups.drop (run.1 + run.2))

/-- The IPv4 address in the last four bytes. -/
def tailAddress (groups : List UInt16) : Option Ipv4 :=
  match groups with
  | [_, _, _, _, _, _, g, h] =>
      some ⟨UInt8.ofNat (g.toNat / 256), UInt8.ofNat (g.toNat % 256),
        UInt8.ofNat (h.toNat / 256), UInt8.ofNat (h.toNat % 256)⟩
  | _ => none

/-- The text with an embedded IPv4 address in points: after exactly six groups of zeros, or after
five and a group of ones. -/
def dottedText (ip : Ipv6) : List Char :=
  let run := zeroRun ip.groups
  match tailAddress ip.groups with
  | some tail =>
      if run = (0, 6) then ':' :: ':' :: tail.text
      else if run = (0, 5) ∧ ip.groups[5]? = some 0xFFFF then
        ':' :: ':' :: 'f' :: 'f' :: 'f' :: 'f' :: ':' :: tail.text
      else ip.text
  | none => ip.text

end Ipv6

end SocksTunnel
