import Mathlib.Data.List.Induction
import SocksTunnel.Proofs.Ip.V6
import SocksTunnel.Target

/-!
Targets on the wire. A target is checked by one set of readers and written by another, and what is
written is read by a proxy: all of them agree on every host, port and kind that make a target.

* `Domain.wireName_ne_nil` — no name is written as nothing.
* `Target.written?` — the encoding as it is written from the texts, where each step may fail.
* `Destination.read?` — the reader of a proxy: a kind, an address of the length that goes with it or
  is given in front of it, and a port.
* `Target.encode_faithful` — what is written is short, is read back as what was meant, and stands
  for nothing else.
-/

namespace SocksTunnel

open SocksTunnel.Text

/-! ### Numbers in network order -/

/-- The number that bytes write, the high one first. -/
def bigEndian (bytes : Bytes) : Nat := bytes.foldl (fun n b => 256 * n + b.toNat) 0

theorem bigEndian_append (bytes : Bytes) (b : UInt8) :
    bigEndian (bytes ++ [b]) = 256 * bigEndian bytes + b.toNat := by
  simp [bigEndian]

/-- As many bytes that write the same number are the same. -/
theorem bigEndian_injective {bytes bytes' : Bytes} (length : bytes.length = bytes'.length)
    (same : bigEndian bytes = bigEndian bytes') : bytes = bytes' := by
  induction bytes using List.reverseRecOn generalizing bytes' with
  | nil => exact (List.length_eq_zero_iff.mp length.symm).symm
  | append_singleton bytes b ih =>
      rcases List.eq_nil_or_concat' bytes' with rfl | ⟨front, b', rfl⟩
      · simp at length
      · rw [bigEndian_append, bigEndian_append] at same
        have small := b.toNat_lt
        have small' := b'.toNat_lt
        have last : b = b' := UInt8.toNat_inj.mp (by omega)
        rw [ih (by simpa using length) (by omega), last]

/-- The number of an IPv4 address. -/
def Ipv4.number (ip : Ipv4) : Nat :=
  ((ip.first.toNat * 256 + ip.second.toNat) * 256 + ip.third.toNat) * 256 + ip.fourth.toNat

/-- The number of an IPv6 address. -/
def Ipv6.number (ip : Ipv6) : Nat := ip.groups.foldl (fun n g => 65536 * n + g.toNat) 0

theorem Ipv4.bigEndian_bytes (ip : Ipv4) : bigEndian ip.bytes = ip.number := by
  simp [bigEndian, Ipv4.bytes, Ipv4.number]
  omega

/-- Groups as bytes. -/
def Ipv6.groupBytes (groups : List UInt16) : Bytes :=
  groups.flatMap fun g => [UInt8.ofNat (g.toNat / 256), UInt8.ofNat (g.toNat % 256)]

theorem Ipv6.length_groupBytes (groups : List UInt16) :
    (groupBytes groups).length = 2 * groups.length := by
  simp [groupBytes, Nat.mul_comm]

theorem Ipv6.length_bytes (ip : Ipv6) : ip.bytes.length = 16 := by
  rw [show ip.bytes = groupBytes ip.groups from rfl, length_groupBytes, ip.length_groups]

theorem Ipv6.bigEndian_bytes (ip : Ipv6) : bigEndian ip.bytes = ip.number := by
  have step (groups : List UInt16) (n : Nat) :
      (groupBytes groups).foldl (fun n b => 256 * n + b.toNat) n =
        groups.foldl (fun n g => 65536 * n + g.toNat) n := by
    induction groups generalizing n with
    | nil => rfl
    | cons g groups ih =>
        have bound := g.toNat_lt
        have pair : 256 * (256 * n + g.toNat / 256) + g.toNat % 256 = 65536 * n + g.toNat := by
          omega
        have high : g.toNat / 256 % 256 = g.toNat / 256 := by omega
        simpa [groupBytes, pair, high] using ih (65536 * n + g.toNat)
  exact step ip.groups 0

/-! ### Names -/

namespace Domain

theorem sized_ne_nil {label : List Char} {bytes : Bytes} (written : sized label = .ok bytes) :
    bytes ≠ [] := by
  unfold sized at written
  split at written
  · rename_i bounds
    cases written
    simpa [asciiBytes] using List.ne_nil_of_length_pos bounds.1
  · cases written

/-- No label is written as nothing. -/
theorem labelBytes_ne_nil {label : List Char} {bytes : Bytes}
    (written : labelBytes label = .ok bytes) : bytes ≠ [] := by
  unfold labelBytes at written
  split at written
  · exact sized_ne_nil written
  · cases prepared : prepare label with
    | error e => simp [prepared, bind, Except.bind] at written
    | ok text =>
        simp only [prepared, bind, Except.bind] at written
        split at written
        · exact sized_ne_nil written
        · split at written
          · cases written
          · exact sized_ne_nil written

theorem labelledBytes_ne_nil {name : List Char} {bytes : Bytes}
    (written : labelledBytes name = .ok bytes) : bytes ≠ [] := by
  unfold labelledBytes at written
  by_cases trailing : (labels name).getLast? == some []
  · simp only [trailing, if_true, bind, Except.bind] at written
    split at written
    · cases written
    · cases written
      simp
  · simp only [trailing, bind, Except.bind, Bool.false_eq_true, if_false] at written
    cases parts : labels name with
    | nil => exact absurd parts (List.splitOnP_ne_nil isDot name)
    | cons label others =>
        rw [parts, List.mapM_cons] at written
        cases first : labelBytes label with
        | error e => simp [first, bind, Except.bind] at written
        | ok front =>
            have begun := labelBytes_ne_nil first
            cases rest : others.mapM labelBytes with
            | error e => simp [first, rest, bind, Except.bind] at written
            | ok more =>
                simp only [first, rest, bind, Except.bind, pure, Except.pure, List.append_nil,
                  Except.ok.injEq] at written
                rw [← written]
                cases more <;> simp [List.intercalate, begun]

/-- No name but the empty one is written as nothing. -/
theorem wireName_ne_nil {name : List Char} {bytes : Bytes} (nonempty : name ≠ [])
    (written : wireName name = .ok bytes) : bytes ≠ [] := by
  unfold wireName at written
  split at written
  · cases written
    simpa [asciiBytes] using nonempty
  · exact labelledBytes_ne_nil written

end Domain

/-! ### Addresses -/

/-- What the address of a destination is: a number, or a name. -/
inductive AddressValue where
  | number (n : Nat)
  | name (bytes : Bytes)
  deriving DecidableEq

namespace IpLiteral

def number : IpLiteral → Nat
  | .v4 ip => ip.number
  | .v6 ip _ => ip.number

end IpLiteral

namespace Address

def value : Address → AddressValue
  | .ipv4 ip => .number ip.number
  | .domain name _ => .name name
  | .ipv6 ip => .number ip.number

/-- Addresses of one kind with one value are written alike. -/
theorem encode_of_value {a a' : Address} (kind : a.kind = a'.kind) (value : a.value = a'.value) :
    a.encode = a'.encode := by
  cases a with
  | ipv4 ip =>
      cases a' with
      | ipv4 ip' =>
          have number := AddressValue.number.inj value
          have length : ip.bytes.length = ip'.bytes.length := rfl
          rw [← Ipv4.bigEndian_bytes, ← Ipv4.bigEndian_bytes] at number
          rw [encode, encode, bigEndian_injective length number]
      | domain => cases kind
      | ipv6 => cases kind
  | domain name _ =>
      cases a' with
      | ipv4 => cases kind
      | domain name' _ =>
          cases value
          rfl
      | ipv6 => cases kind
  | ipv6 ip =>
      cases a' with
      | ipv4 => cases kind
      | domain => cases kind
      | ipv6 ip' =>
          have number := AddressValue.number.inj value
          have length : ip.bytes.length = ip'.bytes.length := by
            rw [Ipv6.length_bytes, Ipv6.length_bytes]
          rw [← Ipv6.bigEndian_bytes, ← Ipv6.bigEndian_bytes] at number
          rw [encode, encode, bigEndian_injective length number]

end Address

/-! ### The reader of a proxy -/

/-- A destination as a proxy understands it. -/
structure Destination where
  kind : AddressKind
  value : AddressValue
  port : Nat
  deriving DecidableEq

namespace Destination

/-- Take a number of bytes. -/
def take? (n : Nat) (bytes : Bytes) : Option (Bytes × Bytes) :=
  if n ≤ bytes.length then some (bytes.take n, bytes.drop n) else none

/-- Read an address, and what is behind it. -/
def readAddress? : Bytes → Option (AddressKind × AddressValue × Bytes)
  | [] => none
  | kind :: bytes => match AddressKind.ofCode? kind.toNat with
    | some .ipv4 => (take? 4 bytes).map fun (address, rest) =>
        (.ipv4, .number (bigEndian address), rest)
    | some .ipv6 => (take? 16 bytes).map fun (address, rest) =>
        (.ipv6, .number (bigEndian address), rest)
    | some .domain => match bytes with
      | [] => none
      | length :: bytes =>
          if length = 0 then none
          else (take? length.toNat bytes).map fun (name, rest) => (.domain, .name name, rest)
    | none => none

/-- Read a destination, and what is behind it. -/
def read? (bytes : Bytes) : Option (Destination × Bytes) := do
  let (kind, value, rest) ← readAddress? bytes
  let (port, rest) ← take? 2 rest
  return (⟨kind, value, bigEndian port⟩, rest)

theorem take?_append {n : Nat} {front : Bytes} (length : front.length = n) (rest : Bytes) :
    take? n (front ++ rest) = some (front, rest) := by
  subst length
  simp [take?]

/-- An address is read back; a name has to have a byte at least. -/
theorem readAddress?_encode {a : Address}
    (named : ∀ name bound, a = .domain name bound → name ≠ []) (rest : Bytes) :
    readAddress? (a.encode ++ rest) = some (a.kind, a.value, rest) := by
  cases a with
  | ipv4 ip =>
      have length : ip.bytes.length = 4 := rfl
      have taken := take?_append length rest
      simp [Address.encode, readAddress?, AddressKind.code, AddressKind.ofCode?, taken,
        Address.kind, Address.value, Ipv4.bigEndian_bytes]
  | domain name bound =>
      have nonempty := named name bound rfl
      have fits : name.length % 256 = name.length := Nat.mod_eq_of_lt (Nat.lt_succ_of_le bound)
      have nonzero : UInt8.ofNat name.length ≠ 0 := by
        intro zero
        have length := congrArg UInt8.toNat zero
        rw [UInt8.toNat_ofNat', fits] at length
        exact nonempty (List.length_eq_zero_iff.mp length)
      have taken := take?_append (Eq.refl name.length) rest
      simp [Address.encode, readAddress?, AddressKind.code, AddressKind.ofCode?, nonzero, fits,
        taken, Address.kind, Address.value]
  | ipv6 ip =>
      have taken := take?_append ip.length_bytes rest
      simp [Address.encode, readAddress?, AddressKind.code, AddressKind.ofCode?, taken,
        Address.kind, Address.value, Ipv6.bigEndian_bytes]

end Destination

/-! ### Hosts -/

namespace IpLiteral

/-- What is read after no IPv4 address is an IPv6 address, all of the text if there is no zone. -/
theorem readZoned?_cases {cs : List Char} {literal : IpLiteral}
    (read : readZoned? cs = some literal) :
    ∃ ip zone, literal = .v6 ip zone ∧ (zone = none → Ipv6.read? cs = some ip) := by
  unfold readZoned? at read
  split at read
  · rename_i ended
    have whole := List.takeWhile_append_dropWhile (p := (· != '%')) (l := cs)
    rw [ended, List.append_nil] at whole
    rw [whole] at read
    obtain ⟨ip, found, rfl⟩ := Option.map_eq_some_iff.mp read
    exact ⟨ip, none, rfl, fun _ => found⟩
  · rename_i zone _
    split at read
    · cases read
    · obtain ⟨ip, -, rfl⟩ := Option.map_eq_some_iff.mp read
      exact ⟨ip, some zone, rfl, by simp⟩

theorem read?_v4 {cs : List Char} {ip : Ipv4} (read : read? cs = some (.v4 ip)) :
    Ipv4.read? cs = some ip := by
  unfold read? at read
  split at read
  · rename_i found
    cases read
    exact found
  · obtain ⟨_, _, other, -⟩ := readZoned?_cases read
    cases other

theorem read?_v6 {cs : List Char} {ip : Ipv6} (read : read? cs = some (.v6 ip none)) :
    Ipv6.read? cs = some ip := by
  unfold read? at read
  split at read
  · cases read
  · obtain ⟨_, _, same, found⟩ := readZoned?_cases read
    cases same
    exact found rfl

end IpLiteral

namespace Target

/-- What a host is, as a host of a kind: the number of an IP address, or the bytes of a name. -/
def value? (host : String) : AddressKind → Option AddressValue
  | .domain => (Domain.wireName host.toList).toOption.map .name
  | _ => (IpLiteral.read? host.toList).map fun literal => .number literal.number

/-- One byte, if the number fits. -/
def packByte? (n : Nat) : Option UInt8 := if n < 256 then some (UInt8.ofNat n) else none

/-- Two bytes, the high one first, if the number fits. -/
def packPair? (n : Int) : Option Bytes :=
  if 0 ≤ n ∧ n < 65536 then
    some [UInt8.ofNat (n.toNat / 256), UInt8.ofNat (n.toNat % 256)]
  else none

/-- The bytes of a host as they are written. -/
def writtenHost? (host : String) : AddressKind → Option Bytes
  | .ipv4 => Ipv4.scan? host.toList
  | .ipv6 => (Ipv6.scan? host.toList).map Ipv6.groupBytes
  | .domain => do
      let name ← (Domain.wireName host.toList).toOption
      return (← packByte? name.length) :: name

/-- The encoding as it is written from the texts; none if a step of it fails. -/
def written? (host : String) (port : Int) (kind : AddressKind) : Option Bytes := do
  return kind.code :: (← writtenHost? host kind) ++ (← packPair? port)

/-- A host that is accepted as an address: what it is, and how it is written. -/
structure Accepted (host : String) (kind : AddressKind) (address : Address) : Prop where
  value : value? host kind = some address.value
  written : (writtenHost? host kind).map (kind.code :: ·) = some address.encode
  named : ∀ name bound, address = .domain name bound → name ≠ []

section

variable {host : String}

theorem accepted_ipv4 {ip : Ipv4} (read : IpLiteral.read? host.toList = some (.v4 ip)) :
    Accepted host .ipv4 (.ipv4 ip) where
  value := by simp [value?, read, Address.value, IpLiteral.number]
  written := by simp [writtenHost?, Ipv4.scan?_eq, IpLiteral.read?_v4 read, Address.encode]
  named := by simp

theorem accepted_ipv6 {ip : Ipv6} (read : IpLiteral.read? host.toList = some (.v6 ip none)) :
    Accepted host .ipv6 (.ipv6 ip) where
  value := by simp [value?, read, Address.value, IpLiteral.number]
  written := by
    simp [writtenHost?, Ipv6.scan?_eq, IpLiteral.read?_v6 read, Address.encode, Ipv6.bytes,
      Ipv6.groupBytes]
  named := by simp

theorem accepted_domain {name : Bytes} (nonempty : host.toList ≠ [])
    (wire : Domain.wireName host.toList = .ok name) (bound : name.length ≤ 255) :
    Accepted host .domain (.domain name bound) where
  value := by simp [value?, wire, Except.toOption, Address.value]
  written := by
    have fits : name.length < 256 := Nat.lt_succ_of_le bound
    simp [writtenHost?, wire, Except.toOption, packByte?, fits, Address.encode]
  named := by
    rintro name' bound' same
    cases same
    exact Domain.wireName_ne_nil nonempty wire

end

/-- What a host denotes it is accepted as. -/
theorem accepted_of_ofHost {host : String} {kind : AddressKind} {address : Address}
    (denotes : Address.ofHost host kind = .ok address) : Accepted host kind address := by
  cases kind with
  | ipv4 =>
      simp only [Address.ofHost, Address.ipv4Of] at denotes
      split at denotes
      · cases denotes
      · rename_i ip read
        cases denotes
        exact accepted_ipv4 read
      · cases denotes
  | ipv6 =>
      simp only [Address.ofHost, Address.ipv6Of] at denotes
      split at denotes
      · cases denotes
      · cases denotes
      · rename_i ip read
        cases denotes
        exact accepted_ipv6 read
      · cases denotes
  | domain =>
      simp only [Address.ofHost, Address.domainOf] at denotes
      split at denotes
      · cases denotes
      · rename_i nonempty
        split at denotes
        · cases denotes
        · rename_i name wire
          split at denotes
          · rename_i bound
            cases denotes
            exact accepted_domain (by simpa using nonempty) wire bound
          · cases denotes

/-- What is known of a target that is made. -/
theorem make_spec {host : String} {port : Int} {kind : AddressKind} {t : Target}
    (made : make host port kind = .ok t) :
    0 ≤ port ∧ port < 65536 ∧ (t.port.toNat : Int) = port ∧ t.address.kind = kind ∧
      Address.ofHost host kind = .ok t.address := by
  unfold make at made
  split at made
  · rename_i range
    have most : port < 65536 := Int.lt_of_le_of_lt range.2 (by decide)
    split at made
    · cases made
    · rename_i address denotes
      cases made
      refine ⟨range.1, most, ?_, Address.kind_of_ofHost denotes, denotes⟩
      have fits : port.toNat < UInt16.size := (Int.toNat_lt range.1).mpr most
      rw [UInt16.toNat_ofNat_of_lt' fits, Int.toNat_of_nonneg range.1]
  · cases made

theorem bigEndian_portBytes (port : UInt16) : bigEndian (portBytes port) = port.toNat := by
  have bound := port.toNat_lt
  have high : port.toNat / 256 % 256 = port.toNat / 256 := by omega
  simp [bigEndian, portBytes, high]
  omega

theorem length_encode_le (t : Target) : t.encode.length ≤ 259 := by
  unfold encode portBytes
  cases t.address with
  | ipv4 ip => simp [Address.encode, Ipv4.bytes]
  | domain name bound =>
      simp [Address.encode]
      omega
  | ipv6 ip => simp [Address.encode, ip.length_bytes]

section

variable {host : String} {port : Int} {kind : AddressKind} {t : Target}

/-- A target is written without a failure. -/
theorem written?_of_make (made : make host port kind = .ok t) :
    written? host port kind = some t.encode := by
  obtain ⟨low, high, exact', -, denotes⟩ := make_spec made
  have written := (accepted_of_ofHost denotes).written
  have pair : packPair? port = some (portBytes t.port) := by
    rw [packPair?, if_pos ⟨low, high⟩, ← exact', Int.toNat_natCast]
    rfl
  cases bytes : writtenHost? host kind with
  | none => simp [bytes] at written
  | some bytes' =>
      rw [bytes, Option.map_some, Option.some.injEq] at written
      simp [written?, bytes, pair, encode, ← written]

/-- What is written of a target is read back, and nothing behind it is. -/
theorem read?_encode (made : make host port kind = .ok t) (rest : Bytes) :
    Destination.read? (t.encode ++ rest) =
      some (⟨kind, t.address.value, t.port.toNat⟩, rest) := by
  obtain ⟨-, -, -, rfl, denotes⟩ := make_spec made
  have named := (accepted_of_ofHost denotes).named
  have two : (portBytes t.port).length = 2 := rfl
  have port := Destination.take?_append two rest
  rw [encode, List.append_assoc, Destination.read?, Destination.readAddress?_encode named]
  simp [port, bigEndian_portBytes]

/-- Every host, port and kind that make a target make one that can be sent and read back. It is
written without a failure, in at most 259 bytes. A proxy that reads these bytes, whatever comes
behind them, finds the kind, what the host is as a host of that kind, and the port, and reads not a
byte more. So the same is written of two targets just if these three agree, and what is written of
one is no beginning of what is written of another. -/
theorem encode_faithful (made : make host port kind = .ok t) :
    written? host port kind = some t.encode ∧ t.encode.length ≤ 259 ∧
      (∀ rest, ∃ d, Destination.read? (t.encode ++ rest) = some (d, rest) ∧ d.kind = kind ∧
        value? host kind = some d.value ∧ (d.port : Int) = port) ∧
      ∀ {host' : String} {port' : Int} {kind' : AddressKind} {t' : Target},
        make host' port' kind' = .ok t' →
          (t.encode = t'.encode ↔
            kind = kind' ∧ value? host kind = value? host' kind' ∧ port = port') ∧
          (t.encode <+: t'.encode → t.encode = t'.encode) := by
  obtain ⟨-, -, exactPort, ofKind, denotes⟩ := make_spec made
  have value := (accepted_of_ofHost denotes).value
  refine ⟨written?_of_make made, t.length_encode_le, ?_, ?_⟩
  · intro rest
    exact ⟨_, read?_encode made rest, rfl, value, exactPort⟩
  · intro host' port' kind' t' made'
    obtain ⟨-, -, exactPort', ofKind', denotes'⟩ := make_spec made'
    have value' := (accepted_of_ofHost denotes').value
    refine ⟨⟨?_, ?_⟩, ?_⟩
    · intro same
      have read := read?_encode made []
      rw [same, read?_encode made' []] at read
      simp only [Option.some.injEq, Prod.mk.injEq, Destination.mk.injEq, and_true] at read
      obtain ⟨sameKind, sameValue, samePort⟩ := read
      exact ⟨sameKind.symm, by rw [value, value', sameValue], by omega⟩
    · rintro ⟨sameKind, sameValue, samePort⟩
      rw [value, value', Option.some.injEq] at sameValue
      have alike := Address.encode_of_value (ofKind.trans (sameKind.trans ofKind'.symm)) sameValue
      have ports : t.port = t'.port := UInt16.toNat_inj.mp (by omega)
      rw [encode, encode, alike, ports]
    · rintro ⟨rest, longer⟩
      have read := read?_encode made rest
      rw [longer, ← List.append_nil t'.encode, read?_encode made' []] at read
      obtain rfl : rest = [] := (Prod.mk.inj (Option.some.inj read)).2.symm
      rw [← longer, List.append_nil]

end

/-- The address of the host itself. -/
def itself : Target where
  host := "::1"
  port := 443
  address := .ipv6 ⟨[0, 0, 0, 0, 0, 0, 0, 1], rfl⟩
  denotes := by decide +kernel

/-- The same address, with points at its end. -/
def itselfWithPoints : Target where
  host := "0::0.0.0.1"
  port := 443
  address := .ipv6 ⟨[0, 0, 0, 0, 0, 0, 0, 1], rfl⟩
  denotes := by decide +kernel

theorem encode_faithful_spellings :
    itself.encode = itselfWithPoints.encode ∧
      written? "0::0.0.0.1" 443 .ipv6 = some itselfWithPoints.encode := by
  have made : make "::1" 443 .ipv6 = .ok itself := by rfl
  have made' : make "0::0.0.0.1" 443 .ipv6 = .ok itselfWithPoints := by rfl
  have value : value? "::1" .ipv6 = value? "0::0.0.0.1" .ipv6 := by decide +kernel
  obtain ⟨-, -, -, others⟩ := encode_faithful made
  obtain ⟨written, -⟩ := encode_faithful made'
  exact ⟨(others made').1.mpr ⟨rfl, value, rfl⟩, written⟩

end Target

end SocksTunnel
