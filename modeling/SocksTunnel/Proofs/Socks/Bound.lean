import SocksTunnel.Proofs.Socks.Connect
import SocksTunnel.Proofs.Target.Classification

/-!
The bound address that a proxy answers with, where it writes it as a client writes a target.

The reader of an answer and the writer of a request have nothing in common but the layout: the one
prints an address from its bytes, the other was given a text. What is read is the target again, and
its text differs only for an IPv6 address that embeds an IPv4 address.

* `Text.readUtf8_asciiBytes`, `Ipv6.ofBytes?_bytes` — names and addresses are read from their bytes.
* `Replies.read_accepted` — the grammar finds the target in an accepting answer.
* `Dialogue.outcome_of_sent` — a dialogue none of whose sends has failed ends as its verdict says.
* `connect_reads_target` — so the handshake gives the target back.
-/

namespace SocksTunnel

open SocksTunnel.Text

/-! ### Bytes and texts -/

/-- A text in ASCII is read from its bytes. -/
theorem Text.readUtf8_asciiBytes {cs : List Char} (plain : Domain.allAscii cs = true) :
    readUtf8 (Domain.asciiBytes cs) = cs := by
  induction cs with
  | nil => rw [Domain.asciiBytes, List.map_nil, readUtf8]
  | cons c cs ih =>
      have ascii : c.toNat < 128 ∧ Domain.allAscii cs = true := by
        simpa [Domain.allAscii, Domain.Punycode.isAscii] using plain
      have byte : (UInt8.ofNat c.toNat).toNat = c.toNat := by
        rw [UInt8.toNat_ofNat', Nat.mod_eq_of_lt (by omega)]
      have single : UInt8.ofNat c.toNat < 0x80 := by
        rw [UInt8.lt_iff_toNat_lt, byte]
        exact ascii.1
      have first (rest : Bytes) : readChar (UInt8.ofNat c.toNat) rest = (c, rest) := by
        rw [readChar, if_pos single, byte, Char.ofNat_toNat]
      rw [Domain.asciiBytes, List.map_cons, readUtf8, first]
      exact congrArg (c :: ·) (ih ascii.2)

/-- Groups are read from their bytes. -/
theorem Ipv6.pairs_groupBytes (groups : List UInt16) : pairs (groupBytes groups) = groups := by
  induction groups with
  | nil => rfl
  | cons g groups ih => exact congrArg₂ List.cons (groupOf_bytes g) ih

/-- An IPv6 address is read from its bytes. -/
theorem Ipv6.ofBytes?_bytes (ip : Ipv6) : ofBytes? ip.bytes = some ip := by
  rw [ofBytes?, show pairs ip.bytes = _ from pairs_groupBytes ip.groups]
  exact dif_pos ip.length_groups

/-- The host that stands for an address in an answer. -/
def Address.heardHost : Address → String
  | .ipv4 ip => String.ofList ip.text
  | .domain name _ => Socks.domainHost name
  | .ipv6 ip => String.ofList ip.dottedText

namespace Socks

namespace Replies

/-! ### The grammar on a target -/

theorem field_append {size : Nat} {part : Bytes} (length : part.length = size) (rest : Bytes) :
    field size (part ++ rest) = .good part rest := by
  have whole : size ≤ (part ++ rest).length := by
    rw [List.length_append, length]
    exact Nat.le_add_right _ _
  rw [field, if_pos whole, List.take_left' length, List.drop_left' length]

theorem port_append (p : UInt16) (rest : Bytes) :
    port (Target.portBytes p ++ rest) = .good p rest :=
  congrArg (Verdict.good · rest) (Ipv6.groupOf_bytes p)

theorem host_ipv4 (bytes : Bytes) :
    host 1 bytes = (field 4 bytes).bind fun ip rest => .good (ipv4Host ip) rest := if_pos rfl

theorem host_domain (length : UInt8) (bytes : Bytes) :
    host 3 (length :: bytes) =
      (field length.toNat bytes).bind fun name rest => .good (domainHost name) rest := by
  unfold host
  rw [if_neg (by decide), if_neg (by decide)]

theorem host_ipv6 (bytes : Bytes) :
    host 4 bytes = (field 16 bytes).bind fun ip rest => .good (ipv6Host ip) rest := by
  unfold host
  rw [if_neg (by decide), if_pos rfl]

/-- The host is read from an address, whose kind stands in front. -/
theorem host_encode (a : Address) :
    ∃ bytes, a.encode = a.kind.code :: bytes ∧
      ∀ rest, host a.kind.code (bytes ++ rest) = .good a.heardHost rest := by
  cases a with
  | ipv4 ip =>
      refine ⟨ip.bytes, rfl, ?_⟩
      intro rest
      have length : ip.bytes.length = 4 := rfl
      change host 1 (ip.bytes ++ rest) = _
      rw [host_ipv4, field_append length]
      rfl
  | domain name bound =>
      refine ⟨UInt8.ofNat name.length :: name, rfl, ?_⟩
      intro rest
      have length : name.length = (UInt8.ofNat name.length).toNat := by
        rw [UInt8.toNat_ofNat', Nat.mod_eq_of_lt (Nat.lt_succ_of_le bound)]
      change host 3 (UInt8.ofNat name.length :: (name ++ rest)) = _
      rw [host_domain, field_append length]
      rfl
  | ipv6 ip =>
      refine ⟨ip.bytes, rfl, ?_⟩
      intro rest
      change host 4 (ip.bytes ++ rest) = _
      rw [host_ipv6, field_append ip.length_bytes, Verdict.good_bind, ipv6Host, ip.ofBytes?_bytes]
      rfl

/-- The bound address is read from a target. -/
theorem reply_encode (t : Target) (rest : Bytes) :
    (reply ([5, 0, 0] ++ t.encode ++ rest)).bind address =
      .good ⟨t.address.heardHost, t.port⟩ rest := by
  obtain ⟨bytes, encoded, read⟩ := host_encode t.address
  have known : ¬ (t.address.kind.code ≠ 1 ∧ t.address.kind.code ≠ 3 ∧ t.address.kind.code ≠ 4) := by
    cases t.address.kind <;> decide
  have split : [5, 0, 0] ++ t.encode ++ rest =
      5 :: 0 :: 0 :: t.address.kind.code :: (bytes ++ (Target.portBytes t.port ++ rest)) := by
    rw [Target.encode, encoded]
    simp
  have granted (more : Bytes) : reply (5 :: 0 :: 0 :: t.address.kind.code :: more) =
      .good t.address.kind.code more := if_neg known
  rw [split, granted, Verdict.good_bind, address, read, Verdict.good_bind, port_append]
  rfl

/-- The bytes in front of an accepting answer: the method, and the answer to the login. -/
theorem loginIfSelected_accepted {credential : Option Credential} {m : UInt8}
    (offered : m ∈ offeredMethods credential) (rest : Bytes) :
    loginIfSelected credential m ((if m = 2 then [1, 0] else []) ++ rest) = .good () rest := by
  cases credential with
  | none =>
      obtain rfl : m = 0 := List.mem_singleton.mp offered
      rfl
  | some c =>
      by_cases selected : m = 2
      · subst selected
        rfl
      · rw [if_neg selected]
        exact if_neg selected

/-- Behind the method, and the answer to the login if there was one, stands the answer to the
request. -/
theorem read_answered {credential : Option Credential} {m : UInt8}
    (offered : m ∈ offeredMethods credential) (rest : Bytes) :
    read credential ([5, m] ++ (if m = 2 then [1, 0] else []) ++ rest) =
      (reply rest).bind address := by
  have allowed : m ≠ 0xFF := by
    rintro rfl
    cases credential <;> simp [offeredMethods, methodNone, methodPassword] at offered
  have chosen (more : Bytes) : method (offeredMethods credential) (5 :: m :: more) =
      .good m more := by
    simp [method, allowed, offered]
  have split : [5, m] ++ (if m = 2 then [1, 0] else []) ++ rest =
      5 :: m :: ((if m = 2 then [1, 0] else []) ++ rest) := by
    simp
  rw [split, read, chosen, Verdict.good_bind, loginIfSelected_accepted offered, Verdict.good_bind]

/-- The grammar finds the target in an accepting answer. -/
theorem read_accepted {credential : Option Credential} {m : UInt8}
    (offered : m ∈ offeredMethods credential) (t : Target) (rest : Bytes) :
    read credential ([5, m] ++ (if m = 2 then [1, 0] else []) ++ [5, 0, 0] ++ t.encode ++ rest) =
      .good ⟨t.address.heardHost, t.port⟩ rest := by
  have answers := read_answered offered ([5, 0, 0] ++ t.encode ++ rest)
  rw [reply_encode] at answers
  simpa using answers

end Replies

/-! ### On a socket -/

/-- A dialogue none of whose sends has failed ends as its verdict on the inflow says. -/
theorem Dialogue.outcome_of_sent {α : Type} (d : Dialogue α) {s : Socket}
    (sent : ∀ frame cause, Act.send frame (some cause) ∉ d.acts s) :
    (d.run s).outcome = (d.verdict s.inflow.bytes).outcome s.inflow.ending := by
  induction d generalizing s with
  | done result => rfl
  | fail error => rfl
  | send frame next ih =>
      cases here : s.send frame with
      | mk fault t =>
          cases fault with
          | none =>
              rw [acts_send_of_none here] at sent
              rw [run_send_of_none here, ← inflow_send here]
              exact ih fun frame cause failed => sent frame cause (List.mem_cons_of_mem _ failed)
          | some cause =>
              rw [acts_send_of_some here] at sent
              exact absurd List.mem_cons_self (sent frame cause)
  | read size next ih =>
      rcases readFrame_cases size s with
        ⟨rest, reads, whole, found, flow⟩ | ⟨rest, reads, short, found⟩
      · rw [acts_read_of_ok found] at sent
        have after := ih (s.inflow.bytes.take size) fun frame cause failed =>
          sent frame cause (List.mem_append_right _ failed)
        rw [flow] at after
        rw [run_read_of_ok found, verdict_read_of_le whole]
        exact after
      · rw [run_read_of_error found, verdict_read_of_lt short]
        cases s.inflow.ending <;> rfl
  | note message next ih => exact ih sent

/-- Where no send fails, none has failed. -/
theorem Dialogue.sent_of_free {α : Type} (d : Dialogue α) {s : Socket} (free : s.SendsFreely)
    (frame : Bytes) (cause : Fault) : Act.send frame (some cause) ∉ d.acts s := by
  have acted := d.acted_acts s
  generalize d.acts s = acts at acted
  generalize (d.run s).socket = t at acted
  induction acted with
  | nil => exact List.not_mem_nil
  | @send s s' t frame' fault acts here after ih =>
      rw [Socket.send_of_free free, Prod.mk.injEq] at here
      obtain ⟨rfl, rfl⟩ := here
      have free' := free.later
        (t := { s with attempts := s.attempts + 1, sent := s.sent ++ [frame'] })
        rfl (Nat.le_succ _)
      simpa using ih free'
  | @recv s s' t size found acts here after ih =>
      have free' : s'.SendsFreely := by
        cases here
        exact free
      simpa using ih free'

/-! ### The target is given back -/

/-- What the heard host of a target is. -/
theorem heardHost_of_made {host : String} {port : Int} {t : Target}
    (made : Target.ofHostPort host port = .ok t)
    (ascii : t.kind = .domain → Domain.allAscii t.host.toList = true) :
    (t.kind ≠ .ipv6 → t.address.heardHost = t.host) ∧
      ∀ ip, t.address = .ipv6 ip →
        t.host = String.ofList ip.text ∧ t.address.heardHost = String.ofList ip.dottedText := by
  rcases Target.made_cases made with
    ⟨name, bound, address, written⟩ | ⟨literal, spelt, bare, canonical, address⟩
  · have kind : t.kind = .domain := by rw [Target.kind, address]; rfl
    rw [address]
    constructor
    · intro _
      rw [Domain.wireName_of_plain (ascii kind), Except.ok.injEq] at written
      rw [Address.heardHost, domainHost, ← written, readUtf8_asciiBytes (ascii kind),
        String.ofList_toList]
    · intro ip other
      cases other
  · rw [Target.kind, address]
    cases literal with
    | v4 ip =>
        constructor
        · intro _
          exact canonical.symm
        · intro ip' other
          cases other
    | v6 ip zone =>
        cases bare
        constructor
        · intro other
          exact absurd rfl other
        · rintro ip' ⟨rfl⟩
          exact ⟨canonical, rfl⟩

/-- A target whose host is an IP address or in ASCII is given back by the handshake, if the proxy
answers with it: after the method was agreed upon, and the login accepted if there was one, the
bytes of the answer are those of the target. However they are cut, and whatever comes behind them,
the bound address has the port of the target, and makes the target again. Its host is that of the
target, but for an IPv6 address, which may be spelt another way; the host is read as the same
sixteen bytes. -/
theorem connect_reads_target {host : String} {port : Int} {t : Target}
    (made : Target.ofHostPort host port = .ok t)
    (ascii : t.kind = .domain → Domain.allAscii t.host.toList = true)
    (requested : Target) {credential : Option Credential} {m : UInt8}
    (offered : m ∈ offeredMethods credential) {s : Socket}
    (sent : ∀ frame cause, Act.send frame (some cause) ∉ (connect requested credential).acts s)
    {rest : Bytes}
    (answered : s.inflow.bytes =
      [5, m] ++ (if m = 2 then [1, 0] else []) ++ [5, 0, 0] ++ t.encode ++ rest) :
    ∃ bound, ((connect requested credential).run s).outcome = .ok bound ∧ bound.port = t.port ∧
      Target.ofHostPort bound.host bound.port.toNat = .ok t ∧
      (t.kind ≠ .ipv6 → bound.host = t.host) ∧
      ∀ ip, t.address = .ipv6 ip → bound.host = String.ofList ip.dottedText ∧
        IpLiteral.Spelling bound.host.toList (.v6 ip none) ∧
        Target.writtenHost? bound.host .ipv6 = some ip.bytes := by
  obtain ⟨same, six⟩ := heardHost_of_made made ascii
  refine ⟨⟨t.address.heardHost, t.port⟩, ?_, rfl, ?_, same, ?_⟩
  · rw [Dialogue.outcome_of_sent _ sent, Replies.verdict_connect, answered,
      Replies.read_accepted offered]
    rfl
  · cases address : t.address with
    | ipv6 ip =>
        obtain ⟨canonical, heard⟩ := six ip address
        rw [← address]
        dsimp only
        have spelt : IpLiteral.Spelling t.address.heardHost.toList (.v6 ip none) := by
          rw [heard, String.toList_ofList]
          exact .v6 ip.spelling_dottedText
        have again := t.make_self
        rw [canonical, Target.kind, address] at again
        rw [Target.ofHostPort_literal spelt]
        exact again
    | _ =>
        have other : t.kind ≠ .ipv6 := by
          rw [Target.kind, address]
          rintro ⟨⟩
        rw [← address]
        dsimp only
        rw [same other]
        exact Target.ofHostPort_self made
  · intro ip address
    obtain ⟨-, heard⟩ := six ip address
    dsimp only
    rw [heard, String.toList_ofList]
    have read := Ipv6.read?_eq_some_iff.mpr ip.spelling_dottedText
    refine ⟨rfl, .v6 ip.spelling_dottedText, ?_⟩
    rw [Target.writtenHost?, String.toList_ofList, Ipv6.scan?_eq, read]
    rfl

/-- An IPv4 address among the IPv6 addresses. -/
def mapped : Target where
  host := "::ffff:102:304"
  port := 443
  address := .ipv6 ⟨[0, 0, 0, 0, 0, 0xFFFF, 0x0102, 0x0304], rfl⟩
  denotes := by decide +kernel

/-- An answer with it, in four pieces and with a byte of the payload behind it. -/
def mappedAnswer : Socket := .fresh
  [.data [5, 0, 5], .data [0, 0, 4, 0, 0, 0], .data [0, 0, 0, 0, 0, 0, 0, 0xFF],
    .data [0xFF, 1, 2, 3, 4, 1, 187, 7]] [] none

/-- It is heard in a text of its own, and comes back as the same target. -/
theorem connect_reads_target_mapped :
    ∃ bound, ((connect (.loopback 80) none).run mappedAnswer).outcome = .ok bound ∧
      bound.host = String.ofList (Ipv6.dottedText ⟨[0, 0, 0, 0, 0, 0xFFFF, 0x0102, 0x0304], rfl⟩) ∧
      Target.ofHostPort bound.host bound.port.toNat = .ok mapped := by
  have made : Target.ofHostPort "0:0:0::FFFF:1.2.3.4" 443 = .ok mapped := by decide +kernel
  have named : mapped.kind = .domain → Domain.allAscii mapped.host.toList = true := nofun
  have offered : (0 : UInt8) ∈ offeredMethods none := List.mem_singleton.mpr rfl
  have sent (frame : Bytes) (cause : Fault) :
      Act.send frame (some cause) ∉ (connect (.loopback 80) none).acts mappedAnswer :=
    Dialogue.sent_of_free (connect (.loopback 80) none) (fun _ _ => rfl) frame cause
  obtain ⟨bound, outcome, -, again, -, host⟩ :=
    connect_reads_target made named (.loopback 80) offered sent
      (show _ = _ ++ mapped.encode ++ [7] from rfl)
  exact ⟨bound, outcome, (host _ rfl).1, again⟩

end Socks

end SocksTunnel
