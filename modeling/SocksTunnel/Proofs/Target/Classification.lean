import SocksTunnel.Proofs.Ip.Spelling
import SocksTunnel.Proofs.Target.Text

/-!
The classification of targets: what a host and a port are, for all hosts and all ports.

The grammar of address literals decides between an IP address and a name. An address without a zone
is always accepted, and its target says which address it is and not how it was spelt. A name is
accepted if it can be sent. The port is checked before either, but a literal is recognised first.

* `Domain.Unfit` — why a text that is no literal is no name either.
* `Target.Refused`, `Target.ofHostPort_eq_error_iff` — every error with the reason for it.
* `Target.make_literal` — the target of an address, whatever its spelling.
* `Target.classification` — the errors, the kinds, and the normal form of addresses.
-/

namespace SocksTunnel

open SocksTunnel.Text

/-! ### Names -/

namespace Domain

/-- Why a text is not sent as a name: there is nothing to send, the text has no form on the wire, or
the form has more bytes than can be counted there. A text in ASCII is its own form. -/
inductive Unfit (name : List Char) : Prop where
  | empty (nothing : name = [])
  | unencodable {e : LabelError} (foreign : allAscii name = false)
      (rejected : labelledBytes name = .error e)
  | long (plain : allAscii name = true) (long : 255 < (asciiBytes name).length)
  | longEncoded {bytes : Bytes} (foreign : allAscii name = false)
      (written : labelledBytes name = .ok bytes) (long : 255 < bytes.length)

theorem wireName_of_plain {name : List Char} (plain : allAscii name = true) :
    wireName name = .ok (asciiBytes name) := by rw [wireName, if_pos plain]

theorem wireName_of_foreign {name : List Char} (foreign : allAscii name = false) :
    wireName name = labelledBytes name := by
  rw [wireName, if_neg (Bool.eq_false_iff.mp foreign)]

end Domain

namespace Address

/-- Why a host is refused as a name, with the error that says so. -/
inductive NameRefused (host : String) : TargetError → Prop where
  | empty (nothing : host.toList = []) : NameRefused host .emptyDomain
  | unencodable {e : Domain.LabelError} (named : host.toList ≠ [])
      (rejected : Domain.wireName host.toList = .error e) : NameRefused host (.unencodable host e)
  | long {bytes : Bytes} (named : host.toList ≠ [])
      (written : Domain.wireName host.toList = .ok bytes) (long : 255 < bytes.length) :
      NameRefused host (.longDomain bytes.length)

variable {host : String} {e : TargetError}

theorem domainOf_eq_error_iff : domainOf host = .error e ↔ NameRefused host e := by
  have nothing_iff : host.isEmpty = true ↔ host.toList = [] := by simp
  constructor
  · intro failed
    unfold domainOf at failed
    split at failed
    · rename_i nothing
      cases failed
      exact .empty (nothing_iff.mp nothing)
    · rename_i named
      rw [nothing_iff] at named
      split at failed
      · rename_i rejected
        cases failed
        exact .unencodable named rejected
      · rename_i written
        split at failed
        · cases failed
        · rename_i long
          cases failed
          exact .long named written (Nat.lt_of_not_le long)
  · intro refused
    unfold domainOf
    cases refused with
    | empty nothing => rw [if_pos (nothing_iff.mpr nothing)]
    | unencodable named rejected => rw [if_neg (mt nothing_iff.mp named), rejected]
    | long named written long =>
        rw [if_neg (mt nothing_iff.mp named), written]
        exact dif_neg (Nat.not_le_of_lt long)

/-- A host is refused as a name just if it is unfit for one. -/
theorem exists_nameRefused_iff : (∃ e, NameRefused host e) ↔ Domain.Unfit host.toList := by
  constructor
  · rintro ⟨e, refused⟩
    cases ascii : Domain.allAscii host.toList with
    | false =>
        cases refused with
        | empty nothing => exact .empty nothing
        | unencodable named rejected =>
            rw [Domain.wireName_of_foreign ascii] at rejected
            exact .unencodable ascii rejected
        | long named written long =>
            rw [Domain.wireName_of_foreign ascii] at written
            exact .longEncoded ascii written long
    | true =>
        cases refused with
        | empty nothing => exact .empty nothing
        | unencodable named rejected =>
            rw [Domain.wireName_of_plain ascii] at rejected
            cases rejected
        | long named written long =>
            rw [Domain.wireName_of_plain ascii] at written
            cases written
            exact .long ascii long
  · intro unfit
    by_cases nothing : host.toList = []
    · exact ⟨_, .empty nothing⟩
    · cases unfit with
      | empty nothing' => exact absurd nothing' nothing
      | unencodable foreign rejected =>
          exact ⟨_, .unencodable nothing ((Domain.wireName_of_foreign foreign).trans rejected)⟩
      | long plain long =>
          exact ⟨_, .long nothing (Domain.wireName_of_plain plain) long⟩
      | longEncoded foreign written long =>
          exact ⟨_, .long nothing ((Domain.wireName_of_foreign foreign).trans written) long⟩

end Address

/-! ### Literals -/

namespace IpLiteral

/-- The kind of a literal, as an address. -/
def kind : IpLiteral → AddressKind
  | .v4 _ => .ipv4
  | .v6 .. => .ipv6

/-- The zone of a literal. -/
def zone? : IpLiteral → Option (List Char)
  | .v4 _ => none
  | .v6 _ zone => zone

/-- The address of a literal. -/
def address : IpLiteral → Address
  | .v4 ip => .ipv4 ip
  | .v6 ip _ => .ipv6 ip

/-- A literal without a zone is its address. -/
theorem address_injective {literal literal' : IpLiteral} (bare : literal.zone? = none)
    (bare' : literal'.zone? = none) (same : literal.address = literal'.address) :
    literal = literal' := by
  cases literal with
  | v4 ip =>
      cases literal' with
      | v4 ip' =>
          cases same
          rfl
      | v6 ip' zone' => cases same
  | v6 ip zone =>
      cases literal' with
      | v4 ip' => cases same
      | v6 ip' zone' =>
          cases same
          cases bare
          cases bare'
          rfl

/-- The canonical text of a literal spells it. -/
theorem Spelling.text {cs : List Char} {literal : IpLiteral} (spelt : Spelling cs literal) :
    Spelling literal.text literal := by
  cases spelt with
  | v4 ip => exact .v4 ip
  | @v6 cs ip spelt => exact .v6 ip.spelling_text
  | @zoned cs zone ip spelt named percent slash =>
      exact .zoned ip.spelling_text named percent slash

/-- A literal with a zone is refused, and any other one is its address. -/
theorem ofHost_eq {host : String} {literal : IpLiteral} (spelt : Spelling host.toList literal) :
    Address.ofHost host literal.kind =
      if literal.zone?.isSome then .error (.zoned host) else .ok literal.address := by
  have read := read?_eq_some_iff.mpr spelt
  cases literal with
  | v4 ip => simp [kind, zone?, address, Address.ofHost, Address.ipv4Of, read]
  | v6 ip zone =>
      cases zone with
      | none => simp [kind, zone?, address, Address.ofHost, Address.ipv6Of, read]
      | some zone => simp [kind, zone?, Address.ofHost, Address.ipv6Of, read]

end IpLiteral

namespace Target

variable {host : String} {port : Int}

/-! ### Hosts and their kinds -/

theorem ofHostPort_name (name : ∀ literal, ¬ IpLiteral.Spelling host.toList literal) :
    ofHostPort host port = make host port .domain := by
  rw [ofHostPort, IpLiteral.read?_eq_none_iff.mpr name]

/-- What becomes of a literal does not depend on its spelling. -/
theorem ofHostPort_literal {literal : IpLiteral}
    (spelt : IpLiteral.Spelling host.toList literal) :
    ofHostPort host port = make (String.ofList literal.text) port literal.kind := by
  rw [ofHostPort, IpLiteral.read?_eq_some_iff.mpr spelt]
  cases literal <;> rfl

theorem make_eq_error_iff {kind : AddressKind} {e : TargetError} :
    make host port kind = .error e ↔
      ¬ (0 ≤ port ∧ port ≤ 65535) ∧ e = .portRange port ∨
        (0 ≤ port ∧ port ≤ 65535) ∧ Address.ofHost host kind = .error e := by
  have most : (HostPort.maxPort : Int) = 65535 := by rw [HostPort.maxPort_eq]; rfl
  unfold make
  rw [most]
  by_cases inside : 0 ≤ port ∧ port ≤ 65535
  · rw [if_pos inside]
    split
    · rename_i e' failed
      simp [inside, failed]
    · rename_i address denotes
      simp [inside, denotes]
  · rw [if_neg inside]
    simp [inside, eq_comm]

/-- A host that denotes an address makes a target with it. -/
theorem exists_make {kind : AddressKind} {address : Address} (inside : 0 ≤ port ∧ port ≤ 65535)
    (denotes : Address.ofHost host kind = .ok address) :
    ∃ t, make host port kind = .ok t ∧ t.address = address := by
  cases made : make host port kind with
  | error e =>
      rcases make_eq_error_iff.mp made with ⟨outside, -⟩ | ⟨-, failed⟩
      · exact absurd inside outside
      · rw [denotes] at failed
        cases failed
  | ok t =>
      obtain ⟨-, -, -, -, denotes'⟩ := make_spec made
      rw [denotes, Except.ok.injEq] at denotes'
      exact ⟨t, rfl, denotes'.symm⟩

/-! ### Errors -/

/-- Why a host and a port make no target, with the error that says so. -/
inductive Refused (host : String) (port : Int) : TargetError → Prop where
  | port (outside : ¬ (0 ≤ port ∧ port ≤ 65535)) : Refused host port (.portRange port)
  | zone {ip : Ipv6} {zone : List Char} (inside : 0 ≤ port ∧ port ≤ 65535)
      (spelt : IpLiteral.Spelling host.toList (.v6 ip (some zone))) :
      Refused host port (.zoned (String.ofList (ip.text ++ '%' :: zone)))
  | name {e : TargetError} (inside : 0 ≤ port ∧ port ≤ 65535)
      (name : ∀ literal, ¬ IpLiteral.Spelling host.toList literal)
      (refused : Address.NameRefused host e) : Refused host port e

/-- A host and a port fail for one of these reasons, with its error, and for no other one. -/
theorem ofHostPort_eq_error_iff {e : TargetError} :
    ofHostPort host port = .error e ↔ Refused host port e := by
  by_cases known : ∃ literal, IpLiteral.Spelling host.toList literal
  · obtain ⟨literal, spelt⟩ := known
    have again : IpLiteral.Spelling (String.ofList literal.text).toList literal := by
      rw [String.toList_ofList]
      exact spelt.text
    rw [ofHostPort_literal spelt, make_eq_error_iff, IpLiteral.ofHost_eq again]
    constructor
    · rintro (⟨outside, rfl⟩ | ⟨inside, failed⟩)
      · exact .port outside
      · split at failed
        · rename_i zoned
          obtain ⟨zone, is⟩ := Option.isSome_iff_exists.mp zoned
          cases literal with
          | v4 ip => cases is
          | v6 ip zone' =>
              cases is
              cases failed
              exact .zone inside spelt
        · cases failed
    · intro refused
      cases refused with
      | port outside => exact .inl ⟨outside, rfl⟩
      | zone inside spelt' =>
          cases spelt.unique spelt'
          exact .inr ⟨inside, rfl⟩
      | name inside name refused => exact absurd spelt (name literal)
  · have name (literal : IpLiteral) : ¬ IpLiteral.Spelling host.toList literal :=
      fun spelt => known ⟨literal, spelt⟩
    rw [ofHostPort_name name, make_eq_error_iff, Address.ofHost, Address.domainOf_eq_error_iff]
    constructor
    · rintro (⟨outside, rfl⟩ | ⟨inside, refused⟩)
      · exact .port outside
      · exact .name inside name refused
    · intro refused
      cases refused with
      | port outside => exact .inl ⟨outside, rfl⟩
      | zone inside spelt => exact absurd spelt (name _)
      | name inside name refused => exact .inr ⟨inside, refused⟩

theorem exists_refused_iff :
    (∃ e, Refused host port e) ↔
      ¬ (0 ≤ port ∧ port ≤ 65535) ∨
        (∃ ip zone, IpLiteral.Spelling host.toList (.v6 ip (some zone))) ∨
        (∀ literal, ¬ IpLiteral.Spelling host.toList literal) ∧ Domain.Unfit host.toList := by
  constructor
  · rintro ⟨e, refused⟩
    cases refused with
    | port outside => exact .inl outside
    | zone inside spelt => exact .inr (.inl ⟨_, _, spelt⟩)
    | name inside name refused =>
        exact .inr (.inr ⟨name, Address.exists_nameRefused_iff.mp ⟨_, refused⟩⟩)
  · intro reason
    by_cases inside : 0 ≤ port ∧ port ≤ 65535
    · rcases reason with outside | ⟨ip, zone, spelt⟩ | ⟨name, unfit⟩
      · exact absurd inside outside
      · exact ⟨_, .zone inside spelt⟩
      · obtain ⟨e, refused⟩ := Address.exists_nameRefused_iff.mpr unfit
        exact ⟨e, .name inside name refused⟩
    · exact ⟨_, .port inside⟩

/-! ### Targets -/

/-- An address without a zone is accepted however it is spelt, and its target is made from its
canonical text. -/
theorem make_literal {literal : IpLiteral} (inside : 0 ≤ port ∧ port ≤ 65535)
    (spelt : IpLiteral.Spelling host.toList literal) (bare : literal.zone? = none) :
    ∃ t, ofHostPort host port = .ok t ∧
      make (String.ofList literal.text) port literal.kind = .ok t ∧
      t.address = literal.address := by
  have again : IpLiteral.Spelling (String.ofList literal.text).toList literal := by
    rw [String.toList_ofList]
    exact spelt.text
  have denotes := IpLiteral.ofHost_eq again
  rw [bare] at denotes
  obtain ⟨t, made, address⟩ := exists_make inside denotes
  exact ⟨t, (ofHostPort_literal spelt).trans made, made, address⟩

/-- Two spellings make the same target just if they spell the same address. -/
theorem ofHostPort_eq_iff {host' : String} {literal literal' : IpLiteral}
    (inside : 0 ≤ port ∧ port ≤ 65535)
    (spelt : IpLiteral.Spelling host.toList literal)
    (spelt' : IpLiteral.Spelling host'.toList literal')
    (bare : literal.zone? = none) (bare' : literal'.zone? = none) :
    ∃ t t', ofHostPort host port = .ok t ∧ ofHostPort host' port = .ok t' ∧
      (t = t' ↔ literal = literal') := by
  obtain ⟨t, made, canonical, address⟩ := make_literal inside spelt bare
  obtain ⟨t', made', canonical', address'⟩ := make_literal inside spelt' bare'
  refine ⟨t, t', made, made', ?_⟩
  constructor
  · rintro rfl
    exact IpLiteral.address_injective bare bare' (address.symm.trans address')
  · rintro rfl
    rw [canonical, Except.ok.injEq] at canonical'
    exact canonical'

/-- The kind of a target says whether its host is a literal. -/
theorem kind_eq_domain_iff {t : Target} (made : ofHostPort host port = .ok t) :
    t.kind = .domain ↔ ∀ literal, ¬ IpLiteral.Spelling host.toList literal := by
  rw [← IpLiteral.read?_eq_none_iff]
  rcases ofHostPort_cases made with ⟨kind, -, read⟩ | ⟨ip, kind, -, read⟩ | ⟨ip, kind, -, read⟩
  · rw [kind, read]
    simp
  · rw [kind, read]
    simp
  · rw [kind, read]
    simp

/-- A target is a name, or an address under its canonical text. -/
theorem made_cases {t : Target} (made : ofHostPort host port = .ok t) :
    (∃ name bound, t.address = .domain name bound ∧ Domain.wireName t.host.toList = .ok name) ∨
      ∃ literal, IpLiteral.Spelling t.host.toList literal ∧ literal.zone? = none ∧
        t.host = String.ofList literal.text ∧ t.address = literal.address := by
  have denotes := t.denotes
  rcases ofHostPort_cases made with ⟨kind, -, -⟩ | ⟨ip, kind, same, -⟩ | ⟨ip, kind, same, -⟩
  · left
    rw [show t.address.kind = _ from kind, Address.ofHost, Address.domainOf] at denotes
    split at denotes
    · cases denotes
    · split at denotes
      · cases denotes
      · rename_i written
        split at denotes
        · rename_i bound
          exact ⟨_, bound, (Except.ok.inj denotes).symm, written⟩
        · cases denotes
  · right
    have spelt : IpLiteral.Spelling t.host.toList (.v4 ip) := by
      rw [same, String.toList_ofList]
      exact .v4 ip
    have kind' : t.address.kind = (IpLiteral.v4 ip).kind := kind
    rw [kind', IpLiteral.ofHost_eq spelt] at denotes
    exact ⟨.v4 ip, spelt, rfl, same, (Except.ok.inj denotes).symm⟩
  · right
    have spelt : IpLiteral.Spelling t.host.toList (.v6 ip none) := by
      rw [same, String.toList_ofList]
      exact .v6 ip.spelling_text
    rw [show t.address.kind = (IpLiteral.v6 ip none).kind from kind,
      IpLiteral.ofHost_eq spelt] at denotes
    exact ⟨.v6 ip none, spelt, rfl, same, (Except.ok.inj denotes).symm⟩

theorem port_of_ofHostPort {t : Target} (made : ofHostPort host port = .ok t) :
    (t.port.toNat : Int) = port := by
  have exactPort {host' : String} {kind : AddressKind} (made : make host' port kind = .ok t) :
      (t.port.toNat : Int) = port := by
    obtain ⟨-, -, exactPort, -, -⟩ := make_spec made
    exact exactPort
  unfold ofHostPort at made
  split at made
  · exact exactPort made
  · exact exactPort made
  · exact exactPort made

/-- Every host and every port are a target, or an invalid one. They are invalid just if the port is
out of range, if the host is an IPv6 address with a zone, or if it is no IP address and cannot be
sent as a name. A target is a name just if its host is no IP address. Two spellings of IP addresses
without zones, at one port that is in range, are accepted, and make the same target just if they
spell the same address. A target is made again from its own host and port. -/
theorem classification :
    (∀ (host : String) (port : Int),
      ((∃ e, ofHostPort host port = .error e) ↔
        ¬ (0 ≤ port ∧ port ≤ 65535) ∨
          (∃ ip zone, IpLiteral.Spelling host.toList (.v6 ip (some zone))) ∨
          (∀ literal, ¬ IpLiteral.Spelling host.toList literal) ∧ Domain.Unfit host.toList) ∧
      ∀ e, ofHostPort host port = .error e → (Failure.target e).kind? = some .invalidTarget) ∧
    (∀ (host : String) (port : Int) (t : Target), ofHostPort host port = .ok t →
      (t.port.toNat : Int) = port ∧
      (t.kind = .domain ↔ ∀ literal, ¬ IpLiteral.Spelling host.toList literal) ∧
      ofHostPort t.host t.port.toNat = .ok t) ∧
    ∀ (host host' : String) (port : Int) (literal literal' : IpLiteral),
      0 ≤ port ∧ port ≤ 65535 →
      IpLiteral.Spelling host.toList literal → IpLiteral.Spelling host'.toList literal' →
      literal.zone? = none → literal'.zone? = none →
      ∃ t t', ofHostPort host port = .ok t ∧ ofHostPort host' port = .ok t' ∧
        (t = t' ↔ literal = literal') := by
  refine ⟨?_, ?_, ?_⟩
  · intro host port
    constructor
    · rw [← exists_refused_iff]
      simp only [ofHostPort_eq_error_iff]
    · intro e _
      rfl
  · intro host port t made
    exact ⟨port_of_ofHostPort made, kind_eq_domain_iff made, ofHostPort_self made⟩
  · intro host host' port literal literal' inside spelt spelt' bare bare'
    exact ofHostPort_eq_iff inside spelt spelt' bare bare'

/-- Two spellings of a mapped address make one target, the address that is mapped makes another
one, and with a zone there is none. -/
theorem classification_mapped :
    (∃ t t', ofHostPort "::FFFF:1.2.3.4" 443 = .ok t ∧
      ofHostPort "0:0:0::ffff:0102:304" 443 = .ok t' ∧ t = t') ∧
    (∃ t t', ofHostPort "::FFFF:1.2.3.4" 443 = .ok t ∧
      ofHostPort "1.2.3.4" 443 = .ok t' ∧ t ≠ t') ∧
    ∃ e, ofHostPort "::FFFF:1.2.3.4%0" 443 = .error e := by
  obtain ⟨invalid, -, addresses⟩ := classification
  have inside : (0 : Int) ≤ 443 ∧ (443 : Int) ≤ 65535 := by decide
  let mapped : Ipv6 := ⟨[0, 0, 0, 0, 0, 0xFFFF, 0x0102, 0x0304], rfl⟩
  have dotted : IpLiteral.Spelling "::FFFF:1.2.3.4".toList (.v6 mapped none) :=
    IpLiteral.read?_eq_some_iff.mp (by decide +kernel)
  have grouped : IpLiteral.Spelling "0:0:0::ffff:0102:304".toList (.v6 mapped none) :=
    IpLiteral.read?_eq_some_iff.mp (by decide +kernel)
  have four : IpLiteral.Spelling "1.2.3.4".toList (.v4 ⟨1, 2, 3, 4⟩) :=
    IpLiteral.read?_eq_some_iff.mp (by decide +kernel)
  have zoned : IpLiteral.Spelling "::FFFF:1.2.3.4%0".toList (.v6 mapped (some ['0'])) :=
    IpLiteral.read?_eq_some_iff.mp (by decide +kernel)
  refine ⟨?_, ?_, ?_⟩
  · obtain ⟨t, t', made, made', same⟩ := addresses _ _ 443 _ _ inside dotted grouped rfl rfl
    exact ⟨t, t', made, made', same.mpr rfl⟩
  · obtain ⟨t, t', made, made', same⟩ := addresses _ _ 443 _ _ inside dotted four rfl rfl
    refine ⟨t, t', made, made', ?_⟩
    intro equal
    cases same.mp equal
  · exact (invalid _ 443).1.mpr (.inr (.inl ⟨_, _, zoned⟩))

end Target

end SocksTunnel
