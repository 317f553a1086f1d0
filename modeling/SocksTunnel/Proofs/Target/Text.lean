import SocksTunnel.Proofs.HostPort.Grammar
import SocksTunnel.Proofs.Ip.Canonical
import SocksTunnel.Proofs.Target

/-!
The text of a target, and which targets can be read back from it.

An IP address has one canonical text, from which it is always read. A name is written as it is, so
the text of a target may mean something else: a name with a colon is no bare host, a name in front
of which stands a bracket is taken for one in brackets, and blanks in front of a name are lost.

* `Target.make_self`, `Target.ofHostPort_self` — a target is made again from its own host and port.
* `HostPort.parse_written` — a host, a colon and the decimal text of a port are parsed.
* `HostPort.bare_of_parse` — a host in front of the last colon is parsed only if it stands bare.
* `Target.legible_of_parse_text`, `Target.parse_text_of_legible` — the two directions.
* `Target.text_round_trip` — the targets that their text gives back.
-/

namespace SocksTunnel

open SocksTunnel.Text

/-! ### Ports in decimal -/

theorem Text.numeral_decimalDigits (port : UInt16) :
    Numeral (decimalDigits port.toNat) port.toNat := by
  have bound := port.toNat_lt
  have short : (decimalDigits port.toNat).length ≤ 5 := length_decimalDigits_le (k := 4) (by omega)
  have read := readDigitRun_of_plain (isPlainDigit_decimalDigits port.toNat)
    (short.trans (by decide : 5 ≤ digitLimit))
  rw [plainNumber_decimalDigits] at read
  exact readDigitRun_eq_ok_iff.mp read

theorem Text.isBlank_of_colon_or_bracket : isBlank ':' = false ∧ isBlank '[' = false := by
  unfold isBlank blankRanges CodeRanges.read words
  rw [String.toList_ofList]
  decide +kernel

namespace HostPort

/-! ### Written addresses -/

/-- A text that ends with decimal text ends with no blank. -/
theorem trim_written {front : List Char} (begins : front ≠ [])
    (unblanked : ∀ c, front.head? = some c → isBlank c = false) (n : Nat) :
    trim (front ++ ':' :: decimalDigits n) = front ++ ':' :: decimalDigits n := by
  apply trimOf_eq_self
  · intro c first
    rw [List.head?_append_of_ne_nil _ begins] at first
    exact unblanked c first
  · intro c last
    rw [List.getLast?_append_of_ne_nil _ (List.cons_ne_nil _ _),
      List.getLast?_cons_of_ne_nil (decimalDigits_ne_nil n)] at last
    exact isBlank_of_plain (isPlainDigit_decimalDigits n c (List.mem_of_getLast? last))

/-- A host and a port are parsed from a text that spells the host and writes the port in decimal. -/
theorem parse_written {s host : String} {port : UInt16} {front : List Char}
    (written : s.toList = front ++ ':' :: decimalDigits port.toNat) (begins : front ≠ [])
    (unblanked : ∀ c, front.head? = some c → isBlank c = false) (named : host.toList ≠ [])
    (spelling : Spelling (front ++ ':' :: decimalDigits port.toNat) host.toList
      (decimalDigits port.toNat)) : parse s = .ok ⟨host, port⟩ := by
  apply parse_eq_ok_iff_spells.mpr
  refine ⟨decimalDigits port.toNat, named, decimalDigits_ne_nil _, numeral_decimalDigits port,
    Nat.le_of_lt_succ port.toNat_lt, ?_⟩
  rw [written, trim_written begins unblanked]
  exact spelling

/-- A host that stands bare in front of a colon: it holds no colon of its own, and it begins neither
with a bracket nor with a blank. -/
structure Bare (host : List Char) : Prop where
  whole : ':' ∉ host
  unbracketed : host.head? ≠ some '['
  unblanked : ∀ c, host.head? = some c → isBlank c = false

theorem bare_iff {host : List Char} : Bare host ↔ ':' ∉ host ∧ host.head? ≠ some '[' ∧
    ∀ c, host.head? = some c → isBlank c = false :=
  ⟨fun ⟨whole, unbracketed, unblanked⟩ => ⟨whole, unbracketed, unblanked⟩,
    fun ⟨whole, unbracketed, unblanked⟩ => ⟨whole, unbracketed, unblanked⟩⟩

/-- A host that is not in brackets stands bare in the trimmed text. -/
theorem bare_of_spelt {cs host digits : List Char} (named : host ≠ []) (whole : ':' ∉ host)
    (unbracketed : (trim cs).head? ≠ some '[') (spelt : trim cs = host ++ ':' :: digits) :
    Bare host := by
  have first : (trim cs).head? = host.head? := by
    rw [spelt, List.head?_append_of_ne_nil _ named]
  refine ⟨whole, first ▸ unbracketed, ?_⟩
  intro c begins
  exact head?_trimOf (first.trans begins)

theorem parse_of_bare {s host : String} {port : UInt16} (named : host.toList ≠ [])
    (written : s.toList = host.toList ++ ':' :: decimalDigits port.toNat)
    (bare : Bare host.toList) : parse s = .ok ⟨host, port⟩ := by
  refine parse_written written named bare.unblanked named (.bare bare.whole ?_ rfl)
  rw [List.head?_append_of_ne_nil _ named]
  exact bare.unbracketed

theorem parse_of_bracketed {s host : String} {port : UInt16} (named : host.toList ≠ [])
    (written : s.toList = '[' :: host.toList ++ ']' :: ':' :: decimalDigits port.toNat)
    (inside : ']' ∉ host.toList) : parse s = .ok ⟨host, port⟩ := by
  have front : '[' :: host.toList ++ ']' :: ':' :: decimalDigits port.toNat =
      ('[' :: host.toList ++ [']']) ++ ':' :: decimalDigits port.toNat := by simp
  refine parse_written (written.trans front) (List.cons_ne_nil _ _) ?_ named
    (front ▸ .bracketed inside rfl)
  rintro c ⟨rfl⟩
  exact isBlank_of_colon_or_bracket.2

/-- A host that is parsed from brackets does not stand in front of the last colon itself: it would
stand in brackets within itself. -/
theorem not_bracketed_of_written {cs host digits digits' : List Char}
    (written : cs = host ++ ':' :: digits) (last : ':' ∉ digits) (last' : ':' ∉ digits')
    (spelt : trim cs = '[' :: host ++ ']' :: ':' :: digits') : False := by
  obtain ⟨blanks, more, around, -, behind⟩ := exists_trimOf isBlank cs
  have last' : ':' ∉ digits' ++ more := by
    intro member
    rcases List.mem_append.mp member with here | later
    · exact last' here
    · have blank := behind _ later
      rw [isBlank_of_colon_or_bracket.1] at blank
      cases blank
  have front : cs = (blanks ++ '[' :: host ++ [']']) ++ ':' :: (digits' ++ more) := by
    rw [around, show trimOf isBlank cs = _ from spelt]
    simp
  have split := splitLast?_append host last
  rw [← written, front, splitLast?_append _ last', Option.some.injEq, Prod.mk.injEq] at split
  have length := congrArg List.length split.1
  simp at length
  omega

/-- A host in front of the last colon of a text is parsed as the host only if it stands there
bare. -/
theorem bare_of_parse {s : String} {hp : HostPort} {digits : List Char}
    (written : s.toList = hp.host.toList ++ ':' :: digits) (last : ':' ∉ digits)
    (parsed : parse s = .ok hp) : Bare hp.host.toList := by
  obtain ⟨digits', spells⟩ := parse_eq_ok_iff_spells.mp parsed
  rcases spells.spelling with ⟨-, spelt⟩ | ⟨whole, unbracketed, spelt⟩
  · exact (not_bracketed_of_written written last spells.colon_notMem spelt).elim
  · exact bare_of_spelt spells.named whole unbracketed spelt

end HostPort

/-! ### Hosts of targets -/

/-- A literal that is accepted as an IPv6 address has no zone. -/
theorem Address.unzoned_of_ipv6Of {host : String} {address : Address}
    (denotes : ofHost host .ipv6 = .ok address) :
    ∃ ip, IpLiteral.read? host.toList = some (.v6 ip none) := by
  simp only [ofHost, ipv6Of] at denotes
  split at denotes
  · cases denotes
  · cases denotes
  · rename_i ip read
    exact ⟨ip, read⟩
  · cases denotes

theorem Address.nonempty_of_domainOf {host : String} {address : Address}
    (denotes : ofHost host .domain = .ok address) : host.toList ≠ [] := by
  simp only [ofHost, domainOf] at denotes
  split at denotes
  · cases denotes
  · rename_i nonempty
    simpa using nonempty

/-- An IPv4 address stands bare in front of a colon. -/
theorem Ipv4.bare_text (ip : Ipv4) : HostPort.Bare ip.text := by
  obtain ⟨c, first, plain⟩ := ip.head?_text
  refine ⟨ip.notMem_text (by decide) (by decide), ?_, ?_⟩
  · rw [first]
    rintro ⟨rfl⟩
    cases plain
  · intro c' first'
    obtain rfl := Option.some.inj (first.symm.trans first')
    exact isBlank_of_plain plain

namespace Target

/-- A target is made again from its own host, port and kind. -/
theorem make_self (t : Target) : make t.host t.port.toNat t.kind = .ok t := by
  obtain ⟨host, port, address, denotes⟩ := t
  have bound := port.toNat_lt
  have range : 0 ≤ (port.toNat : Int) ∧ (port.toNat : Int) ≤ HostPort.maxPort := by
    rw [HostPort.maxPort_eq]
    omega
  rw [make, if_pos range]
  split
  · rename_i e failed
    rw [kind, denotes] at failed
    cases failed
  · rename_i address' denotes'
    rw [kind, denotes] at denotes'
    cases denotes'
    simp

theorem host_of_make {host : String} {port : Int} {kind : AddressKind} {t : Target}
    (made : make host port kind = .ok t) : t.host = host := by
  unfold make at made
  split at made
  · split at made
    · cases made
    · cases made
      rfl
  · cases made

/-- What a host is, and what it becomes in a target: a name stays as it is, and an IP address is
written in its canonical text. -/
theorem ofHostPort_cases {host : String} {port : Int} {t : Target}
    (made : ofHostPort host port = .ok t) :
    (t.kind = .domain ∧ t.host = host ∧ IpLiteral.read? host.toList = none) ∨
    (∃ ip, t.kind = .ipv4 ∧ t.host = String.ofList ip.text ∧
      IpLiteral.read? host.toList = some (.v4 ip)) ∨
    ∃ ip, t.kind = .ipv6 ∧ t.host = String.ofList ip.text ∧
      IpLiteral.read? host.toList = some (.v6 ip none) := by
  unfold ofHostPort at made
  split at made
  · rename_i read
    obtain ⟨-, -, -, kind, -⟩ := make_spec made
    exact .inl ⟨kind, host_of_make made, read⟩
  · rename_i ip read
    obtain ⟨-, -, -, kind, -⟩ := make_spec made
    exact .inr (.inl ⟨ip, kind, host_of_make made, read⟩)
  · rename_i ip zone read
    obtain ⟨-, -, -, kind, denotes⟩ := make_spec made
    obtain ⟨ip', unzoned⟩ := Address.unzoned_of_ipv6Of denotes
    rw [String.toList_ofList] at unzoned
    cases zone with
    | none => exact .inr (.inr ⟨ip, kind, host_of_make made, read⟩)
    | some zone =>
        have percent : '%' ∈ (IpLiteral.v6 ip (some zone)).text := by simp [IpLiteral.text]
        exact absurd rfl (IpLiteral.zone_of_percent percent unzoned)

/-- A target is classified again as it was. -/
theorem ofHostPort_self {host : String} {port : Int} {t : Target}
    (made : ofHostPort host port = .ok t) : ofHostPort t.host t.port.toNat = .ok t := by
  have again := t.make_self
  rcases ofHostPort_cases made with ⟨kind, same, read⟩ | ⟨ip, kind, same, -⟩ | ⟨ip, kind, same, -⟩
  · rw [kind] at again
    rw [ofHostPort, same, read, ← same]
    exact again
  · have read := IpLiteral.read?_v4_text ip
    rw [kind, same] at again
    rw [ofHostPort, same, String.toList_ofList, read]
    exact again
  · have read := IpLiteral.read?_v6_text ip
    rw [kind, same] at again
    rw [ofHostPort, same, String.toList_ofList, read]
    exact again

/-! ### Texts of targets -/

theorem toList_text (t : Target) :
    t.text.toList = match t.kind with
      | .ipv6 => '[' :: t.host.toList ++ ']' :: ':' :: decimalDigits t.port.toNat
      | _ => t.host.toList ++ ':' :: decimalDigits t.port.toNat := by
  cases kind : t.kind <;> simp [text, kind, decimal]

/-- A host and a port that are parsed are classified. -/
theorem parse_eq_ofHostPort {s host : String} {port : UInt16}
    (parsed : HostPort.parse s = .ok ⟨host, port⟩) :
    parse s = (ofHostPort host port.toNat).mapError .target := by
  rw [parse, parsed]

theorem exists_of_parse {s : String} {t : Target} (parsed : parse s = .ok t) :
    ∃ hp, HostPort.parse s = .ok hp ∧ ofHostPort hp.host hp.port.toNat = .ok t := by
  unfold parse at parsed
  split at parsed
  · cases parsed
  · rename_i hp split
    refine ⟨hp, split, ?_⟩
    cases made : ofHostPort hp.host hp.port.toNat with
    | error e => simp [made, Except.mapError] at parsed
    | ok t' => simpa [made, Except.mapError] using parsed

/-- The hosts of targets whose text gives them back: IP addresses, and names that stand bare. -/
def Legible (t : Target) : Prop :=
  t.kind = .ipv4 ∨ t.kind = .ipv6 ∨ HostPort.Bare t.host.toList

section

variable {host : String} {port : Int} {t : Target}

theorem parse_text_of_legible (made : ofHostPort host port = .ok t) (legible : t.Legible) :
    parse t.text = .ok t := by
  have again := ofHostPort_self made
  suffices parsed : HostPort.parse t.text = .ok ⟨t.host, t.port⟩ by
    rw [parse_eq_ofHostPort parsed, again]
    rfl
  have written := t.toList_text
  rcases ofHostPort_cases made with ⟨kind, -, -⟩ | ⟨ip, kind, same, -⟩ | ⟨ip, kind, same, -⟩
  · rw [kind] at written
    have denotes := t.denotes
    rw [show t.address.kind = _ from kind] at denotes
    rcases legible with other | other | bare
    · exact absurd (kind.symm.trans other) (by decide)
    · exact absurd (kind.symm.trans other) (by decide)
    · exact HostPort.parse_of_bare (Address.nonempty_of_domainOf denotes) written bare
  · rw [kind] at written
    have host : t.host.toList = ip.text := by rw [same, String.toList_ofList]
    refine HostPort.parse_of_bare ?_ written (host ▸ ip.bare_text)
    obtain ⟨c, first, -⟩ := ip.head?_text
    rw [host]
    rintro empty
    rw [empty] at first
    cases first
  · rw [kind] at written
    have host : t.host.toList = ip.text := by rw [same, String.toList_ofList]
    refine HostPort.parse_of_bracketed ?_ written ?_
    · rw [host]
      exact List.ne_nil_of_mem ip.colon_mem_text
    · rw [host]
      exact ip.notMem_text (by decide) (by decide)

theorem legible_of_parse_text (made : ofHostPort host port = .ok t)
    (parsed : parse t.text = .ok t) : t.Legible := by
  rcases ofHostPort_cases made with ⟨kind, -, -⟩ | ⟨ip, kind, -, -⟩ | ⟨ip, kind, -, -⟩
  · obtain ⟨hp, split, made'⟩ := exists_of_parse parsed
    have same : t.host = hp.host := by
      rcases ofHostPort_cases made' with ⟨-, same, -⟩ | ⟨ip, other, -, -⟩ | ⟨ip, other, -, -⟩
      · exact same
      · exact absurd (kind.symm.trans other) (by decide)
      · exact absurd (kind.symm.trans other) (by decide)
    have written := t.toList_text
    rw [kind, same] at written
    rw [Legible, same]
    exact .inr (.inr (HostPort.bare_of_parse written (notMem_decimalDigits rfl _) split))
  · exact .inl kind
  · exact .inr (.inl kind)

/-- A name that is parsed, and was not in brackets, stands bare. -/
theorem legible_of_unbracketed {s : String} (unbracketed : (trim s.toList).head? ≠ some '[')
    (parsed : parse s = .ok t) : t.Legible := by
  obtain ⟨hp, split, made⟩ := exists_of_parse parsed
  rcases ofHostPort_cases made with ⟨kind, same, -⟩ | ⟨ip, kind, -, -⟩ | ⟨ip, kind, -, -⟩
  · obtain ⟨digits, spells⟩ := HostPort.parse_eq_ok_iff_spells.mp split
    rcases spells.spelling with ⟨-, spelt⟩ | ⟨whole, -, spelt⟩
    · rw [spelt] at unbracketed
      exact absurd rfl unbracketed
    · rw [Legible, same]
      exact .inr (.inr (HostPort.bare_of_spelt spells.named whole unbracketed spelt))
  · exact .inl kind
  · exact .inr (.inl kind)

end

/-- The text of a target gives the target back just if it is an IP address, or a name without a
colon that begins neither with a bracket nor with a blank. This is so of all targets that are made
from a host and a port, which includes those that are parsed. An IP address is given back in
whatever way it was spelt at first, and so is a name that was parsed and not in brackets. -/
theorem text_round_trip :
    (∀ (host : String) (port : Int) (t : Target), ofHostPort host port = .ok t →
      (parse t.text = .ok t ↔ t.kind = .ipv4 ∨ t.kind = .ipv6 ∨
        ':' ∉ t.host.toList ∧ t.host.toList.head? ≠ some '[' ∧
          ∀ c, t.host.toList.head? = some c → isBlank c = false)) ∧
    (∀ (s : String) (t : Target), parse s = .ok t → ∃ host port, ofHostPort host port = .ok t) ∧
    (∀ (host : String) (port : Int) (t : Target), (IpLiteral.read? host.toList).isSome = true →
      ofHostPort host port = .ok t → parse t.text = .ok t) ∧
    ∀ (s : String) (t : Target), (trim s.toList).head? ≠ some '[' → parse s = .ok t →
      parse t.text = .ok t := by
  have legible_iff (t : Target) : t.Legible ↔ t.kind = .ipv4 ∨ t.kind = .ipv6 ∨
      ':' ∉ t.host.toList ∧ t.host.toList.head? ≠ some '[' ∧
        ∀ c, t.host.toList.head? = some c → isBlank c = false := by
    rw [Legible, HostPort.bare_iff]
  refine ⟨?_, ?_, ?_, ?_⟩
  · intro host port t made
    rw [← legible_iff]
    exact ⟨legible_of_parse_text made, parse_text_of_legible made⟩
  · intro s t parsed
    obtain ⟨hp, -, made⟩ := exists_of_parse parsed
    exact ⟨_, _, made⟩
  · intro host port t literal made
    apply parse_text_of_legible made
    rcases ofHostPort_cases made with ⟨-, -, none⟩ | ⟨ip, kind, -, -⟩ | ⟨ip, kind, -, -⟩
    · rw [none] at literal
      cases literal
    · exact .inl kind
    · exact .inr (.inl kind)
  · intro s t unbracketed parsed
    obtain ⟨hp, -, made⟩ := exists_of_parse parsed
    exact parse_text_of_legible made (legible_of_unbracketed unbracketed parsed)

/-- The text of a name that begins with a bracket means something else, and an IPv6 address is given
back from its canonical text. -/
theorem text_round_trip_bracket :
    (∃ t, ofHostPort "[a" 80 = .ok t ∧ parse t.text ≠ .ok t) ∧
    ∃ t, ofHostPort "0:0::0.0.0.1" 443 = .ok t ∧ t.host = "::1" ∧ parse t.text = .ok t := by
  obtain ⟨legible, -, literal, -⟩ := text_round_trip
  constructor
  · refine ⟨_, rfl, ?_⟩
    rw [Ne, legible "[a" 80 _ rfl]
    decide +kernel
  · have read : (IpLiteral.read? "0:0::0.0.0.1".toList).isSome = true := by decide +kernel
    have spelt : (ofHostPort "0:0::0.0.0.1" 443).toOption.map host = some "::1" := by
      decide +kernel
    cases made : ofHostPort "0:0::0.0.0.1" 443 with
    | error e =>
        rw [made] at spelt
        cases spelt
    | ok t =>
        rw [made] at spelt
        exact ⟨t, rfl, Option.some.inj spelt, literal _ _ t read made⟩

end Target

end SocksTunnel
