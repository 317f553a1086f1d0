import SocksTunnel.Proofs.HostPort.Grammar
import SocksTunnel.Server

/-!
What is said of a text that is no address. The parser has an error of its own for it, with one gap:
a port of digits that are no numeral, because one of them has no place value or because there are
too many, gets the error of the number instead.

* `Text.readDigitRun_eq_error_iff` — the digits that are no numeral.
* `HostPort.parse_eq_badNumeral_iff` — the texts that fall into the gap.
* `malformed_reported` — every other text that is no address is reported as such, and all
  who take an address pass on what the parser says.
-/

namespace SocksTunnel

namespace Text

/-- Digits that are no numeral: one of them has no place value, or there are too many. -/
def Unreadable (digits : List Char) : Prop :=
  (∃ c ∈ digits, decimalDigit? c = none) ∨ 4300 < digits.length

theorem readDigitRun_eq_error_iff {digits : List Char} :
    (∃ e, readDigitRun digits = .error e) ↔ Unreadable digits := by
  by_cases decimal : ∀ c ∈ digits, (decimalDigit? c).isSome = true
  · have none : ¬ ∃ c ∈ digits, decimalDigit? c = none := by
      rintro ⟨c, member, ornamental⟩
      have worth := decimal c member
      rw [ornamental] at worth
      cases worth
    rw [readDigitRun_of_decimal decimal, Unreadable, or_iff_right none]
    by_cases long : 4300 < digits.length
    · simp [long]
    · simp [long]
  · push Not at decimal
    obtain ⟨c, member, ornamental⟩ := decimal
    have ornamental : decimalDigit? c = none := by simpa using ornamental
    exact iff_of_true (readDigitRun_of_ornamental member ornamental) (.inl ⟨c, member, ornamental⟩)

end Text

namespace HostPort

open Text

/-- A text that would be an address if its digits were a numeral. -/
def Misnumbered (text : List Char) : Prop :=
  ∃ host digits, host ≠ [] ∧ digits ≠ [] ∧ Spelling text host digits ∧
    (∀ c ∈ digits, isDigit c = true) ∧ Unreadable digits

theorem readPort_eq_badNumeral_iff {text port : List Char} :
    (∃ e, readPort text port = .error (.badNumeral e)) ↔
      port ≠ [] ∧ (∀ c ∈ port, isDigit c = true) ∧ Unreadable port := by
  rw [← readDigitRun_eq_error_iff]
  constructor
  · rintro ⟨e, failed⟩
    unfold readPort at failed
    split at failed
    · cases failed
    · rename_i shape
      split at failed
      · rename_i e' unread
        simp only [Bool.or_eq_true, not_or, Bool.not_eq_true', Bool.not_eq_false,
          List.isEmpty_iff, List.all_eq_true] at shape
        exact ⟨shape.1, shape.2, e', unread⟩
      · split at failed
        · cases failed
        · cases failed
  · rintro ⟨nonempty, digits, e, unread⟩
    have digits := List.all_eq_true.mpr digits
    exact ⟨e, by simp [readPort, nonempty, digits, unread]⟩

/-- An address is never taken apart with an error about a number. -/
theorem cut_ne_badNumeral (text : List Char) (e : NumeralError) :
    cut text ≠ .error (.badNumeral e) := by
  intro failed
  unfold cut at failed
  split at failed
  · split at failed
    · cases failed
    · cases failed
  · split at failed
    · cases failed
    · split at failed
      · cases failed
      · cases failed

theorem parse_eq_badNumeral_iff {s : String} :
    (∃ e, parse s = .error (.badNumeral e)) ↔ Misnumbered (trim s.toList) := by
  simp only [parse_eq]
  constructor
  · rintro ⟨e, failed⟩
    cases split : cut (trim s.toList) with
    | error e' =>
        simp only [split, Except.bind, Except.error.injEq] at failed
        exact absurd (failed ▸ split) (cut_ne_badNumeral _ e)
    | ok parts =>
        obtain ⟨host, port⟩ := parts
        simp only [split, Except.bind] at failed
        split at failed
        · cases failed
        · rename_i named
          cases read : readPort (trim s.toList) port with
          | ok p => simp [read, Except.map] at failed
          | error e' =>
              simp only [read, Except.map, Except.error.injEq] at failed
              obtain ⟨nonempty, digits, unreadable⟩ :=
                readPort_eq_badNumeral_iff.mp ⟨e, failed ▸ read⟩
              exact ⟨host, port, named, nonempty, spelling_of_cut split, digits, unreadable⟩
  · rintro ⟨host, port, named, nonempty, spelling, digits, unreadable⟩
    have split := cut_of_spelling spelling (colon_notMem_of_digits digits)
    obtain ⟨e, unread⟩ : ∃ e, readPort (trim s.toList) port = .error (.badNumeral e) :=
      readPort_eq_badNumeral_iff.mpr ⟨nonempty, digits, unreadable⟩
    refine ⟨e, ?_⟩
    simp [split, named, unread, Except.bind, Except.map]

end HostPort

/-! ### Who takes an address -/

open HostPort Text

/-- The error of an address is one of the library just if it is not about a number. -/
theorem isOf_invalidAddress_iff (e : HostPortError) :
    (Failure.address e).isOf .invalidAddress = true ↔ ¬ ∃ e', e = .badNumeral e' := by
  cases e <;> simp [Failure.isOf, Failure.kind?, HostPortError.aboutAddress,
    FailureKind.ancestry]

section

variable {s : String} {e : HostPortError}

theorem Proxy.make_of_unparsed (failed : HostPort.parse s = .error e)
    (credential : Option Credential) (connectTimeout handshakeTimeout : Timeout) :
    make s credential connectTimeout handshakeTimeout = .error e := by
  unfold make
  split
  · rename_i e' failed'
    rw [failed] at failed'
    rw [Except.error.inj failed']
  · rename_i endpoint parsed
    rw [failed] at parsed
    cases parsed

theorem Proxy.ofOptions_of_unparsed (failed : HostPort.parse s = .error e)
    {username password : Option String} {credential : Option Credential}
    (accepted : credentialOf username password = .ok credential)
    (connectTimeout handshakeTimeout : Timeout) :
    ofOptions s username password connectTimeout handshakeTimeout = .error (.address e) := by
  rw [ofOptions, accepted]
  simp only [make_of_unparsed failed]
  rfl

theorem Target.parse_of_unparsed (failed : HostPort.parse s = .error e) :
    parse s = .error (.address e) := by
  rw [parse, failed]

theorem serve_of_unparsed (failed : HostPort.parse s = .error e) (target : Target) (proxy : Proxy)
    (c : Circumstances) :
    serve s target proxy c = ⟨.error (.address e), none, [], none, [], []⟩ := by
  rw [serve, failed]

end

/-- A text either gives a host that is not empty, with a port of at most 65535, or an error. The
error is the one of addresses, unless the text would be an address if only its digits were a
numeral. A proxy, a target and a server that are given a text without an address fail with the error
that the text gives, the server before it has made a socket; and all other errors of a target are
errors of targets. -/
theorem malformed_reported (s : String) :
    (∀ hp, HostPort.parse s = .ok hp → hp.host ≠ "" ∧ hp.port.toNat ≤ 65535) ∧
    (∀ e, HostPort.parse s = .error e →
      ((Failure.address e).isOf .invalidAddress = true ↔ ¬ Misnumbered (trim s.toList)) ∧
      (∀ credential limit limit', Proxy.make s credential limit limit' = .error e) ∧
      (∀ username password credential limit limit',
        Proxy.credentialOf username password = .ok credential →
          Proxy.ofOptions s username password limit limit' = .error (.address e)) ∧
      Target.parse s = .error (.address e) ∧
      ∀ target proxy c, serve s target proxy c = ⟨.error (.address e), none, [], none, [], []⟩) ∧
    ∀ e hp, HostPort.parse s = .ok hp → Target.parse s = .error e →
      (Failure.ofTargetText e).isOf .invalidTarget = true := by
  refine ⟨?_, ?_, ?_⟩
  · intro hp parsed
    obtain ⟨named, -⟩ := parse_eq_ok_iff.mp parsed
    refine ⟨?_, Nat.le_of_lt_succ hp.port.toNat_lt⟩
    intro empty
    rw [empty] at named
    exact named rfl
  · intro e failed
    refine ⟨?_, Proxy.make_of_unparsed failed, ?_, Target.parse_of_unparsed failed,
      serve_of_unparsed failed⟩
    · rw [isOf_invalidAddress_iff, ← parse_eq_badNumeral_iff]
      simp [failed]
    · intro username password credential limit limit' accepted
      exact Proxy.ofOptions_of_unparsed failed accepted limit limit'
  · intro e hp parsed failed
    rw [Target.parse, parsed] at failed
    cases made : Target.ofHostPort hp.host hp.port.toNat with
    | error e' =>
        simp only [made, Except.mapError, Except.error.injEq] at failed
        rw [← failed]
        rfl
    | ok t => simp [made, Except.mapError] at failed

/-- A superscript is a digit without a place value, so a port that is one is not reported as part of
an address that is none. -/
theorem superscript_port_unreported :
    ∃ e, HostPort.parse "a:²" = .error (.badNumeral e) ∧
      (Failure.address (.badNumeral e)).isOf .invalidAddress = false := by
  have digit : isDigit '²' = true ∧ decimalDigit? '²' = none := by
    unfold isDigit decimalDigit? zeroCodes ornamentalDigits CodeRanges.read words
    rw [String.toList_ofList, String.toList_ofList]
    decide +kernel
  have trimmed : trim "a:²".toList = ['a', ':', '²'] := by decide +kernel
  have misnumbered : Misnumbered (trim "a:²".toList) := by
    rw [trimmed]
    refine ⟨['a'], ['²'], by decide, by decide, .bare (by decide) (by decide) rfl, ?_, .inl ?_⟩
    · exact List.forall_mem_singleton.mpr digit.1
    · exact ⟨'²', List.mem_singleton_self _, digit.2⟩
  obtain ⟨e, failed⟩ := parse_eq_badNumeral_iff.mpr misnumbered
  exact ⟨e, failed, rfl⟩

end SocksTunnel
