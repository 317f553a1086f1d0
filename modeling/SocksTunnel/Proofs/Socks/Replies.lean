import SocksTunnel.Proofs.Socks.Verdict
import SocksTunnel.Socks.Handshake

/-!
The grammar of what a proxy answers in a handshake, read off one string of bytes.

`Replies.read` takes the answers field by field: the answer to the offer of methods, the answer to
the login if there is one, and the answer to the request with the bound address behind it. Each
field is checked in a fixed order, and the first bad one decides.

* `Replies.verdict_connect` — the handshake makes of all bytes what the grammar makes of them.
* `Replies.eq_of_read_eq_good` — the bytes of an accepted handshake, and how many they are.
-/

namespace SocksTunnel.Socks

open SocksTunnel.Text

namespace Replies

open Verdict

/-! ### The grammar -/

/-- A field of a known size. -/
def field (size : Nat) (bytes : Bytes) : Verdict Bytes :=
  if size ≤ bytes.length then good (bytes.take size) (bytes.drop size)
  else waiting bytes.length size

/-- The answer to the offer of methods gives the method. -/
def method (offered : List UInt8) : Bytes → Verdict UInt8
  | version :: m :: rest =>
      if version ≠ 5 then bad .protocolViolation (.methodVersion version)
      else if m = 0xFF then bad .noAcceptableMethod .noMethod
      else if m ∉ offered then bad .protocolViolation (.methodNotOffered m)
      else good m rest
  | short => waiting short.length 2

/-- The answer to a login. -/
def login (c : Credential) : Bytes → Verdict Unit
  | version :: status :: rest =>
      if version ≠ 1 then bad .protocolViolation (.loginVersion version)
      else if status ≠ 0 then bad .authenticationFailed (.rejected c.username)
      else good () rest
  | short => waiting short.length 2

/-- Whether there is a login to be answered: a client with a credential sends it if the proxy
selects the method for it. -/
def loginIfSelected (credential : Option Credential) (m : UInt8) (bytes : Bytes) : Verdict Unit :=
  match credential with
  | some c => if m = 2 then login c bytes else good () bytes
  | none => good () bytes

/-- The reply codes that refuse a request. -/
def refusal? : UInt8 → Option ReplyCode
  | 1 => some .generalFailure
  | 2 => some .connectionNotAllowed
  | 3 => some .networkUnreachable
  | 4 => some .hostUnreachable
  | 5 => some .connectionRefused
  | 6 => some .ttlExpired
  | 7 => some .commandNotSupported
  | 8 => some .addressTypeNotSupported
  | _ => none

/-- The first four bytes of the answer to a request give the kind of the bound address. -/
def reply : Bytes → Verdict UInt8
  | version :: code :: reserved :: kind :: rest =>
      if version ≠ 5 then bad .protocolViolation (.replyVersion version)
      else if reserved ≠ 0 then bad .protocolViolation (.reserved reserved)
      else if code ≠ 0 then match refusal? code with
        | some r => bad .serverReply (.refused r)
        | none => bad .protocolViolation (.unknownReply code)
      else if kind ≠ 1 ∧ kind ≠ 3 ∧ kind ≠ 4 then bad .protocolViolation (.unknownAddressKind kind)
      else good kind rest
  | short => waiting short.length 4

/-- The host of a bound address: four bytes, sixteen bytes, or as many as the first one says. -/
def host (kind : UInt8) (bytes : Bytes) : Verdict String :=
  if kind = 1 then (field 4 bytes).bind fun ip rest => good (ipv4Host ip) rest
  else if kind = 4 then (field 16 bytes).bind fun ip rest => good (ipv6Host ip) rest
  else match bytes with
    | length :: bytes => (field length.toNat bytes).bind fun name rest => good (domainHost name) rest
    | [] => waiting 0 1

/-- A port, the high byte first. -/
def port : Bytes → Verdict UInt16
  | high :: low :: rest => good (UInt16.ofNat (256 * high.toNat + low.toNat)) rest
  | short => waiting short.length 2

/-- A bound address of a kind: its host and its port. -/
def address (kind : UInt8) (bytes : Bytes) : Verdict BoundAddress :=
  (host kind bytes).bind fun host rest => (port rest).bind fun port rest => good ⟨host, port⟩ rest

/-- All the answers of a handshake give the bound address. -/
def read (credential : Option Credential) (bytes : Bytes) : Verdict BoundAddress :=
  (method (offeredMethods credential) bytes).bind fun m rest =>
    (loginIfSelected credential m rest).bind fun _ rest => (reply rest).bind address

end Replies

/-! ### The handshake follows the grammar -/

namespace Dialogue

variable {α β : Type}

theorem bind_eq (d : Dialogue α) (f : α → Dialogue β) : d >>= f = d.bind f := rfl

theorem verdict_ite (p : Prop) [Decidable p] (d e : Dialogue α) (bytes : Bytes) :
    (if p then d else e).verdict bytes = if p then d.verdict bytes else e.verdict bytes := by
  split <;> rfl

theorem verdict_say (frame bytes : Bytes) : (say frame).verdict bytes = .good () bytes := rfl

theorem verdict_hear (size : Nat) (bytes : Bytes) :
    (hear size).verdict bytes = Replies.field size bytes := rfl

end Dialogue

namespace Replies

open Dialogue

theorem ofCode?_of_ne_zero {code : UInt8} (nonzero : code ≠ 0) :
    ReplyCode.ofCode? code.toNat = refusal? code := by
  unfold refusal?
  split
  case h_9 =>
    rw [ReplyCode.ofCode?, List.find?_eq_none]
    intro r _ same
    have byte : r.code = code := UInt8.toNat_inj.mp (Int.ofNat.inj (of_decide_eq_true same))
    subst byte
    cases r <;> simp_all [ReplyCode.code]
  all_goals rfl

theorem refusal?_ne_succeeded (code : UInt8) : refusal? code ≠ some .succeeded := by
  unfold refusal?
  split <;> simp

theorem byte_eq_iff (code : UInt8) (n : Nat) (small : n < 256) :
    (code.toNat : Int) = n ↔ code = UInt8.ofNat n := by
  rw [Int.natCast_inj, ← UInt8.toNat_inj, UInt8.toNat_ofNat', Nat.mod_eq_of_lt small]

theorem addressKind_ofCode? (code : UInt8) :
    AddressKind.ofCode? code.toNat =
      if code = 1 then some .ipv4 else if code = 3 then some .domain
      else if code = 4 then some .ipv6 else none := by
  have one : (code.toNat : Int) = 1 ↔ code = 1 := byte_eq_iff code 1 (by decide)
  have three : (code.toNat : Int) = 3 ↔ code = 3 := byte_eq_iff code 3 (by decide)
  have four : (code.toNat : Int) = 4 ↔ code = 4 := byte_eq_iff code 4 (by decide)
  unfold AddressKind.ofCode?
  simp only [one, three, four]

theorem verdict_hearPair (bytes : Bytes) :
    hearPair.verdict bytes = match bytes with
      | first :: second :: rest => .good (first, second) rest
      | short => .waiting short.length 2 := by
  match bytes with
  | [] => rfl
  | [_] => rfl
  | first :: second :: rest =>
      rw [hearPair, bind_eq, verdict_bind, verdict_hear, field, if_pos (by simp)]
      rfl

theorem verdict_negotiate (credential : Option Credential) (bytes : Bytes) :
    (negotiate credential).verdict bytes = method (offeredMethods credential) bytes := by
  simp only [negotiate, bind_eq, verdict_bind, verdict_say, verdict_hearPair, Verdict.good_bind]
  match bytes with
  | [] => rfl
  | [_] => rfl
  | version :: m :: rest =>
      simp only [method, Verdict.good_bind, verdict_ite]
      rfl

theorem verdict_login (c : Credential) (bytes : Bytes) :
    (Socks.login c).verdict bytes = login c bytes := by
  simp only [Socks.login, bind_eq, verdict_bind, verdict_say, verdict_hearPair, Verdict.good_bind]
  match bytes with
  | [] => rfl
  | [_] => rfl
  | version :: status :: rest =>
      simp only [login, Verdict.good_bind, verdict_ite]
      rfl

theorem verdict_hearHost {kind : UInt8} (known : kind = 1 ∨ kind = 3 ∨ kind = 4) (bytes : Bytes) :
    (hearHost kind).verdict bytes = host kind bytes := by
  unfold host
  rcases known with rfl | rfl | rfl
  · rw [if_pos rfl]
    exact verdict_bind (hear 4) (fun ip => done (ipv4Host ip)) bytes
  · rw [if_neg (by decide), if_neg (by decide)]
    match bytes with
    | [] => rfl
    | length :: bytes =>
        exact verdict_bind (hear length.toNat) (fun name => done (domainHost name)) bytes
  · rw [if_neg (by decide), if_pos rfl]
    exact verdict_bind (hear 16) (fun ip => done (ipv6Host ip)) bytes

theorem verdict_hearAddress {kind : UInt8} (known : kind = 1 ∨ kind = 3 ∨ kind = 4)
    (bytes : Bytes) : (hearAddress kind).verdict bytes = address kind bytes := by
  simp only [hearAddress, address, bind_eq, verdict_bind, verdict_hearHost known,
    verdict_hearPair]
  congr 1
  funext host rest
  match rest with
  | [] => rfl
  | [_] => rfl
  | high :: low :: rest => rfl

theorem known_of_not_unknown {kind : UInt8} (h : ¬ (kind ≠ 1 ∧ kind ≠ 3 ∧ kind ≠ 4)) :
    kind = 1 ∨ kind = 3 ∨ kind = 4 := by
  by_cases one : kind = 1
  · exact .inl one
  · by_cases three : kind = 3
    · exact .inr (.inl three)
    · exact .inr (.inr (Decidable.not_not.mp fun four => h ⟨one, three, four⟩))

theorem verdict_hearAddress_of_unknown {kind : UInt8} (unknown : kind ≠ 1 ∧ kind ≠ 3 ∧ kind ≠ 4)
    (bytes : Bytes) : (hearAddress kind).verdict bytes =
      .bad .protocolViolation (.unknownAddressKind kind) := by
  obtain ⟨one, three, four⟩ := unknown
  simp only [hearAddress, bind_eq, verdict_bind]
  rw [hearHost, addressKind_ofCode?, if_neg one, if_neg three, if_neg four]
  rfl

theorem verdict_request (target : Target) (bytes : Bytes) :
    (request target).verdict bytes = (reply bytes).bind address := by
  simp only [request, bind_eq, verdict_bind, verdict_say, verdict_hear, Verdict.good_bind]
  match bytes with
  | [] => rfl
  | [_] => rfl
  | [_, _] => rfl
  | [_, _, _] => rfl
  | version :: code :: reserved :: kind :: rest =>
      rw [field, if_pos (by simp), Verdict.good_bind]
      simp only [reply, List.take_succ_cons, List.take_zero, List.drop_succ_cons, List.drop_zero]
      by_cases v : version = 5
      · subst v
        by_cases r : reserved = 0
        · subst r
          by_cases c : code = 0
          · subst c
            by_cases unknown : kind ≠ 1 ∧ kind ≠ 3 ∧ kind ≠ 4
            · rw [if_pos unknown]
              exact verdict_hearAddress_of_unknown unknown rest
            · rw [if_neg unknown]
              exact verdict_hearAddress (known_of_not_unknown unknown) rest
          · rw [if_pos c, ofCode?_of_ne_zero c]
            cases h : refusal? code with
            | none => rfl
            | some r =>
                cases r with
                | succeeded => exact absurd h (refusal?_ne_succeeded code)
                | _ => rfl
        · rw [if_pos (show reserved ≠ reservedByte from r), if_pos r]
          rfl
      · rw [if_pos (show version ≠ protocolVersion from v), if_pos v]
        rfl

/-- The login, if the proxy has selected the method for it. -/
def loginIfSelectedBy (credential : Option Credential) (m : UInt8) : Dialogue Unit :=
  match credential with
  | some c => if m = methodPassword then Socks.login c else done ()
  | none => done ()

/-- The end of the handshake: the request, and a note on its result. -/
def conclusion (target : Target) : Dialogue BoundAddress :=
  (request target).bind fun bound =>
    note ("Proxy connected to " ++ target.text ++ ", bound at " ++ bound.host ++ ":"
      ++ decimal bound.port.toNat) (done bound)

/-- The handshake in its three parts. -/
theorem connect_eq (target : Target) (credential : Option Credential) :
    connect target credential = (negotiate credential).bind fun m =>
      note ("Proxy selected auth method 0x" ++ hexByte m)
        ((loginIfSelectedBy credential m).bind fun _ => conclusion target) := by
  cases credential with
  | none => rfl
  | some c =>
      rw [connect, bind_eq]
      congr 1
      funext m
      by_cases selected : m = methodPassword
      · simp only [loginIfSelectedBy, if_pos selected]
        rfl
      · simp only [loginIfSelectedBy, if_neg selected]
        rfl

theorem verdict_loginIfSelectedBy (credential : Option Credential) (m : UInt8) (bytes : Bytes) :
    (loginIfSelectedBy credential m).verdict bytes = loginIfSelected credential m bytes := by
  cases credential with
  | none => rfl
  | some c =>
      simp only [loginIfSelectedBy, loginIfSelected, verdict_ite, verdict_login]
      rfl

theorem verdict_conclusion (target : Target) (bytes : Bytes) :
    (conclusion target).verdict bytes = (reply bytes).bind address := by
  rw [conclusion, verdict_bind, verdict_request]
  cases (reply bytes).bind address <;> rfl

/-- The handshake makes of all bytes what the grammar makes of them. -/
theorem verdict_connect (target : Target) (credential : Option Credential) (bytes : Bytes) :
    (connect target credential).verdict bytes = read credential bytes := by
  rw [connect_eq, verdict_bind, verdict_negotiate, read]
  congr 1
  funext m rest
  rw [verdict, verdict_bind, verdict_loginIfSelectedBy]
  congr 1
  funext _ rest
  exact verdict_conclusion target rest

/-! ### The bytes of good answers -/

theorem eq_of_method_eq_good {offered : List UInt8} {m : UInt8} {bytes rest : Bytes}
    (h : method offered bytes = .good m rest) :
    bytes = 5 :: m :: rest ∧ m ≠ 0xFF ∧ m ∈ offered := by
  match bytes with
  | [] => cases h
  | [_] => cases h
  | version :: m' :: rest' =>
      simp only [method] at h
      split at h
      · cases h
      · rename_i v
        split at h
        · cases h
        · rename_i refused
          split at h
          · cases h
          · rename_i found
            cases h
            exact ⟨by rw [Decidable.not_not.mp v], refused, Decidable.not_not.mp found⟩

theorem eq_of_login_eq_good {c : Credential} {bytes rest : Bytes}
    (h : login c bytes = .good () rest) : bytes = 1 :: 0 :: rest := by
  match bytes with
  | [] => cases h
  | [_] => cases h
  | version :: status :: rest' =>
      simp only [login] at h
      split at h
      · cases h
      · rename_i v
        split at h
        · cases h
        · rename_i accepted
          cases h
          rw [Decidable.not_not.mp v, Decidable.not_not.mp accepted]

theorem eq_of_reply_eq_good {kind : UInt8} {bytes rest : Bytes}
    (h : reply bytes = .good kind rest) :
    bytes = 5 :: 0 :: 0 :: kind :: rest ∧ (kind = 1 ∨ kind = 3 ∨ kind = 4) := by
  match bytes with
  | [] => cases h
  | [_] => cases h
  | [_, _] => cases h
  | [_, _, _] => cases h
  | version :: code :: reserved :: kind' :: rest' =>
      simp only [reply] at h
      split at h
      · cases h
      · rename_i v
        split at h
        · cases h
        · rename_i r
          split at h
          · split at h <;> cases h
          · rename_i c
            split at h
            · cases h
            · rename_i known
              cases h
              rw [Decidable.not_not.mp v, Decidable.not_not.mp r, Decidable.not_not.mp c]
              exact ⟨rfl, known_of_not_unknown known⟩

theorem eq_of_field_eq_good {size : Nat} {bytes part rest : Bytes}
    (h : field size bytes = .good part rest) : bytes = part ++ rest ∧ part.length = size := by
  unfold field at h
  split at h
  · rename_i whole
    cases h
    exact ⟨(List.take_append_drop size bytes).symm, List.length_take_of_le whole⟩
  · cases h

/-- The bytes of a host of a kind: four, sixteen, or a length and as many as it says. -/
def IsHost (kind : UInt8) (bytes : Bytes) : Prop :=
  (kind = 1 ∧ bytes.length = 4) ∨ (kind = 4 ∧ bytes.length = 16) ∨
    (kind = 3 ∧ ∃ length name, bytes = length :: name ∧ name.length = length.toNat)

theorem eq_of_host_eq_good {kind : UInt8} (known : kind = 1 ∨ kind = 3 ∨ kind = 4) {text : String}
    {bytes rest : Bytes} (h : host kind bytes = .good text rest) :
    ∃ part, bytes = part ++ rest ∧ IsHost kind part := by
  unfold host at h
  rcases known with rfl | rfl | rfl
  · rw [if_pos rfl] at h
    obtain ⟨part, rest', read, good⟩ := Verdict.eq_good_of_bind h
    cases good
    obtain ⟨split, length⟩ := eq_of_field_eq_good read
    exact ⟨part, split, .inl ⟨rfl, length⟩⟩
  · rw [if_neg (by decide), if_neg (by decide)] at h
    match bytes with
    | [] => cases h
    | length :: bytes =>
        obtain ⟨name, rest', read, good⟩ := Verdict.eq_good_of_bind h
        cases good
        obtain ⟨split, size⟩ := eq_of_field_eq_good read
        exact ⟨length :: name, by rw [split]; rfl, .inr (.inr ⟨rfl, length, name, rfl, size⟩)⟩
  · rw [if_neg (by decide), if_pos rfl] at h
    obtain ⟨part, rest', read, good⟩ := Verdict.eq_good_of_bind h
    cases good
    obtain ⟨split, length⟩ := eq_of_field_eq_good read
    exact ⟨part, split, .inr (.inl ⟨rfl, length⟩)⟩

theorem eq_of_port_eq_good {p : UInt16} {bytes rest : Bytes} (h : port bytes = .good p rest) :
    ∃ high low, bytes = high :: low :: rest := by
  match bytes with
  | [] => cases h
  | [_] => cases h
  | high :: low :: rest' =>
      cases h
      exact ⟨high, low, rfl⟩

/-- The answer to the login is there if and only if the method for it was selected. -/
theorem eq_of_loginIfSelected_eq_good {credential : Option Credential} {m : UInt8}
    {bytes rest : Bytes} (offered : m ∈ offeredMethods credential)
    (h : loginIfSelected credential m bytes = .good () rest) :
    bytes = (if m = 2 then [1, 0] else []) ++ rest := by
  cases credential with
  | none =>
      have none : m = 0 := List.mem_singleton.mp offered
      cases h
      rw [none]
      rfl
  | some c =>
      unfold loginIfSelected at h
      dsimp only at h
      split at h
      · rename_i selected
        rw [eq_of_login_eq_good h, if_pos selected]
        rfl
      · rename_i other
        cases h
        rw [if_neg other]
        rfl

/-- The bytes of an accepted handshake: two for the method, two for the login if there was one,
four in front of the address, the host, and two for the port. What follows is left. -/
theorem eq_of_read_eq_good {credential : Option Credential} {bound : BoundAddress}
    {bytes rest : Bytes} (h : read credential bytes = .good bound rest) :
    ∃ m kind high low part, m ∈ offeredMethods credential ∧ IsHost kind part ∧
      bytes = [5, m] ++ (if m = 2 then [1, 0] else []) ++ [5, 0, 0, kind] ++ part
        ++ [high, low] ++ rest := by
  obtain ⟨m, rest₁, chosen, h⟩ := Verdict.eq_good_of_bind h
  obtain ⟨_, rest₂, accepted, h⟩ := Verdict.eq_good_of_bind h
  obtain ⟨kind, rest₃, granted, h⟩ := Verdict.eq_good_of_bind h
  obtain ⟨text, rest₄, named, h⟩ := Verdict.eq_good_of_bind h
  obtain ⟨p, rest₅, numbered, h⟩ := Verdict.eq_good_of_bind h
  cases h
  obtain ⟨split₁, -, offered⟩ := eq_of_method_eq_good chosen
  obtain ⟨split₃, known⟩ := eq_of_reply_eq_good granted
  obtain ⟨part, split₄, isHost⟩ := eq_of_host_eq_good known named
  obtain ⟨high, low, split₅⟩ := eq_of_port_eq_good numbered
  refine ⟨m, kind, high, low, part, offered, isHost, ?_⟩
  rw [split₁, eq_of_loginIfSelected_eq_good offered accepted, split₃, split₄, split₅]
  simp

end Replies

end SocksTunnel.Socks
