import SocksTunnel.Proofs.Socks.Connect
import SocksTunnel.Proofs.Target

/-!
The client's side of a handshake as a server reads it: all that was sent, as one string of bytes.

The server takes it field by field. A field has a known length, or a byte in front of it announces
the length.

* `Field.counted?_written` — a field of at most 255 bytes is read back, and what is behind it is
  left.
* `Transcript.read?_frames` — so are the offer, the login if the server has asked for one, and the
  request.
* `connect_understood` — of an accepted handshake the server understands what was configured, and
  nothing is left over.
-/

namespace SocksTunnel

open SocksTunnel.Text

namespace Socks

/-! ### Fields -/

/-- A field of a frame, with the byte that announces its length if there is one. -/
structure Field where
  announced : Option UInt8
  content : Bytes
  deriving DecidableEq

namespace Field

/-- A field with its length in front of it. -/
def counted (content : Bytes) : Field := ⟨some (UInt8.ofNat content.length), content⟩

/-- A field whose length is known. -/
def plain (content : Bytes) : Field := ⟨none, content⟩

/-- The bytes of a field on the wire. -/
def written (f : Field) : Bytes := f.announced.toList ++ f.content

/-- A length that is announced is that of the field, and lies between 1 and 255. -/
def Honest (f : Field) : Prop :=
  ∀ n, f.announced = some n → n.toNat = f.content.length ∧ 1 ≤ n.toNat ∧ n.toNat ≤ 255

/-- Read a field of a known length. -/
def plain? (n : Nat) (bytes : Bytes) : Option (Field × Bytes) :=
  (Destination.take? n bytes).map fun (content, rest) => (⟨none, content⟩, rest)

/-- Read a field that has its length in front of it. -/
def counted? : Bytes → Option (Field × Bytes)
  | [] => none
  | n :: bytes => (Destination.take? n.toNat bytes).map fun (content, rest) =>
      (⟨some n, content⟩, rest)

theorem toNat_length {content : Bytes} (short : content.length ≤ 255) :
    (UInt8.ofNat content.length).toNat = content.length := by
  rw [UInt8.toNat_ofNat']
  exact Nat.mod_eq_of_lt (Nat.lt_succ_of_le short)

theorem plain?_written {n : Nat} {content : Bytes} (length : content.length = n) (rest : Bytes) :
    plain? n ((plain content).written ++ rest) = some (plain content, rest) := by
  have taken := Destination.take?_append length rest
  simp [plain?, plain, written, taken]

/-- What is counted in one byte is read back. -/
theorem counted?_written {content : Bytes} (short : content.length ≤ 255) (rest : Bytes) :
    counted? ((counted content).written ++ rest) = some (counted content, rest) := by
  have taken := Destination.take?_append (toNat_length short).symm rest
  show (Destination.take? _ (content ++ rest)).map _ = _
  rw [taken]
  rfl

theorem honest_counted {content : Bytes} (nonempty : 1 ≤ content.length)
    (short : content.length ≤ 255) : (counted content).Honest := by
  intro n announced
  have length : n.toNat = content.length := by
    rw [← Option.some.inj announced]
    exact toNat_length short
  refine ⟨length, ?_, ?_⟩
  · rw [length]
    exact nonempty
  · rw [length]
    exact short

theorem honest_plain (content : Bytes) : (plain content).Honest := by
  rintro n ⟨⟩

end Field

/-! ### Frames -/

/-- Read an offer of methods. -/
def readOffer? : Bytes → Option (Field × Bytes)
  | 5 :: bytes => Field.counted? bytes
  | _ => none

/-- Read a login: a user name and a password. -/
def readLogin? : Bytes → Option ((Field × Field) × Bytes)
  | 1 :: bytes => do
      let (username, bytes) ← Field.counted? bytes
      let (password, bytes) ← Field.counted? bytes
      return ((username, password), bytes)
  | _ => none

/-- Read an address of a kind. Only a name has its length in front of it. -/
def readAddress? : AddressKind → Bytes → Option (Field × Bytes)
  | .ipv4 => Field.plain? 4
  | .domain => Field.counted?
  | .ipv6 => Field.plain? 16

/-- The address and the port of a request. -/
structure Requested where
  kind : AddressKind
  address : Field
  port : Nat
  deriving DecidableEq

/-- Read a request for a connection. -/
def readRequest? : Bytes → Option (Requested × Bytes)
  | 5 :: 1 :: 0 :: code :: bytes => do
      let kind ← AddressKind.ofCode? code.toNat
      let (address, bytes) ← readAddress? kind bytes
      let (port, bytes) ← Destination.take? 2 bytes
      return (⟨kind, address, bigEndian port⟩, bytes)
  | _ => none

/-- What a server understands of a client. -/
structure Transcript where
  methods : Field
  login : Option (Field × Field)
  request : Requested
  deriving DecidableEq

namespace Transcript

/-- All fields of a transcript. -/
def fields (t : Transcript) : List Field :=
  t.methods :: t.login.toList.flatMap (fun (username, password) => [username, password]) ++
    [t.request.address]

/-- Read all that a client says to a server that has selected a method. There is a login if the
method asks for one. -/
def read? (selected : UInt8) (bytes : Bytes) : Option (Transcript × Bytes) := do
  let (methods, bytes) ← readOffer? bytes
  let (login, bytes) ← if selected = 2 then
      (readLogin? bytes).map fun (login, bytes) => (some login, bytes)
    else some (none, bytes)
  let (request, bytes) ← readRequest? bytes
  return (⟨methods, login, request⟩, bytes)

end Transcript

end Socks

/-! ### What the client says -/

namespace Address

/-- The bytes of an address, without its kind or its length. -/
def bytes : Address → Bytes
  | .ipv4 ip => ip.bytes
  | .domain name _ => name
  | .ipv6 ip => ip.bytes

/-- The address as a field of a request. -/
def field : Address → Socks.Field
  | .domain name _ => .counted name
  | a => .plain a.bytes

theorem encode_eq (a : Address) : a.encode = a.kind.code :: a.field.written := by
  cases a with
  | ipv4 ip => rfl
  | domain name bound => rfl
  | ipv6 ip => rfl

theorem content_field (a : Address) : a.field.content = a.bytes := by
  cases a <;> rfl

/-- An address that a host denotes announces its length truly, if it does at all. -/
theorem honest_field {host : String} {kind : AddressKind} {a : Address}
    (accepted : Target.Accepted host kind a) : a.field.Honest := by
  cases a with
  | ipv4 ip => exact Socks.Field.honest_plain _
  | domain name bound =>
      have nonempty := accepted.named name bound rfl
      exact Socks.Field.honest_counted (List.length_pos_iff.mpr nonempty) bound
  | ipv6 ip => exact Socks.Field.honest_plain _

end Address

theorem AddressKind.ofCode?_code (kind : AddressKind) : ofCode? kind.code.toNat = some kind := by
  cases kind <;> rfl

namespace Socks

theorem length_offeredMethods (credential : Option Credential) :
    1 ≤ (offeredMethods credential).length ∧ (offeredMethods credential).length ≤ 255 := by
  cases credential <;> simp [offeredMethods]

/-- The two fields of a login. -/
def loginFields (c : Credential) : Field × Field :=
  (.counted c.usernameBytes, .counted c.passwordBytes)

section Frames

variable (rest : Bytes)

theorem readOffer?_offerBytes (credential : Option Credential) :
    readOffer? (Replies.offerBytes (offeredMethods credential) ++ rest) =
      some (.counted (offeredMethods credential), rest) := by
  exact Field.counted?_written (length_offeredMethods credential).2 rest

theorem readLogin?_loginBytes (c : Credential) :
    readLogin? (Replies.loginBytes c ++ rest) = some (loginFields c, rest) := by
  have frame : Replies.loginBytes c ++ rest = 1 :: ((Field.counted c.usernameBytes).written ++
      ((Field.counted c.passwordBytes).written ++ rest)) := by
    simp [Replies.loginBytes, Field.written, Field.counted]
  have password : Field.counted? ((Field.counted c.passwordBytes).written ++ rest) =
      some (.counted c.passwordBytes, rest) :=
    Field.counted?_written c.password_length.2 rest
  have username : Field.counted? ((Field.counted c.usernameBytes).written ++
      ((Field.counted c.passwordBytes).written ++ rest)) =
      some (.counted c.usernameBytes, (Field.counted c.passwordBytes).written ++ rest) :=
    Field.counted?_written c.username_length.2 _
  rw [frame, readLogin?]
  simp [username, password, loginFields]

theorem readAddress?_field (a : Address) :
    readAddress? a.kind (a.field.written ++ rest) = some (a.field, rest) := by
  cases a with
  | ipv4 ip =>
      have four : ip.bytes.length = 4 := rfl
      exact Field.plain?_written four rest
  | domain name bound => exact Field.counted?_written bound rest
  | ipv6 ip => exact Field.plain?_written ip.length_bytes rest

theorem readRequest?_requestBytes (target : Target) :
    readRequest? (Replies.requestBytes target ++ rest) =
      some (⟨target.kind, target.address.field, target.port.toNat⟩, rest) := by
  have address := readAddress?_field (Target.portBytes target.port ++ rest) target.address
  have two : (Target.portBytes target.port).length = 2 := rfl
  have port := Destination.take?_append two rest
  have frame : Replies.requestBytes target ++ rest = 5 :: 1 :: 0 :: target.address.kind.code ::
      (target.address.field.written ++ (Target.portBytes target.port ++ rest)) := by
    simp [Replies.requestBytes, Target.encode, Address.encode_eq]
  rw [frame, readRequest?]
  simp [AddressKind.ofCode?_code, address, port, Target.bigEndian_portBytes, Target.kind]

end Frames

namespace Transcript

/-- What there is to understand of a client whose server has selected a method. -/
def expected (target : Target) (credential : Option Credential) (selected : UInt8) :
    Transcript where
  methods := .counted (offeredMethods credential)
  login := if selected = 2 then credential.map loginFields else none
  request := ⟨target.kind, target.address.field, target.port.toNat⟩

/-- The frames of a handshake are read back, and nothing behind them is. -/
theorem read?_frames (target : Target) {credential : Option Credential} {m : UInt8} {bytes : Bytes}
    (offered : m ∈ offeredMethods credential) (front : [5, m] <+: bytes) (rest : Bytes) :
    read? m ((Replies.plan target credential bytes).flatten ++ rest) =
      some (expected target credential m, rest) := by
  have request := readRequest?_requestBytes rest target
  by_cases selected : m = 2
  · subst selected
    cases credential with
    | none => simp [offeredMethods, methodNone] at offered
    | some c =>
        have offer := readOffer?_offerBytes
          (Replies.loginBytes c ++ (Replies.requestBytes target ++ rest)) (some c)
        have login := readLogin?_loginBytes (Replies.requestBytes target ++ rest) c
        simp [Replies.plan, Replies.loginAsked_of_selected c front, read?, offer, login, request,
          expected]
  · have offer := readOffer?_offerBytes (Replies.requestBytes target ++ rest) credential
    simp [Replies.plan, Replies.loginAsked_of_ne selected front, read?, offer, selected, request,
      expected]

theorem honest_fields {host : String} {kind : AddressKind} {target : Target}
    (accepted : Target.Accepted host kind target.address) (credential : Option Credential)
    (m : UInt8) : ∀ f ∈ (expected target credential m).fields, f.Honest := by
  have methods := length_offeredMethods credential
  have login (c : Credential) : (loginFields c).1.Honest ∧ (loginFields c).2.Honest :=
    ⟨Field.honest_counted c.username_length.1 c.username_length.2,
      Field.honest_counted c.password_length.1 c.password_length.2⟩
  intro f member
  rcases List.mem_append.mp member with front | last
  · rcases List.mem_cons.mp front with rfl | inLogin
    · exact Field.honest_counted methods.1 methods.2
    · simp only [expected] at inLogin
      split at inLogin
      · cases credential with
        | none => simp at inLogin
        | some c =>
            rcases (by simpa using inLogin : f = (loginFields c).1 ∨ f = (loginFields c).2) with
              rfl | rfl
            · exact (login c).1
            · exact (login c).2
      · simp at inLogin
  · obtain rfl : f = target.address.field := List.mem_singleton.mp last
    exact Address.honest_field accepted

end Transcript

/-! ### An accepted handshake -/

/-- An accepted handshake has heard which of the offered methods was selected, and has sent all of
its plan. -/
theorem Replies.sent_of_accepted {target : Target} {credential : Option Credential} {s : Socket}
    {bound : BoundAddress} (accepted : ((connect target credential).run s).outcome = .ok bound) :
    ∃ m ∈ offeredMethods credential, [5, m] <+: s.inflow.bytes ∧
      ((connect target credential).run s).socket.sent =
        s.sent ++ plan target credential s.inflow.bytes := by
  obtain ⟨good, left⟩ := Dialogue.verdict_of_ok accepted
  obtain ⟨needed, split, stable⟩ := Dialogue.verdict_append good
  rw [List.append_nil] at split
  -- What comes in behind the answers makes no difference to them.
  have flow : s.inflow.bytes =
      needed ++ ((connect target credential).run s).socket.inflow.bytes := by
    rw [left, Inflow.bytes_prepend, split]
  have whole := stable ((connect target credential).run s).socket.inflow.bytes
  rw [← flow, verdict_connect] at whole
  obtain ⟨m, kind, high, low, part, offered, -, heard⟩ := eq_of_read_eq_good whole
  refine ⟨m, offered, ?_, ?_⟩
  · rw [heard]
    simp only [List.append_assoc]
    exact List.prefix_append _ _
  · rw [Dialogue.sent_of_ok accepted, Dialogue.frames, cues_connect, map_snd_script_of_good whole]

/-- Let a host, a port and a kind make a target, and a handshake for it be accepted. A server that
has selected the method that the client heard reads the chunks that were sent, joined, to their end,
and nothing is left over. It understands the methods that a client with this credential offers, the
bytes of the user name and of the password if the method asks for them, the kind, the host as it is
written for that kind, and the port. Each length that was announced is that of its field, and
between 1 and 255. -/
theorem connect_understood {host : String} {port : Int} {kind : AddressKind} {target : Target}
    (made : Target.make host port kind = .ok target) (credential : Option Credential) {s : Socket}
    {bound : BoundAddress}
    (accepted : ((connect target credential).run s).outcome = .ok bound) :
    ∃ m chunks t, (m ∈ offeredMethods credential ∧ [5, m] <+: s.inflow.bytes) ∧
      ((connect target credential).run s).socket.sent = s.sent ++ chunks ∧
      Transcript.read? m chunks.flatten = some (t, []) ∧
      t.methods.content = offeredMethods credential ∧
      (m = 2 → ∃ c username password, credential = some c ∧ t.login = some (username, password) ∧
        username.content = utf8 c.username.toList ∧ password.content = utf8 c.password.toList) ∧
      (m ≠ 2 → t.login = none) ∧
      (t.request.kind = kind ∧ t.request.address.content = target.address.bytes ∧
        Target.writtenHost? host kind = some t.request.address.written ∧
        (t.request.port : Int) = port) ∧
      ∀ f ∈ t.fields, f.Honest := by
  obtain ⟨-, -, samePort, sameKind, denotes⟩ := Target.make_spec made
  have host := Target.accepted_of_ofHost denotes
  obtain ⟨m, offered, front, sent⟩ := Replies.sent_of_accepted accepted
  have read := Transcript.read?_frames target offered front []
  rw [List.append_nil] at read
  refine ⟨m, _, _, ⟨offered, front⟩, sent, read, rfl, ?_, ?_, ⟨sameKind, ?_, ?_, samePort⟩,
    Transcript.honest_fields host credential m⟩
  · rintro rfl
    cases credential with
    | none => simp [offeredMethods, methodNone] at offered
    | some c => exact ⟨c, _, _, rfl, rfl, rfl, rfl⟩
  · intro other
    exact if_neg other
  · exact Address.content_field target.address
  · obtain ⟨written, found, same⟩ := Option.map_eq_some_iff.mp host.written
    rw [Address.encode_eq] at same
    rw [found, (List.cons.inj same).2]
    rfl

/-- A name, as a target. -/
def nameServer : Target where
  host := "ns.test"
  port := 53
  address := .domain [110, 115, 46, 116, 101, 115, 116] (by decide)
  denotes := by decide +kernel

/-- A user whose name has more bytes than characters. -/
def accented : Credential := ⟨"café", "geheim", by decide, by decide⟩

/-- A proxy that asks for a login and accepts it and the request, heard in two pieces. -/
theorem connect_understood_login :
    ∃ chunks t username password,
      ((connect nameServer (some accented)).run (.fresh
        [.data [5, 2, 1], .data [0, 5, 0, 0, 1, 127, 0, 0, 1, 0, 80]] [] none)).socket.sent =
          [] ++ chunks ∧
      Transcript.read? 2 chunks.flatten = some (t, []) ∧
      (t.login = some (username, password) ∧
        username.content = [99, 97, 102, 195, 169] ∧ username.Honest) ∧
      t.request.kind = .domain ∧ t.request.port = 53 := by
  have made : Target.make "ns.test" 53 .domain = .ok nameServer := by rfl
  have accepted := Replies.outcome_run nameServer (some accented) (s := .fresh
    [.data [5, 2, 1], .data [0, 5, 0, 0, 1, 127, 0, 0, 1, 0, 80]] [] none) (fun _ _ => rfl)
  obtain ⟨m, chunks, t, ⟨-, front⟩, sent, read, -, login, -, ⟨kind, -, -, port⟩, honest⟩ :=
    connect_understood made (some accented) accepted
  have selected : m = 2 := (List.cons_prefix_cons.mp (List.cons_prefix_cons.mp front).2).1
  obtain ⟨c, username, password, configured, asked, name, -⟩ := login selected
  cases configured
  refine ⟨chunks, t, username, password, sent, selected ▸ read, ⟨asked, name, ?_⟩, kind,
    Int.ofNat.inj port⟩
  apply honest
  simp [Transcript.fields, asked]

end Socks

end SocksTunnel
