import SocksTunnel.Log.Line
import SocksTunnel.Proofs.Socks.Bound
import SocksTunnel.Proofs.Text.OneLine

/-!
The lines that a handshake leaves in the log.

All that a proxy can put into a message goes through numbers, addresses and quotes, but for one
thing: the name of the bound address stands in the last note as it was read.

* `HandshakeError.oneLine_message` — the message of an error stays on one line.
* `Dialogue.run_bind`, `notes_connect` — what a handshake notes, by how far it comes.
* `Replies.read_accepting` — the bound address that an accepting answer gives.
* `Log.isLine_fileLine_iff` — a record is one line of the file if its message stays on one line.
* `connect_breaks_lines_by_name` — so the notes of a handshake are lines of the log unless the
  proxy breaks a line in the name of the bound address.
-/

namespace SocksTunnel

open SocksTunnel.Text

/-! ### Lines of the file -/

namespace Log

/-- A text that is one line, with the end of it. -/
def IsLine (s : String) : Prop := ∃ line, OneLine line ∧ s = line ++ "\n"

/-- All of an entry but its message stays on one line. -/
structure Entry.Framed (e : Entry) : Prop where
  module : OneLine e.module
  function : OneLine e.function
  connection : OneLine (e.connection.getD blankField)
  peer : OneLine (e.peer.getD blankField)

theorem isLine_append_iff {front message : String} (fine : OneLine front) :
    IsLine (front ++ message ++ "\n") ↔ OneLine message := by
  constructor
  · rintro ⟨line, whole, same⟩
    have same' : front ++ message = line := (String.append_left_inj _).mp same
    rw [← same', oneLine_append] at whole
    exact whole.2
  · intro whole
    exact ⟨front ++ message, oneLine_append.mpr ⟨fine, whole⟩, rfl⟩

theorem oneLine_stamp (time : Calendar.Moment) (level : Level) : OneLine (stamp time level) := by
  have name : OneLine level.name := by cases level <;> decide
  have bar : OneLine " | " := by decide
  have parts : OneLine "-" ∧ OneLine " " ∧ OneLine ":" := by decide
  simp [stamp, Calendar.Moment.text, name, bar, parts]

/-- A record is one line of the log file if and only if its message stays on one line. -/
theorem isLine_fileLine_iff (time : Calendar.Moment) {e : Entry} (framed : e.Framed) :
    IsLine (fileLine time e) ↔ OneLine e.message := by
  have marks : OneLine "conn=" ∧ OneLine " peer=" ∧ OneLine " | " ∧ OneLine ":" ∧
      OneLine " - " := by decide
  have front : OneLine (stamp time e.level ++ "conn=" ++ e.connection.getD blankField ++ " peer="
      ++ e.peer.getD blankField ++ (" | " ++ e.module ++ ":" ++ e.function ++ ":"
        ++ signedDecimal e.line ++ " - ")) := by
    simp [oneLine_stamp, marks, framed.module, framed.function, framed.connection, framed.peer]
  rw [← isLine_append_iff front, fileLine, body]
  simp only [String.append_assoc]

end Log

namespace Socks

/-! ### Errors -/

theorem ReplyCode.oneLine_description (r : ReplyCode) : OneLine r.description := by
  cases r <;> decide

/-- The message of an error stays on one line, whatever the user name is. -/
theorem HandshakeError.oneLine_message (e : HandshakeError) : OneLine e.message := by
  unfold message hex
  cases e
  all_goals
    simp only [oneLine_append, oneLine_decimal, oneLine_hexByte, oneLine_quote,
      ReplyCode.oneLine_description, and_true]
    decide +kernel

/-! ### Hosts -/

theorem oneLine_ipv4Host (bytes : Bytes) : OneLine (ipv4Host bytes) := by
  unfold ipv4Host
  split
  · exact Ipv4.oneLine_text _
  · decide

theorem oneLine_ipv6Host (bytes : Bytes) : OneLine (ipv6Host bytes) := by
  unfold ipv6Host
  split
  · exact Ipv6.oneLine_dottedText _
  · decide

/-- The host that the bytes of a kind give. -/
def hostOf (kind : UInt8) (bytes : Bytes) : String :=
  if kind = 1 then ipv4Host bytes
  else if kind = 4 then ipv6Host bytes
  else domainHost bytes.tail

/-- The text of a target is on one line with its host. -/
theorem oneLine_text {t : Target} (host : OneLine t.host) : OneLine t.text := by
  unfold Target.text
  dsimp only
  split <;> simp +decide [host]

/-! ### What is noted -/

/-- Go on with what a dialogue has come to, if it has. -/
def Held.bind {α β : Type} (held : Held α) (f : α → Socket → Held β) : Held β :=
  match held.outcome with
  | .ok result => { f result held.socket with
      notes := held.notes ++ (f result held.socket).notes }
  | .error breakdown => ⟨.error breakdown, held.socket, held.notes⟩

namespace Dialogue

variable {α β : Type}

/-- Of two dialogues one after the other, the second one is held on the socket that the first one
leaves. -/
theorem run_bind (d : Dialogue α) (f : α → Dialogue β) (s : Socket) :
    (d.bind f).run s = (d.run s).bind fun result t => (f result).run t := by
  induction d generalizing s with
  | done result => rfl
  | fail error => rfl
  | send frame next ih =>
      cases sent : s.send frame with
      | mk fault t =>
          cases fault with
          | none =>
              rw [bind, run_send_of_none sent, run_send_of_none sent]
              exact ih t
          | some cause =>
              rw [bind, run_send_of_some sent, run_send_of_some sent]
              rfl
  | read size next ih =>
      cases found : readFrame size s with
      | mk result t =>
          cases result with
          | ok bytes =>
              rw [bind, run_read_of_ok found, run_read_of_ok found]
              exact ih bytes t
          | error breakdown =>
              rw [bind, run_read_of_error found, run_read_of_error found]
              rfl
  | note message next ih =>
      rw [bind, run, run, ih]
      cases ended : (next.run s).outcome with
      | ok result => simp [Held.bind, ended]
      | error breakdown => simp [Held.bind, ended]

/-- A dialogue that notes nothing. -/
def Noteless : Dialogue α → Prop
  | done _ => True
  | fail _ => True
  | send _ next => next.Noteless
  | read _ next => ∀ bytes, (next bytes).Noteless
  | note _ _ => False

theorem Noteless.bind {d : Dialogue α} (noteless : d.Noteless) {f : α → Dialogue β}
    (after : ∀ result, (f result).Noteless) : (d.bind f).Noteless := by
  induction d with
  | done result => exact after result
  | fail error => trivial
  | send frame next ih => exact ih noteless
  | read size next ih => exact fun bytes => ih bytes (noteless bytes)
  | note message next ih => exact noteless.elim

theorem Noteless.notes_run {d : Dialogue α} (noteless : d.Noteless) (s : Socket) :
    (d.run s).notes = [] := by
  induction d generalizing s with
  | done result => rfl
  | fail error => rfl
  | send frame next ih =>
      cases sent : s.send frame with
      | mk fault t =>
          cases fault with
          | none =>
              rw [run_send_of_none sent]
              exact ih noteless t
          | some cause => rw [run_send_of_some sent]
  | read size next ih =>
      cases found : readFrame size s with
      | mk result t =>
          cases result with
          | ok bytes =>
              rw [run_read_of_ok found]
              exact ih bytes (noteless bytes) t
          | error breakdown => rw [run_read_of_error found]
  | note message next ih => exact noteless.elim

/-- Behind a dialogue that notes nothing, unless that one breaks off, the other one goes on. -/
theorem Noteless.run_bind_cases {d : Dialogue α} (noteless : d.Noteless) (f : α → Dialogue β)
    (s : Socket) :
    (∃ breakdown t, (d.bind f).run s = ⟨.error breakdown, t, []⟩) ∨
      ∃ result t, (d.bind f).run s = (f result).run t := by
  rw [run_bind, Held.bind, noteless.notes_run]
  cases (d.run s).outcome with
  | error breakdown => exact .inl ⟨breakdown, _, rfl⟩
  | ok result => exact .inr ⟨result, _, rfl⟩

theorem noteless_ite {p : Prop} [Decidable p] {d e : Dialogue α} (then' : d.Noteless)
    (else' : e.Noteless) : (if p then d else e).Noteless := by
  split
  · exact then'
  · exact else'

theorem noteless_hearPair : hearPair.Noteless := by
  intro bytes
  rcases bytes with _ | ⟨first, _ | ⟨second, _ | ⟨third, rest⟩⟩⟩
  all_goals trivial

theorem noteless_hearHost (kind : UInt8) : (hearHost kind).Noteless := by
  unfold hearHost
  split
  · exact fun _ => trivial
  · exact fun _ => trivial
  · intro bytes
    rcases bytes with _ | ⟨length, _ | ⟨second, rest⟩⟩
    · trivial
    · exact fun _ => trivial
    · trivial
  · trivial

theorem noteless_negotiate (credential : Option Credential) : (negotiate credential).Noteless :=
  noteless_hearPair.bind fun _ =>
    noteless_ite trivial (noteless_ite trivial (noteless_ite trivial trivial))

theorem noteless_loginIfSelectedBy (credential : Option Credential) (m : UInt8) :
    (Replies.loginIfSelectedBy credential m).Noteless := by
  unfold Replies.loginIfSelectedBy
  split
  · exact noteless_ite
      (noteless_hearPair.bind fun _ => noteless_ite trivial (noteless_ite trivial trivial)) trivial
  · trivial

theorem noteless_request (target : Target) : (request target).Noteless := by
  intro bytes
  -- Any other number of bytes than four ends the dialogue at once.
  rcases bytes with _ | ⟨version, _ | ⟨reply, _ | ⟨reserved, _ | ⟨kind, _ | ⟨fifth, rest⟩⟩⟩⟩⟩
  case cons.cons.cons.cons.nil =>
    show Noteless (if version ≠ protocolVersion then _ else _)
    refine noteless_ite trivial (noteless_ite trivial ?_)
    split
    · exact (noteless_hearHost _).bind fun _ => noteless_hearPair.bind fun _ => trivial
    · trivial
    · trivial
  all_goals trivial

end Dialogue

/-- The note on the method. -/
def methodNote (m : UInt8) : String := "Proxy selected auth method 0x" ++ hexByte m

/-- The note on the bound address. -/
def boundNote (target : Target) (bound : BoundAddress) : String :=
  "Proxy connected to " ++ target.text ++ ", bound at " ++ bound.host ++ ":"
    ++ decimal bound.port.toNat

/-- A handshake that breaks off has noted the method at most. One that does not has noted the
method and the bound address. -/
theorem notes_connect (target : Target) (credential : Option Credential) (s : Socket) :
    (∃ breakdown, ((connect target credential).run s).outcome = .error breakdown ∧
      ∀ note ∈ ((connect target credential).run s).notes, ∃ m, note = methodNote m) ∨
    ∃ bound m, ((connect target credential).run s).outcome = .ok bound ∧
      ((connect target credential).run s).notes = [methodNote m, boundNote target bound] := by
  have only {m : UInt8} : ∀ note ∈ [methodNote m], ∃ m, note = methodNote m :=
    fun _ same => ⟨m, List.mem_singleton.mp same⟩
  rw [Replies.connect_eq]
  rcases (Dialogue.noteless_negotiate credential).run_bind_cases _ s with
    ⟨breakdown, t, ran⟩ | ⟨m, t, ran⟩
  · exact .inl ⟨breakdown, by rw [ran], by rw [ran]; exact nofun⟩
  rw [ran, Dialogue.run]
  rcases (Dialogue.noteless_loginIfSelectedBy credential m).run_bind_cases _ t with
    ⟨breakdown, u, ran⟩ | ⟨_, u, ran⟩
  · exact .inl ⟨breakdown, by rw [ran], by rw [ran]; exact only⟩
  rw [ran, Replies.conclusion]
  rcases (Dialogue.noteless_request target).run_bind_cases _ u with
    ⟨breakdown, v, ran⟩ | ⟨bound, v, ran⟩
  · exact .inl ⟨breakdown, by rw [ran], by rw [ran]; exact only⟩
  · exact .inr ⟨bound, m, by rw [ran]; rfl, by rw [ran]; rfl⟩

/-! ### The bound address -/

namespace Replies

theorem address_of_isHost {kind : UInt8} {part : Bytes} (isHost : IsHost kind part)
    (high low : UInt8) (rest : Bytes) :
    address kind (part ++ high :: low :: rest) =
      .good ⟨hostOf kind part, UInt16.ofNat (256 * high.toNat + low.toNat)⟩ rest := by
  rw [address]
  rcases isHost with ⟨rfl, length⟩ | ⟨rfl, length⟩ | ⟨rfl, length, name, rfl, size⟩
  · rw [host_ipv4, field_append length]
    rfl
  · rw [host_ipv6, field_append length]
    rfl
  · rw [List.cons_append, host_domain, field_append size]
    rfl

/-- An accepting answer gives the bound address that stands in it. -/
theorem read_accepting {credential : Option Credential} {m kind : UInt8} {part : Bytes}
    (offered : m ∈ offeredMethods credential) (isHost : IsHost kind part) (high low : UInt8)
    (rest : Bytes) :
    read credential ([5, m] ++ (if m = 2 then [1, 0] else []) ++ [5, 0, 0, kind] ++ part
        ++ [high, low] ++ rest) =
      .good ⟨hostOf kind part, UInt16.ofNat (256 * high.toNat + low.toNat)⟩ rest := by
  have known : ¬ (kind ≠ 1 ∧ kind ≠ 3 ∧ kind ≠ 4) := by
    rcases isHost with ⟨rfl, -⟩ | ⟨rfl, -⟩ | ⟨rfl, -⟩ <;> decide
  have granted (more : Bytes) : reply (5 :: 0 :: 0 :: kind :: more) = .good kind more :=
    if_neg known
  have answers := read_answered offered (5 :: 0 :: 0 :: kind :: (part ++ high :: low :: rest))
  rw [granted, Verdict.good_bind, address_of_isHost isHost] at answers
  simpa using answers

end Replies

theorem oneLine_hostOf_iff {kind : UInt8} {part : Bytes} :
    OneLine (hostOf kind part) ↔ kind = 1 ∨ kind = 4 ∨ 10 ∉ part.tail ∧ 13 ∉ part.tail := by
  unfold hostOf
  split
  case isTrue four => exact iff_of_true (oneLine_ipv4Host part) (.inl four)
  case isFalse four =>
    rw [or_iff_right four]
    split
    case isTrue six => exact iff_of_true (oneLine_ipv6Host part) (.inl six)
    case isFalse six =>
      rw [or_iff_right six]
      exact oneLine_readUtf8_iff part.tail

/-- The proxy accepts, and breaks a line in the name of the bound address: a byte for a line end
stands among those of the name. -/
def BreaksLine (credential : Option Credential) (bytes : Bytes) : Prop :=
  ∃ m length name high low rest, m ∈ offeredMethods credential ∧ name.length = length.toNat ∧
    (10 ∈ name ∨ 13 ∈ name) ∧
    bytes = [5, m] ++ (if m = 2 then [1, 0] else []) ++ [5, 0, 0, 3] ++ (length :: name)
      ++ [high, low] ++ rest

theorem BreaksLine.read_eq {credential : Option Credential} {bytes : Bytes}
    (breaks : BreaksLine credential bytes) :
    ∃ bound rest, Replies.read credential bytes = .good bound rest ∧ ¬ OneLine bound.host := by
  obtain ⟨m, length, name, high, low, rest, offered, size, ends, rfl⟩ := breaks
  have isHost : Replies.IsHost 3 (length :: name) := .inr (.inr ⟨rfl, length, name, rfl, size⟩)
  refine ⟨_, rest, Replies.read_accepting offered isHost high low rest, ?_⟩
  rw [oneLine_hostOf_iff]
  rintro (four | six | ⟨noFeed, noBack⟩)
  · cases four
  · cases six
  · exact ends.elim noFeed noBack

/-- The host of the bound address breaks a line just where the proxy does. -/
theorem breaksLine_iff {credential : Option Credential} {bytes rest : Bytes} {bound : BoundAddress}
    (accepted : Replies.read credential bytes = .good bound rest) :
    BreaksLine credential bytes ↔ ¬ OneLine bound.host := by
  constructor
  · intro breaks
    obtain ⟨bound', rest', read, broken⟩ := breaks.read_eq
    rw [accepted] at read
    cases read
    exact broken
  · intro broken
    obtain ⟨m, kind, high, low, part, offered, isHost, rfl⟩ := Replies.eq_of_read_eq_good accepted
    rw [Replies.read_accepting offered isHost] at accepted
    cases accepted
    rw [oneLine_hostOf_iff] at broken
    rcases isHost with ⟨four, -⟩ | ⟨six, -⟩ | ⟨rfl, length, name, rfl, size⟩
    · exact absurd (.inl four) broken
    · exact absurd (.inr (.inl six)) broken
    · have ends : 10 ∈ name ∨ 13 ∈ name := by
        by_contra none
        exact broken (.inr (.inr (not_or.mp none)))
      exact ⟨m, length, name, high, low, rest, offered, size, ends, rfl⟩

theorem oneLine_boundNote_iff {target : Target} (host : OneLine target.host)
    (bound : BoundAddress) : OneLine (boundNote target bound) ↔ OneLine bound.host := by
  have marks : OneLine "Proxy connected to " ∧ OneLine ", bound at " ∧ OneLine ":" := by
    decide +kernel
  unfold boundNote
  simp only [oneLine_append, oneLine_decimal, oneLine_text host, marks, true_and,
    and_true]

theorem oneLine_methodNote (m : UInt8) : OneLine (methodNote m) :=
  oneLine_append.mpr ⟨by decide +kernel, oneLine_hexByte m⟩

/-- Where only data and ends of the stream come in, and no send fails, a handshake with a target on
one line notes lines only, and each is one line of the log file, unless the proxy breaks a line in
the name of the bound address. The message of an error is always on one line. -/
theorem connect_breaks_lines_by_name {target : Target} (host : OneLine target.host)
    (credential : Option Credential) {s : Socket} (free : s.SendsFreely)
    (flows : ∀ cause, Arrival.fault cause ∉ s.arrivals) :
    (∀ breakdown, ((connect target credential).run s).outcome = .error breakdown →
      ∃ error, breakdown = .error error ∧ OneLine error.message) ∧
    ((∀ note ∈ ((connect target credential).run s).notes, OneLine note ∧
        ∀ (time : Calendar.Moment) (e : Log.Entry), e.Framed → e.message = note →
          Log.IsLine (Log.fileLine time e)) ↔
      ¬ BreaksLine credential s.inflow.bytes) ∧
    ∀ note ∈ ((connect target credential).run s).notes, ¬ OneLine note →
      ∃ bound, ((connect target credential).run s).outcome = .ok bound ∧
        note = boundNote target bound := by
  have line {note : String} (whole : OneLine note) (time : Calendar.Moment) (e : Log.Entry)
      (framed : e.Framed) (same : e.message = note) : Log.IsLine (Log.fileLine time e) :=
    (Log.isLine_fileLine_iff time framed).mpr (same ▸ whole)
  have ended := Replies.outcome_run target credential free
  rw [Socket.inflow, Inflow.ending_of flows, ← Socket.inflow] at ended
  rcases notes_connect target credential s with
    ⟨breakdown, broke, notes⟩ | ⟨bound, m, accepted, notes⟩
  · -- Without a bound address there is nothing but the method to be noted.
    have fine : ∀ note ∈ ((connect target credential).run s).notes, OneLine note := by
      intro note member
      obtain ⟨m, rfl⟩ := notes note member
      exact oneLine_methodNote m
    rw [broke] at ended
    refine ⟨?_, iff_of_true ?_ ?_, fun note member broken => absurd (fine note member) broken⟩
    · intro breakdown' broke'
      rw [broke] at broke'
      cases broke'
      obtain ⟨error, rfl⟩ := Verdict.error_of_outcome ended.symm
      exact ⟨error, rfl, error.oneLine_message⟩
    · exact fun note member => ⟨fine note member, line (fine note member)⟩
    · intro breaks
      obtain ⟨bound, rest, good, -⟩ := breaks.read_eq
      rw [good] at ended
      cases ended
  · rw [accepted] at ended
    obtain ⟨rest, good⟩ := Verdict.eq_good_of_outcome ended.symm
    have last := oneLine_boundNote_iff host bound
    rw [breaksLine_iff good, not_not, notes]
    refine ⟨?_, ?_, ?_⟩
    · intro breakdown broke
      rw [accepted] at broke
      cases broke
    · constructor
      · intro fine
        exact last.mp (fine _ (by simp)).1
      · intro whole note member
        have fine : OneLine note := by
          rcases List.mem_pair.mp member with rfl | rfl
          · exact oneLine_methodNote m
          · exact last.mpr whole
        exact ⟨fine, line fine⟩
    · intro note member broken
      rcases List.mem_pair.mp member with rfl | rfl
      · exact absurd (oneLine_methodNote m) broken
      · exact ⟨bound, accepted, rfl⟩

/-- An answer that accepts the request, and names the bound address on two lines. -/
def twoLines : Socket :=
  .fresh [.data [5, 0], .data [5, 0, 0, 3, 3, 97], .data [10, 98, 0, 80]] [] none

/-- The note on that address is no line of the log. -/
theorem connect_breaks_lines_by_name_twoLines :
    ¬ ∀ note ∈ ((connect (.loopback 443) none).run twoLines).notes, OneLine note ∧
      ∀ (time : Calendar.Moment) (e : Log.Entry), e.Framed → e.message = note →
        Log.IsLine (Log.fileLine time e) := by
  have breaks : BreaksLine none twoLines.inflow.bytes :=
    ⟨0, 3, [97, 10, 98], 0, 80, [], List.mem_singleton.mpr rfl, rfl, by decide, rfl⟩
  have host : OneLine (Target.loopback 443).host := by decide
  have only := (connect_breaks_lines_by_name host none (s := twoLines) (fun _ _ => rfl)
    (by simp [twoLines, Socket.fresh])).2.1
  exact fun lines => only.mp lines breaks

/-- So not all notes of handshakes stay on one line. -/
theorem name_splits_note :
    ((connect (.loopback 443) none).run twoLines).notes =
      ["Proxy selected auth method 0x00", "Proxy connected to 127.0.0.1:443, bound at a\nb:80"] ∧
    ¬ ∀ (target : Target) (credential : Option Credential) (s : Socket), OneLine target.host →
      s.SendsFreely → (∀ cause, Arrival.fault cause ∉ s.arrivals) →
        ∀ note ∈ ((connect target credential).run s).notes, OneLine note := by
  have notes : ((connect (.loopback 443) none).run twoLines).notes =
      ["Proxy selected auth method 0x00",
        "Proxy connected to 127.0.0.1:443, bound at a\nb:80"] := by
    decide +kernel
  refine ⟨notes, ?_⟩
  intro lines
  have last := lines (.loopback 443) none twoLines (by decide) (fun _ _ => rfl)
    (by simp [twoLines, Socket.fresh]) "Proxy connected to 127.0.0.1:443, bound at a\nb:80"
    (by simp [notes])
  exact last '\n' (by decide +kernel) (.inl rfl)

end Socks

end SocksTunnel
