import SocksTunnel.Proofs.Socks.Replies

/-!
What the client says in a handshake: the offer of methods, the login if the proxy selects the
method for it, and the request.

`Replies.script` has the frames in order, each with all that was heard before it, as far as the
answers of the proxy call for them.

* `Replies.offerBytes`, `Replies.loginBytes`, `Replies.requestBytes` — the frames, byte by byte.
* `Replies.cues_connect` — the handshake says its frames as the script has them.
* `Replies.prompt_connect` — the handshake waits for an answer to each frame.
* `Replies.script_cases` — there are four ways for a script to go on.
* `Replies.due_of_script` — each frame of a script comes when it is due.
* `Replies.map_snd_script`, `Replies.map_snd_script_of_good` — a script keeps to a plan of two or
  three frames, all different, and goes through all of it in an accepted handshake.
-/

namespace SocksTunnel.Socks

open SocksTunnel.Text Dialogue

namespace Replies

variable {α : Type}

/-! ### Frames, byte by byte -/

/-- The offer of methods: the version of the protocol, the number of methods, and the methods. -/
def offerBytes (methods : List UInt8) : Bytes := [5, UInt8.ofNat methods.length] ++ methods

/-- The login: its own version, and the user name and the password, each behind its length. -/
def loginBytes (c : Credential) : Bytes :=
  [1, UInt8.ofNat c.usernameBytes.length] ++ c.usernameBytes ++
    ([UInt8.ofNat c.passwordBytes.length] ++ c.passwordBytes)

/-- The request: the version, the command to connect, a reserved byte, and the target. -/
def requestBytes (target : Target) : Bytes := [5, 1, 0] ++ target.encode

/-! ### What is to be said -/

/-- The login and the request after the answer to the offer of methods, each with what was heard
before it. -/
def scriptAfter (target : Target) (credential : Option Credential) (m : UInt8) (bytes : Bytes) :
    List (Bytes × Bytes) :=
  match credential with
  | some c =>
      if m = 2 then
        ([5, 2], loginBytes c) :: match login c bytes with
          | .good _ _ => [([5, 2, 1, 0], requestBytes target)]
          | _ => []
      else [([5, m], requestBytes target)]
  | none => [([5, m], requestBytes target)]

/-- The frames that a client sends to a proxy that answers `bytes`, each with what was heard
before it. -/
def script (target : Target) (credential : Option Credential) (bytes : Bytes) :
    List (Bytes × Bytes) :=
  ([], offerBytes (offeredMethods credential)) ::
    match method (offeredMethods credential) bytes with
    | .good m rest => scriptAfter target credential m rest
    | _ => []

/-- The login that `bytes` call for: a client with a credential has to log in to a proxy that
selects the method for it. -/
def loginAsked (credential : Option Credential) (bytes : Bytes) : List Bytes :=
  match credential with
  | some c => if [5, 2] <+: bytes then [loginBytes c] else []
  | none => []

/-- The frames of a handshake that goes through. -/
def plan (target : Target) (credential : Option Credential) (bytes : Bytes) : List Bytes :=
  offerBytes (offeredMethods credential) :: (loginAsked credential bytes ++ [requestBytes target])

/-! ### The handshake follows the script -/

theorem silent_hearPair : hearPair.Silent := by
  intro bytes
  rcases bytes with _ | ⟨first, _ | ⟨second, _ | ⟨third, rest⟩⟩⟩
  all_goals trivial

theorem silent_hearHost (kind : UInt8) : (hearHost kind).Silent := by
  unfold hearHost
  split
  · exact fun _ => trivial
  · exact fun _ => trivial
  · intro bytes
    rcases bytes with _ | ⟨length, _ | ⟨second, rest⟩⟩
    · trivial
    · exact fun _ => trivial
    · trivial
  · trivial

theorem silent_hearAddress (kind : UInt8) : (hearAddress kind).Silent :=
  (silent_hearHost kind).bind fun _ => silent_hearPair.bind fun _ => trivial

/-- A dialogue that says one frame and then only listens. -/
def Asks (frame : Bytes) (d : Dialogue α) : Prop :=
  ∃ next, d = send frame next ∧ next.Listens ∧ next.Silent

theorem Asks.cues {frame : Bytes} {d : Dialogue α} (asks : Asks frame d) (heard bytes : Bytes) :
    d.cues heard bytes = [(heard, frame)] := by
  obtain ⟨next, rfl, -, silent⟩ := asks
  rw [Dialogue.cues, silent.cues]

theorem Asks.prompt {frame : Bytes} {d : Dialogue α} (asks : Asks frame d) : d.Prompt := by
  obtain ⟨next, rfl, listens, silent⟩ := asks
  exact ⟨listens, silent.prompt⟩

theorem silent_ite {p : Prop} [Decidable p] {d e : Dialogue α} (then' : d.Silent)
    (else' : e.Silent) : (if p then d else e).Silent := by
  split
  · exact then'
  · exact else'

theorem listens_hearPair : hearPair.Listens := Nat.zero_lt_two

theorem asks_negotiate (credential : Option Credential) :
    Asks (offerBytes (offeredMethods credential)) (negotiate credential) := by
  refine ⟨_, rfl, listens_hearPair.bind _, silent_hearPair.bind fun answer => ?_⟩
  exact silent_ite trivial (silent_ite trivial (silent_ite trivial trivial))

theorem asks_login (c : Credential) : Asks (loginBytes c) (Socks.login c) := by
  refine ⟨_, rfl, listens_hearPair.bind _, silent_hearPair.bind fun answer => ?_⟩
  exact silent_ite trivial (silent_ite trivial trivial)

theorem asks_conclusion (target : Target) :
    Asks (requestBytes target) (conclusion target) := by
  refine ⟨_, rfl, Nat.zero_lt_succ 3, fun bytes => ?_⟩
  -- Any other number of bytes than four ends the dialogue at once.
  rcases bytes with _ | ⟨version, _ | ⟨reply, _ | ⟨reserved, _ | ⟨kind, _ | ⟨fifth, rest⟩⟩⟩⟩⟩
  case cons.cons.cons.cons.nil =>
    show Silent (Dialogue.bind (if version ≠ protocolVersion then _ else _) _)
    refine Silent.bind ?_ fun _ => trivial
    refine silent_ite trivial (silent_ite trivial ?_)
    split
    · exact silent_hearAddress _
    · trivial
    · trivial
  all_goals trivial

/-- The handshake waits for an answer to each frame. -/
theorem prompt_connect (target : Target) (credential : Option Credential) :
    (connect target credential).Prompt := by
  rw [connect_eq]
  refine (asks_negotiate credential).prompt.bind fun m => ?_
  refine Prompt.bind (?_ : (loginIfSelectedBy credential m).Prompt)
    fun _ => (asks_conclusion target).prompt
  cases credential with
  | none => trivial
  | some c =>
      unfold loginIfSelectedBy
      dsimp only
      split
      · exact (asks_login c).prompt
      · trivial

theorem cues_afterMethod (target : Target) (credential : Option Credential) {m : UInt8}
    (offered : m ∈ offeredMethods credential) (bytes : Bytes) :
    ((loginIfSelectedBy credential m).bind fun _ => conclusion target).cues [5, m] bytes =
      scriptAfter target credential m bytes := by
  cases credential with
  | none => exact (asks_conclusion target).cues _ _
  | some c =>
      by_cases selected : m = 2
      · subst selected
        show ((Socks.login c).bind fun _ => conclusion target).cues _ _ = _
        rw [scriptAfter, if_pos rfl]
        cases answer : login c bytes with
        | good result rest =>
            have split : bytes = [1, 0] ++ rest := eq_of_login_eq_good answer
            rw [cues_bind_of_good ((verdict_login c bytes).trans answer) split,
              (asks_login c).cues, (asks_conclusion target).cues]
            rfl
        | bad kind error =>
            rw [cues_bind_of_stuck (by rw [verdict_login, answer]; exact fun _ _ h => by cases h),
              (asks_login c).cues]
        | waiting got size =>
            rw [cues_bind_of_stuck (by rw [verdict_login, answer]; exact fun _ _ h => by cases h),
              (asks_login c).cues]
      · rw [scriptAfter, if_neg selected, loginIfSelectedBy,
          if_neg (show m ≠ methodPassword from selected)]
        exact (asks_conclusion target).cues _ _

/-- The handshake says its frames as the script has them. -/
theorem cues_connect (target : Target) (credential : Option Credential) (bytes : Bytes) :
    (connect target credential).cues [] bytes = script target credential bytes := by
  rw [connect_eq, script]
  cases answer : method (offeredMethods credential) bytes with
  | good m rest =>
      obtain ⟨split, -, offered⟩ := eq_of_method_eq_good answer
      have needed : bytes = [5, m] ++ rest := split
      rw [cues_bind_of_good ((verdict_negotiate credential bytes).trans answer) needed,
        (asks_negotiate credential).cues]
      exact congrArg _ (cues_afterMethod target credential offered rest)
  | bad kind error =>
      rw [cues_bind_of_stuck (by rw [verdict_negotiate, answer]; exact fun _ _ h => by cases h),
        (asks_negotiate credential).cues]
  | waiting got size =>
      rw [cues_bind_of_stuck (by rw [verdict_negotiate, answer]; exact fun _ _ h => by cases h),
        (asks_negotiate credential).cues]

/-! ### The frames of a script -/

/-- There are four ways for a script to go on after the offer of methods: not at all, with the
request if no login is asked for, with the login only, and with both. -/
theorem script_cases (target : Target) (credential : Option Credential) (bytes : Bytes) :
    (script target credential bytes = [([], offerBytes (offeredMethods credential))]) ∨
    (∃ m ∈ offeredMethods credential, m ≠ 2 ∧ [5, m] <+: bytes ∧
      script target credential bytes =
        [([], offerBytes (offeredMethods credential)), ([5, m], requestBytes target)]) ∨
    (∃ c, credential = some c ∧ [5, 2] <+: bytes ∧
      script target credential bytes =
        [([], offerBytes (offeredMethods credential)), ([5, 2], loginBytes c)]) ∨
    (∃ c, credential = some c ∧ [5, 2] <+: bytes ∧
      script target credential bytes =
        [([], offerBytes (offeredMethods credential)), ([5, 2], loginBytes c),
          ([5, 2, 1, 0], requestBytes target)]) := by
  rw [script]
  cases answer : method (offeredMethods credential) bytes with
  | bad kind error => exact .inl rfl
  | waiting got size => exact .inl rfl
  | good m rest =>
      obtain ⟨rfl, -, offered⟩ := eq_of_method_eq_good answer
      have front : [5, m] <+: 5 :: m :: rest := ⟨rest, rfl⟩
      dsimp only
      cases credential with
      | none =>
          have none : m = 0 := List.mem_singleton.mp offered
          exact .inr (.inl ⟨m, offered, by rw [none]; decide, front, rfl⟩)
      | some c =>
          by_cases selected : m = 2
          · subst selected
            rw [scriptAfter, if_pos rfl]
            cases login c rest with
            | good result rest' => exact .inr (.inr (.inr ⟨c, rfl, front, rfl⟩))
            | bad kind error => exact .inr (.inr (.inl ⟨c, rfl, front, rfl⟩))
            | waiting got size => exact .inr (.inr (.inl ⟨c, rfl, front, rfl⟩))
          · rw [scriptAfter, if_neg selected]
            exact .inr (.inl ⟨m, offered, selected, front, rfl⟩)

theorem loginAsked_of_ne {credential : Option Credential} {m : UInt8} {bytes : Bytes}
    (other : m ≠ 2) (front : [5, m] <+: bytes) : loginAsked credential bytes = [] := by
  cases credential with
  | none => rfl
  | some c =>
      obtain ⟨rest, rfl⟩ := front
      rw [loginAsked, if_neg]
      intro selected
      have same : 2 = m := (List.cons_prefix_cons.mp (List.cons_prefix_cons.mp selected).2).1
      exact other same.symm

theorem loginAsked_of_selected (c : Credential) {bytes : Bytes} (front : [5, 2] <+: bytes) :
    loginAsked (some c) bytes = [loginBytes c] := if_pos front

/-- When a frame may go out, by the frames said and the bytes heard before it: the offer first,
the login as soon as its method has been selected, and the request once nothing else is asked for
or the login has been accepted. -/
inductive Due (target : Target) (credential : Option Credential) :
    List Bytes → Bytes → Bytes → Prop where
  | offer : Due target credential [] [] (offerBytes (offeredMethods credential))
  | login {c : Credential} (configured : credential = some c) :
      Due target credential [offerBytes (offeredMethods credential)] [5, 2] (loginBytes c)
  | request {m : UInt8} (offered : m ∈ offeredMethods credential) (other : m ≠ 2) :
      Due target credential [offerBytes (offeredMethods credential)] [5, m] (requestBytes target)
  | requestAfterLogin {c : Credential} (configured : credential = some c) :
      Due target credential [offerBytes (offeredMethods credential), loginBytes c] [5, 2, 1, 0]
        (requestBytes target)

/-- Each frame of a script is due. -/
theorem due_of_script {target : Target} {credential : Option Credential}
    {bytes heard frame : Bytes} {before after : List (Bytes × Bytes)}
    (cut : script target credential bytes = before ++ (heard, frame) :: after) :
    Due target credential (before.map Prod.snd) heard frame := by
  rcases script_cases target credential bytes with
    script | ⟨m, offered, other, -, script⟩ | ⟨c, configured, -, script⟩ |
      ⟨c, configured, -, script⟩
  · rw [script] at cut
    match before with
    | [] =>
        cases cut
        exact .offer
    | _ :: before => simp at cut
  · rw [script] at cut
    match before with
    | [] =>
        cases cut
        exact .offer
    | [_] =>
        cases cut
        exact .request offered other
    | _ :: _ :: before => simp at cut
  · rw [script] at cut
    match before with
    | [] =>
        cases cut
        exact .offer
    | [_] =>
        cases cut
        exact .login configured
    | _ :: _ :: before => simp at cut
  · rw [script] at cut
    match before with
    | [] =>
        cases cut
        exact .offer
    | [_] =>
        cases cut
        exact .login configured
    | [_, _] =>
        cases cut
        exact .requestAfterLogin configured
    | _ :: _ :: _ :: before => simp at cut

/-- A script never leaves the plan. -/
theorem map_snd_script (target : Target) (credential : Option Credential) (bytes : Bytes) :
    (script target credential bytes).map Prod.snd <+: plan target credential bytes := by
  rcases script_cases target credential bytes with
    script | ⟨m, -, other, front, script⟩ | ⟨c, rfl, front, script⟩ | ⟨c, rfl, front, script⟩
  · rw [script]
    exact ⟨_, rfl⟩
  · rw [script, plan, loginAsked_of_ne other front]
    exact ⟨[], rfl⟩
  · rw [script, plan, loginAsked_of_selected c front]
    exact ⟨[requestBytes target], rfl⟩
  · rw [script, plan, loginAsked_of_selected c front]
    exact ⟨[], rfl⟩

/-- An accepted handshake goes through the whole plan. -/
theorem map_snd_script_of_good {target : Target} {credential : Option Credential}
    {bound : BoundAddress} {bytes rest : Bytes} (h : read credential bytes = .good bound rest) :
    (script target credential bytes).map Prod.snd = plan target credential bytes := by
  obtain ⟨m, rest₁, chosen, h⟩ := Verdict.eq_good_of_bind h
  obtain ⟨_, rest₂, accepted, -⟩ := Verdict.eq_good_of_bind h
  obtain ⟨rfl, -, offered⟩ := eq_of_method_eq_good chosen
  have front : [5, m] <+: 5 :: m :: rest₁ := ⟨rest₁, rfl⟩
  rw [script, plan, chosen]
  cases credential with
  | none => rfl
  | some c =>
      by_cases selected : m = 2
      · subst selected
        rw [loginIfSelected, if_pos rfl] at accepted
        rw [loginAsked_of_selected c front]
        dsimp only
        rw [scriptAfter, if_pos rfl, accepted]
        rfl
      · rw [loginAsked_of_ne selected front]
        dsimp only
        rw [scriptAfter, if_neg selected]
        rfl

/-- Where no send fails, the handshake ends as the grammar says of what comes in. -/
theorem outcome_run (target : Target) (credential : Option Credential) {s : Socket}
    (free : s.SendsFreely) :
    ((connect target credential).run s).outcome =
      (read credential s.inflow.bytes).outcome s.inflow.ending := by
  obtain ⟨rest, reads, outcome, -, -⟩ := (connect target credential).run_of_free free
  rw [verdict_connect] at outcome
  exact outcome

/-- An accepted handshake on a socket where no send fails: the answers are a front part of what
came in, the rest is left, and the plan has been sent. -/
theorem run_of_accepted {target : Target} {credential : Option Credential} {s : Socket}
    (free : s.SendsFreely) {bound : BoundAddress}
    (accepted : ((connect target credential).run s).outcome = .ok bound) :
    ∃ replies payload rest reads attempts,
      s.inflow.bytes = replies ++ payload ∧ read credential replies = .good bound [] ∧
      Inflow.of rest = { s.inflow with bytes := payload } ∧ s.attempts ≤ attempts ∧
      ((connect target credential).run s).socket = { s with
        arrivals := rest
        reads := reads
        sent := s.sent ++ plan target credential s.inflow.bytes
        attempts := attempts } := by
  obtain ⟨rest, reads, outcome, socket, left⟩ := (connect target credential).run_of_free free
  obtain ⟨payload, good⟩ := Verdict.eq_good_of_outcome (outcome.symm.trans accepted)
  obtain ⟨replies, split, stable⟩ := verdict_append good
  have answers := stable []
  rw [List.append_nil, verdict_connect] at answers
  have accepts := good
  rw [verdict_connect] at accepts
  rw [frames, cues_connect, map_snd_script_of_good accepts] at socket
  exact ⟨replies, payload, rest, reads, _, split, answers, left bound payload good,
    Nat.le_add_right _ _, socket⟩

/-- No two frames of a plan are the same. -/
theorem nodup_plan (target : Target) (credential : Option Credential) (bytes : Bytes) :
    (plan target credential bytes).Nodup := by
  have offer : offerBytes (offeredMethods credential) ≠ requestBytes target := by
    unfold offerBytes requestBytes Target.encode Address.encode
    cases credential <;> cases target.address <;> simp [offeredMethods]
  -- A login begins with its own version, not with that of the protocol.
  have version : (5 : UInt8) ≠ 1 := by decide
  have login (c : Credential) : offerBytes (offeredMethods credential) ≠ loginBytes c :=
    fun same => version (List.cons.inj same).1
  have request (c : Credential) : loginBytes c ≠ requestBytes target :=
    fun same => version (List.cons.inj same).1.symm
  unfold plan loginAsked
  split
  · split
    · simp [offer, login, request]
    · simp [offer]
  · simp [offer]

end Replies

end SocksTunnel.Socks
