import SocksTunnel.Proofs.Socks.Connect

/-!
Dialogues that differ in the wording of their frames only.

What a dialogue hears, notes and finds does not depend on the wording of what it says, as long as
sends fail by their number and not by their bytes. So a handshake with another password is the
same handshake, reworded in the one frame that shows the password.

* `Dialogue.run_reword` — a dialogue with other frames ends in the same way, with the same notes;
  of the socket only the chunks sent differ, each in the place of the one it stands for.
* `connect_reword` — the handshakes of two credentials with one user name are rewordings of each
  other.
* `connect_conceals` — a socket shows in the login only which of the two was held on it.
-/

namespace SocksTunnel

open SocksTunnel.Text

namespace Socket

/-- A socket on which other chunks have been sent. -/
def resent (chunks : List Bytes) (s : Socket) : Socket := { s with sent := chunks }

@[simp] theorem sent_resent (chunks : List Bytes) (s : Socket) :
    (s.resent chunks).sent = chunks := rfl

@[simp] theorem resent_resent (chunks chunks' : List Bytes) (s : Socket) :
    (s.resent chunks').resent chunks = s.resent chunks := rfl

theorem resent_sent (s : Socket) : s.resent s.sent = s := rfl

theorem recv_resent (size : Nat) (chunks : List Bytes) (s : Socket) :
    (s.resent chunks).recv size = ((s.recv size).1, (s.recv size).2.resent chunks) := rfl

/-- Whether a send fails is decided by the number of sends before it. -/
theorem send_resent (frame frame' : Bytes) (chunks : List Bytes) (s : Socket) :
    (s.resent chunks).send frame' = ((s.send frame).1, (s.send frame).2.resent
      (if (s.send frame).1 = none then chunks ++ [frame'] else chunks)) := by
  have next : (s.resent chunks).nextSendFault = s.nextSendFault := rfl
  unfold send
  rw [next]
  cases s.nextSendFault with
  | none => rfl
  | some cause => rfl

end Socket

namespace Socks

theorem readOn_resent (size : Nat) (got : Bytes) (chunks : List Bytes) (s : Socket) :
    readOn size got (s.resent chunks) =
      ((readOn size got s).1, (readOn size got s).2.resent chunks) := by
  fun_induction readOn size got s with
  | case1 got s missing cause s' found =>
      rw [readOn, if_pos missing, Socket.recv_resent, found]
  | case2 got s missing s' found =>
      rw [readOn, if_pos missing, Socket.recv_resent, found]
  | case3 got s missing b more s' found ih =>
      rw [readOn, if_pos missing, Socket.recv_resent, found]
      exact ih
  | case4 got s full =>
      rw [readOn, if_neg full]

theorem readFrame_resent (size : Nat) (chunks : List Bytes) (s : Socket) :
    readFrame size (s.resent chunks) =
      ((readFrame size s).1, (readFrame size s).2.resent chunks) := readOn_resent size [] chunks s

namespace Dialogue

variable {α β : Type}

/-- A dialogue with each frame put in other words. -/
def reword (f : Bytes → Bytes) : Dialogue α → Dialogue α
  | done result => done result
  | fail error => fail error
  | send frame next => send (f frame) (next.reword f)
  | read size next => read size fun bytes => (next bytes).reword f
  | note message next => note message (next.reword f)

theorem reword_bind (f : Bytes → Bytes) (d : Dialogue α) (g : α → Dialogue β) :
    (d.bind g).reword f = (d.reword f).bind fun result => (g result).reword f := by
  induction d with
  | done result => rfl
  | fail error => rfl
  | send frame next ih => exact congrArg (send (f frame)) ih
  | read size next ih => exact congrArg (read size) (funext ih)
  | note message next ih => exact congrArg (note message) ih

/-- A dialogue that says nothing cannot be put in other words. -/
theorem Silent.reword {d : Dialogue α} (silent : d.Silent) (f : Bytes → Bytes) :
    d.reword f = d := by
  induction d with
  | done result => rfl
  | fail error => rfl
  | send frame next ih => exact silent.elim
  | read size next ih => exact congrArg (read size) (funext fun bytes => ih bytes (silent bytes))
  | note message next ih => exact congrArg (note message) (ih silent)

/-- A reworded dialogue, on a socket on which other chunks have been sent before, does all that the
dialogue itself does, with other words. -/
theorem run_reword (f : Bytes → Bytes) (d : Dialogue α) (chunks : List Bytes) (s : Socket) :
    ∃ said, (d.run s).socket.sent = s.sent ++ said ∧
      (d.reword f).run (s.resent chunks) = { d.run s with
        socket := (d.run s).socket.resent (chunks ++ said.map f) } := by
  induction d generalizing chunks s with
  | done result => exact ⟨[], by simp [run], by simp [run, reword]⟩
  | fail error => exact ⟨[], by simp [run], by simp [run, reword]⟩
  | send frame next ih =>
      have same := Socket.send_resent frame (f frame) chunks s
      cases sent : s.send frame with
      | mk fault t =>
          rw [sent] at same
          have grown : t.sent = s.sent ++ (if fault = none then [frame] else []) := by
            unfold Socket.send at sent
            split at sent
            · cases sent
              simp
            · cases sent
              simp
          cases fault with
          | some cause =>
              refine ⟨[], ?_, ?_⟩
              · rw [run_send_of_some sent]
                exact grown
              · rw [reword, run_send_of_some same, run_send_of_some sent]
                simp
          | none =>
              obtain ⟨said, sent', ran⟩ := ih (chunks ++ [f frame]) t
              refine ⟨frame :: said, ?_, ?_⟩
              · rw [run_send_of_none sent, sent', grown]
                simp
              · rw [reword, run_send_of_none same, run_send_of_none sent]
                refine ran.trans ?_
                simp
  | read size next ih =>
      have same := readFrame_resent size chunks s
      cases found : readFrame size s with
      | mk outcome t =>
          rw [found] at same
          have kept : t.sent = s.sent := by
            obtain ⟨rest, reads, found', -⟩ := readFrame_eq size s
            rw [found'] at found
            cases found
            rfl
          cases outcome with
          | error breakdown =>
              refine ⟨[], ?_, ?_⟩
              · rw [run_read_of_error found, kept, List.append_nil]
              · rw [reword, run_read_of_error same, run_read_of_error found]
                simp
          | ok bytes =>
              obtain ⟨said, sent, ran⟩ := ih bytes chunks t
              refine ⟨said, ?_, ?_⟩
              · rw [run_read_of_ok found, sent, kept]
              · rw [reword, run_read_of_ok same, run_read_of_ok found]
                exact ran
  | note message next ih =>
      obtain ⟨said, sent, ran⟩ := ih chunks s
      refine ⟨said, sent, ?_⟩
      rw [reword, run, ran]
      rfl

end Dialogue

/-! ### Handshakes with another password -/

section Handshakes

open Dialogue

variable {c c' : Credential}

/-- Put the login of another credential in the place of a login. -/
def relogin (c c' : Credential) (frame : Bytes) : Bytes :=
  if frame = Replies.loginBytes c then Replies.loginBytes c' else frame

theorem relogin_of_ne {frame : Bytes} (other : frame ≠ Replies.loginBytes c) :
    relogin c c' frame = frame := if_neg other

theorem map_relogin_of_notMem {said : List Bytes} (absent : Replies.loginBytes c ∉ said) :
    said.map (relogin c c') = said := by
  refine (List.map_congr_left ?_).trans (List.map_id said)
  intro frame there
  exact relogin_of_ne fun same => absent (same ▸ there)

theorem Replies.Asks.reword {α : Type} {frame : Bytes} {d : Dialogue α}
    (asks : Replies.Asks frame d) {f : Bytes → Bytes} (kept : f frame = frame) :
    d.reword f = d := by
  obtain ⟨next, rfl, -, silent⟩ := asks
  rw [Dialogue.reword, kept, silent.reword]

theorem login_reword (same : c'.username = c.username) :
    (login c).reword (relogin c c') = login c' := by
  -- Behind its frame a login uses the user name alone.
  have shape (c : Credential) : login c = send (Replies.loginBytes c) (hearPair.bind fun answer =>
      if answer.1 ≠ loginVersion then fail (.loginVersion answer.1)
      else if answer.2 ≠ loginAccepted then fail (.rejected c.username)
      else done ()) := rfl
  rw [shape, shape, Dialogue.reword, relogin, if_pos rfl, same, Silent.reword]
  exact Replies.silent_hearPair.bind fun answer =>
    Replies.silent_ite trivial (Replies.silent_ite trivial trivial)

theorem offerBytes_ne_loginBytes (methods : List UInt8) (c : Credential) :
    Replies.offerBytes methods ≠ Replies.loginBytes c :=
  fun same => absurd (List.cons.inj same).1 (by decide)

theorem requestBytes_ne_loginBytes (target : Target) (c : Credential) :
    Replies.requestBytes target ≠ Replies.loginBytes c :=
  fun same => absurd (List.cons.inj same).1 (by decide)

/-- The handshake with another password is the handshake with the other login in it. -/
theorem connect_reword (target : Target) (same : c'.username = c.username) :
    (connect target (some c)).reword (relogin c c') = connect target (some c') := by
  rw [Replies.connect_eq, Replies.connect_eq, reword_bind]
  have offer : (negotiate (some c)).reword (relogin c c') = negotiate (some c') :=
    (Replies.asks_negotiate (some c)).reword (relogin_of_ne (offerBytes_ne_loginBytes _ c))
  have end' : (Replies.conclusion target).reword (relogin c c') = Replies.conclusion target :=
    (Replies.asks_conclusion target).reword
      (relogin_of_ne (requestBytes_ne_loginBytes target c))
  rw [offer]
  congr 1
  funext m
  rw [Dialogue.reword, reword_bind, end']
  simp only [Replies.loginIfSelectedBy]
  split
  · rw [login_reword same]
  · rfl

/-- Chunks sent in two handshakes with a proxy that answers `bytes`: the same ones, or, if the proxy
has selected the method for it, with the login of the one credential in the place of that of the
other, right after the offer of methods. -/
inductive Relogged (c c' : Credential) (bytes : Bytes) : List Bytes → List Bytes → Prop where
  | same {chunks : List Bytes} : Relogged c c' bytes chunks chunks
  | login {after : List Bytes} (selected : [5, 2] <+: bytes) :
      Relogged c c' bytes
        (Replies.offerBytes (offeredMethods (some c)) :: Replies.loginBytes c :: after)
        (Replies.offerBytes (offeredMethods (some c)) :: Replies.loginBytes c' :: after)

theorem Relogged.append {bytes : Bytes} {chunks chunks' : List Bytes}
    (relogged : Relogged c c' bytes chunks chunks') (more : List Bytes) :
    Relogged c c' bytes (chunks ++ more) (chunks' ++ more) := by
  cases relogged with
  | same => exact .same
  | login selected => exact .login selected

/-- Of the plan of a handshake only the login is put in other words. -/
theorem relogged_of_plan {target : Target} {bytes : Bytes} {said : List Bytes}
    (planned : said <+: Replies.plan target (some c) bytes) :
    Relogged c c' bytes said (said.map (relogin c c')) := by
  have offer := offerBytes_ne_loginBytes (offeredMethods (some c)) c
  have request := requestBytes_ne_loginBytes target c
  by_cases selected : [5, 2] <+: bytes
  · rw [Replies.plan, Replies.loginAsked_of_selected c selected] at planned
    rcases said with _ | ⟨first, _ | ⟨second, after⟩⟩
    · exact .same
    · obtain ⟨rfl, -⟩ := List.cons_prefix_cons.mp planned
      rw [List.map_singleton, relogin_of_ne offer]
      exact .same
    · obtain ⟨rfl, rest⟩ := List.cons_prefix_cons.mp planned
      obtain ⟨rfl, last⟩ := List.cons_prefix_cons.mp rest
      have absent : Replies.loginBytes c ∉ after := by
        intro again
        exact request (List.mem_singleton.mp (last.subset again)).symm
      rw [List.map_cons, List.map_cons, relogin_of_ne offer, map_relogin_of_notMem absent,
        relogin, if_pos rfl]
      exact .login selected
  · have absent : Replies.loginBytes c ∉ said := by
      intro asked
      have due := planned.subset asked
      rw [Replies.plan, Replies.loginAsked, if_neg selected] at due
      rcases List.mem_cons.mp due with first | last
      · exact offer first.symm
      · exact request (List.mem_singleton.mp last).symm
    rw [map_relogin_of_notMem absent]
    exact .same

/-- Handshakes on one socket with two passwords for one user name have one outcome and one set of
notes. Of the socket only the chunks sent differ, and of these only the login. -/
theorem connect_conceals (target : Target) (same : c'.username = c.username) (s : Socket) :
    ∃ said said', Relogged c c' s.inflow.bytes said said' ∧
      ((connect target (some c)).run s).socket.sent = s.sent ++ said ∧
      (connect target (some c')).run s = { (connect target (some c)).run s with
        socket := ((connect target (some c)).run s).socket.resent (s.sent ++ said') } := by
  obtain ⟨said, sent, ran⟩ :=
    (connect target (some c)).run_reword (relogin c c') s.sent s
  obtain ⟨chunks, sent', planned⟩ := Replies.sent_connect target (some c) s
  have listed : said = chunks := List.append_cancel_left (sent.symm.trans sent')
  rw [connect_reword target same, Socket.resent_sent] at ran
  exact ⟨said, _, relogged_of_plan (listed ▸ planned), sent, ran⟩

end Handshakes

end Socks

end SocksTunnel
