import SocksTunnel.Proofs.Socks.Acts
import SocksTunnel.Proofs.Socks.Script

/-!
The handshake on a socket: what it makes of the answers of the proxy, what it leaves unread, and
what it says.

* `connect_follows_grammar` — it ends as the grammar of the answers says.
* `connect_blind_to_cuts` — it does not see how the answers were cut into pieces, never asks for
  more than the rest of a frame, and leaves everything that comes after the answers.
* `connect_says_what_is_due` — it sends each frame once, only when it is due, and stops at the
  first error.
-/

namespace SocksTunnel

open SocksTunnel.Text

/-- The local host, as a target. -/
def Target.loopback (port : UInt16) : Target :=
  ⟨"127.0.0.1", port, .ipv4 ⟨127, 0, 0, 1⟩, rfl⟩

namespace Socks

/-! ### What it makes of the answers -/

/-- Where no send fails, the handshake ends as the grammar of the answers says of all the bytes
that come in. The grammar states the kind of each error, and a frame that is cut short breaks the
protocol unless a fault cut it, which then comes out as it is. -/
theorem connect_follows_grammar (target : Target) (credential : Option Credential) {s : Socket}
    (free : s.SendsFreely) :
    ((connect target credential).run s).outcome =
        (Replies.read credential s.inflow.bytes).outcome s.inflow.ending ∧
      (∀ kind error, Replies.read credential s.inflow.bytes = .bad kind error →
        Failure.handshakeKind error = kind) ∧
      ∀ got size, Failure.handshakeKind (.truncated got size) = .protocolViolation := by
  refine ⟨Replies.outcome_run target credential free, fun kind error bad => ?_, fun got size => rfl⟩
  rw [← Replies.verdict_connect target] at bad
  exact Dialogue.handshakeKind_of_bad bad

/-- A proxy, heard in three pieces, that has bound a port of the local host. -/
theorem connect_follows_grammar_loopback :
    ((connect (.loopback 80) none).run (.fresh
        [.data [5, 0, 5], .data [0, 0, 1, 127, 0], .data [0, 1, 31, 144, 7]] [] none)).outcome =
      .ok ⟨"127.0.0.1", 8080⟩ := by
  have host : ipv4Host [127, 0, 0, 1] = "127.0.0.1" := by decide +kernel
  rw [← host]
  exact (connect_follows_grammar (.loopback 80) none (fun _ _ => rfl)).1

/-! ### What it reads -/

/-- The handshake does not see how the answers were cut: two sockets with the same inflow give the
same outcome, the same chunks sent and the same notes, and are left with the same inflow. Each read
asks for just the rest of a frame, which the bytes heard so far call for, and it is at least one
byte. So an accepted handshake has taken its answers off the front of the inflow, field by field,
and leaves all that is behind them. -/
theorem connect_blind_to_cuts (target : Target) (credential : Option Credential) {s t : Socket}
    (alike : s.Alike t) :
    (((connect target credential).run t).outcome = ((connect target credential).run s).outcome ∧
      ((connect target credential).run t).socket.sent =
        ((connect target credential).run s).socket.sent ∧
      ((connect target credential).run t).notes = ((connect target credential).run s).notes ∧
      ((connect target credential).run t).socket.inflow =
        ((connect target credential).run s).socket.inflow) ∧
    (Acted s ((connect target credential).acts s) ((connect target credential).run s).socket ∧
      ∀ before size found after,
        (connect target credential).acts s = before ++ .recv size found :: after →
          ∃ got whole, Replies.read credential (received before) = .waiting got whole ∧
            1 ≤ size ∧ got + size = whole) ∧
    ∀ bound, ((connect target credential).run s).outcome = .ok bound →
      ∃ m kind high low part, m ∈ offeredMethods credential ∧ Replies.IsHost kind part ∧
        s.inflow = ((connect target credential).run s).socket.inflow.prepend
          ([5, m] ++ (if m = 2 then [1, 0] else []) ++ [5, 0, 0, kind] ++ part ++ [high, low]) ∧
        ((connect target credential).run s).socket.inflow.bytes =
          s.inflow.bytes.drop (2 + (if m = 2 then 2 else 0) + 4 + part.length + 2) := by
  refine ⟨?_, ⟨Dialogue.acted_acts _ s, ?_⟩, ?_⟩
  · obtain ⟨outcome, notes, after⟩ := (connect target credential).run_alike alike
    exact ⟨outcome, after.sent, notes, after.inflow⟩
  · intro before size found after cut
    obtain ⟨got, whole, waiting, missing, rest, -⟩ :=
      Dialogue.fits_acts (Replies.prompt_connect target credential) cut
    rw [Replies.verdict_connect] at waiting
    exact ⟨got, whole, waiting, by omega, by omega⟩
  · intro bound ok
    obtain ⟨good, left⟩ := Dialogue.verdict_of_ok ok
    rw [Replies.verdict_connect] at good
    obtain ⟨m, kind, high, low, part, offered, isHost, heard⟩ := Replies.eq_of_read_eq_good good
    rw [List.append_nil] at heard
    have length : (received ((connect target credential).acts s)).length =
        2 + (if m = 2 then 2 else 0) + 4 + part.length + 2 := by
      rw [heard]
      split
      · simp
        omega
      · simp
        omega
    refine ⟨m, kind, high, low, part, offered, isHost, by rw [← heard]; exact left, ?_⟩
    rw [← length, left, Inflow.bytes_prepend, List.drop_left]

/-- The same answers in one piece and in three, with a byte of the payload behind them. -/
theorem connect_blind_to_cuts_in_three :
    ((connect (.loopback 80) none).run (.fresh
        [.data [5, 0, 5], .data [0, 0, 3], .data [0, 1, 187, 7]] [] none)).socket.inflow =
      ((connect (.loopback 80) none).run (.fresh
        [.data [5, 0, 5, 0, 0, 3, 0, 1, 187, 7]] [] none)).socket.inflow :=
  (connect_blind_to_cuts (.loopback 80) none (Socket.alike_of_chunks (.fresh [] [] none)
    [[5, 0, 5, 0, 0, 3, 0, 1, 187, 7]] [[5, 0, 5], [0, 0, 3], [0, 1, 187, 7]]
    (by decide) (by decide) rfl [])).1.2.2.2

/-! ### What it says -/

/-- The chunks that a handshake has sent are the first frames of its plan. -/
theorem Replies.sent_connect (target : Target) (credential : Option Credential) (s : Socket) :
    ∃ chunks, ((connect target credential).run s).socket.sent = s.sent ++ chunks ∧
      chunks <+: Replies.plan target credential s.inflow.bytes := by
  obtain ⟨chunks, sent, first⟩ := (connect target credential).sent_run s
  rw [Dialogue.frames, Replies.cues_connect] at first
  exact ⟨chunks, sent, first.trans (Replies.map_snd_script target credential s.inflow.bytes)⟩

/-- Whatever comes in and whatever fails: the chunks sent are the first frames of the plan, no two
of them the same. Each frame goes out only when it is due. Each send and each read takes place only
while the answers heard so far are good and not complete, and one that fails is the last one and
decides the outcome; so do answers that are bad. -/
theorem connect_says_what_is_due (target : Target) (credential : Option Credential) (s : Socket) :
    Acted s ((connect target credential).acts s) ((connect target credential).run s).socket ∧
    (∃ chunks, ((connect target credential).run s).socket.sent = s.sent ++ chunks ∧
      chunks <+: Replies.plan target credential s.inflow.bytes ∧ chunks.Nodup) ∧
    (∀ before frame fault after,
      (connect target credential).acts s = before ++ .send frame fault :: after →
        Replies.Due target credential (said before) (received before) frame) ∧
    (∀ before act after, (connect target credential).acts s = before ++ act :: after →
      act.Fits (Replies.read credential (received before))
        ((connect target credential).run s).outcome after) ∧
    ∀ kind error,
      Replies.read credential (received ((connect target credential).acts s)) = .bad kind error →
        ((connect target credential).run s).outcome = .error (.error error) := by
  have prompt := Replies.prompt_connect target credential
  refine ⟨Dialogue.acted_acts _ s, ?_, ?_, ?_, ?_⟩
  · obtain ⟨chunks, sent, first⟩ := (connect target credential).sent_run s
    rw [Dialogue.frames, Replies.cues_connect] at first
    have planned := first.trans (Replies.map_snd_script target credential s.inflow.bytes)
    exact ⟨chunks, sent, planned, planned.sublist.nodup (Replies.nodup_plan target credential _)⟩
  · intro before frame fault after cut
    have cues := (connect target credential).cuesIn_acts s []
    rw [Replies.cues_connect, cut, cuesIn_append, List.nil_append] at cues
    obtain ⟨more, script⟩ := cues
    rw [cuesIn, List.append_assoc, List.cons_append] at script
    exact Replies.due_of_script script.symm
  · intro before act after cut
    have fits := Dialogue.fits_acts prompt cut
    rw [Replies.verdict_connect] at fits
    exact fits
  · intro kind error bad
    rw [← Replies.verdict_connect target] at bad
    exact Dialogue.outcome_of_bad prompt bad

end Socks

end SocksTunnel
