import SocksTunnel.Socket

/-!
What comes in on a socket, as one stream of bytes, and what goes out when no send fails.

A read never joins two arrivals, so each read shows how the bytes were cut. The inflow of a socket
does not: it is the bytes that come in before the stream ends, how it ends, and what comes in
after that. An empty piece of data reads like the end of the stream and counts as one.

* `Inflow.of_chunks` — bytes flow in as one string, however they are cut into pieces.
* `Socket.recv_cases` — a read takes a first part of the inflow, at most as much as it asked for;
  where no byte is left it finds how the stream ends.
* `Socket.send_of_free` — where no send fails, a send adds its bytes as one chunk.
* `Socket.Used` — a socket after calls that leave it open is still the socket that it was.
* `Socket.Orderly` — sockets that report faults of the system only stay so, whatever is done.
* `Socket.Alike` — sockets that differ only in how their bytes were cut and in what was asked for
  answer a send in the same way; `Socket.alike_of_chunks` is the case of two cuts.
-/

namespace SocksTunnel

open SocksTunnel.Text

/-- What comes in on a socket: the bytes before the stream ends, the fault that ends it if it does
not just end, and everything after that. -/
structure Inflow where
  bytes : Bytes
  ending : Option Fault
  later : List Arrival
  deriving DecidableEq

namespace Inflow

/-- An inflow with bytes in front of it. -/
def prepend (front : Bytes) (f : Inflow) : Inflow := { f with bytes := front ++ f.bytes }

@[simp] theorem bytes_prepend (front : Bytes) (f : Inflow) :
    (f.prepend front).bytes = front ++ f.bytes := rfl

@[simp] theorem ending_prepend (front : Bytes) (f : Inflow) :
    (f.prepend front).ending = f.ending := rfl

@[simp] theorem later_prepend (front : Bytes) (f : Inflow) :
    (f.prepend front).later = f.later := rfl

@[simp] theorem prepend_nil (f : Inflow) : f.prepend [] = f := rfl

@[simp] theorem prepend_prepend (front front' : Bytes) (f : Inflow) :
    (f.prepend front').prepend front = f.prepend (front ++ front') := by
  simp [prepend]

/-- The inflow of arrivals. -/
def of : List Arrival → Inflow
  | [] => ⟨[], none, []⟩
  | .endOfStream :: rest => ⟨[], none, rest⟩
  | .fault cause :: rest => ⟨[], some cause, rest⟩
  | .data [] :: rest => ⟨[], none, rest⟩
  | .data (b :: more) :: rest => (of rest).prepend (b :: more)

theorem of_data {bytes : Bytes} (nonempty : bytes ≠ []) (rest : List Arrival) :
    of (.data bytes :: rest) = (of rest).prepend bytes := by
  cases bytes with
  | nil => exact absurd rfl nonempty
  | cons b more => rfl

/-- Without a fault among the arrivals nothing else ends the inflow. -/
theorem ending_of {arrivals : List Arrival} (flows : ∀ cause, Arrival.fault cause ∉ arrivals) :
    (of arrivals).ending = none := by
  induction arrivals with
  | nil => rfl
  | cons first rest ih =>
      have later := ih fun cause member => flows cause (List.mem_cons_of_mem _ member)
      match first with
      | .endOfStream => rfl
      | .fault cause => exact absurd List.mem_cons_self (flows cause)
      | .data [] => rfl
      | .data (b :: more) => exact later

/-- Bytes that are cut into nonempty pieces flow in as one string in front of what follows. -/
theorem of_chunks {chunks : List Bytes} (nonempty : ∀ chunk ∈ chunks, chunk ≠ [])
    (rest : List Arrival) :
    of (chunks.map Arrival.data ++ rest) = (of rest).prepend chunks.flatten := by
  induction chunks with
  | nil => rfl
  | cons chunk chunks ih =>
      obtain ⟨head, tail⟩ := List.forall_mem_cons.mp nonempty
      rw [List.map_cons, List.cons_append, of_data head, ih tail, prepend_prepend,
        List.flatten_cons]

/-- A cut does not show: two ways to cut the same bytes in front of the same rest give the same
inflow. -/
theorem of_chunks_congr {chunks chunks' : List Bytes} (nonempty : ∀ chunk ∈ chunks, chunk ≠ [])
    (nonempty' : ∀ chunk ∈ chunks', chunk ≠ []) (same : chunks.flatten = chunks'.flatten)
    (rest : List Arrival) :
    of (chunks.map Arrival.data ++ rest) = of (chunks'.map Arrival.data ++ rest) := by
  rw [of_chunks nonempty, of_chunks nonempty', same]

end Inflow

namespace Socket

/-- What comes in on a socket. -/
def inflow (s : Socket) : Inflow := Inflow.of s.arrivals

/-- What a read of at least one byte finds: a first part of the bytes of the inflow, or else the
end of the stream, or else the fault that ends it. -/
theorem arrive_cases {size : Nat} (positive : 0 < size) (arrivals : List Arrival) :
    (∃ b more rest, arrive size arrivals = (.ok (b :: more), rest) ∧ more.length < size ∧
      Inflow.of arrivals = (Inflow.of rest).prepend (b :: more)) ∨
    (∃ rest, arrive size arrivals = (.ok [], rest) ∧ Inflow.of arrivals = ⟨[], none, rest⟩) ∨
    (∃ cause rest, arrive size arrivals = (.error cause, rest) ∧
      Inflow.of arrivals = ⟨[], some cause, rest⟩) := by
  match arrivals with
  | [] => exact .inr (.inl ⟨[], rfl, rfl⟩)
  | .endOfStream :: rest => exact .inr (.inl ⟨rest, rfl, rfl⟩)
  | .fault cause :: rest => exact .inr (.inr ⟨cause, rest, rfl, rfl⟩)
  | .data [] :: rest => exact .inr (.inl ⟨rest, by simp [arrive], rfl⟩)
  | .data (b :: more) :: rest =>
      obtain ⟨n, rfl⟩ : ∃ n, size = n + 1 := ⟨size - 1, by omega⟩
      refine .inl ⟨b, more.take n, _, rfl, by rw [List.length_take]; omega, ?_⟩
      -- What a read leaves of a piece goes in front of the rest, unless nothing is left.
      have whole : b :: more = (b :: more.take n) ++ more.drop n := by simp
      simp only [List.drop_succ_cons]
      cases left : more.drop n with
      | nil =>
          rw [left, List.append_nil] at whole
          simp [Inflow.of, ← whole]
      | cons c others =>
          rw [left] at whole
          simp only [List.isEmpty_cons, Bool.false_eq_true, if_false]
          rw [Inflow.of_data (by simp), Inflow.of_data (by simp), Inflow.prepend_prepend, whole]

/-- What a read on a socket finds, with the socket after it. -/
theorem recv_cases {size : Nat} (positive : 0 < size) (s : Socket) :
    (∃ b more rest, s.recv size = (.ok (b :: more),
        { s with arrivals := rest, reads := s.reads ++ [size] }) ∧ more.length < size ∧
      s.inflow = (Inflow.of rest).prepend (b :: more)) ∨
    (∃ rest, s.recv size = (.ok [],
        { s with arrivals := rest, reads := s.reads ++ [size] }) ∧
      s.inflow = ⟨[], none, rest⟩) ∨
    (∃ cause rest, s.recv size = (.error cause,
        { s with arrivals := rest, reads := s.reads ++ [size] }) ∧
      s.inflow = ⟨[], some cause, rest⟩) := by
  rcases arrive_cases positive s.arrivals with
    ⟨b, more, rest, found, short, flow⟩ | ⟨rest, found, flow⟩ | ⟨cause, rest, found, flow⟩
  · exact .inl ⟨b, more, rest, by rw [recv, found], short, flow⟩
  · exact .inr (.inl ⟨rest, by rw [recv, found], flow⟩)
  · exact .inr (.inr ⟨cause, rest, by rw [recv, found], flow⟩)

/-- The inflow before a read, by what the read finds. -/
theorem inflow_of_recv {size : Nat} (positive : 0 < size) {s t : Socket}
    {found : Except Fault Bytes} (read : s.recv size = (found, t)) :
    s.inflow = match found with
      | .ok [] => ⟨[], none, t.arrivals⟩
      | .ok (b :: more) => t.inflow.prepend (b :: more)
      | .error cause => ⟨[], some cause, t.arrivals⟩ := by
  rcases s.recv_cases positive with
    ⟨b, more, rest, found, -, flow⟩ | ⟨rest, found, flow⟩ | ⟨cause, rest, found, flow⟩
  all_goals
    rw [found] at read
    cases read
    exact flow

/-! ### Sends -/

/-- No send that is still to come fails. -/
def SendsFreely (s : Socket) : Prop := ∀ n, s.attempts ≤ n → s.sendFaults.lookup n = none

theorem send_of_free {s : Socket} (free : s.SendsFreely) (bytes : Bytes) :
    s.send bytes = (none, { s with attempts := s.attempts + 1, sent := s.sent ++ [bytes] }) := by
  rw [send, nextSendFault, free s.attempts (Nat.le_refl _)]

theorem SendsFreely.later {s t : Socket} (free : s.SendsFreely)
    (faults : t.sendFaults = s.sendFaults) (attempts : s.attempts ≤ t.attempts) :
    t.SendsFreely := by
  intro n reached
  rw [faults]
  exact free n (Nat.le_trans attempts reached)

/-- Nothing fails on a socket before its stream ends. -/
structure Faultless (s : Socket) : Prop where
  ending : s.inflow.ending = none
  sends : s.SendsFreely
  closes : s.closeFault = none

/-! ### Calls -/

/-- A call on a socket. -/
inductive Call where
  | recv (size : Nat)
  | send (bytes : Bytes)
  | halfClose
  | close
  deriving DecidableEq, Repr

/-- A socket after a call. -/
def call (s : Socket) : Call → Socket
  | .recv size => (s.recv size).2
  | .send bytes => (s.send bytes).2
  | .halfClose => s.halfClose.2
  | .close => s.close

/-- A socket after calls, the first one first. -/
def calls (s : Socket) (cs : List Call) : Socket := cs.foldl call s

theorem calls_append (s : Socket) (cs cs' : List Call) :
    s.calls (cs ++ cs') = (s.calls cs).calls cs' := List.foldl_append

/-- The one socket is the other one after calls that leave it open. -/
def Used (s t : Socket) : Prop := ∃ cs, Call.close ∉ cs ∧ t = s.calls cs

namespace Used

theorem refl (s : Socket) : s.Used s := ⟨[], List.not_mem_nil, rfl⟩

theorem trans {s t u : Socket} (first : s.Used t) (second : t.Used u) : s.Used u := by
  obtain ⟨cs, leftOpen, rfl⟩ := first
  obtain ⟨cs', leftOpen', rfl⟩ := second
  refine ⟨cs ++ cs', ?_, (calls_append s cs cs').symm⟩
  simp [leftOpen, leftOpen']

theorem recv (size : Nat) (s : Socket) : s.Used (s.recv size).2 := ⟨[.recv size], by simp, rfl⟩

theorem send (bytes : Bytes) (s : Socket) : s.Used (s.send bytes).2 :=
  ⟨[.send bytes], by simp, rfl⟩

theorem halfClose (s : Socket) : s.Used s.halfClose.2 := ⟨[.halfClose], by simp, rfl⟩

/-- Calls add to what has been sent. -/
theorem sent {s t : Socket} (used : s.Used t) : ∃ chunks, t.sent = s.sent ++ chunks := by
  obtain ⟨cs, -, rfl⟩ := used
  induction cs generalizing s with
  | nil => exact ⟨[], (List.append_nil _).symm⟩
  | cons c cs ih =>
      have first : ∃ chunks, (s.call c).sent = s.sent ++ chunks := by
        cases c with
        | send bytes =>
            rw [call, Socket.send]
            split
            · exact ⟨[], (List.append_nil _).symm⟩
            · exact ⟨[bytes], rfl⟩
        | _ => exact ⟨[], (List.append_nil _).symm⟩
      obtain ⟨chunks, here⟩ := first
      obtain ⟨chunks', later⟩ := ih (s := s.call c)
      refine ⟨chunks ++ chunks', later.trans ?_⟩
      rw [here, List.append_assoc]

/-- No call changes how a half close fails. -/
theorem closeFault {s t : Socket} (used : s.Used t) : t.closeFault = s.closeFault := by
  obtain ⟨cs, -, rfl⟩ := used
  induction cs generalizing s with
  | nil => rfl
  | cons c cs ih =>
      refine (ih (s := s.call c)).trans ?_
      cases c with
      | send bytes =>
          rw [call, Socket.send]
          split <;> rfl
      | _ => rfl

end Used

/-! ### Faults of the system -/

/-- All faults that a socket can still report are faults of the system. -/
structure Orderly (s : Socket) : Prop where
  arrivals : ∀ cause, Arrival.fault cause ∈ s.arrivals → cause.isSystem = true
  sends : ∀ n cause, s.sendFaults.lookup n = some cause → cause.isSystem = true
  closes : ∀ cause, s.closeFault = some cause → cause.isSystem = true

theorem orderly_fresh {arrivals : List Arrival}
    (system : ∀ cause, Arrival.fault cause ∈ arrivals → cause.isSystem = true) :
    (fresh arrivals [] none).Orderly :=
  ⟨system, nofun, nofun⟩

theorem arrive_orderly (size : Nat) {arrivals : List Arrival}
    (orderly : ∀ cause, Arrival.fault cause ∈ arrivals → cause.isSystem = true) :
    (∀ cause, (arrive size arrivals).1 = .error cause → cause.isSystem = true) ∧
      ∀ cause, Arrival.fault cause ∈ (arrive size arrivals).2 → cause.isSystem = true := by
  match arrivals with
  | [] => simp [arrive]
  | .endOfStream :: rest => simpa [arrive] using orderly
  | .fault cause :: rest =>
      constructor
      · intro cause' same
        cases same
        exact orderly cause List.mem_cons_self
      · intro cause' later
        exact orderly cause' (List.mem_cons_of_mem _ later)
  | .data bytes :: rest =>
      refine ⟨by simp [arrive], ?_⟩
      intro cause later
      simp only [arrive] at later
      split at later
      · exact orderly cause (List.mem_cons_of_mem _ later)
      · exact orderly cause (by simpa using later)

theorem Orderly.recv {s : Socket} (orderly : s.Orderly) (size : Nat) :
    (∀ cause, (s.recv size).1 = .error cause → cause.isSystem = true) ∧
      (s.recv size).2.Orderly := by
  obtain ⟨found, later⟩ := arrive_orderly size orderly.arrivals
  exact ⟨found, later, orderly.sends, orderly.closes⟩

theorem Orderly.send {s : Socket} (orderly : s.Orderly) (bytes : Bytes) :
    (∀ cause, (s.send bytes).1 = some cause → cause.isSystem = true) ∧
      (s.send bytes).2.Orderly := by
  unfold Socket.send
  cases fault : s.nextSendFault with
  | none => exact ⟨by simp, orderly.arrivals, orderly.sends, orderly.closes⟩
  | some cause =>
      refine ⟨?_, orderly.arrivals, orderly.sends, orderly.closes⟩
      intro cause' same
      cases same
      exact orderly.sends _ _ fault

theorem Orderly.halfClose {s : Socket} (orderly : s.Orderly) :
    (∀ cause, s.halfClose.1 = some cause → cause.isSystem = true) ∧ s.halfClose.2.Orderly :=
  ⟨orderly.closes, orderly.arrivals, orderly.sends, orderly.closes⟩

theorem Orderly.setLimit {s : Socket} (orderly : s.Orderly) (limit : Timeout) :
    (s.setLimit limit).Orderly := ⟨orderly.arrivals, orderly.sends, orderly.closes⟩

/-! ### Sockets that differ in the cut only -/

/-- Sockets with the same inflow that have sent, and will send, in the same way. -/
structure Alike (s t : Socket) : Prop where
  inflow : t.inflow = s.inflow
  sent : t.sent = s.sent
  attempts : t.attempts = s.attempts
  sendFaults : t.sendFaults = s.sendFaults

/-- Sockets are alike if the same bytes come in on them before the same rest, however they are
cut into nonempty pieces. -/
theorem alike_of_chunks (s : Socket) (chunks chunks' : List Bytes)
    (nonempty : ∀ chunk ∈ chunks, chunk ≠ []) (nonempty' : ∀ chunk ∈ chunks', chunk ≠ [])
    (same : chunks.flatten = chunks'.flatten) (rest : List Arrival) :
    Alike { s with arrivals := chunks.map Arrival.data ++ rest }
      { s with arrivals := chunks'.map Arrival.data ++ rest } :=
  ⟨(Inflow.of_chunks_congr nonempty nonempty' same rest).symm, rfl, rfl, rfl⟩

/-- Sockets that are alike answer a send in the same way, and are alike after it. -/
theorem Alike.send {s t : Socket} (alike : s.Alike t) (bytes : Bytes) :
    (t.send bytes).1 = (s.send bytes).1 ∧ (s.send bytes).2.Alike (t.send bytes).2 := by
  have next : t.nextSendFault = s.nextSendFault := by
    rw [nextSendFault, nextSendFault, alike.sendFaults, alike.attempts]
  obtain ⟨inflow, sent, attempts, sendFaults⟩ := alike
  cases fault : s.nextSendFault with
  | none =>
      rw [Socket.send, Socket.send, next, fault]
      exact ⟨rfl, inflow, by simp [sent], by simp [attempts], sendFaults⟩
  | some cause =>
      rw [Socket.send, Socket.send, next, fault]
      exact ⟨rfl, inflow, sent, by simp [attempts], sendFaults⟩

end Socket

end SocksTunnel
