import SocksTunnel.Proofs.Server.Loop

/-!
The life of a listening socket. A run of the server is told here step by step. Two parties have the
duty to close the socket: its constructor, when the socket cannot be set up, and the server, when
its loop is over, however it ends.

* `report_serving` — what the server reports can be read off from the story of the run.
* `serving_cases` — the four ways in which a run can go; all else follows from them.
* `failure_takeEntries` — the loop ends at the first entry that breaks it, with the fault of that.
* `serve_closes_listener` — a socket that was created is closed once, and not used after that.
-/

namespace SocksTunnel

open SocksTunnel.Text SocksTunnel.Log SocksTunnel.Relay SocksTunnel.Traffic SocksTunnel.Socks

/-! ### Stories -/

/-- A call on a listening socket. -/
inductive ListenerCall where
  | bind (asked : HostPort)
  | name
  | listen (backlog : Nat)
  | accept
  | close

/-- One thing that happens in a run of the server. -/
inductive Happening where
  | created (family : Family)
  | called (call : ListenerCall)
  | ready (address : HostPort)
  | settled (report : EntryReport)
  | logged (record : Record)

namespace Happening

def family? : Happening → Option Family
  | created family => some family
  | _ => none

def asked? : Happening → Option HostPort
  | called (.bind asked) => some asked
  | _ => none

def backlog? : Happening → Option Nat
  | called (.listen backlog) => some backlog
  | _ => none

def isClose : Happening → Bool
  | called .close => true
  | _ => false

def address? : Happening → Option HostPort
  | ready address => some address
  | _ => none

def report? : Happening → Option EntryReport
  | settled report => some report
  | _ => none

def record? : Happening → Option Record
  | logged record => some record
  | _ => none

/-- Whether a listening socket has part in it. -/
def isOfListener : Happening → Bool
  | created _ | called _ => true
  | _ => false

end Happening

/-- What happens, in order, and the failure that it ends with, if there is one. -/
structure Course (ε : Type) where
  story : List Happening
  failure : Option ε

namespace Course

variable {ε ε' : Type}

/-- What happens without a failure. -/
def of (story : List Happening) : Course ε := ⟨story, none⟩

/-- A call on the listening socket, and how it fails, if it does. -/
def call (call : ListenerCall) (fault : Option ε) : Course ε := ⟨[.called call], fault⟩

/-- One course and then the other, if the first one does not fail. -/
def andThen (first second : Course ε) : Course ε :=
  match first.failure with
  | some _ => first
  | none => ⟨first.story ++ second.story, second.failure⟩

/-- If the course fails, something more happens, and the failure stays. -/
def onFailure (course : Course ε) (last : List Happening) : Course ε :=
  match course.failure with
  | some _ => { course with story := course.story ++ last }
  | none => course

/-- Something more happens, whether the course fails or not, and its failure stays. -/
def ensuring (course : Course ε) (last : List Happening) : Course ε :=
  { course with story := course.story ++ last }

/-- The same course, with its failure under another name. -/
def raising (course : Course ε) (name : ε → ε') : Course ε' :=
  { course with failure := course.failure.map name }

end Course

/-! ### The story of a server -/

/-- The listening socket is created and set up. If that fails, the constructor closes it. -/
def setUp (c : Circumstances) (asked : HostPort) : Course Fault :=
  (Course.of [.created (Family.ofHost asked.host)]).andThen <|
    (((Course.call (.bind asked) c.binding.fault).andThen (.call .name none)).andThen
      (.call (.listen backlogSize) c.listenFault)).onFailure [.called .close]

section

variable (target : Target) (proxy : Proxy)

/-- The accept loop: a connection is accepted, or not, and settled, until something breaks the loop
or the entries run out. -/
def accepting : LoopState → List Entry → Bool → Course Failure
  | _, [], interrupted => ⟨[], if interrupted then some .interrupted else none⟩
  | state, entry :: rest, interrupted =>
      match takeEntry target proxy state entry with
      | (report, _, some failure) => ⟨.called .accept :: report.log.map .logged, some failure⟩
      | (report, state, none) =>
          (Course.of [.called .accept, .settled report]).andThen (accepting state rest interrupted)

/-- A run of the server: it sets its socket up, says so, and serves; at the end it closes the socket
and says so. -/
def serving (listen : String) (c : Circumstances) : Course Failure :=
  match HostPort.parse listen with
  | .error e => ⟨[], some (.address e)⟩
  | .ok asked =>
      (((setUp c asked).raising (bindFailure listen)).andThen
          (.of [.logged (listeningRecord (c.binding.name asked) target proxy)])).andThen <|
        ((Course.of [.ready (c.binding.name asked)]).andThen
          (accepting target proxy ⟨c.now, 1, c.stats⟩ c.entries c.interrupted)).ensuring
            [.called .close, .logged closedRecord]

end

/-! ### Reading a story -/

/-- The listening socket that a story tells of: its family, what it was bound to, whether it
listened, and how often it was closed. -/
def listenerOf (story : List Happening) : Option Listener :=
  match story.findSome? Happening.family?, story.findSome? Happening.asked? with
  | some family, some asked =>
      some ⟨family, asked, story.findSome? Happening.backlog?, story.countP Happening.isClose⟩
  | _, _ => none

/-- The report on a run: its records belong to the opening until the server is ready, and to the
closing after that, but for those of the entries that are settled. -/
def Course.report (course : Course Failure) : ServerReport where
  outcome :=
    match course.failure with
    | some failure => .error failure
    | none => .ok ()
  listener := listenerOf course.story
  opening := (course.story.takeWhile fun h => h.address?.isNone).filterMap Happening.record?
  ready := course.story.findSome? Happening.address?
  entries := course.story.filterMap Happening.report?
  closing := (course.story.dropWhile fun h => h.address?.isNone).filterMap Happening.record?

/-- All records of a run of the server, in order. -/
def ServerReport.records (report : ServerReport) : List Record :=
  report.opening ++ report.entries.flatMap EntryReport.log ++ report.closing

section

variable (target : Target) (proxy : Proxy)

/-! ### The loop -/

/-- What can happen in the accept loop. -/
inductive Happening.OfLoop : Happening → Prop where
  | accept : OfLoop (.called .accept)
  | settled (report : EntryReport) : OfLoop (.settled report)
  | logged (record : Record) : OfLoop (.logged record)

theorem ofLoop_accepting (state : LoopState) (entries : List Entry) (interrupted : Bool) :
    ∀ h ∈ (accepting target proxy state entries interrupted).story, h.OfLoop := by
  induction entries generalizing state with
  | nil => exact List.forall_mem_nil _
  | cons entry rest ih =>
      rw [accepting]
      rcases takeEntry target proxy state entry with ⟨report, state', _ | failure⟩
      · intro h member
        rcases List.mem_append.mp member with here | later
        · simp only [Course.of, List.mem_cons, List.not_mem_nil, or_false] at here
          rcases here with rfl | rfl
          · exact .accept
          · exact .settled report
        · exact ih state' h later
      · intro h member
        rcases List.mem_cons.mp member with rfl | member
        · exact .accept
        · obtain ⟨record, -, rfl⟩ := List.mem_map.mp member
          exact .logged record

/-- What the loop leaves can be read off from its story. -/
theorem reads_accepting (state : LoopState) (entries : List Entry) (interrupted : Bool) :
    (accepting target proxy state entries interrupted).failure =
        (takeEntries target proxy state entries).failure.or
          (if interrupted then some .interrupted else none) ∧
      (accepting target proxy state entries interrupted).story.filterMap Happening.report? =
        (takeEntries target proxy state entries).entries ∧
      (accepting target proxy state entries interrupted).story.filterMap Happening.record? =
        (takeEntries target proxy state entries).lastLog := by
  induction entries generalizing state with
  | nil => exact ⟨rfl, rfl, rfl⟩
  | cons entry rest ih =>
      rw [accepting, takeEntries]
      rcases takeEntry target proxy state entry with ⟨report, state', _ | failure⟩
      · obtain ⟨failure, reports, records⟩ := ih state'
        exact ⟨failure, congrArg (report :: ·) reports, records⟩
      · refine ⟨rfl, ?_, ?_⟩
        · simp [Happening.report?]
        · rw [List.filterMap_cons_none rfl, List.filterMap_map]
          exact List.filterMap_some

/-! ### Four ways for a run to go -/

/-- What happens until a server is ready. -/
def preparation (asked address : HostPort) : List Happening :=
  [.created (Family.ofHost asked.host), .called (.bind asked), .called .name,
    .called (.listen backlogSize), .logged (listeningRecord address target proxy)]

/-- The address does not parse; the socket cannot be bound; it cannot listen; or the loop is
entered. -/
theorem serving_cases (listen : String) (c : Circumstances) :
    (∃ e, HostPort.parse listen = .error e ∧
      serving target proxy listen c = ⟨[], some (.address e)⟩) ∨
    (∃ asked cause, HostPort.parse listen = .ok asked ∧ c.binding.fault = some cause ∧
      serving target proxy listen c =
        ⟨[.created (Family.ofHost asked.host), .called (.bind asked), .called .close],
          some (bindFailure listen cause)⟩) ∨
    (∃ asked cause, HostPort.parse listen = .ok asked ∧ c.binding.fault = none ∧
      c.listenFault = some cause ∧
      serving target proxy listen c =
        ⟨[.created (Family.ofHost asked.host), .called (.bind asked), .called .name,
          .called (.listen backlogSize), .called .close], some (bindFailure listen cause)⟩) ∨
    (∃ asked loop, HostPort.parse listen = .ok asked ∧ c.binding.fault = none ∧
      c.listenFault = none ∧
      accepting target proxy ⟨c.now, 1, c.stats⟩ c.entries c.interrupted = loop ∧
      serving target proxy listen c =
        ⟨preparation target proxy asked (c.binding.name asked) ++
            .ready (c.binding.name asked) :: loop.story ++ [.called .close, .logged closedRecord],
          loop.failure⟩) := by
  rw [serving]
  cases parsed : HostPort.parse listen with
  | error e => exact .inl ⟨e, rfl, rfl⟩
  | ok asked =>
      cases binds : c.binding.fault with
      | some cause =>
          refine .inr (.inl ⟨asked, cause, rfl, rfl, ?_⟩)
          simp only [setUp, binds]
          rfl
      | none =>
          cases listens : c.listenFault with
          | some cause =>
              refine .inr (.inr (.inl ⟨asked, cause, rfl, rfl, rfl, ?_⟩))
              simp only [setUp, binds, listens]
              rfl
          | none =>
              refine .inr (.inr (.inr ⟨asked, _, rfl, rfl, rfl, rfl, ?_⟩))
              simp only [setUp, binds, listens]
              rfl

/-- The four ways, read as reports: this is what the server reports. -/
theorem report_serving (listen : String) (c : Circumstances) :
    (serving target proxy listen c).report = serve listen target proxy c := by
  rcases serving_cases target proxy listen c with ⟨e, parses, told⟩ |
    ⟨asked, cause, parses, binds, told⟩ | ⟨asked, cause, parses, binds, listens, told⟩ |
    ⟨asked, loop, parses, binds, listens, looped, told⟩
  · rw [told, serve, parses]
    rfl
  · rw [told, serve, parses]
    simp only [binds]
    rfl
  · rw [told, serve, parses]
    simp only [binds, listens]
    rfl
  · have quiet := ofLoop_accepting target proxy ⟨c.now, 1, c.stats⟩ c.entries c.interrupted
    obtain ⟨failure, reports, records⟩ :=
      reads_accepting target proxy ⟨c.now, 1, c.stats⟩ c.entries c.interrupted
    rw [looped] at quiet failure reports records
    have closes : loop.story.countP Happening.isClose = 0 := by
      rw [List.countP_eq_zero]
      intro h member
      cases quiet h member <;> simp [Happening.isClose]
    rw [told, serve, parses]
    simp only [binds, listens, Course.report, ← failure, ← reports, ← records]
    -- The outcome, the opening and the address are read off before the loop starts.
    congr 1
    · refine congrArg (fun n => some (Listener.mk (Family.ofHost asked.host) asked
        (some backlogSize) n)) ?_
      rw [List.countP_append, List.countP_append, List.countP_cons, closes]
      rfl
    · rw [List.filterMap_append]
      exact List.append_nil _
    · show List.filterMap Happening.record?
        (loop.story ++ [.called .close, .logged closedRecord]) = _
      exact List.filterMap_append

/-- The fault by which an entry breaks the loop: one that is not of the system, of the accept itself
or of the half close of a socket whose handler could not be started. -/
def Entry.breaks? (entry : Entry) : Option Fault :=
  match entry.event with
  | .refused cause => if cause.isSystem then none else some cause
  | .accepted incoming =>
      match incoming.spawnFault with
      | none => none
      | some _ => incoming.inbound.closeFault.filter fun cause => !cause.isSystem

theorem fault_giveUp (inbound : Socket) :
    (giveUp inbound).1 = inbound.closeFault.filter fun cause => !cause.isSystem := by
  cases fault : inbound.closeFault with
  | none => simp [giveUp, Socket.halfClose, fault]
  | some cause =>
      cases system : cause.isSystem <;>
        simp [giveUp, Socket.halfClose, fault, system, Option.filter_some]

theorem failure_takeEntry (state : LoopState) (entry : Entry) :
    (takeEntry target proxy state entry).2.2 = entry.breaks?.map .fault := by
  rcases takeEntry_cases target proxy state entry with ⟨now, cause, rfl, system, taken⟩ |
    ⟨now, cause, rfl, other, taken⟩ | ⟨now, incoming, cause, rfl, spawn, taken⟩ |
    ⟨now, incoming, handled, rfl, spawn, -, taken⟩
  · simp [taken, Entry.breaks?, system]
  · simp [taken, Entry.breaks?, other]
  · simp only [taken, Entry.breaks?, spawn, fault_giveUp]
  · simp [taken, Entry.breaks?, spawn]

/-- The loop ends at the first entry that breaks it. -/
theorem failure_takeEntries (state : LoopState) (entries : List Entry) :
    (takeEntries target proxy state entries).failure =
      (entries.findSome? Entry.breaks?).map .fault := by
  induction entries generalizing state with
  | nil => rfl
  | cons entry rest ih =>
      have ends := failure_takeEntry target proxy state entry
      rw [takeEntries, List.findSome?_cons]
      rcases taken : takeEntry target proxy state entry with ⟨report, state', ended⟩
      rw [taken] at ends
      obtain rfl : ended = entry.breaks?.map .fault := ends
      cases entry.breaks? with
      | none => exact ih state'
      | some cause => rfl

/-! ### The last record -/

theorem listeningRecord_ne_closedRecord (address : HostPort) :
    listeningRecord address target proxy ≠ closedRecord := by
  intro same
  have messages := congrArg (fun r : Record => r.message.toList) same
  simp [listeningRecord, closedRecord, Record.info] at messages

theorem closedRecord_notMem_takeEntry (state : LoopState) (entry : Entry) :
    closedRecord ∉ (takeEntry target proxy state entry).1.log := by
  have differs {r : Record} (told : r.level = .error ∨ r.context.isSome) : r ≠ closedRecord := by
    rintro rfl
    rcases told with error | inside
    · cases error
    · cases inside
  rcases takeEntry_cases target proxy state entry with ⟨now, cause, rfl, -, taken⟩ |
    ⟨now, cause, rfl, -, taken⟩ | ⟨now, incoming, cause, rfl, -, taken⟩ |
    ⟨now, incoming, handled, rfl, -, rfl, taken⟩
  all_goals
    rw [taken]
    intro member
  · exact differs (.inl rfl) (List.mem_singleton.mp member).symm
  · cases member
  · exact differs (.inl rfl) (List.mem_singleton.mp member).symm
  · rcases List.mem_append.mp member with own | after
    · obtain ⟨plain, -, same⟩ := List.mem_map.mp own
      exact differs (.inr rfl) same
    · obtain ⟨failure, -, same⟩ := List.mem_map.mp after
      exact differs (.inl rfl) same

/-- What holds of the records of each turn holds of those of the loop. -/
theorem forall_records_takeEntries {P : Record → Prop}
    (turn : ∀ state entry, ∀ r ∈ (takeEntry target proxy state entry).1.log, P r)
    (state : LoopState) (entries : List Entry) :
    ∀ r ∈ (takeEntries target proxy state entries).entries.flatMap EntryReport.log ++
      (takeEntries target proxy state entries).lastLog, P r := by
  induction entries generalizing state with
  | nil => exact List.forall_mem_nil _
  | cons entry rest ih =>
      have here := turn state entry
      rw [takeEntries]
      rcases taken : takeEntry target proxy state entry with ⟨report, state', _ | failure⟩
      · rw [taken] at here
        intro r member
        rw [List.flatMap_cons, List.append_assoc] at member
        rcases List.mem_append.mp member with first | others
        · exact here r first
        · exact ih state' r others
      · rw [taken] at here
        exact here

theorem closedRecord_notMem_takeEntries (state : LoopState) (entries : List Entry) :
    closedRecord ∉ (takeEntries target proxy state entries).entries.flatMap EntryReport.log ++
      (takeEntries target proxy state entries).lastLog := by
  have others := forall_records_takeEntries target proxy (P := (· ≠ closedRecord))
    (fun state entry _ member same =>
      closedRecord_notMem_takeEntry target proxy state entry (same ▸ member)) state entries
  exact fun member => others _ member rfl

/-! ### The life of the socket -/

/-- A run has kept its listening socket as it should, and reports on that. -/
structure ListenerKept (listen : String) (c : Circumstances) (course : Course Failure)
    (report : ServerReport) : Prop where
  told : course.report = report
  /-- A socket is created just if the address parses. -/
  created : (∃ family, .created family ∈ course.story) ↔ ∃ asked, HostPort.parse listen = .ok asked
  /-- It is the only one; it is closed once, and not used after that. -/
  closed : ∀ family, .created family ∈ course.story → ∃ before after,
    course.story = .created family :: before ++ .called .close :: after ∧
      (∀ h ∈ before, h.family? = none ∧ h ≠ .called .close) ∧
      ∀ h ∈ after, h.isOfListener = false
  /-- The server is ready just if the socket could be bound and could listen. -/
  ready : (∃ address, .ready address ∈ course.story) ↔ c.Enters listen
  /-- It is ready once: after the record that says so, and before the first connection. The address
  is the one that the system has given the socket. -/
  announced : ∀ address, .ready address ∈ course.story →
    (∃ asked, HostPort.parse listen = .ok asked ∧ address = c.binding.name asked) ∧
    ∃ before after, course.story = before ++ .ready address :: after ∧
      .logged ⟨.info, none, "Listening at " ++ address.host ++ ":" ++
        decimal address.port.toNat ++ ", forwarding to " ++ target.text ++ " via " ++
        proxy.address, none⟩ ∈ before ∧
      .called .accept ∉ before ∧ ∀ h ∈ before ++ after, h.address? = none
  /-- If the socket cannot be set up, that is the outcome, by its own name if it is a fault of the
  system. No connection is accepted then, and nothing is recorded. -/
  unbound : ∀ asked cause, HostPort.parse listen = .ok asked →
    c.binding.fault.or c.listenFault = some cause →
      report.outcome =
          .error (if cause.isSystem then .bind listen cause else .fault cause) ∧
        .called .accept ∉ course.story ∧ report.records = []
  /-- If the loop is entered, the last record says that the socket is closed, and no other one does.
  The outcome is what ended the loop: the fault of the first entry that broke it, if one did. -/
  served : c.Enters listen →
    (∃ records, report.records = records ++ [⟨.info, none, "Listener closed", none⟩] ∧
      ⟨.info, none, "Listener closed", none⟩ ∉ records) ∧
      report.outcome =
        match c.entries.findSome? Entry.breaks? with
        | some cause => .error (.fault cause)
        | none => if c.interrupted then .error .interrupted else .ok ()

variable {target proxy}

/-- For an address that does not parse nothing is created. -/
theorem ListenerKept.of_unparsed {listen : String} {c : Circumstances} {e : HostPortError}
    (parses : HostPort.parse listen = .error e)
    (told : serving target proxy listen c = ⟨[], some (.address e)⟩) :
    ListenerKept target proxy listen c (serving target proxy listen c)
      (serve listen target proxy c) := by
  have unentered : ¬c.Enters listen := by
    rintro ⟨⟨asked, parses'⟩, -, -⟩
    rw [parses] at parses'
    cases parses'
  constructor
  case told => exact report_serving target proxy listen c
  case created => simp [told, parses]
  case closed => simp [told]
  case ready => simp [told, unentered]
  case announced => simp [told]
  case unbound => simp [parses]
  case served => exact fun entered => absurd entered unentered

/-- A server that cannot set its socket up records nothing and names the fault. -/
theorem serve_of_unset {listen : String} {c : Circumstances} {asked : HostPort} {cause : Fault}
    (parses : HostPort.parse listen = .ok asked)
    (broken : c.binding.fault.or c.listenFault = some cause) :
    (serve listen target proxy c).outcome =
        .error (if cause.isSystem then .bind listen cause else .fault cause) ∧
      (serve listen target proxy c).records = [] := by
  rw [serve, parses]
  cases binds : c.binding.fault with
  | some fault =>
      obtain rfl : fault = cause := by simpa [binds] using broken
      exact ⟨rfl, rfl⟩
  | none =>
      obtain listens : c.listenFault = some cause := by simpa [binds] using broken
      rw [listens]
      exact ⟨rfl, rfl⟩

/-- A socket that cannot be set up is closed by its constructor, after the calls that were made. -/
theorem ListenerKept.of_unset {listen : String} {c : Circumstances} {asked : HostPort}
    {cause : Fault} (calls : List ListenerCall) (parses : HostPort.parse listen = .ok asked)
    (broken : c.binding.fault.or c.listenFault = some cause)
    (plain : ∀ call ∈ calls, call ≠ .accept ∧ call ≠ .close)
    (told : serving target proxy listen c =
      ⟨.created (Family.ofHost asked.host) :: calls.map .called ++ [.called .close],
        some (bindFailure listen cause)⟩) :
    ListenerKept target proxy listen c (serving target proxy listen c)
      (serve listen target proxy c) := by
  have unentered : ¬c.Enters listen := by
    rintro ⟨-, binds, listens⟩
    rw [binds, listens] at broken
    cases broken
  have unaccepted : .called .accept ∉ (serving target proxy listen c).story := by
    rw [told]
    intro member
    have called : .accept ∈ calls := by simpa using member
    exact (plain _ called).1 rfl
  constructor
  case told => exact report_serving target proxy listen c
  case created => simp [told, parses]
  case closed =>
    intro family created
    obtain rfl : family = Family.ofHost asked.host := by simpa [told] using created
    refine ⟨calls.map .called, [], by rw [told], ?_, List.forall_mem_nil _⟩
    intro h member
    obtain ⟨call, called, rfl⟩ := List.mem_map.mp member
    refine ⟨rfl, ?_⟩
    rintro ⟨⟩
    exact (plain _ called).2 rfl
  case ready => simp [told, unentered]
  case announced => simp [told]
  case unbound =>
    intro asked' cause' parses' broken'
    obtain ⟨outcome, unrecorded⟩ := serve_of_unset parses' broken'
    exact ⟨outcome, unaccepted, unrecorded⟩
  case served => exact fun entered => absurd entered unentered

/-- What a server that enters its loop records at the end, and what it ends with. -/
theorem closes_of_enters {listen : String} {c : Circumstances} (entered : c.Enters listen) :
    (∃ records, (serve listen target proxy c).records = records ++ [closedRecord] ∧
        closedRecord ∉ records) ∧
      (serve listen target proxy c).outcome =
        match c.entries.findSome? Entry.breaks? with
        | some cause => .error (.fault cause)
        | none => if c.interrupted then .error .interrupted else .ok () := by
  obtain ⟨listener, address, served⟩ := serve_of_enters target proxy entered
  have others := closedRecord_notMem_takeEntries target proxy ⟨c.now, 1, c.stats⟩ c.entries
  rw [served]
  constructor
  · refine ⟨listeningRecord address target proxy :: _, (List.append_assoc ..).symm, ?_⟩
    intro member
    rcases List.mem_cons.mp member with same | member
    · exact listeningRecord_ne_closedRecord target proxy address same.symm
    · exact others member
  · rw [failure_takeEntries]
    cases c.entries.findSome? Entry.breaks? with
    | some cause => rfl
    | none => cases c.interrupted <;> rfl

/-- A socket that is set up is closed by the server after its loop. -/
theorem ListenerKept.of_entered {listen : String} {c : Circumstances} {asked : HostPort}
    {loop : Course Failure} (parses : HostPort.parse listen = .ok asked)
    (binds : c.binding.fault = none) (listens : c.listenFault = none)
    (looped : accepting target proxy ⟨c.now, 1, c.stats⟩ c.entries c.interrupted = loop)
    (told : serving target proxy listen c =
      ⟨preparation target proxy asked (c.binding.name asked) ++
          .ready (c.binding.name asked) :: loop.story ++ [.called .close, .logged closedRecord],
        loop.failure⟩) :
    ListenerKept target proxy listen c (serving target proxy listen c)
      (serve listen target proxy c) := by
  have entered : c.Enters listen := ⟨⟨asked, parses⟩, binds, listens⟩
  have quiet := ofLoop_accepting target proxy ⟨c.now, 1, c.stats⟩ c.entries c.interrupted
  rw [looped] at quiet
  have unclosed : ∀ h ∈ loop.story, h.family? = none ∧ h ≠ .called .close := by
    intro h member
    cases quiet h member with
    | accept => exact ⟨rfl, by simp⟩
    | settled report => exact ⟨rfl, by simp⟩
    | logged record => exact ⟨rfl, by simp⟩
  have unready : ∀ h ∈ loop.story, h.address? = none := by
    intro h member
    cases quiet h member <;> rfl
  constructor
  case told => exact report_serving target proxy listen c
  case created => simp [told, parses, preparation]
  case closed =>
    intro family created
    have first : family = Family.ofHost asked.host := by
      rw [told] at created
      rcases List.mem_cons.mp created with same | later
      · cases same
        rfl
      · have inLoop : .created family ∈ loop.story := by simpa using later
        cases (unclosed _ inLoop).1
    rw [told, first]
    refine ⟨(preparation target proxy asked (c.binding.name asked)).tail ++
      .ready (c.binding.name asked) :: loop.story, [.logged closedRecord], rfl, ?_, ?_⟩
    · rw [List.forall_mem_append, List.forall_mem_cons]
      exact ⟨by simp [preparation, Happening.family?], ⟨rfl, by simp⟩, unclosed⟩
    · simp [Happening.isOfListener]
  case ready => exact iff_of_true ⟨c.binding.name asked, by simp [told]⟩ entered
  case announced =>
    intro address ready
    have only : address = c.binding.name asked := by
      have member : address = c.binding.name asked ∨ .ready address ∈ loop.story := by
        simpa [told, preparation] using ready
      rcases member with same | inLoop
      · exact same
      · cases unready _ inLoop
    rw [told, only]
    refine ⟨⟨asked, parses, rfl⟩, preparation target proxy asked (c.binding.name asked),
      loop.story ++ [.called .close, .logged closedRecord], List.append_assoc .., ?_, ?_, ?_⟩
    · exact List.mem_of_getElem? (i := 4) rfl
    · simp [preparation]
    · rw [List.forall_mem_append, List.forall_mem_append]
      exact ⟨by simp [preparation, Happening.address?], unready, by simp [Happening.address?]⟩
  case unbound => simp [binds, listens]
  case served => exact closes_of_enters

variable (target proxy)

/-- However a run of the server ends, it keeps its listening socket. -/
theorem serve_closes_listener (listen : String) (c : Circumstances) :
    ListenerKept target proxy listen c (serving target proxy listen c)
      (serve listen target proxy c) := by
  rcases serving_cases target proxy listen c with ⟨e, parses, told⟩ |
    ⟨asked, cause, parses, binds, told⟩ | ⟨asked, cause, parses, binds, listens, told⟩ |
    ⟨asked, loop, parses, binds, listens, looped, told⟩
  · exact .of_unparsed parses told
  · refine .of_unset [.bind asked] parses ?_ ?_ told
    · rw [binds]
      rfl
    · simp
  · refine .of_unset [.bind asked, .name, .listen backlogSize] parses ?_ ?_ told
    · rw [binds, listens]
      rfl
    · simp
  · exact .of_entered parses binds listens looped told

end

/-- A server whose loop is broken by an accept, with a connection still to come. -/
def Circumstances.broken : Circumstances :=
  { Circumstances.troubled with
    entries := Circumstances.troubled.entries ++
      ⟨none, .refused ⟨.exhausted, none, "no more threads"⟩⟩ :: Circumstances.troubled.entries }

theorem serve_closes_listener_broken :
    (serve "localhost:1080" (.loopback 80) .loopback .broken).outcome =
        .error (.fault ⟨.exhausted, none, "no more threads"⟩) ∧
      ∃ records, (serve "localhost:1080" (.loopback 80) .loopback .broken).records =
          records ++ [⟨.info, none, "Listener closed", none⟩] ∧
        ⟨.info, none, "Listener closed", none⟩ ∉ records := by
  have entered : Circumstances.broken.Enters "localhost:1080" :=
    ⟨⟨_, Proxy.loopback.parses⟩, rfl, rfl⟩
  obtain ⟨records, outcome⟩ :=
    (serve_closes_listener (.loopback 80) .loopback "localhost:1080" .broken).served entered
  exact ⟨outcome, records⟩

end SocksTunnel
