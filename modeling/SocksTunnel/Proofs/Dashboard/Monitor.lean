import SocksTunnel.Proofs.Dashboard

/-!
A dashboard over a run: bytes are counted, the clock is moved in any way, and the dashboard is
rendered whenever that is asked for.

* `shown_run` — a run shows what looks at the bandwidths of its renders show.
* `followsExactly`, `follows` — what a render shows, if bandwidths are exact numbers and as they
  are rounded.
* `exists_total_shown` — the two show the same total, unless rounding decides on the threshold.
* `Quiet.total_eq_zero` — nothing is left in the window when bytes were counted last a window ago.
* `shown_follows_bandwidth` — the bandwidth that is shown follows the real one.
-/

namespace SocksTunnel

open SocksTunnel.Binary64 SocksTunnel.Traffic

/-! ### Runs -/

/-- What the clocks read, the statistics that are timed by them, and the dashboard that shows
these. -/
structure Monitor where
  now : Reading
  monotonic : Reading
  stats : Stats
  dashboard : Dashboard

namespace Monitor

inductive Event where
  | clock (now monotonic : Reading)
  | started
  | ended (failed : Bool)
  | counted (sent received : Int)
  | rendered

/-- Nothing is counted yet, and nothing rendered. -/
def fresh (listen target proxy : String) (begun : Int) (built now monotonic : Reading) : Monitor :=
  ⟨now, monotonic, .empty begun, .fresh listen target proxy built⟩

def render (m : Monitor) : Except DisplayError (List (String × String)) × Dashboard :=
  m.dashboard.render m.stats m.now m.monotonic

def step (m : Monitor) : Event → Monitor
  | .clock now monotonic => { m with now, monotonic }
  | .started => { m with stats := m.stats.started }
  | .ended failed => { m with stats := m.stats.ended failed }
  | .counted sent received => { m with stats := (m.stats.count m.now sent received).2 }
  | .rendered => { m with dashboard := m.render.2 }

def run (m : Monitor) (events : List Event) : Monitor := events.foldl step m

/-- The bandwidth that is shown. -/
def shown (m : Monitor) : Binary64 := m.dashboard.shown

/-- The bandwidth now. -/
def bandwidth (m : Monitor) : Except MagnitudeError Binary64 := m.stats.bandwidth m.now

/-- The bytes of the window that ends now. -/
def total (m : Monitor) : Int := m.stats.history.totalInWindow m.now

/-- The exact bandwidth now. -/
def rate (m : Monitor) : Rat := Dashboard.rateOf m.total

theorem bandwidth_eq (m : Monitor) : m.bandwidth = quotient m.total History.window := rfl

/-- The states at the renders of a run. -/
def renders (m : Monitor) : List Event → List Monitor
  | [] => []
  | .rendered :: events => m :: (m.step .rendered).renders events
  | event :: events => (m.step event).renders events

/-- The bandwidths at the renders of a run, where they can be computed. -/
def bandwidths (m : Monitor) (events : List Event) : List Binary64 :=
  (m.renders events).filterMap fun seen => seen.bandwidth.toOption

/-- The totals at the renders of a run. -/
def totals (m : Monitor) (events : List Event) : List Int := (m.renders events).map total

/-- The exact bandwidths at the renders of a run. -/
def rates (m : Monitor) (events : List Event) : List Rat := (m.totals events).map Dashboard.rateOf

/-- What a run shows if bandwidths are exact numbers. -/
def shownExactly (m : Monitor) (events : List Event) : Rat :=
  shownAfter Dashboard.beyond 0 (m.rates events)

theorem run_append (m : Monitor) (events later : List Event) :
    m.run (events ++ later) = (m.run events).run later := List.foldl_append

theorem renders_append (m : Monitor) (events later : List Event) :
    m.renders (events ++ later) = m.renders events ++ (m.run events).renders later := by
  induction events generalizing m with
  | nil => rfl
  | cons event events ih =>
      cases event with
      | rendered => exact congrArg (m :: ·) (ih (m.step .rendered))
      | _ => exact ih _

/-- A render looks at the bandwidth, if it can be computed. -/
theorem shown_step_rendered (m : Monitor) :
    (m.step .rendered).shown =
      shownAfter Dashboard.farApart m.shown m.bandwidth.toOption.toList := by
  rw [shown, step, render, Dashboard.render, bandwidth]
  cases m.stats.bandwidth m.now with
  | error e => rfl
  | ok current => rfl

theorem shown_step_of_ok {m : Monitor} {current : Binary64} (known : m.bandwidth = .ok current) :
    (m.step .rendered).shown = steady Dashboard.farApart m.shown current := by
  rw [shown_step_rendered, known]
  rfl

theorem shown_step_of_error {m : Monitor} {e : MagnitudeError} (failed : m.bandwidth = .error e) :
    (m.step .rendered).shown = m.shown := by
  rw [shown_step_rendered, failed]
  rfl

/-- A run shows what looks at the bandwidths of its renders show. -/
theorem shown_run (m : Monitor) (events : List Event) :
    (m.run events).shown = shownAfter Dashboard.farApart m.shown (m.bandwidths events) := by
  induction events generalizing m with
  | nil => rfl
  | cons event events ih =>
      have rest := ih (m.step event)
      cases event with
      | rendered =>
          have looks : m.bandwidths (.rendered :: events) =
              m.bandwidth.toOption.toList ++ (m.step .rendered).bandwidths events := by
            simp only [bandwidths, renders, List.filterMap_cons]
            cases m.bandwidth.toOption <;> rfl
          rw [looks, shownAfter, List.foldl_append]
          exact rest.trans (by rw [shown_step_rendered]; rfl)
      | _ => exact rest

/-! ### What is shown, as a number -/

theorem value?_of_mem_bandwidths {m : Monitor} {events : List Event} {x : Binary64}
    (listed : x ∈ m.bandwidths events) : ∃ p, x.value? = some p ∧ Fits |p| := by
  obtain ⟨seen, -, computed⟩ := List.mem_filterMap.mp listed
  cases known : seen.bandwidth with
  | error e =>
      rw [known] at computed
      cases computed
  | ok y =>
      rw [known] at computed
      obtain rfl : y = x := Option.some.inj computed
      exact value?_of_quotient (by decide) known

/-- What is shown is a number of the format. -/
theorem value?_shown {m : Monitor} (unshown : m.shown = .zero false) (events : List Event) :
    ∃ p, (m.run events).shown.value? = some p ∧ Fits |p| := by
  have seen : shownAfter Dashboard.farApart m.shown (m.bandwidths events) ∈
      m.shown :: m.bandwidths events := shownAfter_mem _ _
  rw [← shown_run, unshown] at seen
  rcases List.mem_cons.mp seen with first | later
  · rw [first]
    exact ⟨0, value?_zero false, by simpa using fits_zero⟩
  · exact value?_of_mem_bandwidths later

/-- The bandwidth for a total, if that is not too large. -/
def share (total : Int) : Binary64 := (quotient total History.window).toOption.getD .nan

theorem quotient_eq_share {n : Int} (small : |n| ≤ 2 ^ 50) :
    quotient n History.window = .ok (share n) := by
  obtain ⟨x, -, computed, -⟩ := Dashboard.bandwidth_near small
  rw [share, computed]
  rfl

theorem bandwidths_eq {m : Monitor} {events : List Event}
    (small : ∀ n ∈ m.totals events, |n| ≤ 2 ^ 50) :
    m.bandwidths events = (m.totals events).map share := by
  rw [bandwidths, totals, List.map_map, ← List.filterMap_eq_map]
  apply List.filterMap_congr
  intro seen listed
  rw [bandwidth_eq, quotient_eq_share (small seen.total (List.mem_map_of_mem listed))]
  rfl

/-- Exact bandwidths and rounded ones show the same of the totals, if all are clear. -/
theorem exists_total_shown {m : Monitor} (unshown : m.shown = .zero false) {events : List Event}
    (clear : ∀ n ∈ m.totals events, ∀ k ∈ 0 :: m.totals events, Dashboard.Clear n k) :
    ∃ n ∈ 0 :: m.totals events, quotient n History.window = .ok (m.run events).shown ∧
      m.shownExactly events = Dashboard.rateOf n := by
  let far (n k : Int) : Bool := Dashboard.beyond (Dashboard.rateOf n) (Dashboard.rateOf k)
  have small : ∀ n ∈ 0 :: m.totals events, |n| ≤ 2 ^ 50 := by
    intro n listed
    rcases List.mem_cons.mp listed with rfl | later
    · decide
    · exact (clear n later 0 List.mem_cons_self).small
  have start : m.shown = share 0 := unshown
  have nothing : (0 : Rat) = Dashboard.rateOf 0 := by simp [Dashboard.rateOf]
  -- Both runs are images of one that looks at the totals themselves.
  have rounded : (m.run events).shown = share (shownAfter far 0 (m.totals events)) := by
    rw [shown_run, start, bandwidths_eq fun n listed => small n (List.mem_cons_of_mem 0 listed)]
    apply shownAfter_map
    intro n listed k listed'
    exact Dashboard.farApart_of_clear (clear n listed k listed')
      (quotient_eq_share (small n (List.mem_cons_of_mem 0 listed)))
      (quotient_eq_share (small k listed'))
  have listed : shownAfter far 0 (m.totals events) ∈ 0 :: m.totals events := shownAfter_mem _ _
  refine ⟨_, listed, ?_, ?_⟩
  · rw [rounded, quotient_eq_share (small _ listed)]
  · rw [shownExactly, rates, nothing]
    exact shownAfter_map Dashboard.rateOf fun n _ k _ => rfl

/-! ### Quiet times -/

/-- The reading of the clock that an event brings. -/
def Event.reading? : Event → Option Reading
  | .clock now _ => some now
  | _ => none

/-- What the clock reads in a run. -/
def readings (m : Monitor) (events : List Event) : List Reading :=
  m.now :: events.filterMap Event.reading?

/-- The clock reads numbers of the format, begins at zero or later and never goes back. -/
def Forward (m : Monitor) (events : List Event) : Prop :=
  ∃ times : List Rat, (m.readings events).map value? = times.map some ∧
    (0 :: times).Pairwise (· ≤ ·) ∧ ∀ t ∈ times, Fits t

theorem Forward.of_append {m : Monitor} {events later : List Event}
    (forward : m.Forward (events ++ later)) : m.Forward events := by
  obtain ⟨times, are, ordered, fit⟩ := forward
  rw [readings, List.filterMap_append, ← List.cons_append, List.map_append] at are
  obtain ⟨first, second, rfl, are, -⟩ := List.map_eq_append_iff.mp are.symm
  rw [← List.cons_append] at ordered
  exact ⟨first, are.symm, (List.pairwise_append.mp ordered).1,
    fun t listed => fit t (List.mem_append_left _ listed)⟩

/-- With a clock that goes forward all bytes are counted at what it reads now or before. -/
theorem upTo_run {m : Monitor} {events : List Event} {t : Rat} {times : List Rat}
    (reads : m.now.value? = some t) (upTo : m.stats.history.UpTo t)
    (are : (events.filterMap Event.reading?).map value? = times.map some)
    (ordered : (0 :: t :: times).Pairwise (· ≤ ·)) :
    ∃ last ∈ t :: times, (m.run events).now.value? = some last ∧
      (m.run events).stats.history.UpTo last := by
  induction events generalizing m t times with
  | nil => exact ⟨t, List.mem_cons_self, reads, upTo⟩
  | cons event events ih =>
      cases event with
      | clock now monotonic =>
          obtain ⟨next, times, rfl, value, are⟩ := List.map_eq_cons_iff.mp are.symm
          obtain ⟨start, later⟩ := List.pairwise_cons.mp ordered
          obtain ⟨after, later⟩ := List.pairwise_cons.mp later
          have upTo' : m.stats.history.UpTo next :=
            fun b listed => (upTo b listed).trans (after next List.mem_cons_self)
          have ordered' : (0 :: next :: times).Pairwise (· ≤ ·) :=
            List.pairwise_cons.mpr ⟨fun s listed => start s (List.mem_cons_of_mem t listed), later⟩
          obtain ⟨last, listed, rest⟩ :=
            ih (m := m.step (.clock now monotonic)) value.symm upTo' are.symm ordered'
          exact ⟨last, List.mem_cons_of_mem t listed, rest⟩
      | counted sent received =>
          -- A second is cut toward zero, so it is not after a time that is not negative.
          have second : Clock.second m.now = .ok (truncation t) := by
            rw [Clock.second, truncate?_of_value? reads]
          have nonneg : 0 ≤ t := (List.pairwise_cons.mp ordered).1 t List.mem_cons_self
          have past : (truncation t : Rat) ≤ t := by
            rw [truncation, if_neg nonneg.not_gt]
            exact Int.floor_le t
          refine ih (m := m.step (.counted sent received)) reads ?_ are ordered
          rw [step, Stats.count, second]
          exact upTo.add past _
      | started => exact ih (m := m.step .started) reads upTo are ordered
      | ended failed => exact ih (m := m.step (.ended failed)) reads upTo are ordered
      | rendered => exact ih (m := m.step .rendered) reads upTo are ordered

theorem history_run_of_uncounted {m : Monitor} {events : List Event}
    (uncounted : ∀ sent received, Event.counted sent received ∉ events) :
    (m.run events).stats.history = m.stats.history := by
  induction events generalizing m with
  | nil => rfl
  | cons event events ih =>
      have rest := ih (m := m.step event) fun sent received listed =>
        uncounted sent received (List.mem_cons_of_mem event listed)
      cases event with
      | counted sent received => exact absurd List.mem_cons_self (uncounted sent received)
      | _ => exact rest

/-- The clock goes forward, and it reads a window or more later now than when bytes were counted
last. -/
def Quiet (m : Monitor) (events : List Event) : Prop :=
  m.Forward events ∧ ∃ earlier sent received later t now,
    events = earlier ++ .counted sent received :: later ∧
    (∀ sent received, Event.counted sent received ∉ later) ∧
    (m.run earlier).now.value? = some t ∧ (m.run events).now.value? = some now ∧
    t + History.window ≤ now

theorem Quiet.total_eq_zero {m : Monitor} (unused : m.stats.history = []) {events : List Event}
    (quiet : m.Quiet events) : (m.run events).total = 0 := by
  obtain ⟨forward, earlier, sent, received, later, t, now, rfl, uncounted, reads, reads', late⟩ :=
    quiet
  have split : earlier ++ .counted sent received :: later =
      (earlier ++ [.counted sent received]) ++ later := by simp
  rw [split] at forward reads' ⊢
  obtain ⟨times, are, ordered, fit⟩ := forward.of_append
  obtain ⟨first, times, rfl, value, are⟩ := List.map_eq_cons_iff.mp are.symm
  have empty : m.stats.history.UpTo first := by
    rw [unused]
    exact fun b listed => absurd listed List.not_mem_nil
  obtain ⟨last, listed, value', upTo⟩ := upTo_run value.symm empty are.symm ordered
  -- Counting does not move the clock, so its last reading is that of the bytes counted last.
  obtain rfl : last = t := by
    rw [run_append] at value'
    exact Option.some.inj (value'.symm.trans reads)
  rw [← history_run_of_uncounted uncounted, ← run_append] at upTo
  exact upTo.totalInWindow (fit _ listed) reads' late

/-! ### What a render shows -/

/-- What is shown after a render, if bandwidths are exact numbers: it is at most the threshold from
the bandwidth; it is zero or the bandwidth of this render or an earlier one; it is another number
than before only if that one was more than the threshold from the bandwidth; and in quiet times it
is at most the threshold. -/
structure FollowsExactly (m : Monitor) (past : List Event) : Prop where
  near : |(m.run past).rate - m.shownExactly (past ++ [.rendered])| ≤ 100
  seen : m.shownExactly (past ++ [.rendered]) ∈ 0 :: m.rates (past ++ [.rendered])
  moved : m.shownExactly (past ++ [.rendered]) ≠ m.shownExactly past →
    100 < |(m.run past).rate - m.shownExactly past|
  quiet : m.Quiet past → |m.shownExactly (past ++ [.rendered])| ≤ 100

theorem followsExactly {m : Monitor} (unused : m.stats.history = []) (past : List Event) :
    m.FollowsExactly past := by
  have rates : m.rates (past ++ [.rendered]) = m.rates past ++ [(m.run past).rate] := by
    rw [Monitor.rates, totals, renders_append, List.map_append, List.map_append]
    rfl
  have shown : m.shownExactly (past ++ [.rendered]) =
      steady Dashboard.beyond (m.shownExactly past) (m.run past).rate := by
    rw [shownExactly, rates, shownAfter_append_singleton]
    rfl
  have near : |(m.run past).rate - m.shownExactly (past ++ [.rendered])| ≤ 100 := by
    have close := not_far_steady Dashboard.beyond_self (m.shownExactly past) (m.run past).rate
    rw [← shown] at close
    exact not_lt.mp (of_decide_eq_false close)
  constructor
  case near => exact near
  case seen => exact shownAfter_mem 0 _
  case moved =>
    intro changed
    rw [shown] at changed
    exact of_decide_eq_true (far_of_steady_ne changed)
  case quiet =>
    intro quiet
    have silent : (m.run past).rate = 0 := by
      rw [rate, quiet.total_eq_zero unused]
      simp [Dashboard.rateOf]
    rwa [silent, zero_sub, abs_neg] at near

/-- What is shown after a render, as bandwidths and their distances are rounded: all that holds of
exact bandwidths, but for a rounding in `near`. The exact ones show the same, unless totals are too
large or their bandwidths are just the threshold apart, and what is shown is what is drawn. -/
structure Follows (m : Monitor) (past : List Event) : Prop where
  near : ∀ current, (m.run past).bandwidth = .ok current → ∃ p q, current.value? = some p ∧
    (m.run (past ++ [.rendered])).shown.value? = some q ∧
    |p - q| < 100 + 1 / 2 ^ 46 ∧ (Fits |p - q| → |p - q| ≤ 100)
  seen : (m.run (past ++ [.rendered])).shown ∈ .zero false :: m.bandwidths (past ++ [.rendered])
  moved : (m.run (past ++ [.rendered])).shown ≠ (m.run past).shown →
    ∃ current p q, (m.run past).bandwidth = .ok current ∧ current.value? = some p ∧
      (m.run past).shown.value? = some q ∧ 100 < |p - q|
  quiet : m.Quiet past → ∃ q, (m.run (past ++ [.rendered])).shown.value? = some q ∧ |q| ≤ 100
  exactly : (∀ n ∈ m.totals (past ++ [.rendered]), ∀ k ∈ 0 :: m.totals (past ++ [.rendered]),
      Dashboard.Clear n k) →
    ∃ n ∈ 0 :: m.totals (past ++ [.rendered]),
      quotient n History.window = .ok (m.run (past ++ [.rendered])).shown ∧
        m.shownExactly (past ++ [.rendered]) = Dashboard.rateOf n
  drawn : ∀ rows, (m.run past).render.1 = .ok rows → ∃ frame : Char,
    ("Bandwidth", frame.toString ++ " " ++
      Size.text (m.run (past ++ [.rendered])).shown ++ "/s") ∈ rows

theorem follows {m : Monitor} (unshown : m.shown = .zero false) (unused : m.stats.history = [])
    (past : List Event) : m.Follows past := by
  have last : m.run (past ++ [.rendered]) = (m.run past).step .rendered := run_append m past _
  have near : ∀ current, (m.run past).bandwidth = .ok current → ∃ p q, current.value? = some p ∧
      (m.run (past ++ [.rendered])).shown.value? = some q ∧
      |p - q| < 100 + 1 / 2 ^ 46 ∧ (Fits |p - q| → |p - q| ≤ 100) := by
    intro current known
    obtain ⟨p, value, -⟩ := value?_of_quotient (by decide) known
    obtain ⟨q, value', -⟩ := value?_shown unshown (past ++ [.rendered])
    have close : Dashboard.farApart current (m.run (past ++ [.rendered])).shown = false := by
      rw [last, shown_step_of_ok known]
      exact not_far_steady Dashboard.farApart_self _ _
    refine ⟨p, q, value, value', Dashboard.abs_sub_lt_of_not_farApart value value' close, ?_⟩
    intro fits
    rw [Dashboard.farApart_eq_beyond value value' fits] at close
    exact not_lt.mp (of_decide_eq_false close)
  constructor
  case near => exact near
  case seen =>
    rw [shown_run, unshown]
    exact shownAfter_mem _ _
  case moved =>
    intro changed
    rw [last] at changed
    cases known : (m.run past).bandwidth with
    | error e => exact absurd (shown_step_of_error known) changed
    | ok current =>
        rw [shown_step_of_ok known] at changed
        obtain ⟨p, value, -⟩ := value?_of_quotient (by decide) known
        obtain ⟨q, value', -⟩ := value?_shown unshown past
        exact ⟨current, p, q, rfl, value, value',
          Dashboard.lt_of_farApart value value' (far_of_steady_ne changed)⟩
  case quiet =>
    intro quiet
    have silent : (m.run past).bandwidth = .ok (.zero false) := by
      rw [bandwidth_eq, quiet.total_eq_zero unused]
      rfl
    obtain ⟨p, q, value, value', -, measured⟩ := near _ silent
    obtain ⟨v, value'', fits⟩ := value?_shown unshown (past ++ [.rendered])
    obtain rfl : v = q := Option.some.inj (value''.symm.trans value')
    obtain rfl : p = 0 := Option.some.inj (value.symm.trans (value?_zero false))
    rw [zero_sub, abs_neg] at measured
    exact ⟨v, value', measured fits⟩
  case exactly => exact exists_total_shown unshown
  case drawn =>
    intro rows drawn
    rw [last, shown, step]
    unfold render Dashboard.render at drawn ⊢
    split at drawn
    · cases drawn
    · exact Dashboard.bandwidth_mem_rows drawn

/-- The bandwidth that is shown follows the real one, whatever is counted, however the clock is
moved, and whenever the dashboard is rendered. -/
theorem shown_follows_bandwidth (listen target proxy : String) (begun : Int)
    (built now monotonic : Reading) (past : List Event) :
    (fresh listen target proxy begun built now monotonic).FollowsExactly past ∧
      (fresh listen target proxy begun built now monotonic).Follows past :=
  ⟨followsExactly rfl past, follows rfl rfl past⟩

/-- A rate is shown, and held as it moves a little; then nothing is counted any more. -/
def Event.burst : List Event :=
  [.clock (.ofInt 10) (.ofInt 10), .counted 3000 0, .rendered, .counted 0 400, .rendered,
    .clock (.ofInt 15) (.ofInt 15)]

/-- What was shown of a burst is given up when it is over. -/
theorem shown_follows_bandwidth_burst :
    let m := fresh "127.0.0.1:1080" "all" "127.0.0.1:8080" 0 (.ofInt 0) (.ofInt 0) (.ofInt 0)
    (m.run Event.burst).shown = .ofInt 600 ∧ m.Quiet Event.burst ∧
      ∃ q, (m.run (Event.burst ++ [.rendered])).shown.value? = some q ∧ |q| ≤ 100 := by
  intro m
  have forward : m.Forward Event.burst := by
    refine ⟨[0, 10, 15], by decide +kernel, by decide +kernel, ?_⟩
    intro t listed
    simp only [List.mem_cons, List.not_mem_nil, or_false] at listed
    rcases listed with rfl | rfl | rfl
    · exact fits_zero
    · exact fits_natCast (n := 10) (by decide)
    · exact fits_natCast (n := 15) (by decide)
  have quiet : m.Quiet Event.burst :=
    ⟨forward, [.clock (.ofInt 10) (.ofInt 10), .counted 3000 0, .rendered], 0, 400,
      [.rendered, .clock (.ofInt 15) (.ofInt 15)], 10, 15, rfl, by simp, by decide +kernel,
      by decide +kernel, by decide +kernel⟩
  exact ⟨by decide +kernel, quiet, (shown_follows_bandwidth _ _ _ _ _ _ _ _).2.quiet quiet⟩

end Monitor

end SocksTunnel
