import Mathlib.Algebra.BigOperators.Group.List.Basic
import Mathlib.Data.List.SplitBy
import SocksTunnel.Proofs.Traffic.Window

/-!
The history as the tail of what was counted. Nothing is asked of the clock here: it may also run
backwards, and a second may come again.

* `runs` — a log in its maximal runs of updates of one second.
* `buckets_eq` — the buckets of a log are those of its runs.
* `total_history_counting` — the history has the bytes of the log, without those of the runs that
  have fallen out.
* `history_ends_with_runs` — the history is made of the last sixty runs.
-/

namespace SocksTunnel.Traffic

/-! ### Runs -/

/-- A log in maximal runs of updates of one second. -/
def runs (log : List Update) : List (List Update) :=
  log.splitBy fun u v => decide (u.second = v.second)

/-- The bytes of the updates of a log. -/
def bytesOf (log : List Update) : Int := (log.map Update.bytes).sum

/-- A run as a bucket: its bytes, at the second of its first update. -/
def Bucket.ofRun (run : List Update) : Bucket :=
  ⟨bytesOf run, (run.head?.map Update.second).getD 0⟩

theorem bytesOf_cons (u : Update) (log : List Update) :
    bytesOf (u :: log) = u.bytes + bytesOf log := by
  simp [bytesOf]

theorem bytesOf_flatten (rs : List (List Update)) :
    bytesOf rs.flatten = (rs.map bytesOf).sum := by
  rw [bytesOf, List.map_flatten, List.sum_flatten, List.map_map]
  rfl

/-- The updates of a list are of the second of its bucket. -/
def OfOneSecond (run : List Update) : Prop := ∀ u ∈ run, u.second = (Bucket.ofRun run).second

theorem ofOneSecond_of_isChain {run : List Update}
    (chain : run.IsChain fun u v => u.second = v.second) : OfOneSecond run := by
  cases run with
  | nil => exact fun u listed => absurd listed List.not_mem_nil
  | cons first rest =>
      intro u listed
      rcases List.mem_cons.mp listed with rfl | later
      · rfl
      · let same (u v : Update) : Prop := u.second = v.second
        have trans : Trans same same same := ⟨Eq.trans⟩
        exact ((List.pairwise_cons.mp chain.pairwise).1 u later).symm

/-- Lists are the maximal runs of a log: they make up the log, none is empty, each is of one second,
and neighbours are of different seconds. -/
structure MaximalRuns (log : List Update) (rs : List (List Update)) : Prop where
  whole : rs.flatten = log
  nonempty : [] ∉ rs
  one : ∀ r ∈ rs, OfOneSecond r
  differ : rs.IsChain fun r s => (Bucket.ofRun r).second ≠ (Bucket.ofRun s).second

theorem maximalRuns_runs (log : List Update) : MaximalRuns log (runs log) := by
  have one : ∀ r ∈ runs log, OfOneSecond r := by
    intro r listed
    apply ofOneSecond_of_isChain
    exact (List.isChain_of_mem_splitBy listed).imp fun u v same => of_decide_eq_true same
  refine ⟨List.flatten_splitBy _ log, List.nil_notMem_splitBy _ log, one, ?_⟩
  have chain : (runs log).IsChain _ := List.isChain_getLast_head_splitBy _ log
  apply chain.imp_of_mem_imp
  intro r s first second apart
  obtain ⟨some, some', differ⟩ := apart
  rw [← one r first _ (List.getLast_mem some), ← one s second _ (List.head_mem some')]
  exact of_decide_eq_false differ

/-! ### Buckets of runs -/

namespace History

/-- Add the updates of a log, and keep every bucket. -/
def joinAll (h : History) (log : List Update) : History :=
  log.foldl (fun h u => h.join u.bytes u.second) h

theorem joinAll_cons (h : History) (u : Update) (log : List Update) :
    h.joinAll (u :: log) = (h.join u.bytes u.second).joinAll log := rfl

theorem joinAll_append (h : History) (log later : List Update) :
    h.joinAll (log ++ later) = (h.joinAll log).joinAll later := List.foldl_append

/-- Updates of the second of the newest bucket all go into it. -/
theorem joinAll_of_second {second : Int} {log : List Update} (same : ∀ u ∈ log, u.second = second)
    (bytes : Int) (older : History) :
    joinAll (⟨bytes, second⟩ :: older) log = ⟨bytes + bytesOf log, second⟩ :: older := by
  induction log generalizing bytes with
  | nil => simp [joinAll, bytesOf]
  | cons u log ih =>
      have first : u.second = second := same u List.mem_cons_self
      have merged : join u.bytes u.second (⟨bytes, second⟩ :: older) =
          ⟨bytes + u.bytes, second⟩ :: older := by
        simp [join, first]
      rw [joinAll_cons, merged, ih fun v listed => same v (List.mem_cons_of_mem u listed),
        bytesOf_cons, add_assoc]

/-- A run makes one bucket, unless the newest bucket is of the same second. -/
theorem joinAll_run {run : List Update} (some : run ≠ []) (one : OfOneSecond run) {h : History}
    (apart : ∀ b ∈ h.head?, b.second ≠ (Bucket.ofRun run).second) :
    h.joinAll run = Bucket.ofRun run :: h := by
  obtain ⟨u, rest, rfl⟩ := List.exists_cons_of_ne_nil some
  have same : ∀ v ∈ rest, v.second = u.second :=
    fun v listed => one v (List.mem_cons_of_mem u listed)
  have pushed : h.join u.bytes u.second = ⟨u.bytes, u.second⟩ :: h := by
    cases h with
    | nil => rfl
    | cons newest older => exact if_neg (apart newest rfl)
  rw [joinAll_cons, pushed, joinAll_of_second same, ← bytesOf_cons]
  rfl

/-- Maximal runs make one bucket each. -/
theorem joinAll_runs {log : List Update} {rs : List (List Update)} (maximal : MaximalRuns log rs)
    {h : History} (apart : ∀ b ∈ h.head?, ∀ r ∈ rs.head?, b.second ≠ (Bucket.ofRun r).second) :
    h.joinAll log = (rs.map Bucket.ofRun).reverse ++ h := by
  obtain ⟨rfl, nonempty, one, differ⟩ := maximal
  induction rs generalizing h with
  | nil => rfl
  | cons run rs ih =>
      obtain ⟨some, nonempty⟩ := not_or.mp (List.mem_cons.not.mp nonempty)
      obtain ⟨next, differ⟩ := List.isChain_cons.mp differ
      have bucket : h.joinAll run = Bucket.ofRun run :: h :=
        joinAll_run (Ne.symm some) (one run List.mem_cons_self)
          fun b newest => apart b newest run rfl
      have one' : ∀ r ∈ rs, OfOneSecond r :=
        fun r listed => one r (List.mem_cons_of_mem run listed)
      have apart' : ∀ b ∈ (Bucket.ofRun run :: h).head?, ∀ r ∈ rs.head?,
          b.second ≠ (Bucket.ofRun r).second := by
        rintro b ⟨rfl⟩
        exact next
      rw [List.flatten_cons, joinAll_append, bucket, ih apart' nonempty one' differ]
      simp

theorem total_eq_sum (h : History) : h.total = (h.map Bucket.bytes).sum := by
  induction h with
  | nil => rfl
  | cons b h ih => simpa [total] using ih

end History

/-- The buckets of a log are those of its runs, the last one first. -/
theorem buckets_eq (log : List Update) : buckets log = ((runs log).map Bucket.ofRun).reverse := by
  have joined := History.joinAll_runs (maximalRuns_runs log) (h := []) (by simp)
  rw [List.append_nil] at joined
  exact joined

/-! ### What is kept -/

/-- How many runs of a log have fallen out of its history. -/
def evicted (log : List Update) : Nat := (runs log).length - History.capacity

/-- The history of a log is made of its last runs. -/
theorem reverse_history_counting {s : Stats} (fresh : s.history = []) (log : List Update) :
    (s.counting log).history.reverse = ((runs log).drop (evicted log)).map Bucket.ofRun := by
  rw [history_counting fresh, buckets_eq, List.take_reverse, List.reverse_reverse, List.length_map,
    List.map_drop]
  rfl

/-- Statistics count the bytes of a log. -/
theorem sent_add_received_counting (s : Stats) (log : List Update) :
    (s.counting log).sent + (s.counting log).received = s.sent + s.received + bytesOf log := by
  induction log generalizing s with
  | nil => simp [Stats.counting, bytesOf]
  | cons u log ih =>
      have step : s.counting (u :: log) = (s.countAt u.sent u.received u.second).counting log := rfl
      rw [step, ih, bytesOf_cons, Update.bytes]
      simp only [Stats.countAt]
      ring

/-- The history has the bytes of a log without those of the runs that have fallen out. -/
theorem total_history_counting {s : Stats} (fresh : s.history = []) (log : List Update) :
    (s.counting log).history.total =
      bytesOf log - (((runs log).take (evicted log)).map bytesOf).sum := by
  have split : bytesOf log = ((runs log).map bytesOf).sum := by
    rw [← bytesOf_flatten, (maximalRuns_runs log).whole]
  have kept : (s.counting log).history.total =
      (((runs log).drop (evicted log)).map bytesOf).sum := by
    rw [History.total_eq_sum, ← List.sum_reverse, ← List.map_reverse,
      reverse_history_counting fresh, List.map_map]
    rfl
  rw [kept, split, eq_sub_iff_add_eq', ← List.sum_append, ← List.map_append, List.take_append_drop]

/-- The calls at finite readings of the clock are those for a log. -/
theorem Call.map_update? {calls : List Call} (finite : ∀ c ∈ calls, c.reading.value?.isSome) :
    calls.map Call.update? = (calls.filterMap Call.update?).map some := by
  rw [List.map_filterMap_some_eq_filter_map_isSome, eq_comm, List.filter_eq_self]
  intro u listed
  obtain ⟨c, called, rfl⟩ := List.mem_map.mp listed
  obtain ⟨time, reads⟩ := Option.isSome_iff_exists.mp (finite c called)
  rw [update?, reads]
  rfl

/-- However the clock runs, as long as it has finite readings: no call fails, and the history,
the oldest bucket first, is made of the last sixty of the maximal runs of updates of one second,
each with its second and the bytes of its updates. So it has at most sixty buckets, neighbours are
of different seconds, and it lacks of the bytes in the totals just those of the runs that have
fallen out. -/
theorem history_ends_with_runs (begun : Int) {calls : List Call}
    (finite : ∀ c ∈ calls, c.reading.value?.isSome) :
    let log := calls.filterMap Call.update?
    let stats := (Stats.empty begun).called calls
    (calls.map Call.update? = log.map some ∧ ∀ c ∈ calls, ∀ t, (c.count t).1 = none) ∧
      MaximalRuns log (runs log) ∧
      stats.history.reverse =
        ((runs log).drop ((runs log).length - History.capacity)).map Bucket.ofRun ∧
      stats.history.length ≤ History.capacity ∧
      (stats.history.IsChain fun newer older => newer.second ≠ older.second) ∧
      stats.history.total = stats.sent + stats.received -
        (((runs log).take ((runs log).length - History.capacity)).map bytesOf).sum := by
  intro log stats
  have are : calls.map Call.update? = log.map some := Call.map_update? finite
  have counts : stats = (Stats.empty begun).counting log := Stats.called_eq are _
  have kept : stats.history.reverse = ((runs log).drop (evicted log)).map Bucket.ofRun :=
    counts ▸ reverse_history_counting rfl log
  refine ⟨⟨are, ?_⟩, maximalRuns_runs log, kept, ?_, ?_, ?_⟩
  · intro c called t
    obtain ⟨u, -, is⟩ := List.mem_map.mp (are ▸ List.mem_map_of_mem called)
    rw [Call.count_of_update? is.symm]
  · rw [counts, history_counting rfl]
    exact List.length_take_le _ _
  · have chain := (maximalRuns_runs log).differ.drop (evicted log)
    rw [← List.isChain_map Bucket.ofRun (R := fun b c => b.second ≠ c.second), ← kept,
      List.isChain_reverse] at chain
    exact chain.imp fun b c differ => differ.symm
  · have totals : stats.sent + stats.received = bytesOf log := by
      rw [counts, sent_add_received_counting]
      simp [Stats.empty]
    rw [totals, counts]
    exact total_history_counting rfl log

/-- Two calls in each of 62 seconds, the latest second first. -/
def Call.backwards : List Call :=
  (List.range 124).map fun i => ⟨.ofInt (60 - (i / 2 : Nat)), i, -1⟩

/-- The runs of the first two seconds have fallen out. -/
theorem history_ends_with_runs_backwards :
    (∀ c ∈ Call.backwards, c.reading.value?.isSome) ∧
      ((Stats.empty 0).called Call.backwards).history.total =
        ((Stats.empty 0).called Call.backwards).sent +
          ((Stats.empty 0).called Call.backwards).received - 2 := by
  have finite : ∀ c ∈ Call.backwards, c.reading.value?.isSome := by decide +kernel
  have lost : (((runs (Call.backwards.filterMap Call.update?)).take
      ((runs (Call.backwards.filterMap Call.update?)).length - History.capacity)).map
        bytesOf).sum = 2 := by decide +kernel
  obtain ⟨-, -, -, -, -, total⟩ := history_ends_with_runs 0 finite
  exact ⟨finite, lost ▸ total⟩

end SocksTunnel.Traffic
