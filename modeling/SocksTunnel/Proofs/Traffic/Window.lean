import SocksTunnel.Proofs.Binary64
import SocksTunnel.Traffic.Stats

/-!
The traffic of a window. The history keeps sixty buckets and merges the updates of a second, and
still bandwidth is measured over just the updates of the last seconds.

* `History.join` — a bucket list that never forgets; the history is its newest sixty buckets.
* `History.Descending` — with a clock that does not run back, no second has two buckets.
* `totalAfter_take` — so a bucket that fell out is at least sixty seconds old, and is not missed.
* `bandwidth_counts_window` — the sum over the window is the one over the log of updates.
-/

namespace SocksTunnel.Traffic

open SocksTunnel.Binary64

/-! ### Buckets that are never forgotten -/

namespace History

/-- Add bytes at a second, as `add` does, and keep every bucket. -/
def join (bytes second : Int) : History → History
  | [] => [⟨bytes, second⟩]
  | newest :: older =>
      if newest.second = second then ⟨newest.bytes + bytes, second⟩ :: older
      else ⟨bytes, second⟩ :: newest :: older

/-- What a history has forgotten does not matter to what is added. -/
theorem add_take (bytes second : Int) (h : History) :
    add bytes second (h.take capacity) = (h.join bytes second).take capacity := by
  cases h with
  | nil => rfl
  | cons newest older =>
      simp only [capacity, List.take_succ_cons, add, join]
      by_cases same : newest.second = second
      · simp [same]
      · simp [same, List.take_take]

@[simp] theorem totalAfter_nil (cutoff : Rat) : totalAfter cutoff [] = 0 := rfl

theorem totalAfter_cons (cutoff : Rat) (b : Bucket) (h : History) :
    totalAfter cutoff (b :: h) =
      (if cutoff < (b.second : Rat) then b.bytes else 0) + totalAfter cutoff h := by
  by_cases after : cutoff < (b.second : Rat)
  · simp [totalAfter, total, after]
  · simp [totalAfter, after]

/-- Bytes are added to the total after a point in time if their second is after it. -/
theorem totalAfter_join (cutoff : Rat) (bytes second : Int) (h : History) :
    totalAfter cutoff (h.join bytes second) =
      totalAfter cutoff h + if cutoff < (second : Rat) then bytes else 0 := by
  cases h with
  | nil => simp [join, totalAfter_cons]
  | cons newest older =>
      by_cases same : newest.second = second
      · subst same
        by_cases after : cutoff < (newest.second : Rat)
        · simp only [join, totalAfter_cons, after, if_true]
          ring
        · simp [join, totalAfter_cons, after]
      · simp only [join, same, if_false, totalAfter_cons]
        ring

/-- There is one bucket for a second, and newer buckets are of later seconds. -/
def Descending (h : History) : Prop := h.Pairwise fun newer older => older.second < newer.second

theorem Descending.join {h : History} (descending : h.Descending) (bytes : Int) {second : Int}
    (latest : ∀ b ∈ h, b.second ≤ second) : (h.join bytes second).Descending := by
  cases h with
  | nil => exact List.pairwise_singleton _ _
  | cons newest older =>
      obtain ⟨first, rest⟩ := List.pairwise_cons.mp descending
      by_cases same : newest.second = second
      · rw [History.join, if_pos same]
        exact List.pairwise_cons.mpr ⟨same ▸ first, rest⟩
      · have later : newest.second < second := lt_of_le_of_ne (latest _ List.mem_cons_self) same
        rw [History.join, if_neg same]
        refine List.pairwise_cons.mpr ⟨?_, descending⟩
        intro b listed
        rcases List.mem_cons.mp listed with rfl | old
        · exact later
        · exact (first b old).trans later

theorem second_le_of_mem_join {h : History} {bytes second : Int} {bound : Int}
    (latest : ∀ b ∈ h, b.second ≤ bound) (le : second ≤ bound) :
    ∀ b ∈ h.join bytes second, b.second ≤ bound := by
  intro b listed
  cases h with
  | nil =>
      obtain rfl := List.mem_singleton.mp listed
      exact le
  | cons newest older =>
      rw [join] at listed
      split at listed
      · rcases List.mem_cons.mp listed with rfl | old
        · exact le
        · exact latest b (List.mem_cons_of_mem _ old)
      · rcases List.mem_cons.mp listed with rfl | old
        · exact le
        · exact latest b old

theorem totalAfter_of_le {cutoff : Rat} {h : History} (old : ∀ b ∈ h, (b.second : Rat) ≤ cutoff) :
    totalAfter cutoff h = 0 := by
  induction h with
  | nil => rfl
  | cons b h ih =>
      rw [totalAfter_cons, if_neg (old b List.mem_cons_self).not_gt, zero_add]
      exact ih fun c listed => old c (List.mem_cons_of_mem _ listed)

/-- Of buckets in descending order those beyond the first `n` are `n` seconds older than the
newest one, and are not counted after a point in time that is no earlier than that. -/
theorem totalAfter_take {cutoff : Rat} {h : History} (descending : h.Descending) {newest : Int}
    (latest : ∀ b ∈ h, b.second ≤ newest) {n : Nat} (near : (newest : Rat) - n ≤ cutoff) :
    totalAfter cutoff (h.take n) = totalAfter cutoff h := by
  induction n generalizing h newest with
  | zero =>
      rw [List.take_zero, totalAfter_nil, totalAfter_of_le]
      intro b listed
      have : (b.second : Rat) ≤ newest := by exact_mod_cast latest b listed
      simp at near
      linarith
  | succ n ih =>
      cases h with
      | nil => rfl
      | cons b h =>
          obtain ⟨first, rest⟩ := List.pairwise_cons.mp descending
          rw [List.take_succ_cons, totalAfter_cons, totalAfter_cons]
          congr 1
          have before : ∀ c ∈ h, c.second ≤ b.second - 1 := by
            intro c listed
            exact Int.le_sub_one_of_lt (first c listed)
          apply ih rest before
          have : (b.second : Rat) ≤ newest := by exact_mod_cast latest b List.mem_cons_self
          push_cast at near ⊢
          linarith

end History

/-! ### Logs of updates -/

/-- Bytes that are counted at a point in time. -/
structure Update where
  time : Rat
  sent : Int
  received : Int

namespace Update

/-- The second of an update, cut toward zero. -/
def second (u : Update) : Int := truncation u.time

def bytes (u : Update) : Int := u.sent + u.received

end Update

/-- Statistics after the updates of a log, the first one first. -/
def Stats.counting (log : List Update) (s : Stats) : Stats :=
  log.foldl (fun s u => s.countAt u.sent u.received u.second) s

/-- The bytes of the updates of a log whose second is after a point in time. -/
def bytesAfter (cutoff : Rat) (log : List Update) : Int :=
  ((log.filter fun u => cutoff < (u.second : Rat)).map Update.bytes).sum

/-- All buckets of a log. -/
def buckets (log : List Update) : History :=
  log.foldl (fun h u => h.join u.bytes u.second) []

section

variable {log : List Update}

theorem buckets_append (log : List Update) (u : Update) :
    buckets (log ++ [u]) = (buckets log).join u.bytes u.second := by
  simp [buckets]

/-- The history of a log is made of the newest of its buckets. -/
theorem history_counting {s : Stats} (fresh : s.history = []) (log : List Update) :
    (s.counting log).history = (buckets log).take History.capacity := by
  induction log using List.reverseRecOn with
  | nil => simp [Stats.counting, buckets, fresh]
  | append_singleton log u ih =>
      rw [buckets_append, ← History.add_take, ← ih]
      simp [Stats.counting, Stats.countAt, Update.bytes]

/-- Merging neither loses nor doubles anything. -/
theorem totalAfter_buckets (cutoff : Rat) (log : List Update) :
    (buckets log).totalAfter cutoff = bytesAfter cutoff log := by
  induction log using List.reverseRecOn with
  | nil => rfl
  | append_singleton log u ih =>
      rw [buckets_append, History.totalAfter_join, ih]
      by_cases after : cutoff < (u.second : Rat)
      · simp [bytesAfter, after]
      · simp [bytesAfter, after]

theorem second_le_of_mem_buckets {bound : Int} (latest : ∀ u ∈ log, u.second ≤ bound) :
    ∀ b ∈ buckets log, b.second ≤ bound := by
  induction log using List.reverseRecOn with
  | nil => exact fun b listed => absurd listed List.not_mem_nil
  | append_singleton log u ih =>
      rw [buckets_append]
      apply History.second_le_of_mem_join
      · exact ih fun v listed => latest v (List.mem_append_left _ listed)
      · exact latest u (List.mem_append_right _ (List.mem_singleton_self u))

theorem descending_buckets (ordered : log.Pairwise fun u v => u.second ≤ v.second) :
    (buckets log).Descending := by
  induction log using List.reverseRecOn with
  | nil => exact .nil
  | append_singleton log u ih =>
      obtain ⟨before, -, upTo⟩ := List.pairwise_append.mp ordered
      rw [buckets_append]
      apply (ih before).join
      exact second_le_of_mem_buckets fun v listed => upTo v listed u (List.mem_singleton_self u)

/-- The history of a log with times that do not go back misses nothing that is less than sixty
seconds before the last of them. -/
theorem totalAfter_counting {s : Stats} (fresh : s.history = []) {now cutoff : Rat}
    (ordered : log.Pairwise fun u v => u.time ≤ v.time) (past : ∀ u ∈ log, u.time ≤ now)
    (near : now + 1 - History.capacity ≤ cutoff) :
    (s.counting log).history.totalAfter cutoff = bytesAfter cutoff log := by
  have descending : (buckets log).Descending :=
    descending_buckets (ordered.imp fun le => truncation_mono le)
  have latest : ∀ b ∈ buckets log, b.second ≤ truncation now :=
    second_le_of_mem_buckets fun u listed => truncation_mono (past u listed)
  have reach : (truncation now : Rat) - History.capacity ≤ cutoff := by
    linarith [truncation_lt now]
  rw [history_counting fresh, History.totalAfter_take descending latest reach, totalAfter_buckets]

end

/-! ### Readings of the clock -/

theorem History.totalInWindow_of_value? {now : Reading} {start : Rat} (h : History)
    (begins : (now.sub (.ofInt window)).value? = some start) :
    h.totalInWindow now = h.totalAfter start := by
  unfold History.totalInWindow
  cases difference : now.sub (.ofInt window) with
  | finite negative mantissa exponent =>
      rw [difference] at begins
      simp only [begins]
  | infinite negative => rw [difference] at begins; cases begins
  | nan => rw [difference] at begins; cases begins

/-- From five seconds on, and as long as the clock counts in parts of a second, the start of the
window is computed exactly. -/
theorem value?_windowStart {now : Reading} {time : Rat} (reads : now.value? = some time)
    (fits : Fits time) (late : History.window ≤ time) (early : time < mantissaLimit) :
    (now.sub (.ofInt History.window)).value? = some (time - History.window) := by
  have five : (Binary64.ofInt History.window).value? = some (History.window : Rat) := by
    simpa using value?_ofInt (i := History.window) (by decide)
  apply value?_sub reads five
  rw [abs_of_nonneg (by linarith)]
  exact fits.sub_nat late early

/-- Bytes that are counted at a reading of the clock. -/
structure Call where
  reading : Reading
  sent : Int
  received : Int

namespace Call

/-- The update that a call is, if its reading is a point in time. -/
def update? (c : Call) : Option Update :=
  c.reading.value?.map fun time => ⟨time, c.sent, c.received⟩

def count (s : Stats) (c : Call) : Option ClockError × Stats := s.count c.reading c.sent c.received

/-- A call at a point in time does not fail, and counts at its second. -/
theorem count_of_update? {c : Call} {u : Update} (is : c.update? = some u) (s : Stats) :
    c.count s = (none, s.countAt u.sent u.received u.second) := by
  obtain ⟨time, reads, rfl⟩ := Option.map_eq_some_iff.mp is
  simp only [count, Stats.count, Clock.second, truncate?_of_value? reads, Update.second]

end Call

/-- Statistics after calls, the first one first. -/
def Stats.called (calls : List Call) (s : Stats) : Stats :=
  calls.foldl (fun s c => (c.count s).2) s

/-- Calls at the times of a log count what the log says. -/
theorem Stats.called_eq {calls : List Call} {log : List Update}
    (are : calls.map Call.update? = log.map some) (s : Stats) :
    s.called calls = s.counting log := by
  induction calls generalizing log s with
  | nil =>
      obtain rfl := List.map_eq_nil_iff.mp are.symm
      rfl
  | cons c calls ih =>
      obtain ⟨u, log, rfl, is, are'⟩ := List.map_eq_cons_iff.mp are.symm
      rw [called, List.foldl_cons, Call.count_of_update? is.symm]
      exact ih are'.symm _

/-- Bandwidth counts the traffic of the window, and nothing else. Bytes are counted any number of
times, at times that do not go back, and then the bandwidth is asked for. The history, however many
buckets it has merged and forgotten, has in the window the bytes of just those updates whose second
lies in it. Where the clock has these times as its readings no call fails, and with a start of the
window that is computed exactly, as `value?_windowStart` says it is from five seconds on, that sum
is what is divided by the length of the window. -/
theorem bandwidth_counts_window {s : Stats} (fresh : s.history = []) {log : List Update} {now : Rat}
    (ordered : log.Pairwise fun u v => u.time ≤ v.time) (past : ∀ u ∈ log, u.time ≤ now) :
    (s.counting log).history.totalAfter (now - History.window) =
        bytesAfter (now - History.window) log ∧
      ∀ calls : List Call, calls.map Call.update? = log.map some →
        (∀ c ∈ calls, ∀ t, (c.count t).1 = none) ∧
        s.called calls = s.counting log ∧
        ∀ reading : Reading,
          (reading.sub (.ofInt History.window)).value? = some (now - History.window) →
            (s.called calls).bandwidth reading =
              quotient (bytesAfter (now - History.window) log) History.window := by
  have counted : (s.counting log).history.totalAfter (now - History.window) =
      bytesAfter (now - History.window) log := by
    apply totalAfter_counting fresh ordered past
    simp only [History.capacity, History.window]
    push_cast
    linarith
  refine ⟨counted, ?_⟩
  intro calls are
  refine ⟨?_, Stats.called_eq are s, ?_⟩
  · intro c called t
    have listed : c.update? ∈ log.map some := are ▸ List.mem_map_of_mem called
    obtain ⟨u, -, is⟩ := List.mem_map.mp listed
    rw [Call.count_of_update? is.symm]
  · intro reading begins
    rw [Stats.called_eq are, Stats.bandwidth, History.totalInWindow_of_value? _ begins, counted]

/-- A few updates, two of them in one second. -/
def Update.few : List Update :=
  [⟨1 / 2, 1, 0⟩, ⟨7 / 2, 2, 0⟩, ⟨9 / 2, 4, 0⟩, ⟨19 / 4, 0, 8⟩, ⟨33 / 4, 0, 16⟩]

/-- The calls for them. -/
def Call.few : List Call :=
  [⟨.finite false 1 (-1), 1, 0⟩, ⟨.finite false 7 (-1), 2, 0⟩, ⟨.finite false 9 (-1), 4, 0⟩,
    ⟨.finite false 19 (-2), 0, 8⟩, ⟨.finite false 33 (-2), 0, 16⟩]

theorem bandwidth_counts_window_few :
    ((Stats.empty 0).called Call.few).bandwidth (.finite false 17 (-1)) = quotient 28 5 := by
  have ordered : Update.few.Pairwise fun u v => u.time ≤ v.time := by
    simp [Update.few]
    norm_num
  have past : ∀ u ∈ Update.few, u.time ≤ 17 / 2 := by
    simp [Update.few]
    norm_num
  have are : Call.few.map Call.update? = Update.few.map some := by
    simp [Call.few, Update.few, Call.update?, Binary64.value?, Binary64.powerOfTwo]
    norm_num
  have reads : Binary64.value? (.finite false 17 (-1)) = some (17 / 2) := by
    simp [Binary64.value?, Binary64.powerOfTwo]
    norm_num
  have begins := value?_windowStart reads ⟨17, -1, by norm_num, by decide, by decide, by decide⟩
    (by norm_num [History.window]) (by norm_num [mantissaLimit])
  obtain ⟨-, counted⟩ := bandwidth_counts_window (s := .empty 0) rfl ordered past
  obtain ⟨-, -, bandwidth⟩ := counted Call.few are
  have sum : bytesAfter (17 / 2 - History.window) Update.few = 28 := by decide +kernel
  rw [bandwidth _ begins, sum]
  rfl

end SocksTunnel.Traffic
