import DispenserHub.MachineHandler
import DispenserHub.Mirror
import DispenserHub.Runs

/-!
The iterations of `monitor_active_time_bucket` over a day's schedule. What was
sent mirrors the active bucket once it mirrored one; the first iteration sends
the first bucket of the day in the place of the active one.
-/

namespace DispenserHub.Monitoring
open Messages Buckets MachineHandler Mirror

/-- The last bucket whose timestamp is not after a time. -/
structure Active (schedule : Schedule) (now : ℚ) (a : ℕ) (bucket : TimeBucket) : Prop where
  here : schedule[a]? = some bucket
  started : (bucket.timestamp : ℚ) ≤ now
  last : ∀ (j : ℕ) (later : TimeBucket), a < j → schedule[j]? = some later → now < later.timestamp

theorem Active.unique {schedule : Schedule} {now : ℚ} {a a' : ℕ} {bucket bucket' : TimeBucket}
    (active : Active schedule now a bucket) (active' : Active schedule now a' bucket') : bucket = bucket' := by
  rcases lt_trichotomy a a' with before | rfl | after
  · exact absurd (active.last a' bucket' before active'.here) (not_lt.mpr active'.started)
  · exact Option.some.inj (active.here.symm.trans active'.here)
  · exact absurd (active'.last a bucket after active.here) (not_lt.mpr active.started)

/-- The loop stops at the first bucket after the time, which on rising
    timestamps leaves the last one before it. -/
theorem active_index_active {opening : TimeBucket} {rest : List TimeBucket} {now : ℚ}
    (rising : (timestamps (opening :: rest)).Pairwise (· < ·)) (started : (opening.timestamp : ℚ) ≤ now) (i : ℕ)
    (index : Int) : ∃ a bucket, Active (opening :: rest) now a bucket ∧
      active_index now (opening :: rest) i index = i + a := by
  induction rest generalizing opening i index with
  | nil =>
    refine ⟨0, opening, ⟨rfl, started, ?_⟩, ?_⟩
    · intro j later after at_j
      rw [List.getElem?_eq_none (by simp; omega)] at at_j
      cases at_j
    · simp [active_index, not_lt.mpr started]
  | cons next rest ih =>
    obtain ⟨before, rising'⟩ := List.pairwise_cons.mp rising
    by_cases due : (next.timestamp : ℚ) ≤ now
    · obtain ⟨a, bucket, active, index'⟩ := ih rising' due (i + 1) i
      refine ⟨a + 1, bucket, ⟨active.here, active.started, ?_⟩, ?_⟩
      · intro j later after at_j
        cases j with
        | zero => omega
        | succ j => exact active.last j later (by omega) at_j
      · rw [active_index, if_neg (not_lt.mpr started), index']
        push_cast
        ring
    · refine ⟨0, opening, ⟨rfl, started, ?_⟩, ?_⟩
      · intro j later after at_j
        cases j with
        | zero => omega
        | succ j =>
          have least : next.timestamp ≤ later.timestamp := by
            cases j with
            | zero => cases at_j; exact le_rfl
            | succ j =>
              have member : later.timestamp ∈ timestamps rest := List.mem_map_of_mem (List.mem_of_getElem? at_j)
              exact ((List.pairwise_cons.mp rising').1 _ member).le
          have least' : (next.timestamp : ℚ) ≤ later.timestamp := by exact_mod_cast least
          exact lt_of_lt_of_le (not_le.mp due) least'
      · simp [active_index, not_lt.mpr started, not_le.mp due]

def statuses (machines : List Machine) : List (Int × Status) := machines.map fun m => (m.machine_id, m.status)

/-- The statuses the handler has sent to its own topic, in order. -/
def sent (handler : Handler) : List (Int × Status) :=
  statuses ((handler.published.filter fun p => p.1 = .HANDLER_TOPIC_INTERNAL).map Prod.snd)

theorem statuses_keys (machines : List Machine) :
    (statuses machines).map Prod.fst = machines.map Machine.machine_id := by
  simp [statuses, Function.comp_def]

@[simp] theorem sent_updates (exchange_id : ℕ → Int) (machines : List Machine) (handler : Handler) :
    sent (send_machine_updates exchange_id machines handler) = sent handler ++ statuses machines := by
  have stamped : ((machines.mapIdx fun k machine =>
      ((Topic.HANDLER_TOPIC_INTERNAL, { machine with exchange_id := some (exchange_id k) }) : Topic × Machine)).filter
        fun p => p.1 = .HANDLER_TOPIC_INTERNAL) = machines.mapIdx fun k machine =>
      (Topic.HANDLER_TOPIC_INTERNAL, { machine with exchange_id := some (exchange_id k) }) := by
    rw [List.filter_eq_self]
    intro p member
    obtain ⟨k, inside, rfl⟩ := List.mem_mapIdx.mp member
    rfl
  simp only [sent, send_machine_updates, List.filter_append, stamped, List.map_append, statuses]
  congr 1
  apply List.ext_getElem <;> simp

theorem statuses_changed (current previous : List Machine) :
    statuses (changed_machines current previous) = changes (statuses current) (statuses previous) := by
  induction current generalizing previous with
  | nil => rfl
  | cons m rest ih =>
    cases previous with
    | nil => rfl
    | cons m₀ rest₀ =>
      have tail := ih rest₀
      by_cases same : m.status = m₀.status
      · simpa [changed_machines, changes, statuses, same] using tail
      · simpa [changed_machines, changes, statuses, same] using tail

/-- A day's schedule: rising timestamps, and the same machines in every bucket,
    in one order and each once. -/
structure DaySchedule (schedule : Schedule) (opening : TimeBucket) (machines : List Int) : Prop where
  opens : schedule[0]? = some opening
  rising : (timestamps schedule).Pairwise (· < ·)
  ordered : ∀ bucket ∈ schedule, bucket.machines.map Machine.machine_id = machines
  nodup : machines.Nodup

/-- The last status sent for every machine is its status in the bucket that is
    active at a time. -/
def Follows (schedule : Schedule) (now : ℚ) (handler : Handler) : Prop :=
  ∃ a bucket, Active schedule now a bucket ∧ Mirrors (sent handler) (statuses bucket.machines)

/-- What holds after an iteration that left the machines as the schedule has
    them: both indices are those of a bucket that the sent statuses mirror. -/
structure Tracking (schedule : Schedule) (handler : Handler) (a : ℕ) (bucket : TimeBucket) : Prop where
  here : schedule[a]? = some bucket
  active : handler.active_time_bucket_index = a
  previous : handler.previous_time_bucket_index = a
  mirrors : Mirrors (sent handler) (statuses bucket.machines)

variable {date_of : ℚ → Date} {schedule : Schedule} {opening : TimeBucket} {machines : List Int}
  {handler : Handler} {tick : Tick}

theorem DaySchedule.index (day : DaySchedule schedule opening machines) {now : ℚ}
    (started : (opening.timestamp : ℚ) ≤ now) (index : Int) :
    ∃ a bucket, Active schedule now a bucket ∧ active_index now schedule 0 index = a := by
  cases schedule with
  | nil => cases day.opens
  | cons first rest =>
    cases day.opens
    obtain ⟨a, bucket, active, found⟩ := active_index_active day.rising started 0 index
    exact ⟨a, bucket, active, by simpa using found⟩

theorem DaySchedule.keys (day : DaySchedule schedule opening machines) {a : ℕ} {bucket : TimeBucket}
    (here : schedule[a]? = some bucket) : (statuses bucket.machines).map Prod.fst = machines := by
  rw [statuses_keys, day.ordered bucket (List.mem_of_getElem? here)]

theorem item_nat (schedule : Schedule) (a : ℕ) : item schedule a = schedule[a]? := by
  simp [item]

/-- The first iteration of the day sends the first bucket. -/
theorem first_iteration (day : DaySchedule schedule opening machines)
    (seen : handler.master_schedule (date_of tick.now) = some schedule)
    (started : (opening.timestamp : ℚ) ≤ tick.now) (active : handler.active_time_bucket_index = -1)
    (previous : handler.previous_time_bucket_index = -1) :
    ∃ a bucket, Active schedule tick.now a bucket ∧
      monitor_active_time_bucket date_of tick handler =
        { send_machine_updates tick.exchange_id opening.machines
            { handler with active_time_bucket_index := a } with previous_time_bucket_index := a } := by
  obtain ⟨a, bucket, isActive, found⟩ := day.index started (-1)
  refine ⟨a, bucket, isActive, ?_⟩
  have moved : (a : Int) ≠ -1 := by omega
  have first := item_nat schedule 0
  rw [day.opens] at first
  simp only [monitor_active_time_bucket, seen, active, found, previous, update_active_time_bucket]
  simp [moved, show item schedule 0 = some opening from first, send_machine_updates]

theorem update_sends (exchange_id : ℕ → Int) (handler : Handler) {a p : ℕ} {current before : TimeBucket}
    (at_a : schedule[a]? = some current) (at_p : schedule[p]? = some before)
    (active : handler.active_time_bucket_index = a) (previous : handler.previous_time_bucket_index = p) :
    ∃ after, update_active_time_bucket exchange_id schedule handler = some after ∧
      after.active_time_bucket_index = a ∧
      sent after = sent handler ++ changes (statuses current.machines) (statuses before.machines) := by
  have old : (p : Int) ≠ -1 := by omega
  rw [← statuses_changed]
  simp only [update_active_time_bucket, active, previous, old, if_false, item_nat, at_a, at_p, Option.bind_eq_bind,
    Option.bind_some]
  by_cases quiet : changed_machines current.machines before.machines = []
  · exact ⟨handler, by simp [quiet], active, by simp [quiet, statuses]⟩
  · exact ⟨send_machine_updates exchange_id _ handler, by simp [quiet], active, sent_updates exchange_id _ handler⟩

/-- An iteration from a bucket that is mirrored mirrors the active one. -/
theorem next_iteration (day : DaySchedule schedule opening machines)
    (seen : handler.master_schedule (date_of tick.now) = some schedule)
    (started : (opening.timestamp : ℚ) ≤ tick.now) {p : ℕ} {before : TimeBucket}
    (tracking : Tracking schedule handler p before) :
    ∃ a bucket, Active schedule tick.now a bucket ∧
      Tracking schedule (monitor_active_time_bucket date_of tick handler) a bucket := by
  obtain ⟨a, bucket, isActive, found⟩ := day.index started (p : Int)
  refine ⟨a, bucket, isActive, ?_⟩
  simp only [monitor_active_time_bucket, seen, tracking.active, found]
  by_cases same : a = p
  · subst same
    have equal : bucket = before := Option.some.inj (isActive.here.symm.trans tracking.here)
    subst equal
    rw [if_neg (not_not.mpr tracking.previous.symm)]
    exact ⟨isActive.here, rfl, tracking.previous, tracking.mirrors⟩
  · have moved : (a : Int) ≠ handler.previous_time_bucket_index := by
      rw [tracking.previous]
      exact_mod_cast same
    rw [if_pos moved]
    obtain ⟨after, updated, active, grown⟩ := update_sends tick.exchange_id
      { handler with active_time_bucket_index := a } isActive.here tracking.here rfl tracking.previous
    rw [updated]
    refine ⟨isActive.here, active, active, ?_⟩
    have aligned : (statuses bucket.machines).map Prod.fst = (statuses before.machines).map Prod.fst := by
      rw [day.keys isActive.here, day.keys tracking.here]
    have once : ((statuses bucket.machines).map Prod.fst).Nodup := by
      rw [day.keys isActive.here]
      exact day.nodup
    have sends : sent after = sent handler ++ changes (statuses bucket.machines) (statuses before.machines) := grown
    show Mirrors (sent after) (statuses bucket.machines)
    rw [sends]
    exact tracking.mirrors.changes aligned once

theorem update_keeps_schedules {exchange_id : ℕ → Int} {today_schedule : Schedule} {after : Handler}
    (updated : update_active_time_bucket exchange_id today_schedule handler = some after) :
    after.master_schedule = handler.master_schedule := by
  by_cases fresh : handler.previous_time_bucket_index = -1
  · simp only [update_active_time_bucket, fresh, if_true, Option.bind_eq_bind, Option.bind_eq_some_iff,
      Option.pure_def, Option.some.injEq] at updated
    obtain ⟨_, _, rfl⟩ := updated
    rfl
  · simp only [update_active_time_bucket, fresh, if_false, Option.bind_eq_bind, Option.bind_eq_some_iff] at updated
    obtain ⟨_, _, _, _, sends⟩ := updated
    split at sends <;> cases sends <;> rfl

theorem monitor_keeps_schedules (date_of : ℚ → Date) (tick : Tick) (handler : Handler) :
    (monitor_active_time_bucket date_of tick handler).master_schedule = handler.master_schedule := by
  unfold monitor_active_time_bucket
  cases handler.master_schedule (date_of tick.now) with
  | none => rfl
  | some today_schedule =>
    dsimp only
    split
    · split
      · rfl
      · next updated =>
        have kept := update_keeps_schedules updated
        exact kept
    · rfl

def step (date_of : ℚ → Date) (handler : Handler) (tick : Tick) : Unit × Handler :=
  ((), monitor_active_time_bucket date_of tick handler)

/-- Iterations that find the day's schedule keep mirroring the active bucket. -/
theorem run_tracking (day : DaySchedule schedule opening machines) {ticks : List Tick}
    (seen : ∀ tick ∈ ticks, handler.master_schedule (date_of tick.now) = some schedule)
    (started : ∀ tick ∈ ticks, (opening.timestamp : ℚ) ≤ tick.now) {p : ℕ} {before : TimeBucket}
    (tracking : Tracking schedule handler p before) :
    (Runs.run (step date_of) handler ticks).2.master_schedule = handler.master_schedule ∧
      ∃ a bucket, Tracking schedule (Runs.run (step date_of) handler ticks).2 a bucket := by
  refine Runs.run_invariant_of (step date_of)
    (fun tick => handler.master_schedule (date_of tick.now) = some schedule ∧ (opening.timestamp : ℚ) ≤ tick.now)
    (fun _ h => h.master_schedule = handler.master_schedule ∧ ∃ a bucket, Tracking schedule h a bucket)
    ⟨rfl, p, before, tracking⟩ ?_ ticks (fun tick member => ⟨seen tick member, started tick member⟩)
  rintro _ h tick ⟨found, due⟩ ⟨kept, a, bucket, tracks⟩
  refine ⟨(monitor_keeps_schedules date_of tick h).trans kept, ?_⟩
  rw [← kept] at found
  obtain ⟨a', bucket', _, tracks'⟩ := next_iteration day found due tracks
  exact ⟨a', bucket', tracks'⟩

/-- From a bucket that is mirrored on, the machines follow the schedule. -/
theorem tracking_follows (day : DaySchedule schedule opening machines) {ticks : List Tick}
    (seen : ∀ tick ∈ ticks, handler.master_schedule (date_of tick.now) = some schedule)
    (started : ∀ tick ∈ ticks, (opening.timestamp : ℚ) ≤ tick.now) {p : ℕ} {before : TimeBucket}
    (tracking : Tracking schedule handler p before) {earlier : List Tick} {tick : Tick}
    (upTo : earlier ++ [tick] <+: ticks) :
    Follows schedule tick.now (Runs.run (step date_of) handler (earlier ++ [tick])).2 := by
  have within : ∀ t ∈ earlier, t ∈ ticks := fun t member => upTo.subset (by simp [member])
  have last : tick ∈ ticks := upTo.subset (by simp)
  obtain ⟨same, p', before', tracks⟩ := run_tracking day (fun t member => seen t (within t member))
    (fun t member => started t (within t member)) tracking
  have found := seen tick last
  rw [← same] at found
  obtain ⟨a, bucket, isActive, tracks'⟩ := next_iteration day found (started tick last) tracks
  rw [Runs.run_concat]
  exact ⟨a, bucket, isActive, tracks'.mirrors⟩

/-- The machines follow the day's schedule after every iteration exactly when
    its first bucket has the statuses of the bucket active in the first one. -/
theorem machines_follow_iff (day : DaySchedule schedule opening machines) {first : Tick} {rest : List Tick}
    (seen : ∀ tick ∈ first :: rest, handler.master_schedule (date_of tick.now) = some schedule)
    (started : ∀ tick ∈ first :: rest, (opening.timestamp : ℚ) ≤ tick.now)
    (active : handler.active_time_bucket_index = -1) (previous : handler.previous_time_bucket_index = -1) :
    (∀ earlier tick, earlier ++ [tick] <+: first :: rest →
      Follows schedule tick.now (Runs.run (step date_of) handler (earlier ++ [tick])).2) ↔
    ∀ a bucket, Active schedule first.now a bucket → statuses bucket.machines = statuses opening.machines := by
  obtain ⟨a₀, bucket₀, isActive, result⟩ := first_iteration day (seen first (by simp)) (started first (by simp))
    active previous
  have mirrors : Mirrors (sent (monitor_active_time_bucket date_of first handler)) (statuses opening.machines) := by
    rw [result]
    show Mirrors (sent (send_machine_updates first.exchange_id opening.machines handler)) _
    rw [sent_updates]
    apply mirrors_append
    rw [day.keys day.opens]
    exact day.nodup
  constructor
  · intro follows a bucket isActive'
    obtain ⟨_, other, isActive'', mirrors'⟩ := follows [] first ⟨rest, rfl⟩
    rw [isActive'.unique isActive'']
    refine Mirrors.eq mirrors' mirrors ?_
    rw [day.keys isActive''.here, day.keys day.opens]
  · intro equal earlier tick upTo
    have tracking : Tracking schedule (monitor_active_time_bucket date_of first handler) a₀ bucket₀ := by
      refine ⟨isActive.here, by rw [result]; rfl, by rw [result], ?_⟩
      rw [equal a₀ bucket₀ isActive]
      exact mirrors
    cases earlier with
    | nil =>
      rw [List.nil_append, List.cons_prefix_cons] at upTo
      rw [upTo.1]
      exact ⟨a₀, bucket₀, isActive, tracking.mirrors⟩
    | cons e earlier =>
      rw [List.cons_append, List.cons_prefix_cons] at upTo
      obtain ⟨rfl, upTo⟩ := upTo
      have kept := monitor_keeps_schedules date_of e handler
      have found : ∀ t ∈ rest, (monitor_active_time_bucket date_of e handler).master_schedule (date_of t.now) =
          some schedule := by
        intro t member
        rw [kept]
        exact seen t (by simp [member])
      exact tracking_follows day found (fun t member => started t (by simp [member])) tracking upTo

def freshHandler : Handler where
  master_schedule _ := some reservedNext
  active_time_bucket_index := -1
  previous_time_bucket_index := -1
  published := []

def tickAt (now : ℚ) : Tick := ⟨now, fun _ => 0⟩

theorem reservedNext_day : DaySchedule reservedNext reservedNext[0] [1] where
  opens := rfl
  rising := by decide
  ordered := by decide
  nodup := by decide

theorem first_active : Active reservedNext 10 0 reservedNext[0] where
  here := rfl
  started := by norm_num [reservedNext]
  last j later after at_j := by
    have := (List.getElem?_eq_some_iff.mp at_j).1
    obtain rfl : j = 1 := by simp [reservedNext] at this; omega
    cases at_j
    norm_num

theorem second_active : Active reservedNext 310 1 reservedNext[1] where
  here := rfl
  started := by norm_num [reservedNext]
  last j later after at_j := by
    have := (List.getElem?_eq_some_iff.mp at_j).1
    simp [reservedNext] at this
    omega

theorem early_start_follows :
    Follows reservedNext 310 (Runs.run (step fun _ => ⟨1970, 1, 1⟩) freshHandler [tickAt 10, tickAt 310]).2 := by
  have due : ∀ tick ∈ [tickAt 10, tickAt 310], (reservedNext[0].timestamp : ℚ) ≤ tick.now := by
    simp [tickAt, reservedNext]
  refine (machines_follow_iff reservedNext_day (fun _ _ => rfl) due rfl rfl).mpr ?_ [tickAt 10] (tickAt 310) List.prefix_rfl
  intro a bucket isActive
  rw [isActive.unique first_active]

/-- A handler started in the second bucket sends the statuses of the first. -/
theorem late_start_strays :
    ¬ ∀ (date_of : ℚ → Date) (schedule : Schedule) (opening : TimeBucket) (machines : List Int) (handler : Handler)
      (ticks : List Tick), DaySchedule schedule opening machines →
      (∀ tick ∈ ticks, handler.master_schedule (date_of tick.now) = some schedule) →
      (∀ tick ∈ ticks, (opening.timestamp : ℚ) ≤ tick.now) → ticks.Pairwise (fun t t' => t.now ≤ t'.now) →
      handler.active_time_bucket_index = -1 → handler.previous_time_bucket_index = -1 →
      ∀ earlier tick, earlier ++ [tick] <+: ticks →
        Follows schedule tick.now (Runs.run (step date_of) handler (earlier ++ [tick])).2 := by
  intro claim
  have due : ∀ tick ∈ [tickAt 310], (reservedNext[0].timestamp : ℚ) ≤ tick.now := by simp [tickAt, reservedNext]
  obtain ⟨a, bucket, isActive, mirrors⟩ := claim (fun _ => ⟨1970, 1, 1⟩) reservedNext _ _ freshHandler [tickAt 310]
    reservedNext_day (fun _ _ => rfl) due (List.pairwise_singleton _ _) rfl rfl [] (tickAt 310) List.prefix_rfl
  rw [isActive.unique second_active] at mirrors
  have wanted := mirrors (1, .Reserved) (by decide)
  have stayed : latest (sent (Runs.run (step fun _ => ⟨1970, 1, 1⟩) freshHandler [tickAt 310]).2) 1 =
      some .Available := by decide +kernel
  rw [List.nil_append, stayed] at wanted
  cases wanted

end DispenserHub.Monitoring
