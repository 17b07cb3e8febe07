import DispenserHub.Monitoring

/-!
The iterations of `monitor_active_time_bucket` over a shared dictionary that other
processes write between them: sessions are added, machines updated, a day begins.
An iteration compares two buckets of the schedule that it finds, the active one
and the one that was active before. What was changed in both is never sent.
-/

namespace DispenserHub.Handovers
open Messages Buckets MachineHandler Mirror Monitoring

/-- An iteration, and what the shared dictionary holds when it is made. -/
structure Iteration where
  tick : Tick
  master_schedule : Date → Option Schedule

variable (date_of : ℚ → Date)

def step (handler : Handler) (iteration : Iteration) : Unit × Handler :=
  ((), monitor_active_time_bucket date_of iteration.tick { handler with master_schedule := iteration.master_schedule })

def Iteration.finds (iteration : Iteration) : Bool := (iteration.master_schedule (date_of iteration.tick.now)).isSome

def Iteration.today_schedule (iteration : Iteration) : Schedule :=
  (iteration.master_schedule (date_of iteration.tick.now)).getD []

/-- The index of the bucket that is active in the iteration. -/
def Iteration.active (iteration : Iteration) : ℕ :=
  (active_index iteration.tick.now (iteration.today_schedule date_of) 0 (-1)).toNat

def status_in (schedule : Schedule) (index : ℕ) (id : Int) : Option Status :=
  schedule[index]?.bind fun bucket => latest (statuses bucket.machines) id

/-- The status of a machine in the active bucket. -/
def Iteration.status (iteration : Iteration) (id : Int) : Option Status :=
  status_in (iteration.today_schedule date_of) (iteration.active date_of) id

/-- Where the schedule found later has a machine's status in the active bucket
    as in the bucket that was active before, the schedule found before has it so too. -/
def HandsOver (id : Int) (before after : Iteration) : Prop :=
  after.status date_of id = status_in (after.today_schedule date_of) (before.active date_of) id →
    before.status date_of id = after.status date_of id

instance (id : Int) (before after : Iteration) : Decidable (HandsOver date_of id before after) :=
  inferInstanceAs (Decidable (_ → _))

/-- The schedule found is a day's schedule with `n` buckets, and the day has begun. -/
structure Iteration.Day (machines : List Int) (n : ℕ) (iteration : Iteration) : Prop where
  day : ∃ opening, DaySchedule (iteration.today_schedule date_of) opening machines ∧
    (opening.timestamp : ℚ) ≤ iteration.tick.now
  buckets : (iteration.today_schedule date_of).length = n

variable {date_of}

theorem Iteration.found {iteration : Iteration} (finds : iteration.finds date_of = true) :
    iteration.master_schedule (date_of iteration.tick.now) = some (iteration.today_schedule date_of) := by
  obtain ⟨schedule, found⟩ := Option.isSome_iff_exists.mp finds
  rw [Iteration.today_schedule, found, Option.getD_some]

variable {machines : List Int} {n : ℕ} {iteration : Iteration} {handler : Handler}

/-- Once a day has begun, which bucket is active does not depend on the index before. -/
theorem active_index_begun {schedule : Schedule} {opening : TimeBucket} (opens : schedule[0]? = some opening) {now : ℚ}
    (started : (opening.timestamp : ℚ) ≤ now) (index : Int) :
    active_index now schedule 0 index = active_index now schedule 0 (-1) := by
  cases schedule with
  | nil => cases opens
  | cons first rest =>
    cases opens
    simp only [active_index, gt_iff_lt, not_lt.mpr started, if_false]

theorem Iteration.Day.at_active (isDay : iteration.Day date_of machines n) :
    ∃ bucket, (iteration.today_schedule date_of)[iteration.active date_of]? = some bucket ∧
      ∀ index, active_index iteration.tick.now (iteration.today_schedule date_of) 0 index = iteration.active date_of := by
  obtain ⟨opening, day, started⟩ := isDay.day
  obtain ⟨a, bucket, isActive, found⟩ := day.index started (-1)
  have here : iteration.active date_of = a := by rw [Iteration.active, found, Int.toNat_natCast]
  refine ⟨bucket, by rw [here]; exact isActive.here, ?_⟩
  intro index
  rw [active_index_begun day.opens started, found, here]

theorem Iteration.Day.keys (isDay : iteration.Day date_of machines n) {j : ℕ} {bucket : TimeBucket}
    (here : (iteration.today_schedule date_of)[j]? = some bucket) : (statuses bucket.machines).map Prod.fst = machines := by
  obtain ⟨opening, day, _⟩ := isDay.day
  exact day.keys here

theorem Iteration.Day.active_lt (isDay : iteration.Day date_of machines n) : iteration.active date_of < n := by
  obtain ⟨bucket, here, _⟩ := isDay.at_active
  rw [← isDay.buckets]
  exact (List.getElem?_eq_some_iff.mp here).1

theorem step_unseen (absent : iteration.finds date_of = false) :
    (step date_of handler iteration).2 = { handler with master_schedule := iteration.master_schedule } := by
  have missing : iteration.master_schedule (date_of iteration.tick.now) = none := by
    simpa [Iteration.finds] using absent
  simp [step, monitor_active_time_bucket, missing]

/-- The changes from one bucket of the schedule found to the other are sent,
    whether or not the index has changed. -/
theorem step_sends (finds : iteration.finds date_of = true) (isDay : iteration.Day date_of machines n) {p : ℕ}
    (previous : handler.previous_time_bucket_index = p) {before : TimeBucket}
    (at_p : (iteration.today_schedule date_of)[p]? = some before) {current : TimeBucket}
    (at_a : (iteration.today_schedule date_of)[iteration.active date_of]? = some current) :
    (step date_of handler iteration).2.previous_time_bucket_index = iteration.active date_of ∧
      sent (step date_of handler iteration).2 =
        sent handler ++ changes (statuses current.machines) (statuses before.machines) := by
  obtain ⟨_, _, found⟩ := isDay.at_active
  simp only [step, monitor_active_time_bucket, Iteration.found finds, found]
  by_cases moved : (iteration.active date_of : Int) ≠ handler.previous_time_bucket_index
  · rw [if_pos moved]
    obtain ⟨after, updated, active, grown⟩ := update_sends iteration.tick.exchange_id
      { handler with
        master_schedule := iteration.master_schedule, active_time_bucket_index := iteration.active date_of }
      at_a at_p rfl previous
    rw [updated]
    exact ⟨active, grown⟩
  · rw [if_neg moved]
    have stays := not_not.mp moved
    obtain rfl : iteration.active date_of = p := by rw [previous] at stays; exact_mod_cast stays
    obtain rfl : current = before := Option.some.inj (at_a.symm.trans at_p)
    refine ⟨previous, ?_⟩
    rw [changes_self, List.append_nil]
    rfl

/-- What was last sent for a machine after an iteration: its status in the active
    bucket, unless the two buckets compared agree on it. -/
theorem step_told (finds : iteration.finds date_of = true) (isDay : iteration.Day date_of machines n) {p : ℕ}
    (previous : handler.previous_time_bucket_index = p) (inside : p < n) (id : Int) :
    (step date_of handler iteration).2.previous_time_bucket_index = iteration.active date_of ∧
      latest (sent (step date_of handler iteration).2) id =
        if iteration.status date_of id = status_in (iteration.today_schedule date_of) p id then latest (sent handler) id
        else iteration.status date_of id := by
  obtain ⟨current, at_a, _⟩ := isDay.at_active
  rw [← isDay.buckets] at inside
  have at_p := List.getElem?_eq_getElem inside
  obtain ⟨active, grown⟩ := step_sends finds isDay previous at_p at_a
  have aligned := (isDay.keys at_a).trans (isDay.keys at_p).symm
  have once : ((statuses current.machines).map Prod.fst).Nodup := by
    obtain ⟨opening, day, _⟩ := isDay.day
    rw [isDay.keys at_a]
    exact day.nodup
  refine ⟨active, ?_⟩
  rw [grown, latest_changes _ aligned once]
  simp [Iteration.status, status_in, at_a, at_p]

/-- The first iteration sends the first bucket. -/
theorem first_told (finds : iteration.finds date_of = true) (isDay : iteration.Day date_of machines n)
    (previous : handler.previous_time_bucket_index = -1) {id : Int} (listed : id ∈ machines) :
    (step date_of handler iteration).2.previous_time_bucket_index = iteration.active date_of ∧
      latest (sent (step date_of handler iteration).2) id = status_in (iteration.today_schedule date_of) 0 id := by
  obtain ⟨_, _, found⟩ := isDay.at_active
  obtain ⟨opening, day, _⟩ := isDay.day
  have first : item (iteration.today_schedule date_of) 0 = some opening := (item_nat _ 0).trans day.opens
  have moved : (iteration.active date_of : Int) ≠ -1 := by omega
  have among : id ∈ (statuses opening.machines).map Prod.fst := by
    rw [isDay.keys day.opens]
    exact listed
  obtain ⟨status, told, _⟩ := latest_mem among
  have fresh : (iteration.active date_of : Int) ≠ handler.previous_time_bucket_index := by rw [previous]; exact moved
  simp only [step, monitor_active_time_bucket, Iteration.found finds, found, if_pos fresh, update_active_time_bucket,
    if_pos previous, first, Option.bind_eq_bind, Option.bind_some, Option.pure_def]
  refine ⟨rfl, ?_⟩
  have whole := sent_updates iteration.tick.exchange_id opening.machines
    { handler with
      master_schedule := iteration.master_schedule, active_time_bucket_index := iteration.active date_of }
  show latest (sent (send_machine_updates iteration.tick.exchange_id opening.machines _)) id = _
  rw [whole, latest_append, told, Option.some_or, status_in, day.opens, Option.bind_some, told]

/-- The last iteration that found a schedule, and the index it left. -/
structure At (date_of : ℚ → Date) (machines : List Int) (n : ℕ) (iteration : Iteration) (handler : Handler) : Prop where
  isDay : iteration.Day date_of machines n
  previous : handler.previous_time_bucket_index = iteration.active date_of

/-- The last status sent for the machine is the one in the active bucket. -/
def Told (date_of : ℚ → Date) (id : Int) (iteration : Iteration) (handler : Handler) : Prop :=
  latest (sent handler) id = iteration.status date_of id

theorem step_handsOver (finds : iteration.finds date_of = true) (isDay : iteration.Day date_of machines n) {id : Int}
    {before : Iteration} (stands : At date_of machines n before handler) :
    At date_of machines n iteration (step date_of handler iteration).2 ∧
      (Told date_of id before handler →
        (Told date_of id iteration (step date_of handler iteration).2 ↔ HandsOver date_of id before iteration)) := by
  obtain ⟨active, told⟩ := step_told finds isDay stands.previous stands.isDay.active_lt id
  refine ⟨⟨isDay, active⟩, ?_⟩
  intro wasTold
  have last : latest (sent handler) id = before.status date_of id := wasTold
  rw [Told, told, last, HandsOver]
  split
  · next same => simp [same]
  · next differ => simp [differ]

/-- A machine is told what the active bucket says after every iteration exactly
    when the first one starts right and each hands over to the next. -/
theorem machine_follows_iff (fresh : handler.previous_time_bucket_index = -1) {iterations : List Iteration}
    (days : ∀ iteration ∈ iterations, iteration.finds date_of = true → iteration.Day date_of machines n) {id : Int}
    (listed : id ∈ machines) :
    (∀ earlier iteration, earlier ++ [iteration] <+: iterations → iteration.finds date_of = true →
        Told date_of id iteration (Runs.run (step date_of) handler (earlier ++ [iteration])).2) ↔
      (∀ first ∈ (iterations.filter (Iteration.finds date_of)).head?,
        status_in (first.today_schedule date_of) 0 id = first.status date_of id) ∧
        (iterations.filter (Iteration.finds date_of)).IsChain (HandsOver date_of id) := by
  induction iterations generalizing handler with
  | nil => simp
  | cons first rest ih =>
    have later := fun iteration (member : iteration ∈ rest) => days iteration (List.mem_cons_of_mem first member)
    rw [Runs.always_cons (step date_of) fun iteration h => iteration.finds date_of = true → Told date_of id iteration h]
    cases finds : first.finds date_of with
    | false =>
      have unmoved : (step date_of handler first).2.previous_time_bucket_index = -1 := by rw [step_unseen finds, fresh]
      rw [List.filter_cons_of_neg (by simp [finds]), ← ih unmoved later]
      simp
    | true =>
      have isDay := days first (by simp) finds
      obtain ⟨active, told⟩ := first_told finds isDay fresh listed
      rw [List.filter_cons_of_pos finds, List.head?_cons]
      simp only [Option.mem_some_iff, forall_eq', true_implies]
      have opens : Told date_of id first (step date_of handler first).2 ↔
          status_in (first.today_schedule date_of) 0 id = first.status date_of id := by rw [Told, told]
      rw [opens]
      refine and_congr_right fun right => Runs.run_always_iff_chain (step date_of) (Iteration.finds date_of)
        (fun iteration => iteration.finds date_of = true → iteration.Day date_of machines n) (At date_of machines n)
        (Told date_of id) (HandsOver date_of id) ?_ ?_ ⟨isDay, active⟩ (opens.mpr right) rest later
      · intro before h iteration unseen stands
        rw [step_unseen unseen]
        exact ⟨⟨stands.isDay, stands.previous⟩, fun told => told⟩
      · intro before h iteration allowed shown stands
        exact step_handsOver shown (allowed shown) stands

def date_of_second (now : ℚ) : Date := if now < 600 then ⟨1970, 1, 1⟩ else ⟨1970, 1, 2⟩

/-- A day after `reservedNext`, with these statuses for its two buckets. -/
def nextDay (first second : Status) : Schedule :=
  [⟨600, [Machine.create 1 first (.finite 0)]⟩, ⟨900, [Machine.create 1 second (.finite 0)]⟩]

def overMidnight (next : Schedule) : List Iteration :=
  [10, 310, 610].map fun now =>
    ⟨tickAt now, fun date => if date = ⟨1970, 1, 1⟩ then some reservedNext else some next⟩

theorem overMidnight_days (first second : Status) :
    ∀ iteration ∈ overMidnight (nextDay first second), iteration.finds date_of_second = true →
      iteration.Day date_of_second [1] 2 := by
  have isDay : DaySchedule (nextDay first second) ⟨600, [Machine.create 1 first (.finite 0)]⟩ [1] :=
    ⟨rfl, by simp [timestamps, nextDay], by simp [nextDay, Machine.create], by simp⟩
  intro iteration member _
  simp only [overMidnight, List.map_cons, List.map_nil, List.mem_cons, List.not_mem_nil, or_false] at member
  rcases member with rfl | rfl | rfl
  · exact ⟨⟨_, reservedNext_day, by norm_num [reservedNext, tickAt]⟩, rfl⟩
  · exact ⟨⟨_, reservedNext_day, by norm_num [reservedNext, tickAt]⟩, rfl⟩
  · exact ⟨⟨_, isDay, by norm_num [tickAt]⟩, rfl⟩

/-- A machine reserved at the end of a day is told of the next day's start where its
    status changes in the course of that day, and not where it is available throughout. -/
theorem reserved_over_midnight :
    (∀ earlier iteration, earlier ++ [iteration] <+: overMidnight (nextDay .Available .Reserved) →
        iteration.finds date_of_second = true →
        Told date_of_second 1 iteration (Runs.run (step date_of_second) freshHandler (earlier ++ [iteration])).2) ∧
      ¬ ∀ earlier iteration, earlier ++ [iteration] <+: overMidnight (nextDay .Available .Available) →
        iteration.finds date_of_second = true →
        Told date_of_second 1 iteration (Runs.run (step date_of_second) freshHandler (earlier ++ [iteration])).2 := by
  constructor
  · exact (machine_follows_iff rfl (overMidnight_days _ _) (by simp)).mpr (by decide +kernel)
  · rw [machine_follows_iff rfl (overMidnight_days _ _) (by simp)]
    decide +kernel

end DispenserHub.Handovers
