import DispenserHub.Booking
import DispenserHub.Manager

/-!
Three readings of `check_availability` returning `True`. The seconds of the
session are free although its start is rounded to a bucket; a shorter session
for fewer machines on a freer schedule passes too; but a machine that a bucket
does not list is never missed.
-/

namespace DispenserHub.PassedCheck
open EStateM (Result)
open Messages Buckets FileIo Effects MasterSchedule Availability Reservation Grid Booking Manager

/-- A bucket whose five minutes meet the seconds of a session lies in the
    window of the check. -/
theorem overlap_in_window {schedule : Schedule} (spaced : Spaced TIME_BUCKET_SIZE (timestamps schedule))
    {i j : ℕ} {matched bucket : TimeBucket} (at_i : schedule[i]? = some matched)
    (at_j : schedule[j]? = some bucket) {start : ℚ} {d : Int} (lasting : 1 ≤ d)
    (close : |(matched.timestamp : ℚ) - start| < (TIME_BUCKET_SIZE : ℚ) / 2)
    (begins : (bucket.timestamp : ℚ) < start + d) (ends : start < bucket.timestamp + TIME_BUCKET_SIZE) :
    InWindow i d j := by
  have steps := spaced.sub_rat (timestamp_at at_i) (timestamp_at at_j)
  have long : (1 : ℚ) ≤ d := by exact_mod_cast lasting
  simp only [TIME_BUCKET_SIZE] at close ends steps
  push_cast at close ends steps
  rw [abs_lt] at close
  have early : (i : ℚ) < j + 2 := by linarith
  have late : (j : ℚ) < i + d + 1 := by linarith
  have early' : i < j + 2 := by exact_mod_cast early
  have late' : (j : Int) < i + d + 1 := by exact_mod_cast late
  rw [inWindow_iff (by omega)]
  unfold BUFFER_SIZE
  omega

/-- A passed check promises the seconds of the session, from a start anywhere
    between two timestamps: they end within the last bucket, and the requested
    machines are available in every bucket that they meet. -/
theorem accepted_interval_free {schedule : Schedule} (spaced : Spaced TIME_BUCKET_SIZE (timestamps schedule))
    {machine_ids : List Int} {start : ℚ} {d : Int} (lasting : 1 ≤ d)
    (passed : check_availability machine_ids (.finite start) d schedule = true) :
    (∃ last, schedule.getLast? = some last ∧ start + d ≤ last.timestamp + TIME_BUCKET_SIZE) ∧
    ∀ bucket ∈ schedule, (bucket.timestamp : ℚ) < start + d → start < bucket.timestamp + TIME_BUCKET_SIZE →
      ∀ m ∈ bucket.machines, m.machine_id ∈ machine_ids → m.status = .Available := by
  obtain ⟨i, found, room, free⟩ := (check_availability_iff _ _ _ _).mp passed
  obtain ⟨matched, _, at_i, same, close⟩ := start_index_some found
  cases same
  constructor
  · have inside := room (by omega)
    have filled : schedule.length - 1 < schedule.length := by omega
    refine ⟨schedule[schedule.length - 1], by rw [List.getLast?_eq_getElem?, List.getElem?_eq_getElem filled], ?_⟩
    have steps := spaced.sub_rat (timestamp_at at_i) (timestamp_at (List.getElem?_eq_getElem filled))
    have far : (d : ℚ) ≤ ((schedule.length - 1 : ℕ) : ℚ) - i + 1 := by
      have : d ≤ ((schedule.length - 1 : ℕ) : Int) - i + 1 := by omega
      exact_mod_cast this
    have long : (1 : ℚ) ≤ d := by exact_mod_cast lasting
    simp only [TIME_BUCKET_SIZE] at close steps ⊢
    push_cast at close steps ⊢
    rw [abs_lt] at close
    linarith
  · intro bucket member begins ends
    obtain ⟨j, at_j⟩ := List.mem_iff_getElem?.mp member
    exact free j (overlap_in_window spaced at_i at_j lasting close begins ends) bucket at_j

/-- Two seconds from 140 s on, in a day of four free buckets. -/
theorem accepted_interval_free_unaligned :
    (∃ last, (openDay 4).getLast? = some last ∧ (140 : ℚ) + 2 ≤ last.timestamp + TIME_BUCKET_SIZE) ∧
    ∀ bucket ∈ openDay 4, (bucket.timestamp : ℚ) < 140 + 2 → (140 : ℚ) < bucket.timestamp + TIME_BUCKET_SIZE →
      ∀ m ∈ bucket.machines, m.machine_id ∈ [1] → m.status = .Available := by
  have spaced : Spaced TIME_BUCKET_SIZE (timestamps (openDay 4)) := by decide
  have passed : check_availability [1] (.finite 140) 2 (openDay 4) = true := by decide +kernel
  exact_mod_cast accepted_interval_free spaced (by decide) passed

/-- A schedule with the same timestamps and machines in which every entry that
    was available still is. -/
structure Freer (schedule freer : Schedule) : Prop where
  times : timestamps freer = timestamps schedule
  ids : freer.map (fun bucket => bucket.machines.map Machine.machine_id) =
    schedule.map fun bucket => bucket.machines.map Machine.machine_id
  stays : ∀ j k m m', entry schedule j k = some m → entry freer j k = some m' →
    m.status = .Available → m'.status = .Available

theorem Freer.refl (schedule : Schedule) : Freer schedule schedule := by
  refine ⟨rfl, rfl, ?_⟩
  intro j k m m' here there available
  rw [here] at there
  cases there
  exact available

/-- An entry of a freer schedule has a counterpart for the same machine. -/
theorem Freer.entry {schedule freer : Schedule} (more : Freer schedule freer) {j k : ℕ} {m' : Machine}
    (there : entry freer j k = some m') : ∃ m, entry schedule j k = some m ∧ m.machine_id = m'.machine_id := by
  have ids (s : Schedule) : (s.map fun bucket => bucket.machines.map Machine.machine_id)[j]?.bind (fun row => row[k]?) =
      (Buckets.entry s j k).map Machine.machine_id := by
    cases at_j : s[j]? <;> simp [Buckets.entry, at_j]
  have same := ids freer
  rw [more.ids, ids schedule, there] at same
  obtain ⟨m, here, equal⟩ := Option.map_eq_some_iff.mp same
  exact ⟨m, here, equal⟩

theorem Freer.free {schedule freer : Schedule} (more : Freer schedule freer) {few many : List Int}
    (subset : few ⊆ many) {j : ℕ} (free : Free many schedule j) : Free few freer j := by
  intro bucket' at_j m' member requested
  obtain ⟨k, at_k⟩ := List.mem_iff_getElem?.mp member
  have there : Buckets.entry freer j k = some m' := by simp [Buckets.entry, at_j, at_k]
  obtain ⟨m, here, same⟩ := more.entry there
  refine more.stays j k m m' here there ?_
  obtain ⟨bucket, at_j', at_k'⟩ := Option.bind_eq_some_iff.mp here
  exact free bucket at_j' m (List.mem_of_getElem? at_k') (by rw [same]; exact subset requested)

/-- Availability is monotone: a check that passes also passes for fewer
    machines, fewer seconds and on a freer schedule. What matters of the list of
    machines is only which ones it names. -/
theorem availability_monotone {schedule freer : Schedule} (more : Freer schedule freer) {few many : List Int}
    (subset : few ⊆ many) {shorter d : Int} (forward : 0 ≤ shorter) (shorten : shorter ≤ d)
    (start_time : PyFloat) :
    (check_availability many start_time d schedule = true →
      check_availability few start_time shorter freer = true) ∧
    (many ⊆ few → check_availability few start_time d schedule = check_availability many start_time d schedule) := by
  constructor
  · intro passed
    obtain ⟨i, found, room, free⟩ := (check_availability_iff _ _ _ _).mp passed
    rw [check_availability_iff, start_index_congr more.times, length_of_timestamps more.times]
    refine ⟨i, found, ?_, fun j inside => more.free subset (free j ?_)⟩
    · intro positive
      have := room (by omega)
      omega
    · -- Both windows are without a hole, and the shorter one is inside the other.
      rw [inWindow_iff forward] at inside
      rw [inWindow_iff (by omega)]
      omega
  · intro subset'
    exact check_availability_congr (fun id => ⟨fun known => subset known, fun known => subset' known⟩) start_time d schedule

/-- Two seconds on machine 1, asked for in a list that repeats it. -/
theorem availability_monotone_repeated :
    (check_availability [1, 1] (.finite 0) 2 (openDay 4) = true →
      check_availability [1] (.finite 0) 1 (openDay 4) = true) ∧
    (([1, 1] : List Int) ⊆ [1] →
      check_availability [1] (.finite 0) 2 (openDay 4) = check_availability [1, 1] (.finite 0) 2 (openDay 4)) := by
  have subset : ([1] : List Int) ⊆ [1, 1] := by decide
  have shorten : (1 : Int) ≤ 2 := by decide
  exact availability_monotone (Freer.refl (openDay 4)) subset (by decide) shorten (.finite 0)

/-- Every machine of a session is listed in each of its buckets, counted from
    the one its start matches. -/
def SessionListed (session : Session) (d : Int) (schedule : Schedule) : Prop :=
  ∀ i, start_index schedule session.start_time = some i → ∀ j : ℕ, i ≤ j → (j : Int) < i + num_buckets d →
    ∀ id ∈ session.machine_ids, ∃ bucket, schedule[j]? = some bucket ∧ ∃ m ∈ bucket.machines, m.machine_id = id

/-- A call has reserved a cell for a machine: in a bucket of the session an entry
    of the machine was available before, and holds the session after. -/
def ReservesCell (session : Session) (d : Int) (id : Int) (before after : Schedule) : Prop :=
  ∃ i, start_index before session.start_time = some i ∧ ∃ j k : ℕ, i ≤ j ∧ (j : Int) < i + num_buckets d ∧
    ∃ m m', entry before j k = some m ∧ m.machine_id = id ∧ m.status = .Available ∧
      entry after j k = some m' ∧ m'.machine_id = id ∧ m'.status = .Reserved ∧ m'.session_id = some session.session_id

/-- The check passes only on a session whose machines are listed, and
    `add_session` returns `True` only when it has reserved a cell for every machine. -/
structure OnlyListed (site : Site) (env : Env) (session : Session) (d : Int) (schedule : Schedule) (w : World) :
    Prop where
  checked : check_availability session.machine_ids session.start_time d schedule = true →
    SessionListed session d schedule
  added : answer (EStateM.run (add_session site .complete env session) w) = .ok true →
    ∃ later, (final (EStateM.run (add_session site .complete env session) w)).master_schedule
        (site.date_of session.start_time) = some later ∧
      ∀ id ∈ session.machine_ids, ReservesCell session d id schedule later

/-- Why a schedule cannot take a session of `d`: its start is near no bucket, it
    ends after the last one, or one of its machines is taken in its buckets or in
    the buffers around them. -/
inductive NoRoom (session : Session) (d : Int) (schedule : Schedule) : Prop where
  | unmatched (nowhere : start_index schedule session.start_time = none)
  | too_long (i : ℕ) (matched : start_index schedule session.start_time = some i) (past : (schedule.length : Int) < i + d)
  | taken (i j : ℕ) (matched : start_index schedule session.start_time = some i) (inside : InWindow i d j)
      (bucket : TimeBucket) (at_j : schedule[j]? = some bucket) (m : Machine) (member : m ∈ bucket.machines)
      (requested : m.machine_id ∈ session.machine_ids) (busy : m.status ≠ .Available)

theorem refused_iff_noRoom (session : Session) {d : Int} (lasting : 1 ≤ d) (schedule : Schedule) :
    check_availability session.machine_ids session.start_time d schedule ≠ true ↔ NoRoom session d schedule := by
  rw [ne_eq, check_availability_iff]
  constructor
  · intro refused
    cases matched : start_index schedule session.start_time with
    | none => exact .unmatched matched
    | some i =>
      by_cases past : (schedule.length : Int) < i + d
      · exact .too_long i matched past
      · have crowded : ¬ ∀ j, InWindow i d j → Free session.machine_ids schedule j :=
          fun free => refused ⟨i, matched, fun _ => not_lt.mp past, free⟩
        simp only [not_forall, Free] at crowded
        obtain ⟨j, inside, bucket, at_j, m, member, requested, busy⟩ := crowded
        exact .taken i j matched inside bucket at_j m member requested busy
  · rintro full ⟨i, matched, room, free⟩
    cases full with
    | unmatched nowhere => simp [nowhere] at matched
    | too_long i' matched' past =>
      cases matched.symm.trans matched'
      have := room (by omega)
      omega
    | taken i' j matched' inside bucket at_j m member requested busy =>
      cases matched.symm.trans matched'
      exact busy (free j inside bucket at_j m member requested)

/-- A cell of a reserved bucket, before and after. -/
theorem reserved_cell (env : Env) {session : Session} {indices : List ℕ} {schedule : Schedule} {j k : ℕ}
    {m : Machine} (at_cell : entry schedule j k = some m) (inside : j ∈ indices)
    (requested : m.machine_id ∈ session.machine_ids) :
    ∃ m', entry (reserved_schedule env session indices schedule) j k = some m' ∧ m'.machine_id = m.machine_id ∧
      m'.status = .Reserved ∧ m'.session_id = some session.session_id := by
  obtain ⟨bucket, at_j, at_k⟩ := Option.bind_eq_some_iff.mp at_cell
  refine ⟨reserved session (env.clock j (1 + k)) m, ?_, ?_⟩
  · simp [Buckets.entry, reserved_schedule_at, at_j, inside, reserved_bucket, at_k]
  · simp [reserved, requested]

/-- The code books listed machines only, exactly on the sessions all of whose
    machines are listed in all of their buckets, and on those that the schedule
    cannot take anyway. -/
theorem only_listed_booked_iff {site : Site} (exact : MatchedRange site) (env : Env) {session : Session} {d : Int}
    (lasting : 1 ≤ d) (lasts : session.duration = some (.int d)) {w : World} {schedule : Schedule}
    (loaded : w.master_schedule (site.date_of session.start_time) = some schedule) :
    OnlyListed site env session d schedule w ↔ SessionListed session d schedule ∨ NoRoom session d schedule := by
  have room_iff := refused_iff_noRoom session lasting schedule
  constructor
  · intro only
    by_cases passed : check_availability session.machine_ids session.start_time d schedule = true
    · exact .inl (only.checked passed)
    · exact .inr (room_iff.mp passed)
  · intro condition
    have checked : check_availability session.machine_ids session.start_time d schedule = true →
        SessionListed session d schedule := by
      intro passed
      rcases condition with listed | full
      · exact listed
      · exact absurd passed (room_iff.mpr full)
    refine ⟨checked, ?_⟩
    intro accepted
    obtain ⟨_, _, passed, _, result⟩ :=
      granted_of_accepted site env exact.inRange (scheduleOf_loaded env loaded) lasts accepted
    refine ⟨_, by rw [result, updated_same], ?_⟩
    intro id requested
    obtain ⟨i, matched, _, free⟩ := (check_availability_iff _ _ _ _).mp passed
    have some_bucket := (num_buckets_bounds lasting).1
    obtain ⟨bucket, at_i, m, member, same⟩ := checked passed i matched i le_rfl (by omega) id requested
    obtain ⟨k, at_k⟩ := List.mem_iff_getElem?.mp member
    have at_cell : entry schedule i k = some m := by simp [Buckets.entry, at_i, at_k]
    have asked : m.machine_id ∈ session.machine_ids := by rw [same]; exact requested
    have available := free i (.inl ⟨le_rfl, by omega⟩) bucket at_i m member asked
    have inside : i ∈ site.get_time_bucket_range schedule session.start_time (end_time session) := by
      rw [exact.range lasts matched, List.mem_range'_1]
      omega
    obtain ⟨m', at_cell', same', marks⟩ := reserved_cell env at_cell inside asked
    exact ⟨i, matched, i, k, le_rfl, by omega, m, m', at_cell, same, available, at_cell', same'.trans same, marks⟩

/-- One second on a machine of the third floor, which no schedule lists. -/
def thirdFloor : Session := { second 0 with machine_id := [11] }

theorem listed_machine_booked : OnlyListed firstDay plainEnv (second 0) 1 (openDay 1) (worldOf (openDay 1)) := by
  refine (only_listed_booked_iff firstDay_matched plainEnv (by decide) rfl (worldOf_loaded _)).mpr (.inl ?_)
  intro i matched j first last id requested
  have here : start_index (openDay 1) (second 0).start_time = some 0 := by decide +kernel
  rw [here] at matched
  cases matched
  have single : num_buckets 1 = 1 := by decide
  obtain rfl : j = 0 := by omega
  obtain rfl : id = 1 := by simpa [Session.machine_ids, second] using requested
  exact ⟨(openDay 1)[0], rfl, by decide⟩

theorem third_floor_booked :
    ¬ ∀ site : Site, MatchedRange site → ∀ (env : Env) (session : Session) (d : Int), 1 ≤ d →
      session.duration = some (.int d) → ∀ (w : World) (schedule : Schedule),
      w.master_schedule (site.date_of session.start_time) = some schedule →
      OnlyListed site env session d schedule w := by
  intro claim
  have only := claim firstDay firstDay_matched plainEnv thirdFloor 1 (by decide) rfl (worldOf (openDay 1))
    (openDay 1) (worldOf_loaded _)
  obtain ⟨later, _, reserves⟩ := only.added (by decide +kernel)
  obtain ⟨_, _, j, k, _, _, m, _, at_cell, same, _⟩ := reserves 11 (by decide)
  obtain ⟨bucket, at_j, at_k⟩ := Option.bind_eq_some_iff.mp at_cell
  have ids := (openDay_blank 1 bucket (List.mem_of_getElem? at_j)).1
  have listed := List.mem_map_of_mem (f := Machine.machine_id) (List.mem_of_getElem? at_k)
  rw [ids, same] at listed
  simp at listed

end DispenserHub.PassedCheck
