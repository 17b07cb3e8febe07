import DispenserHub.Booking
import DispenserHub.ScheduleManager

/-!
`add_session` of `schedule/scheduler.py` beside the archived
`add_session_to_schedule`. The new one finds the bucket closest to the start,
checks a wider window and writes afterwards; the old one wants the start itself
and checks and writes in turn. A session that the new one accepts, the old one
accepts too, and both leave the same machines with the same statuses and
sessions.
-/

namespace DispenserHub.Rewrite
open Messages Buckets Effects MasterSchedule Availability Reservation ScheduleManager Grid Booking

/-- What a booking decides of a schedule: the timestamps, and the machine, the
    status and the session of every record. -/
def cells (schedule : Schedule) : List (Int × List (Int × Status × Option Int)) :=
  schedule.map fun bucket => (bucket.timestamp, bucket.machines.map fun m => (m.machine_id, m.status, m.session_id))

/-- Every bucket lists the given machines, once each and in any order. -/
def Lists (machines : List Int) (schedule : Schedule) : Prop :=
  ∀ bucket ∈ schedule, (bucket.machines.map Machine.machine_id).Nodup ∧
    ∀ id, id ∈ bucket.machines.map Machine.machine_id ↔ id ∈ machines

/-- What both paths take for granted of a request. -/
structure Proper (machines : List Int) (schedule : Schedule) (session : Session) (d : Int) : Prop where
  reserves : session.status = .Reserved
  once : session.machine_id.Nodup
  known : session.machine_id ⊆ machines
  aligned : ∃ bucket ∈ schedule, session.start_time = .finite bucket.timestamp
  lasts : session.duration = some (.int d)
  positive : 1 ≤ d

section
variable {imports : Imports} {session : Session}

/-- The imports decide whether a record raises, and nothing of what is written
    where none does. -/
theorem reserve_machines_through {clock : Nat → PyFloat} {i : ℕ} {machines : List Machine}
    (through : (reserve_machines imports session clock i machines).1 = none) :
    reserve_machines imports session clock i machines = reserve_machines .complete session clock i machines := by
  induction machines generalizing i with
  | nil => rfl
  | cons machine rest ih =>
    by_cases requested : machine.machine_id ∈ session.machine_ids
    · cases stamps : imports.time with
      | false => simp [reserve_machines, requested, reserve_machine, stamps] at through
      | true =>
        simp only [reserve_machines, requested, if_true, reserve_machine, stamps, complete_time] at through ⊢
        rw [ih through]
    · simp only [reserve_machines, requested, if_false] at through ⊢
      rw [ih through]

theorem reserve_buckets_through {env : Env} {indices : List ℕ} {schedule : Schedule}
    (through : (reserve_buckets imports env session indices schedule).1 = none) :
    reserve_buckets imports env session indices schedule = reserve_buckets .complete env session indices schedule := by
  induction indices generalizing schedule with
  | nil => rfl
  | cons idx rest ih =>
    rw [reserve_buckets] at through ⊢
    rw [reserve_buckets]
    cases here : schedule[idx]? with
    | none => rfl
    | some time_bucket =>
      simp only [here] at through ⊢
      rcases row : reserve_machines imports session (env.clock idx) 1 time_bucket.machines with ⟨_ | e, machines⟩
      · have complete := reserve_machines_through (congrArg Prod.fst row)
        rw [row] at complete
        simp only [row] at through
        simp only [← complete]
        exact ih through
      · simp [row] at through

/-- A call that came through did what it does with all its imports. -/
theorem accepted_complete {site : Site} {env : Env} {w : World}
    (accepted : answer (EStateM.run (add_session site imports env session) w) = .ok true) :
    EStateM.run (add_session site imports env session) w = EStateM.run (add_session site .complete env session) w := by
  rw [run_add_session] at accepted
  rw [run_add_session, run_add_session]
  cases found : scheduleOf env w (site.date_of session.start_time) with
  | error e => rfl
  | ok schedule =>
    simp only [found] at accepted ⊢
    cases checked : check_availability_of session.machine_ids session.start_time session.duration schedule with
    | error e => rfl
    | ok available =>
      cases available with
      | false => simp
      | true =>
        by_cases empty : site.get_time_bucket_range schedule session.start_time (end_time session) = []
        · simp [empty]
        · rcases wrote : reserve_buckets imports env session
            (site.get_time_bucket_range schedule session.start_time (end_time session)) schedule with ⟨_ | e, after⟩
          · have complete := reserve_buckets_through (congrArg Prod.fst wrote)
            rw [wrote] at complete
            cases saves : imports.update_master_schedule <;>
              simp [checked, empty, wrote, saves, ← complete] at accepted ⊢
          · simp [checked, empty, wrote] at accepted

end

theorem starts_at_spaced {schedule : Schedule} (spaced : Spaced TIME_BUCKET_SIZE (timestamps schedule)) {i : ℕ}
    {bucket : TimeBucket} (at_i : schedule[i]? = some bucket) :
    schedule.findIdx? (fun time_bucket => starts_at (.finite bucket.timestamp) time_bucket.timestamp) = some i := by
  obtain ⟨inside, here⟩ := List.getElem?_eq_some_iff.mp at_i
  refine List.findIdx?_eq_some_iff_getElem.mpr ⟨inside, by simp [starts_at, here], ?_⟩
  intro j before equal
  have same : schedule[j].timestamp = bucket.timestamp := by simpa [starts_at] using equal
  have at_j : schedule[j]? = some schedule[j] := List.getElem?_eq_getElem (by omega)
  have apart := spaced.sub (timestamp_at at_j) (timestamp_at at_i)
  unfold TIME_BUCKET_SIZE at apart
  omega

theorem session_buckets_positive {d : Int} (positive : 1 ≤ d) :
    session_buckets (some (.int d)) = .ok (num_buckets d) := by
  have nonzero : d ≠ 0 := by omega
  simp [session_buckets, truthy, nonzero]

theorem admits_free {machines : List Int} {schedule : Schedule} (lists : Lists machines schedule) {session : Session}
    (once : session.machine_id.Nodup) (known : session.machine_id ⊆ machines) {j : ℕ}
    (free : Free session.machine_ids schedule j) {bucket : TimeBucket} (at_j : schedule[j]? = some bucket) :
    Admits session.status session.machine_id bucket.machines := by
  refine ⟨?_, fun id twice => absurd once twice.not_nodup⟩
  intro id asked
  have listed := ((lists bucket (List.mem_of_getElem? at_j)).2 id).mpr (known asked)
  obtain ⟨m, member, same⟩ := List.mem_map.mp listed
  exact (available_in_iff _ _).mpr ⟨m, member, same, free bucket at_j m member (by rw [same]; exact asked)⟩

/-- Both paths write the same into a bucket they reserve. -/
theorem reserved_eq_marked {session : Session} (reserves : session.status = .Reserved) (clock : Nat → PyFloat)
    (stamp : Int → Readings) (bucket : TimeBucket) :
    (reserved_bucket session clock bucket).machines.map (fun m => (m.machine_id, m.status, m.session_id)) =
      (bucket.machines.map (marked session session.machine_id stamp)).map
        fun m => (m.machine_id, m.status, m.session_id) := by
  apply List.ext_getElem (by simp [reserved_bucket])
  intro k _ inside
  rw [List.length_map, List.length_map] at inside
  by_cases asked : bucket.machines[k].machine_id ∈ session.machine_id
  · simp [reserved_bucket, reserved, Session.machine_ids, marked, session_machine, asked, reserves]
  · simp [reserved_bucket, reserved, Session.machine_ids, marked, asked]

theorem reserved_eq_written {machines : List Int} {schedule : Schedule} {session : Session} {d : Int}
    (proper : Proper machines schedule session d) (env : Env) {indices : List ℕ} {written : ℕ → List Int}
    (complete : ∀ j ∈ indices, written j = session.machine_id) (elsewhere : ∀ j, j ∉ indices → written j = [])
    (stamp : ℕ → Int → Readings) :
    cells (reserved_schedule env session indices schedule) = cells (written_schedule session written stamp schedule) := by
  apply List.ext_getElem?
  intro j
  simp only [cells, List.getElem?_map, reserved_schedule_at, written_schedule_at, Option.map_map]
  congr 1
  funext bucket
  by_cases covered : j ∈ indices
  · simp only [Function.comp, covered, if_true, complete j covered]
    exact congrArg _ (reserved_eq_marked proper.reserves (env.clock j) (stamp j) bucket)
  · simp [covered, elsewhere j covered]

/-- The closest bucket to an aligned start is the one that starts with the session. -/
theorem same_start {machines : List Int} {schedule : Schedule} {session : Session} {d : Int}
    (spaced : Spaced TIME_BUCKET_SIZE (timestamps schedule)) (proper : Proper machines schedule session d) {i : ℕ}
    (matched : start_index schedule session.start_time = some i) :
    schedule.findIdx? (fun time_bucket => starts_at session.start_time time_bucket.timestamp) = some i := by
  obtain ⟨bucket, member, aligned⟩ := proper.aligned
  obtain ⟨k, at_k⟩ := List.mem_iff_getElem?.mp member
  have closest := start_index_aligned spaced at_k
  rw [← aligned, matched] at closest
  cases closest
  rw [aligned]
  exact starts_at_spaced spaced at_k

/-- With room and free machines in the window of the new check, the archived
    path comes through. -/
theorem archived_accepts {machines : List Int} {schedule : Schedule} {session : Session} {d : Int}
    (lists : Lists machines schedule) (proper : Proper machines schedule session d) {i : ℕ}
    (start : schedule.findIdx? (fun time_bucket => starts_at session.start_time time_bucket.timestamp) = some i)
    (room : (i : Int) + d ≤ schedule.length) (free : ∀ j, InWindow i d j → Free session.machine_ids schedule j)
    (clock : ℕ → ℕ → Readings) : (add_session_to_schedule clock session schedule).1 = (true, none) := by
  have lasts := session_buckets_positive proper.positive
  rw [← proper.lasts] at lasts
  have bounds := num_buckets_bounds proper.positive
  rw [accepted_iff]
  refine ⟨i, num_buckets d, start, lasts, ?_⟩
  intro k inside
  have fits : i + k < schedule.length := by omega
  have at_k : schedule[i + k]? = some schedule[i + k] := List.getElem?_eq_getElem fits
  exact ⟨_, at_k, admits_free lists proper.once proper.known (free (i + k) (.inl (by omega))) at_k⟩

/-- A session that `add_session` accepts is accepted by the archived path on the
    same schedule, and both leave the same cells. -/
theorem accepted_refines {site : Site} (exact : MatchedRange site) {imports : Imports} {env : Env} {session : Session}
    {w : World} {schedule : Schedule} (found : scheduleOf env w (site.date_of session.start_time) = .ok schedule)
    (spaced : Spaced TIME_BUCKET_SIZE (timestamps schedule)) {machines : List Int} (lists : Lists machines schedule)
    {d : Int} (proper : Proper machines schedule session d) (clock : ℕ → ℕ → Readings)
    (accepted : answer (EStateM.run (add_session site imports env session) w) = .ok true) :
    (add_session_to_schedule clock session schedule).1 = (true, none) ∧
      ((final (EStateM.run (add_session site imports env session) w)).master_schedule
          (site.date_of session.start_time)).map cells =
        some (cells (add_session_to_schedule clock session schedule).2) := by
  have complete := accepted_complete accepted
  rw [complete] at accepted ⊢
  have granted := granted_of_accepted site env exact.inRange found proper.lasts accepted
  obtain ⟨i, matched, room, free⟩ := (check_availability_iff _ _ _ _).mp granted.passed
  have start := same_start spaced proper matched
  have taken := archived_accepts lists proper start (room proper.positive) free clock
  refine ⟨taken, ?_⟩
  have lasts := session_buckets_positive proper.positive
  rw [← proper.lasts] at lasts
  have covers := covers_iff start lasts
  have unrepeated : Unrepeated schedule := fun other listed => (lists other listed).1
  obtain ⟨written, stamp, wrote⟩ := written_cells clock session unrepeated
  have elsewhere (j : ℕ) (outside : j ∉ List.range' i (num_buckets d).toNat) : written j = [] := by
    by_contra filled
    exact outside ((covers j).mp (wrote.covered j filled))
  rw [granted.result, updated_same, exact.range proper.lasts matched, wrote.result, Option.map_some]
  exact congrArg some (reserved_eq_written proper env (fun j inside => wrote.complete taken j ((covers j).mpr inside))
    elsewhere stamp)

theorem openDay_lists (buckets : ℕ) : Lists [1] (openDay buckets) := by
  intro bucket member
  rw [((openDay_blank buckets) bucket member).1]
  exact ⟨by decide, fun id => Iff.rfl⟩

/-- Two seconds from the third bucket on, in a day of twelve. -/
theorem two_seconds_refined :
    (add_session_to_schedule (fun _ _ => (.finite 0, .finite 0)) (request 7 600 2).session (openDay 12)).1 =
        (true, none) ∧
      ((final (EStateM.run (add_session firstDay .complete plainEnv (request 7 600 2).session)
          (worldOf (openDay 12)))).master_schedule ⟨1970, 1, 1⟩).map cells =
        some (cells (add_session_to_schedule (fun _ _ => (.finite 0, .finite 0)) (request 7 600 2).session
          (openDay 12)).2) :=
  accepted_refines firstDay_matched (scheduleOf_loaded plainEnv (worldOf_loaded (openDay 12))) (by decide)
    (openDay_lists 12)
    ⟨rfl, by decide, by decide, ⟨(openDay 12)[2], by decide, by decide +kernel⟩, rfl, by decide⟩ _
    (by decide +kernel)

end DispenserHub.Rewrite
