import DispenserHub.Availability
import DispenserHub.MasterSchedule
import Mathlib.Data.List.TakeWhile

/-!
`add_session` of `schedule/scheduler.py`. It checks the schedule of the
session's date, then marks the records of the session's machines, bucket by
bucket, in the lists that are in memory, and last updates the master schedule.
-/

namespace DispenserHub.Reservation
open EStateM (Result)
open Messages Buckets FileIo Effects MasterSchedule Availability

/-- What the code relies on and does not bring along: the local calendar
    (`date_of` gives the date of an instant, `session.date` that of its start) and
    `get_time_bucket_range`, which `add_session` calls and nothing defines. -/
structure Site where
  date_of : PyFloat → Date
  get_time_bucket_range : Schedule → PyFloat → PyFloat → List ℕ

/-- Which of the names that `scheduler.py` uses and does not import are there. -/
structure Imports where
  time : Bool
  update_master_schedule : Bool

def Imports.complete : Imports := ⟨true, true⟩

@[simp] theorem complete_time : Imports.complete.time = true := rfl
@[simp] theorem complete_update : Imports.complete.update_master_schedule = true := rfl

/-- The end of a session. It is asked for once the check has passed, so for a
    finite start and an integer duration. -/
def end_time (session : Session) : PyFloat :=
  match session.start_time, session.duration with
  | .finite start, some (.int d) => .finite (start + d)
  | _, _ => .nan

variable (site : Site) (imports : Imports) (env : Env)

/-- The three assignments to one record; the last one evaluates `time.time()`. -/
def reserve_machine (session : Session) (now : PyFloat) (machine : Machine) : Option PyError × Machine :=
  let machine := { machine with status := .Reserved }
  let machine := { machine with session_id := some session.session_id }
  if imports.time then (none, { machine with timestamp := now }) else (some .NameError, machine)

/-- `for i, machine in enumerate(time_bucket[1:], start=1)`, from position `i` on. -/
def reserve_machines (session : Session) (clock : Nat → PyFloat) :
    Nat → List Machine → Option PyError × List Machine
  | _, [] => (none, [])
  | i, machine :: rest =>
    if machine.machine_id ∈ session.machine_ids then
      match reserve_machine imports session (clock i) machine with
      | (some e, machine) => (some e, machine :: rest)
      | (none, machine) =>
        let later := reserve_machines session clock (i + 1) rest
        (later.1, machine :: later.2)
    else
      let later := reserve_machines session clock (i + 1) rest
      (later.1, machine :: later.2)

/-- `for idx in bucket_indices`: the schedule as far as it is written, and the
    exception that stopped the writing. -/
def reserve_buckets (session : Session) : List ℕ → Schedule → Option PyError × Schedule
  | [], schedule => (none, schedule)
  | idx :: rest, schedule =>
    match schedule[idx]? with
    | none => (some .IndexError, schedule)
    | some time_bucket =>
      match reserve_machines imports session (env.clock idx) 1 time_bucket.machines with
      | (some e, machines) => (some e, schedule.set idx { time_bucket with machines })
      | (none, machines) => reserve_buckets session rest (schedule.set idx { time_bucket with machines })

/-- `check_availability` as it is called, with an optional schedule. The length
    in buckets is computed before today's schedule is fetched. -/
def py_check_availability (machine_ids : List Int) (start_time : PyFloat) (duration : Option PyNumber)
    (schedule : Option Schedule) : Py Bool := do
  let _ ← raised (duration_idx duration)
  let schedule ← match schedule with
    | some schedule => pure schedule
    | none => get_master_schedule env env.today
  raised (check_availability_of machine_ids start_time duration schedule)

def add_session (session : Session) : Py Bool := do
  let date := site.date_of session.start_time
  let schedule ← get_master_schedule env date
  let available ← py_check_availability env session.machine_ids session.start_time session.duration
    (some schedule)
  if available = false then
    return false
  let bucket_indices := site.get_time_bucket_range schedule session.start_time (end_time session)
  if bucket_indices = [] then
    return false
  let (error, schedule) := reserve_buckets imports env session bucket_indices schedule
  modify fun w => w.put date schedule  -- the records written are the ones in memory
  match error with
  | some e => throw e
  | none =>
    if imports.update_master_schedule then
      update_master_schedule env date schedule
      return true
    else
      throw .NameError

def reserved (session : Session) (now : PyFloat) (machine : Machine) : Machine :=
  if machine.machine_id ∈ session.machine_ids then
    { machine with status := .Reserved, session_id := some session.session_id, timestamp := now }
  else machine

def reserved_bucket (session : Session) (clock : Nat → PyFloat) (bucket : TimeBucket) : TimeBucket :=
  { bucket with machines := bucket.machines.mapIdx fun k machine => reserved session (clock (1 + k)) machine }

def reserved_schedule (session : Session) (indices : List ℕ) (schedule : Schedule) : Schedule :=
  schedule.mapIdx fun j bucket =>
    if j ∈ indices then reserved_bucket session (env.clock j) bucket else bucket

@[simp] theorem reserved_machine_id (session : Session) (now : PyFloat) (machine : Machine) :
    (reserved session now machine).machine_id = machine.machine_id := by
  unfold reserved
  split <;> rfl

theorem reserved_again (session : Session) (now : PyFloat) (machine : Machine) :
    reserved session now (reserved session now machine) = reserved session now machine := by
  unfold reserved
  split <;> rfl

theorem reserved_bucket_again (session : Session) (clock : Nat → PyFloat) (bucket : TimeBucket) :
    reserved_bucket session clock (reserved_bucket session clock bucket) =
      reserved_bucket session clock bucket := by
  simp [reserved_bucket, List.mapIdx_mapIdx, Function.comp_def, reserved_again]

theorem reserve_machines_complete (session : Session) (clock : Nat → PyFloat) (i : ℕ) (machines : List Machine) :
    reserve_machines .complete session clock i machines =
      (none, machines.mapIdx fun k machine => reserved session (clock (i + k)) machine) := by
  induction machines generalizing i with
  | nil => rfl
  | cons machine rest ih =>
    have shift (k : ℕ) : i + 1 + k = i + (k + 1) := by omega
    by_cases requested : machine.machine_id ∈ session.machine_ids
    · simp only [reserve_machines, requested, if_true, reserve_machine, complete_time, ih]
      simp [reserved, requested, shift]
    · simp only [reserve_machines, requested, if_false, ih]
      simp [reserved, requested, shift]

@[simp] theorem reserved_schedule_length (session : Session) (indices : List ℕ) (schedule : Schedule) :
    (reserved_schedule env session indices schedule).length = schedule.length := by
  simp [reserved_schedule]

theorem reserved_schedule_at (session : Session) (indices : List ℕ) (schedule : Schedule) (j : ℕ) :
    (reserved_schedule env session indices schedule)[j]? =
      schedule[j]?.map fun bucket =>
        if j ∈ indices then reserved_bucket session (env.clock j) bucket else bucket := by
  simp [reserved_schedule]

theorem timestamps_reserved (session : Session) (indices : List ℕ) (schedule : Schedule) :
    timestamps (reserved_schedule env session indices schedule) = timestamps schedule := by
  apply List.ext_getElem?
  intro j
  simp only [timestamps, List.getElem?_map, reserved_schedule_at, Option.map_map]
  congr 1
  funext bucket
  simp only [Function.comp]
  split <;> rfl

theorem machine_ids_reserved (session : Session) (clock : Nat → PyFloat) (bucket : TimeBucket) :
    (reserved_bucket session clock bucket).machines.map Machine.machine_id =
      bucket.machines.map Machine.machine_id := by
  apply List.ext_getElem (by simp [reserved_bucket])
  intro k _ _
  simp [reserved_bucket]

/-- Where an entry of the reserved schedule comes from. -/
theorem reserved_schedule_entry {session : Session} {indices : List ℕ} {schedule : Schedule} {j : ℕ}
    {bucket : TimeBucket} (at_j : (reserved_schedule env session indices schedule)[j]? = some bucket)
    {m : Machine} (member : m ∈ bucket.machines) :
    ∃ old m₀, schedule[j]? = some old ∧ m₀ ∈ old.machines ∧ m₀.machine_id = m.machine_id ∧
      (j ∈ indices → m.machine_id ∈ session.machine_ids →
        m.status = .Reserved ∧ m.session_id = some session.session_id) ∧
      (¬ (j ∈ indices ∧ m.machine_id ∈ session.machine_ids) → m = m₀) := by
  rw [reserved_schedule_at] at at_j
  obtain ⟨old, at_old, rfl⟩ := Option.map_eq_some_iff.mp at_j
  by_cases written : j ∈ indices
  · simp only [written, if_true, reserved_bucket] at member
    obtain ⟨k, inside, rfl⟩ := List.mem_mapIdx.mp member
    refine ⟨old, old.machines[k], at_old, List.getElem_mem inside, by simp, ?_, ?_⟩
    · intro _ requested
      rw [reserved_machine_id] at requested
      simp [reserved, requested]
    · intro other
      rw [reserved_machine_id] at other
      simp [reserved, show old.machines[k].machine_id ∉ session.machine_ids from fun h => other ⟨written, h⟩]
  · simp only [written, if_false] at member
    exact ⟨old, m, at_old, member, rfl, fun inside => absurd inside written, fun _ => rfl⟩

/-- A bucket that is reserved first and then the others. -/
theorem reserved_schedule_cons (session : Session) {schedule : Schedule} {idx : ℕ} (here : idx < schedule.length)
    (rest : List ℕ) :
    reserved_schedule env session rest
        (schedule.set idx (reserved_bucket session (env.clock idx) schedule[idx])) =
      reserved_schedule env session (idx :: rest) schedule := by
  apply List.ext_getElem?
  intro j
  rw [reserved_schedule_at, reserved_schedule_at]
  by_cases same : idx = j
  · subst same
    have again := reserved_bucket_again session (env.clock idx) schedule[idx]
    by_cases later : idx ∈ rest <;> simp [here, later, again]
  · simp [List.getElem?_set_ne same, Ne.symm same]

theorem reserved_schedule_nil (session : Session) (schedule : Schedule) :
    reserved_schedule env session [] schedule = schedule := by
  apply List.ext_getElem?
  intro j
  simp [reserved_schedule_at]

/-- With both imports the loops reserve the buckets in turn, up to the first
    index that is not in the schedule. -/
theorem reserve_buckets_reached (session : Session) (indices : List ℕ) (schedule : Schedule) :
    reserve_buckets .complete env session indices schedule =
      (if ∀ idx ∈ indices, idx < schedule.length then none else some .IndexError,
        reserved_schedule env session (indices.takeWhile (· < schedule.length)) schedule) := by
  induction indices generalizing schedule with
  | nil => simp [reserve_buckets, reserved_schedule_nil]
  | cons idx rest ih =>
    by_cases here : idx < schedule.length
    · have first : reserve_buckets .complete env session (idx :: rest) schedule =
          reserve_buckets .complete env session rest
            (schedule.set idx (reserved_bucket session (env.clock idx) schedule[idx])) := by
        simp only [reserve_buckets, List.getElem?_eq_getElem here, reserve_machines_complete]
        rfl
      rw [first, ih, List.length_set, reserved_schedule_cons env session here]
      simp [here]
    · simp [reserve_buckets, here, reserved_schedule_nil]

theorem reserve_buckets_complete (session : Session) (indices : List ℕ) (schedule : Schedule)
    (inside : ∀ idx ∈ indices, idx < schedule.length) :
    reserve_buckets .complete env session indices schedule =
      (none, reserved_schedule env session indices schedule) := by
  have all : indices.takeWhile (· < schedule.length) = indices :=
    List.takeWhile_eq_self_iff.mpr fun idx member => by simpa using inside idx member
  rw [reserve_buckets_reached, if_pos inside, all]

theorem run_check_given (machine_ids : List Int) (start_time : PyFloat) (duration : Option PyNumber)
    (schedule : Schedule) (w : World) :
    EStateM.run (py_check_availability env machine_ids start_time duration (some schedule)) w =
      match check_availability_of machine_ids start_time duration schedule with
      | .ok available => .ok available w
      | .error e => .error e w := by
  unfold py_check_availability
  cases converted : duration_idx duration with
  | error e => simp [check_availability_of, converted]
  | ok k => cases checked : check_availability_of machine_ids start_time duration schedule <;> simp [checked]

/-- What a call answers, and the world it leaves. -/
theorem run_add_session (session : Session) (w : World) :
    EStateM.run (add_session site imports env session) w =
      match scheduleOf env w (site.date_of session.start_time) with
      | .error e => .error e w
      | .ok schedule =>
        match check_availability_of session.machine_ids session.start_time session.duration schedule with
        | .error e => .error e (w.put (site.date_of session.start_time) schedule)
        | .ok false => .ok false (w.put (site.date_of session.start_time) schedule)
        | .ok true =>
          if site.get_time_bucket_range schedule session.start_time (end_time session) = [] then
            .ok false (w.put (site.date_of session.start_time) schedule)
          else
            match reserve_buckets imports env session
              (site.get_time_bucket_range schedule session.start_time (end_time session)) schedule with
            | (some e, after) => .error e (w.put (site.date_of session.start_time) after)
            | (none, after) =>
              if imports.update_master_schedule then
                .ok true (updated env (site.date_of session.start_time) after w)
              else .error .NameError (w.put (site.date_of session.start_time) after) := by
  unfold add_session
  simp only [EStateM.run_bind, run_get_master_schedule]
  cases found : scheduleOf env w (site.date_of session.start_time) with
  | error e => rfl
  | ok schedule =>
    simp only [run_check_given]
    cases checked : check_availability_of session.machine_ids session.start_time session.duration schedule with
    | error e => rfl
    | ok available =>
      cases available with
      | false => rfl
      | true =>
        by_cases empty : site.get_time_bucket_range schedule session.start_time (end_time session) = []
        · simp [empty]
        · rcases written : reserve_buckets imports env session
            (site.get_time_bucket_range schedule session.start_time (end_time session)) schedule with ⟨_ | e, after⟩
          · by_cases named : imports.update_master_schedule
            · simp [empty, named, run_update_master_schedule, updated, put_put]
            · simp [empty, named, put_put]
          · simp [empty, put_put]

/-- The world after a call that wrote nothing: the schedule it looked at, if
    any, is in memory. -/
def Looked (w after : World) (date : Date) : Prop :=
  after = w ∨ ∃ schedule, scheduleOf env w date = .ok schedule ∧ after = w.put date schedule

variable {env} in
/-- A call that wrote nothing and found the schedule in memory changed nothing. -/
theorem Looked.of_loaded {w after : World} {date : Date} (looked : Looked env w after date) {schedule : Schedule}
    (loaded : w.master_schedule date = some schedule) : after = w := by
  rcases looked with same | ⟨other, found, put⟩
  · exact same
  · rw [scheduleOf_loaded env loaded] at found
    cases found
    rw [put, put_self loaded]

variable {env} in
theorem Looked.keeps {w after : World} {date other : Date} (looked : Looked env w after other) {schedule : Schedule}
    (loaded : w.master_schedule date = some schedule) : after.master_schedule date = some schedule := by
  by_cases here : other = date
  · rw [here] at looked
    rw [looked.of_loaded loaded, loaded]
  · rcases looked with same | ⟨found, _, put⟩
    · rw [same, loaded]
    · rw [put, put_other w (Ne.symm here), loaded]

/-- What a call that returned `True` found and did. -/
structure Granted (session : Session) (w after : World) (schedule : Schedule) (d : Int) : Prop where
  found : scheduleOf env w (site.date_of session.start_time) = .ok schedule
  lasts : session.duration = some (.int d)
  passed : check_availability session.machine_ids session.start_time d schedule = true
  filled : site.get_time_bucket_range schedule session.start_time (end_time session) ≠ []
  result : after = updated env (site.date_of session.start_time)
    (reserved_schedule env session
      (site.get_time_bucket_range schedule session.start_time (end_time session)) schedule) w

/-- The indices `get_time_bucket_range` gives for a session that passed the
    check lie in the schedule. -/
def InRange : Prop :=
  ∀ (session : Session) (d : Int) (schedule : Schedule), session.duration = some (.int d) →
    check_availability session.machine_ids session.start_time d schedule = true →
    ∀ idx ∈ site.get_time_bucket_range schedule session.start_time (end_time session), idx < schedule.length

/-- A call returns `True` and has reserved the session's buckets, or it does
    not and has written nothing. -/
theorem add_session_cases (inRange : InRange site) (session : Session) (w : World) :
    (answer (EStateM.run (add_session site .complete env session) w) ≠ .ok true ∧
      Looked env w (final (EStateM.run (add_session site .complete env session) w))
        (site.date_of session.start_time)) ∨
    (answer (EStateM.run (add_session site .complete env session) w) = .ok true ∧
      ∃ schedule d,
        Granted site env session w (final (EStateM.run (add_session site .complete env session) w)) schedule d) := by
  rw [run_add_session]
  cases found : scheduleOf env w (site.date_of session.start_time) with
  | error e => exact .inl ⟨by simp, .inl rfl⟩
  | ok schedule =>
    dsimp only
    cases checked : check_availability_of session.machine_ids session.start_time session.duration schedule with
    | error e => exact .inl ⟨by simp, .inr ⟨schedule, found, rfl⟩⟩
    | ok available =>
      cases available with
      | false => exact .inl ⟨by simp, .inr ⟨schedule, found, rfl⟩⟩
      | true =>
        obtain ⟨d, lasts, passed⟩ := check_availability_of_true checked
        by_cases empty : site.get_time_bucket_range schedule session.start_time (end_time session) = []
        · exact .inl ⟨by simp [empty], .inr ⟨schedule, found, by simp [empty]⟩⟩
        · right
          have inside := inRange session d schedule lasts passed
          have written := reserve_buckets_complete env session _ schedule inside
          refine ⟨?_, schedule, d, found, lasts, passed, empty, ?_⟩ <;> simp [empty, written]

theorem granted_of_accepted (inRange : InRange site) {session : Session} {w : World} {schedule : Schedule}
    (found : scheduleOf env w (site.date_of session.start_time) = .ok schedule) {d : Int}
    (lasts : session.duration = some (.int d))
    (accepted : answer (EStateM.run (add_session site .complete env session) w) = .ok true) :
    Granted site env session w (final (EStateM.run (add_session site .complete env session) w)) schedule d := by
  rcases add_session_cases site env inRange session w with ⟨refused, _⟩ | ⟨_, schedule', d', granted⟩
  · exact absurd accepted refused
  · have same_schedule := granted.found
    rw [found] at same_schedule
    cases same_schedule
    have same_duration := granted.lasts
    rw [lasts] at same_duration
    cases same_duration
    exact granted

def matched_range (schedule : Schedule) (start_time end_time : PyFloat) : List ℕ :=
  match start_index schedule start_time, start_time, end_time with
  | some i, .finite start, .finite stop => List.range' i (num_buckets (stop - start).num).toNat
  | _, _, _ => []

/-- A site on the first day of 1970, in a zone without an offset. -/
def firstDay : Site where
  date_of _ := ⟨1970, 1, 1⟩
  get_time_bucket_range := matched_range

def blankDay (machines : List Int) : Schedule :=
  (List.range 288).map fun (i : ℕ) =>
    { timestamp := 300 * (i : Int)
      machines := machines.mapIdx fun _ machine_id => Machine.create machine_id .Available (.finite 0) }

theorem blankDay_made (machines : List Int) :
    generate_blank_schedule id (fun _ _ => .finite 0) ⟨1970, 1, 1⟩ machines = .ok (blankDay machines) := by
  have midnight : strptime ⟨1970, 1, 1⟩ = .ok 0 := by decide
  rw [generate_blank_schedule, midnight]
  simp [blankDay, TIME_BUCKET_SIZE]

def worldOf (schedule : Schedule) : World where
  master_schedule := Function.update (fun _ => none) ⟨1970, 1, 1⟩ (some schedule)
  files _ := none
  today_changed := false
  published := []

theorem worldOf_loaded (schedule : Schedule) :
    (worldOf schedule).master_schedule ⟨1970, 1, 1⟩ = some schedule := by
  simp [worldOf]

def plainEnv : Env where
  today := ⟨1970, 1, 1⟩
  update_today := ⟨1970, 1, 1⟩
  clock _ _ := .finite 0
  load_time := .finite 0
  save := .written

end DispenserHub.Reservation
