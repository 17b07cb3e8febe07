import DispenserHub.Booking
import DispenserHub.Interleaving

/-!
Two `add_session` calls on one date whose sessions share no machine. The check
of the one looks at the timestamps and at the records of its own machines, which
the other leaves alone, and the two write different records. So the order of the
calls matters to no answer and, apart from the timestamps that the records get
from the clock, not to the schedule; and the same goes for two streams of calls.
-/

namespace DispenserHub.Independence
open Messages Buckets Effects MasterSchedule Availability Reservation Booking Interleaving

/-- `get_time_bucket_range` looks at the timestamps of the buckets, the start
    and the end, and at nothing else. -/
def ByTimes (site : Site) : Prop :=
  ∀ (schedule schedule' : Schedule) (start_time end_time : PyFloat), timestamps schedule' = timestamps schedule →
    site.get_time_bucket_range schedule' start_time end_time = site.get_time_bucket_range schedule start_time end_time

/-- No machine is named by both sessions. -/
def Disjoint (a b : Session) : Prop := ∀ id ∈ a.machine_ids, id ∉ b.machine_ids

instance (a b : Session) : Decidable (Disjoint a b) :=
  inferInstanceAs (Decidable (∀ id ∈ a.machine_ids, id ∉ b.machine_ids))

theorem Disjoint.symm {a b : Session} (disjoint : Disjoint a b) : Disjoint b a :=
  fun id inB inA => disjoint id inA inB

section
variable (site : Site) (session : Session) (schedule : Schedule)

/-- The answer of a call with all its imports. -/
def reply : Except PyError Bool :=
  match check_availability_of session.machine_ids session.start_time session.duration schedule with
  | .error e => .error e
  | .ok false => .ok false
  | .ok true =>
    let bucket_indices := site.get_time_bucket_range schedule session.start_time (end_time session)
    if bucket_indices = [] then .ok false
    else if ∀ idx ∈ bucket_indices, idx < schedule.length then .ok true
    else .error .IndexError

/-- The buckets it writes, up to an index that is not in the schedule. -/
def written_range : List ℕ :=
  match check_availability_of session.machine_ids session.start_time session.duration schedule with
  | .ok true => (site.get_time_bucket_range schedule session.start_time (end_time session)).takeWhile
      (· < schedule.length)
  | _ => []

theorem add_session_loaded {site : Site} {session : Session} {schedule : Schedule} (env : Env) {w : World}
    (loaded : w.master_schedule (site.date_of session.start_time) = some schedule) :
    answer (EStateM.run (add_session site .complete env session) w) = reply site session schedule ∧
      (final (EStateM.run (add_session site .complete env session) w)).master_schedule
          (site.date_of session.start_time) =
        some (reserved_schedule env session (written_range site session schedule) schedule) := by
  have found := scheduleOf_loaded env loaded
  unfold reply written_range
  rw [run_add_session]
  simp only [found, put_self loaded]
  cases checked : check_availability_of session.machine_ids session.start_time session.duration schedule with
  | error e => simp [loaded, reserved_schedule_nil]
  | ok available =>
    cases available with
    | false => simp [loaded, reserved_schedule_nil]
    | true =>
      by_cases empty : site.get_time_bucket_range schedule session.start_time (end_time session) = []
      · simp [empty, loaded, reserved_schedule_nil]
      · have reached := reserve_buckets_reached env session
          (site.get_time_bucket_range schedule session.start_time (end_time session)) schedule
        by_cases inside : ∀ idx ∈ site.get_time_bucket_range schedule session.start_time (end_time session),
            idx < schedule.length
        · rw [if_pos inside] at reached
          simp [empty, reached, if_pos inside]
        · rw [if_neg inside] at reached
          simp [empty, reached, if_neg inside]

end

/-- Schedules that the call of a session cannot tell apart. -/
structure SameFor (session : Session) (schedule schedule' : Schedule) : Prop where
  times : timestamps schedule' = timestamps schedule
  free : ∀ j, Free session.machine_ids schedule' j ↔ Free session.machine_ids schedule j

section
variable {site : Site} {session : Session} {schedule schedule' : Schedule}

theorem SameFor.check (same : SameFor session schedule schedule') :
    check_availability_of session.machine_ids session.start_time session.duration schedule' =
      check_availability_of session.machine_ids session.start_time session.duration schedule := by
  have start := start_index_congr same.times session.start_time
  have check (d : Int) : check_availability session.machine_ids session.start_time d schedule' =
      check_availability session.machine_ids session.start_time d schedule := by
    rw [Bool.eq_iff_iff, check_availability_iff, check_availability_iff]
    simp only [start, length_of_timestamps same.times, same.free]
  unfold check_availability_of
  simp only [start, check]

theorem SameFor.reply (same : SameFor session schedule schedule') (byTimes : ByTimes site) :
    reply site session schedule' = reply site session schedule := by
  unfold Independence.reply
  simp only [same.check, byTimes schedule schedule' _ _ same.times, length_of_timestamps same.times]

theorem SameFor.written_range (same : SameFor session schedule schedule') (byTimes : ByTimes site) :
    written_range site session schedule' = written_range site session schedule := by
  unfold Independence.written_range
  simp only [same.check, byTimes schedule schedule' _ _ same.times, length_of_timestamps same.times]

end

/-- A booking of other machines leaves a session's records in a bucket alone. -/
theorem row_available_iff {session other : Session} (disjoint : Disjoint session other) (clock : ℕ → PyFloat)
    (bucket : TimeBucket) :
    (∀ m ∈ (reserved_bucket other clock bucket).machines, m.machine_id ∈ session.machine_ids →
      m.status = .Available) ↔
    ∀ m ∈ bucket.machines, m.machine_id ∈ session.machine_ids → m.status = .Available := by
  have unwritten (now : PyFloat) {m : Machine} (asked : m.machine_id ∈ session.machine_ids) :
      reserved other now m = m := if_neg (disjoint m.machine_id asked)
  constructor
  · intro all m member asked
    obtain ⟨k, inside, rfl⟩ := List.mem_iff_getElem.mp member
    have here := all (reserved other (clock (1 + k)) bucket.machines[k]) (List.mem_mapIdx.mpr ⟨k, inside, rfl⟩)
    rw [unwritten _ asked] at here
    exact here asked
  · intro all m member asked
    obtain ⟨k, inside, rfl⟩ := List.mem_mapIdx.mp member
    rw [reserved_machine_id] at asked
    rw [unwritten _ asked]
    exact all _ (List.getElem_mem inside) asked

theorem sameFor_reserved {session other : Session} (disjoint : Disjoint session other) (env : Env)
    (indices : List ℕ) (schedule : Schedule) :
    SameFor session schedule (reserved_schedule env other indices schedule) := by
  refine ⟨timestamps_reserved env other indices schedule, ?_⟩
  intro j
  unfold Free
  rw [reserved_schedule_at]
  cases at_j : schedule[j]? with
  | none => simp
  | some bucket =>
    by_cases written : j ∈ indices
    · simpa [written] using row_available_iff disjoint (env.clock j) bucket
    · simp [written]

theorem reserved_comm {a b : Session} (disjoint : Disjoint a b) (now now' : PyFloat) (machine : Machine) :
    reserved a now (reserved b now' machine) = reserved b now' (reserved a now machine) := by
  by_cases inA : machine.machine_id ∈ a.machine_ids
  · have notB : machine.machine_id ∉ b.machine_ids := disjoint machine.machine_id inA
    simp [reserved, inA, notB]
  · by_cases inB : machine.machine_id ∈ b.machine_ids
    · simp [reserved, inA, inB]
    · simp [reserved, inA, inB]

theorem reserved_bucket_comm {a b : Session} (disjoint : Disjoint a b) (clock clock' : ℕ → PyFloat)
    (bucket : TimeBucket) :
    reserved_bucket a clock (reserved_bucket b clock' bucket) =
      reserved_bucket b clock' (reserved_bucket a clock bucket) := by
  simp [reserved_bucket, List.mapIdx_mapIdx, Function.comp_def, reserved_comm disjoint]

theorem reserved_schedule_comm {a b : Session} (disjoint : Disjoint a b) (env : Env) (indices indices' : List ℕ)
    (schedule : Schedule) :
    reserved_schedule env a indices (reserved_schedule env b indices' schedule) =
      reserved_schedule env b indices' (reserved_schedule env a indices schedule) := by
  apply List.ext_getElem?
  intro j
  simp only [reserved_schedule_at, Option.map_map]
  congr 1
  funext bucket
  by_cases inA : j ∈ indices <;> by_cases inB : j ∈ indices' <;>
    simp [inA, inB, reserved_bucket_comm disjoint]

/-- Calls in an hour that never comes, whose readings are all alike. -/
def timeless : Env := { plainEnv with clock := fun _ _ => .nan }

/-- A schedule without the timestamps of its records. -/
def untimed (schedule : Schedule) : Schedule :=
  schedule.map fun bucket =>
    { bucket with machines := bucket.machines.map fun m => { m with timestamp := .nan } }

theorem untimed_at (schedule : Schedule) (j : ℕ) :
    (untimed schedule)[j]? = schedule[j]?.map fun bucket =>
      { bucket with machines := bucket.machines.map fun m => { m with timestamp := .nan } } := by
  simp [untimed]

theorem sameFor_untimed (session : Session) (schedule : Schedule) : SameFor session schedule (untimed schedule) := by
  refine ⟨by simp [timestamps, untimed, Function.comp_def], ?_⟩
  intro j
  unfold Free
  rw [untimed_at]
  cases schedule[j]? <;> simp

theorem untimed_reserved (env : Env) (session : Session) (indices : List ℕ) (schedule : Schedule) :
    untimed (reserved_schedule env session indices schedule) =
      reserved_schedule timeless session indices (untimed schedule) := by
  apply List.ext_getElem?
  intro j
  simp only [untimed_at, reserved_schedule_at, Option.map_map]
  congr 1
  funext bucket
  by_cases written : j ∈ indices
  · simp only [Function.comp, written, if_true, reserved_bucket, timeless]
    congr 1
    apply List.ext_getElem (by simp)
    intro k _ inside
    rw [List.length_mapIdx, List.length_map] at inside
    by_cases asked : bucket.machines[k].machine_id ∈ session.machine_ids <;> simp [reserved, asked]
  · simp [written]

/-- A call without the clock, on a schedule without timestamps in its records. -/
def book (site : Site) (schedule : Schedule) (session : Session) : Except PyError Bool × Schedule :=
  (reply site session schedule, reserved_schedule timeless session (written_range site session schedule) schedule)

theorem book_independent {site : Site} (byTimes : ByTimes site) {a b : Session} (disjoint : Disjoint a b) :
    Independent (book site) a b where
  first schedule := (sameFor_reserved disjoint timeless _ schedule).reply byTimes
  second schedule := (sameFor_reserved disjoint.symm timeless _ schedule).reply byTimes
  meet schedule := by
    have rangeA := (sameFor_reserved disjoint timeless (written_range site b schedule) schedule).written_range byTimes
    have rangeB := (sameFor_reserved disjoint.symm timeless (written_range site a schedule) schedule).written_range byTimes
    simp only [book, rangeA, rangeB]
    exact (reserved_schedule_comm disjoint timeless _ _ schedule).symm

/-- The date has a schedule in memory, which is the given one without timestamps. -/
def Shown (date : Date) (w : World) (bare : Schedule) : Prop :=
  ∃ schedule, w.master_schedule date = some schedule ∧ untimed schedule = bare

theorem step_follows {site : Site} (byTimes : ByTimes site) (date : Date) :
    Follows (step site) (book site) Call.session (fun call => site.date_of call.session.start_time = date)
      (Shown date) := by
  rintro w _ call rfl ⟨schedule, loaded, rfl⟩
  obtain ⟨answered, written⟩ := add_session_loaded call.env loaded
  have same := sameFor_untimed call.session schedule
  refine ⟨?_, _, written, ?_⟩
  · exact answered.trans (same.reply byTimes).symm
  · rw [untimed_reserved]
    simp only [book, same.written_range byTimes]

/-- Two streams of calls on one date that use different machines, run in two
    interleavings and at any hours: each request gets the same answer in both, and
    both end in the same schedule, apart from the timestamps of its records. -/
theorem order_irrelevant {site : Site} (byTimes : ByTimes site) {date : Date} {w : World} {schedule : Schedule}
    (loaded : w.master_schedule date = some schedule) {calls calls' : List (Bool × Call)}
    (same : ∀ side, (stream side calls').map Call.session = (stream side calls).map Call.session)
    (on_date : ∀ call ∈ calls, site.date_of call.2.session.start_time = date)
    (disjoint : ∀ a ∈ stream true calls, ∀ b ∈ stream false calls, Disjoint a.session b.session) :
    (∀ side, answers side (Runs.run (merged (step site)) w calls').1 =
      answers side (Runs.run (merged (step site)) w calls).1) ∧
    ∃ after after', (Runs.run (merged (step site)) w calls).2.master_schedule date = some after ∧
      (Runs.run (merged (step site)) w calls').2.master_schedule date = some after' ∧
      untimed after' = untimed after := by
  have on_date' : ∀ call ∈ calls', site.date_of call.2.session.start_time = date := by
    rintro ⟨side, call⟩ member
    have asked : call.session ∈ (stream side calls').map Call.session := List.mem_map_of_mem (mem_stream.mpr member)
    rw [same] at asked
    obtain ⟨other, member', equal⟩ := List.mem_map.mp asked
    rw [← equal]
    exact on_date _ (mem_stream.mp member')
  have start : Shown date w (untimed schedule) := ⟨schedule, loaded, rfl⟩
  have follows : Follows (merged (step site)) (merged (book site)) (Prod.map id Call.session)
      (fun call => site.date_of call.2.session.start_time = date) (Shown date) :=
    fun w bare call => step_follows byTimes date w bare call.2
  obtain ⟨history, after, ends, shown⟩ := run_follows follows start on_date
  obtain ⟨history', after', ends', shown'⟩ := run_follows follows start on_date'
  have apart : ∀ a ∈ stream true (calls.map (Prod.map id Call.session)),
      ∀ b ∈ stream false (calls.map (Prod.map id Call.session)), Independent (book site) a b := by
    simp only [stream_erased, List.forall_mem_map]
    exact fun a left b right => book_independent byTimes (disjoint a left b right)
  have streams (side : Bool) : stream side (calls'.map (Prod.map id Call.session)) =
      stream side (calls.map (Prod.map id Call.session)) := by
    rw [stream_erased, stream_erased, same]
  obtain ⟨replies, meet⟩ := runs_agree streams apart (untimed schedule)
  refine ⟨?_, after, after', ends, ends', ?_⟩
  · intro side
    rw [← answers_erased Call.session, history', replies side, ← history, answers_erased]
  · rw [shown, shown', meet]

theorem firstDay_by_times : ByTimes firstDay := by
  intro schedule schedule' start_time end_time same
  simp only [firstDay, matched_range, start_index_congr same]

/-- Two seconds from midnight on machine 1, asked for before or after the same
    two seconds on machine 2. -/
def two_streams (first_left : Bool) : List (Bool × Call) :=
  let left : Bool × Call := (true, { request 7 0 2 with env := timeless })
  let right : Bool × Call := (false, { request 8 0 2 with session := { (request 8 0 2).session with machine_id := [2] } })
  if first_left then [left, right] else [right, left]

theorem two_streams_agree :
    (∀ side, answers side (Runs.run (merged (step firstDay)) (worldOf (blankDay [1, 2])) (two_streams false)).1 =
      answers side (Runs.run (merged (step firstDay)) (worldOf (blankDay [1, 2])) (two_streams true)).1) ∧
    ∃ after after', (Runs.run (merged (step firstDay)) (worldOf (blankDay [1, 2])) (two_streams true)).2.master_schedule
        ⟨1970, 1, 1⟩ = some after ∧
      (Runs.run (merged (step firstDay)) (worldOf (blankDay [1, 2])) (two_streams false)).2.master_schedule
        ⟨1970, 1, 1⟩ = some after' ∧
      untimed after' = untimed after :=
  order_irrelevant firstDay_by_times (worldOf_loaded _) (by decide) (by decide) (by decide)

end DispenserHub.Independence
