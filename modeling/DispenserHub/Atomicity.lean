import DispenserHub.Booking
import DispenserHub.Manager

/-!
Whether `add_session` leaves the schedules in memory alone when it does not
return `True`. The lists that `get_master_schedule` hands out hold the live
records, so what the loops write before they stop stays written. With the two
imports that `scheduler.py` lacks nothing stops them; without these the first
record is left half written.
-/

namespace DispenserHub.Atomicity
open EStateM (Result)
open Messages Buckets FileIo Effects MasterSchedule Availability Reservation Booking Manager

/-- The names of `scheduler.py` as it stands: it imports neither `time` nor
    `update_master_schedule`. -/
def scheduler_imports : Imports := ⟨false, false⟩

@[simp] theorem scheduler_time : scheduler_imports.time = false := rfl
@[simp] theorem scheduler_update : scheduler_imports.update_master_schedule = false := rfl

variable (site : Site) (env : Env)

/-- The call returned `True`, or every schedule in memory is as before it. -/
def AllOrNothing (imports : Imports) (session : Session) (w : World) : Prop :=
  answer (EStateM.run (add_session site imports env session) w) ≠ .ok true →
    (final (EStateM.run (add_session site imports env session) w)).master_schedule = w.master_schedule

/-- With both imports a call that does not return `True` has written nothing. -/
theorem complete_all_or_nothing {site : Site} (inRange : InRange site) {session : Session} {w : World}
    {schedule : Schedule} (loaded : w.master_schedule (site.date_of session.start_time) = some schedule) :
    AllOrNothing site env .complete session w := by
  intro refused
  rcases add_session_cases site env inRange session w with ⟨_, looked⟩ | ⟨accepted, _⟩
  · rw [looked.of_loaded loaded]
  · exact absurd accepted refused

theorem reserve_machines_skips (session : Session) (clock : Nat → PyFloat) (i : ℕ) {machines : List Machine}
    (unasked : ∀ m ∈ machines, m.machine_id ∉ session.machine_ids) :
    reserve_machines scheduler_imports session clock i machines = (none, machines) := by
  induction machines generalizing i with
  | nil => rfl
  | cons machine rest ih =>
    have here : machine.machine_id ∉ session.machine_ids := unasked machine (by simp)
    have later := ih (i + 1) fun m member => unasked m (by simp [member])
    simp [reserve_machines, here, later]

/-- The first requested record gets its status, and `time.time()` raises. -/
theorem reserve_machines_stops (session : Session) (clock : Nat → PyFloat) (i : ℕ) {machines : List Machine}
    (asked : ∃ m ∈ machines, m.machine_id ∈ session.machine_ids)
    (free : ∀ m ∈ machines, m.machine_id ∈ session.machine_ids → m.status = .Available) :
    ∃ written, reserve_machines scheduler_imports session clock i machines = (some .NameError, written) ∧
      written ≠ machines := by
  induction machines generalizing i with
  | nil => simp at asked
  | cons machine rest ih =>
    by_cases here : machine.machine_id ∈ session.machine_ids
    · have available := free machine (by simp) here
      refine ⟨{ machine with status := .Reserved, session_id := some session.session_id } :: rest, ?_, ?_⟩
      · simp [reserve_machines, here, reserve_machine]
      · intro same
        have status := congrArg Machine.status (List.cons.inj same).1
        rw [available] at status
        cases status
    · have asked' : ∃ m ∈ rest, m.machine_id ∈ session.machine_ids := by
        obtain ⟨m, member, requested⟩ := asked
        rcases List.mem_cons.mp member with rfl | later
        · exact absurd requested here
        · exact ⟨m, later, requested⟩
      obtain ⟨written, stopped, changed⟩ := ih (i + 1) asked' fun m member => free m (by simp [member])
      refine ⟨machine :: written, by simp [reserve_machines, here, stopped], ?_⟩
      intro same
      exact changed (List.cons.inj same).2

/-- A bucket at the given indices lists a machine of the session. -/
def Touches (session : Session) (indices : List ℕ) (schedule : Schedule) : Prop :=
  ∃ idx ∈ indices, ∃ bucket, schedule[idx]? = some bucket ∧
    ∃ m ∈ bucket.machines, m.machine_id ∈ session.machine_ids

theorem reserve_buckets_stops (session : Session) {indices : List ℕ} {schedule : Schedule}
    (inside : ∀ idx ∈ indices, idx < schedule.length)
    (free : ∀ idx ∈ indices, Free session.machine_ids schedule idx) :
    (¬ Touches session indices schedule ∧
      reserve_buckets scheduler_imports env session indices schedule = (none, schedule)) ∨
    (Touches session indices schedule ∧ ∃ written,
      reserve_buckets scheduler_imports env session indices schedule = (some .NameError, written) ∧
        written ≠ schedule) := by
  induction indices with
  | nil => exact .inl ⟨by simp [Touches], rfl⟩
  | cons idx rest ih =>
    have here : idx < schedule.length := inside idx (by simp)
    have at_idx : schedule[idx]? = some schedule[idx] := List.getElem?_eq_getElem here
    by_cases asked : ∃ m ∈ schedule[idx].machines, m.machine_id ∈ session.machine_ids
    · right
      obtain ⟨written, stopped, changed⟩ := reserve_machines_stops session (env.clock idx) 1 asked
        (free idx (by simp) _ at_idx)
      refine ⟨⟨idx, by simp, _, at_idx, asked⟩, schedule.set idx { schedule[idx] with machines := written },
        by simp only [reserve_buckets, at_idx, stopped], ?_⟩
      intro same
      have row : (schedule.set idx { schedule[idx] with machines := written })[idx]? = some schedule[idx] := by
        rw [same, at_idx]
      rw [List.getElem?_set_self here] at row
      exact changed (congrArg TimeBucket.machines (Option.some.inj row))
    · have unasked : ∀ m ∈ schedule[idx].machines, m.machine_id ∉ session.machine_ids :=
        fun m member requested => asked ⟨m, member, requested⟩
      have skipped : reserve_buckets scheduler_imports env session (idx :: rest) schedule =
          reserve_buckets scheduler_imports env session rest schedule := by
        simp only [reserve_buckets, at_idx, reserve_machines_skips session (env.clock idx) 1 unasked]
        rw [List.set_getElem_self]
      have touches : Touches session (idx :: rest) schedule ↔ Touches session rest schedule := by
        constructor
        · rintro ⟨idx', member, bucket, at_idx', requested⟩
          rcases List.mem_cons.mp member with rfl | later
          · rw [at_idx] at at_idx'
            cases at_idx'
            exact absurd requested asked
          · exact ⟨idx', later, bucket, at_idx', requested⟩
        · rintro ⟨idx', member, listed⟩
          exact ⟨idx', by simp [member], listed⟩
      rw [skipped, touches]
      exact ih (fun k member => inside k (by simp [member])) (fun k member => free k (by simp [member]))

/-- As the module stands, a call is all or nothing exactly when its check does
    not pass, or none of its buckets lists a machine that it names. -/
theorem all_or_nothing_iff {site : Site} (exact : MatchedRange site) {session : Session} {w : World}
    {schedule : Schedule} (loaded : w.master_schedule (site.date_of session.start_time) = some schedule) :
    AllOrNothing site env scheduler_imports session w ↔
      check_availability_of session.machine_ids session.start_time session.duration schedule ≠ .ok true ∨
      ¬ Touches session (site.get_time_bucket_range schedule session.start_time (end_time session)) schedule := by
  have found := scheduleOf_loaded env loaded
  rw [AllOrNothing, run_add_session]
  simp only [found, put_self loaded]
  cases checked : check_availability_of session.machine_ids session.start_time session.duration schedule with
  | error e => simp
  | ok available =>
    cases available with
    | false => simp
    | true =>
      obtain ⟨d, lasts, passed⟩ := check_availability_of_true checked
      obtain ⟨i, matched, room, free⟩ := (check_availability_iff _ _ _ _).mp passed
      have indices := exact.range lasts matched
      have inside := exact.inRange session d schedule lasts passed
      have free' : ∀ idx ∈ site.get_time_bucket_range schedule session.start_time (end_time session),
          Free session.machine_ids schedule idx := by
        intro idx member
        refine free idx (.inl ?_)
        rw [indices, List.mem_range'_1] at member
        unfold num_buckets TIME_BUCKET_SIZE at member
        omega
      by_cases empty : site.get_time_bucket_range schedule session.start_time (end_time session) = []
      · simp [empty, Touches]
      · rcases reserve_buckets_stops env session inside free' with
          ⟨untouched, written⟩ | ⟨touched, after, written, changed⟩
        · simp [empty, written, untouched, put_self loaded]
        · have stays : (w.put (site.date_of session.start_time) after).master_schedule ≠ w.master_schedule := by
            intro same
            have here := congrFun same (site.date_of session.start_time)
            rw [put_same, loaded] at here
            exact changed (Option.some.inj here)
          simp [empty, written, touched, stays]

/-- A check on a start that no bucket is near does not pass. -/
theorem unmatched_all_or_nothing : AllOrNothing firstDay plainEnv scheduler_imports (second 900) (worldOf (openDay 1)) :=
  (all_or_nothing_iff plainEnv firstDay_matched (worldOf_loaded _)).mpr (.inl (by decide +kernel))

/-- A free second on machine 1: the call raises and leaves the bucket reserved. -/
theorem raise_leaves_reserved :
    ¬ ∀ site : Site, MatchedRange site → ∀ (env : Env) (session : Session) (w : World) (schedule : Schedule),
      w.master_schedule (site.date_of session.start_time) = some schedule →
      AllOrNothing site env scheduler_imports session w := by
  intro claim
  have kept := claim firstDay firstDay_matched plainEnv (second 0) (worldOf (openDay 1)) (openDay 1)
    (worldOf_loaded _) (by decide +kernel)
  have here := congrFun kept ⟨1970, 1, 1⟩
  have marked : (final (EStateM.run (add_session firstDay scheduler_imports plainEnv (second 0))
      (worldOf (openDay 1)))).master_schedule ⟨1970, 1, 1⟩ ≠ some (openDay 1) := by decide +kernel
  exact marked (here.trans (worldOf_loaded _))

end DispenserHub.Atomicity
