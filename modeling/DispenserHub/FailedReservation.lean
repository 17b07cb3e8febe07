import DispenserHub.ScheduleManager

/-!
What `add_session_to_schedule` leaves behind when it returns `False`. It writes
the machines of a bucket while it still checks the later ones, and nothing is
taken back: only a call that fails at its first cell leaves no trace.
-/

namespace DispenserHub.FailedReservation
open Messages Buckets Reservation MachineHandler ScheduleManager

theorem add_buckets_no_machines {session : Session} (none_asked : session.machine_id = [])
    (clock : ℕ → ℕ → Readings) (start_index : ℕ) (offsets : List ℕ) (schedule : Schedule) :
    (add_buckets session clock start_index offsets schedule).2 = schedule := by
  induction offsets with
  | nil => rfl
  | cons i rest ih =>
    rw [add_buckets, none_asked]
    cases at_i : schedule[start_index + i]? with
    | none => rfl
    | some time_bucket =>
      obtain ⟨inside, here⟩ := List.getElem?_eq_some_iff.mp at_i
      have same : schedule.set (start_index + i) time_bucket = schedule := by
        rw [← here, List.set_getElem_self]
      simp only [add_machines, same]
      exact ih

theorem add_buckets_other {session : Session} {clock : ℕ → ℕ → Readings} {start_index j : ℕ} {offsets : List ℕ}
    (outside : ∀ i ∈ offsets, start_index + i ≠ j) (schedule : Schedule) :
    (add_buckets session clock start_index offsets schedule).2[j]? = schedule[j]? := by
  induction offsets generalizing schedule with
  | nil => rfl
  | cons i rest ih =>
    have different := outside i (by simp)
    rw [add_buckets]
    cases at_i : schedule[start_index + i]? with
    | none => rfl
    | some time_bucket =>
      rcases ran : add_machines session (clock i) 0 session.machine_id time_bucket with ⟨_ | message, after⟩
      · simp only [ran]
        rw [ih (fun k member => outside k (by simp [member])), List.getElem?_set_ne different]
      · simp only [ran]
        exact List.getElem?_set_ne different

/-- The first record of a machine was updated at a time. -/
def Stamped (time : PyFloat) (machine_id : Int) (machines : List Machine) : Prop :=
  ∃ m later, records machine_id machines = m :: later ∧ m.last_updated = some time

theorem stamped_replaced (session : Session) (now : Readings) {machine_id : Int} {machines : List Machine}
    (available : available_in machines machine_id = true) :
    Stamped now.1 machine_id (replace_first (session_machine session now machine_id) machines) := by
  obtain ⟨first, later, split⟩ := records_available available
  exact ⟨_, later, records_written session now split, rfl⟩

theorem Stamped.replaced {session : Session} {now : Readings} {machine_id : Int} {machines : List Machine}
    (stamped : Stamped now.1 machine_id machines) (other : Int) (available : available_in machines other = true) :
    Stamped now.1 machine_id (replace_first (session_machine session now other) machines) := by
  by_cases same : machine_id = other
  · subst same
    exact stamped_replaced session now available
  · obtain ⟨m, later, split, time⟩ := stamped
    refine ⟨m, later, ?_, time⟩
    rw [← split]
    exact records_kept same machines

theorem add_machines_stamped {session : Session} {now : Readings} (k : ℕ) (machine_ids : List Int)
    {time_bucket : TimeBucket} {machine_id : Int} (stamped : Stamped now.1 machine_id time_bucket.machines) :
    Stamped now.1 machine_id (add_machines session (fun _ => now) k machine_ids time_bucket).2.machines := by
  induction machine_ids generalizing k time_bucket with
  | nil => exact stamped
  | cons other rest ih =>
    rw [add_machines_cons]
    by_cases available : available_in time_bucket.machines other = true
    · rw [if_pos available]
      exact ih (k + 1) (stamped.replaced other available)
    · rw [if_neg available]
      exact stamped

/-- The call writes nothing before it ends: no bucket starts at its start, its
    duration is a float, it names no machine, or the first of its machines is
    not available in its first bucket. -/
def Untouched (session : Session) (schedule : Schedule) : Prop :=
  ∀ i n, schedule.findIdx? (fun time_bucket => starts_at session.start_time time_bucket.timestamp) = some i →
    session_buckets session.duration = .ok n → ∀ time_bucket, schedule[i]? = some time_bucket →
    ∀ id rest, session.machine_id = id :: rest → available_in time_bucket.machines id = false

theorem Untouched.kept {session : Session} {schedule : Schedule} (untouched : Untouched session schedule)
    (clock : ℕ → ℕ → Readings) : (add_session_to_schedule clock session schedule).2 = schedule := by
  unfold add_session_to_schedule
  cases found : schedule.findIdx? fun time_bucket => starts_at session.start_time time_bucket.timestamp with
  | none => rfl
  | some i =>
    cases lasts : session_buckets session.duration with
    | error e => rfl
    | ok n =>
      have kept : (add_buckets session clock i (List.range n.toNat) schedule).2 = schedule := by
        cases asked : session.machine_id with
        | nil => exact add_buckets_no_machines asked clock i _ schedule
        | cons id rest =>
          cases count : n.toNat with
          | zero => rfl
          | succ k =>
            have inside := (List.findIdx?_eq_some_iff_getElem.mp found).1
            have at_i : schedule[i]? = some schedule[i] := List.getElem?_eq_getElem inside
            have taken := untouched i n found lasts _ at_i id rest asked
            rw [List.range_succ_eq_map, add_buckets, Nat.add_zero, at_i, asked]
            simp [add_machines_cons, taken, List.set_getElem_self]
      rcases ran : add_buckets session clock i (List.range n.toNat) schedule with ⟨_ | message, after⟩ <;>
        rw [ran] at kept <;> simpa only [ran] using kept

/-- A call whose first machine is available writes it, and the time of that
    call stays to be seen whatever happens afterwards. -/
theorem first_machine_stamped {session : Session} {schedule : Schedule} {i : ℕ} {n : Int} {time_bucket : TimeBucket}
    (found : schedule.findIdx? (fun time_bucket => starts_at session.start_time time_bucket.timestamp) = some i)
    (lasts : session_buckets session.duration = .ok n) (positive : 0 < n) (at_i : schedule[i]? = some time_bucket)
    {id : Int} {rest : List Int} (asked : session.machine_id = id :: rest)
    (available : available_in time_bucket.machines id = true) (now : Readings) :
    ∃ after, (add_session_to_schedule (fun _ _ => now) session schedule).2[i]? = some after ∧
      Stamped now.1 id after.machines := by
  refine ⟨(add_machines session (fun _ => now) 0 session.machine_id time_bucket).2, ?_, ?_⟩
  · have through : (add_session_to_schedule (fun _ _ => now) session schedule).2 =
        (add_buckets session (fun _ _ => now) i (List.range n.toNat) schedule).2 := by
      simp only [add_session_to_schedule, found, lasts]
      rcases add_buckets session (fun _ _ => now) i (List.range n.toNat) schedule with ⟨_ | message, after⟩ <;> rfl
    obtain ⟨k, count⟩ : ∃ k, n.toNat = k + 1 := Nat.exists_eq_add_one.mpr (by omega)
    have inside := (List.getElem?_eq_some_iff.mp at_i).1
    have outside : ∀ j ∈ (List.range k).map Nat.succ, i + j ≠ i := by
      intro j member
      obtain ⟨_, _, rfl⟩ := List.mem_map.mp member
      omega
    rw [through, count, List.range_succ_eq_map, add_buckets, Nat.add_zero, at_i]
    rcases ran : add_machines session (fun _ => now) 0 session.machine_id time_bucket with ⟨_ | message, after⟩
    · simp only [ran]
      rw [add_buckets_other outside, List.getElem?_set_self inside]
    · simp only [ran]
      rw [List.getElem?_set_self inside]
  · rw [asked, add_machines_cons, if_pos available]
    exact add_machines_stamped 1 rest (stamped_replaced session now available)

theorem fresh_reading (machine_id : Int) (machines : List Machine) : ∃ time, ¬ Stamped time machine_id machines := by
  by_cases zero : Stamped (.finite 0) machine_id machines
  · refine ⟨.finite 1, ?_⟩
    rintro ⟨m, later, split, updated⟩
    obtain ⟨m', later', split', updated'⟩ := zero
    rw [split] at split'
    cases split'
    rw [updated] at updated'
    cases updated'
  · exact ⟨_, zero⟩

/-- A refused call leaves the schedule as it was, whatever the clock reads,
    exactly when it writes nothing before it ends or is not refused at all. -/
theorem failed_reservation_kept_iff (session : Session) (schedule : Schedule) :
    (∀ clock, (add_session_to_schedule clock session schedule).1.1 = false →
      (add_session_to_schedule clock session schedule).2 = schedule) ↔
    Untouched session schedule ∨ Fits session schedule := by
  constructor
  · intro kept
    by_cases fits : Fits session schedule
    · exact .inr fits
    left
    intro i n found lasts time_bucket at_i id rest asked
    by_contra available
    rw [Bool.not_eq_false] at available
    obtain ⟨time, fresh⟩ := fresh_reading id time_bucket.machines
    have positive : 0 < n := by
      by_contra none
      exact fits ⟨i, n, found, lasts, fun k inside => by omega⟩
    obtain ⟨after, row, stamped⟩ := first_machine_stamped found lasts positive at_i asked available (time, time)
    have same := kept (fun _ _ => (time, time)) ((refused_iff _ session schedule).mpr fits)
    rw [same, at_i] at row
    cases row
    exact fresh stamped
  · rintro (untouched | fits) clock refused
    · exact untouched.kept clock
    · exact absurd fits ((refused_iff clock session schedule).mp refused)

/-- The bucket at 0, on machines 1 and 2. -/
def pair : Session where
  machine_id := [1, 2]
  session_id := 7
  status := .Reserved
  start_time := .finite 0
  duration := none
  exchange_id := none
  origin_node := none
  destination_node := none

/-- Machine 2 is taken, so the call is refused; machine 1 stays reserved. -/
theorem partial_reservation_stays :
    ¬ ∀ (clock : ℕ → ℕ → Readings) (session : Session) (schedule : Schedule),
      (add_session_to_schedule clock session schedule).1.1 = false →
      (add_session_to_schedule clock session schedule).2 = schedule := by
  intro claim
  have kept := claim (fun _ _ => (.finite 0, .finite 0)) pair
    [{ timestamp := 0, machines := [Machine.create 1 .Available .nan, Machine.create 2 .Reserved .nan] }] (by decide +kernel)
  exact absurd kept (by decide +kernel)

end DispenserHub.FailedReservation
