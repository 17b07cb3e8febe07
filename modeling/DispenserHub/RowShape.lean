import DispenserHub.Runs
import DispenserHub.ScheduleManager

/-!
Reservations and machine messages both replace records by position, found by the
machine's identifier. Whatever mix of them runs, and wherever a reservation
stops, every bucket keeps its timestamp and its machines in their order; the
comparison of two buckets by position relies on that.
-/

namespace DispenserHub.RowShape
open Messages Buckets MachineHandler ScheduleManager

/-- What of a bucket no writer may change. -/
def outline (bucket : TimeBucket) : Int × List Int := (bucket.timestamp, bucket.machines.map Machine.machine_id)

def shape (schedule : Schedule) : List (Int × List Int) := schedule.map outline

theorem timestamps_of_shape {schedule schedule' : Schedule} (same : shape schedule' = shape schedule) :
    timestamps schedule' = timestamps schedule := by
  have fsts := congrArg (List.map Prod.fst) same
  simpa [shape, outline, timestamps, Function.comp_def] using fsts

/-- Each bucket lists the machines that some bucket of the same shape lists. -/
theorem row_of_shape {schedule schedule' : Schedule} (same : shape schedule' = shape schedule) {bucket : TimeBucket}
    (member : bucket ∈ schedule') : ∃ other ∈ schedule,
      bucket.machines.map Machine.machine_id = other.machines.map Machine.machine_id := by
  have outlined : outline bucket ∈ shape schedule := by
    rw [← same]
    exact List.mem_map_of_mem member
  obtain ⟨other, member', equal⟩ := List.mem_map.mp outlined
  exact ⟨other, member', (congrArg Prod.snd equal).symm⟩

theorem replace_first_machine_ids (machine : Machine) (machines : List Machine) :
    (replace_first machine machines).map Machine.machine_id = machines.map Machine.machine_id := by
  induction machines with
  | nil => rfl
  | cons m rest ih =>
    by_cases same : m.machine_id = machine.machine_id
    · simp [replace_first, same]
    · simp [replace_first, same, ih]

theorem add_machines_outline (session : Session) (clock : ℕ → Readings) (k : ℕ) (machine_ids : List Int)
    (time_bucket : TimeBucket) : outline (add_machines session clock k machine_ids time_bucket).2 = outline time_bucket := by
  induction machine_ids generalizing k time_bucket with
  | nil => rfl
  | cons machine_id rest ih =>
    rw [add_machines_cons]
    split
    · rw [ih]
      simp [outline, replace_first_machine_ids]
    · rfl

theorem shape_set {schedule : Schedule} {k : ℕ} {bucket bucket' : TimeBucket} (at_k : schedule[k]? = some bucket)
    (same : outline bucket' = outline bucket) : shape (schedule.set k bucket') = shape schedule := by
  obtain ⟨inside, here⟩ := List.getElem?_eq_some_iff.mp at_k
  have kept : (schedule.map outline).set k (outline bucket) = schedule.map outline := by
    rw [← here, ← List.getElem_map outline (h := by simpa using inside), List.set_getElem_self]
  rw [shape, List.map_set, same, kept, shape]

theorem add_buckets_shape (session : Session) (clock : ℕ → ℕ → Readings) (start_index : ℕ) (offsets : List ℕ)
    (schedule : Schedule) : shape (add_buckets session clock start_index offsets schedule).2 = shape schedule := by
  induction offsets generalizing schedule with
  | nil => rfl
  | cons i rest ih =>
    rw [add_buckets]
    cases at_i : schedule[start_index + i]? with
    | none => rfl
    | some time_bucket =>
      have outlined := add_machines_outline session (clock i) 0 session.machine_id time_bucket
      rcases ran : add_machines session (clock i) 0 session.machine_id time_bucket with ⟨_ | message, after⟩
      · rw [ran] at outlined
        simp only [ran]
        rw [ih, shape_set at_i outlined]
      · rw [ran] at outlined
        simp only [ran]
        exact shape_set at_i outlined

/-- A reservation keeps the shape, accepted, refused or stopped midway. -/
theorem add_session_shape (clock : ℕ → ℕ → Readings) (session : Session) (schedule : Schedule) :
    shape (add_session_to_schedule clock session schedule).2 = shape schedule := by
  unfold add_session_to_schedule
  cases schedule.findIdx? fun time_bucket => starts_at session.start_time time_bucket.timestamp with
  | none => rfl
  | some i =>
    cases session_buckets session.duration with
    | error e => rfl
    | ok n =>
      have kept := add_buckets_shape session clock i (List.range n.toNat) schedule
      rcases ran : add_buckets session clock i (List.range n.toNat) schedule with ⟨_ | message, after⟩ <;>
        rw [ran] at kept <;> simpa only [ran] using kept

/-- A reservation in the schedule of a date, or a message the handler hears. -/
inductive Event (Message : Type) where
  | add_session_to_schedule (date : Date) (clock : ℕ → ℕ → Readings) (session : Session)
  | message (current_date : Date) (forwarded : Bool) (text : Message)

variable {Message : Type} (parse_raw : Message → Option Machine)

/-- The answer to a reservation, and the shared schedules afterwards. -/
def step (handler : Handler) : Event Message → Option (Bool × Option String) × Handler
  | .add_session_to_schedule date clock session =>
    match handler.master_schedule date with
    | none => (none, handler)
    | some schedule =>
      let (reply, schedule) := add_session_to_schedule clock session schedule
      (some reply, { handler with master_schedule := Function.update handler.master_schedule date (some schedule) })
  | .message current_date forwarded text =>
    (none, incoming_message_processor_internal parse_raw current_date forwarded text handler)

/-- The schedule of the date has a given shape. -/
def Shaped (date : Date) (rows : List (Int × List Int)) (handler : Handler) : Prop :=
  ∃ schedule, handler.master_schedule date = some schedule ∧ shape schedule = rows

theorem Shaped.update {date : Date} {rows : List (Int × List Int)} {handler : Handler}
    (shaped : Shaped date rows handler) {other : Date} {before after : Schedule}
    (found : handler.master_schedule other = some before) (kept : shape after = shape before) :
    Shaped date rows { handler with master_schedule := Function.update handler.master_schedule other (some after) } := by
  obtain ⟨schedule, loaded, same⟩ := shaped
  by_cases here : date = other
  · subst here
    rw [loaded] at found
    cases found
    exact ⟨after, by simp, kept.trans same⟩
  · exact ⟨schedule, by simp [here, loaded], same⟩

theorem step_shaped {date : Date} {rows : List (Int × List Int)} {handler : Handler}
    (shaped : Shaped date rows handler) (event : Event Message) : Shaped date rows (step parse_raw handler event).2 := by
  cases event with
  | add_session_to_schedule other clock session =>
    simp only [step]
    cases found : handler.master_schedule other with
    | none => exact shaped
    | some before => exact shaped.update found (add_session_shape clock session before)
  | message other forwarded text =>
    simp only [step, incoming_message_processor_internal]
    cases parse_raw text with
    | none => exact shaped
    | some machine_update =>
      cases found : handler.master_schedule other with
      | none =>
        cases forwarded with
        | false => exact shaped
        | true => exact shaped
      | some before =>
        have kept : shape (before.map fun time_bucket =>
            { time_bucket with machines := replace_first machine_update time_bucket.machines }) = shape before := by
          simp [shape, outline, Function.comp_def, replace_first_machine_ids]
        have written := shaped.update found kept
        cases forwarded with
        | false => exact written
        | true => exact written

/-- Two rows that list the same machines in order are compared machine by
    machine, with none left out. -/
structure Comparable (current previous : List Machine) : Prop where
  all_current : (current.zip previous).map Prod.fst = current
  all_previous : (current.zip previous).map Prod.snd = previous
  itself : ∀ pair ∈ current.zip previous, pair.1.machine_id = pair.2.machine_id

theorem comparable_of_ids {current previous : List Machine}
    (same : current.map Machine.machine_id = previous.map Machine.machine_id) : Comparable current previous := by
  have length : current.length = previous.length := by simpa using congrArg List.length same
  refine ⟨List.map_fst_zip length.le, List.map_snd_zip length.ge, ?_⟩
  intro pair member
  obtain ⟨k, inside, rfl⟩ := List.mem_iff_getElem.mp member
  have inside' : k < current.length := by simp at inside; omega
  have here : (current.map Machine.machine_id)[k]? = (previous.map Machine.machine_id)[k]? := by rw [same]
  simpa [inside', show k < previous.length by omega] using here

/-- From a blank schedule on, whatever is reserved or heard, every bucket keeps
    its timestamp and lists the machines once each in their order, so any two
    buckets are compared machine by machine. -/
theorem rows_keep_shape {machines : List Int} (nodup : machines.Nodup) {timestamp : Int → Int}
    {clock : Nat → Nat → PyFloat} {date : Date} {blank : Schedule}
    (made : generate_blank_schedule timestamp clock date machines = .ok blank) {handler : Handler}
    (start : handler.master_schedule date = some blank) (events : List (Event Message)) :
    ∃ schedule, (Runs.run (step parse_raw) handler events).2.master_schedule date = some schedule ∧
      timestamps schedule = timestamps blank ∧
      (∀ bucket ∈ schedule, bucket.machines.map Machine.machine_id = machines ∧
        (bucket.machines.map Machine.machine_id).Nodup) ∧
      ∀ current ∈ schedule, ∀ previous ∈ schedule, Comparable current.machines previous.machines := by
  obtain ⟨schedule, loaded, same⟩ := Runs.run_invariant (step parse_raw)
    (fun _ h => Shaped date (shape blank) h) ⟨blank, start, rfl⟩
    (fun _ h event shaped => step_shaped parse_raw shaped event) events
  have times := timestamps_of_shape same
  have listed : ∀ bucket ∈ schedule, bucket.machines.map Machine.machine_id = machines := by
    intro bucket member
    obtain ⟨first, member', ids⟩ := row_of_shape same member
    rw [ids, ((generate_blank_schedule_blank made).2 first member').1]
  refine ⟨schedule, loaded, times, ?_, ?_⟩
  · intro bucket member
    rw [listed bucket member]
    exact ⟨rfl, nodup⟩
  · intro current member previous member'
    exact comparable_of_ids ((listed current member).trans (listed previous member').symm)

def blankHandler : Handler where
  master_schedule _ := some (Reservation.blankDay [1, 2])
  active_time_bucket_index := -1
  previous_time_bucket_index := -1
  published := []

/-- A message about machine 2, and one about a machine that no bucket lists. -/
theorem rows_keep_shape_messages :
    ∃ schedule, (Runs.run (step some) blankHandler
        [.message ⟨1970, 1, 1⟩ true (Machine.create 2 .Active .nan),
          .message ⟨1970, 1, 1⟩ true (Machine.create 3 .Idle .nan)]).2.master_schedule ⟨1970, 1, 1⟩ = some schedule ∧
      timestamps schedule = timestamps (Reservation.blankDay [1, 2]) ∧
      (∀ bucket ∈ schedule, bucket.machines.map Machine.machine_id = [1, 2] ∧
        (bucket.machines.map Machine.machine_id).Nodup) ∧
      ∀ current ∈ schedule, ∀ previous ∈ schedule, Comparable current.machines previous.machines :=
  rows_keep_shape some (by decide) (Reservation.blankDay_made [1, 2]) rfl _

end DispenserHub.RowShape
