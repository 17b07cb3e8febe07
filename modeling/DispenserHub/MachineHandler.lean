import DispenserHub.FileIo
import Mathlib.Algebra.Order.Ring.Rat

/-!
`ARCHIVE/nodes/machine_handler.py`. The schedules stand in a dictionary shared
between processes, which hands out copies: what is not written back is lost.
-/

namespace DispenserHub.MachineHandler
open Messages Buckets FileIo

/-- Where the handler publishes: to itself, or to a machine. -/
inductive Topic where
  | HANDLER_TOPIC_INTERNAL
  | machine_topic (machine_id : Int)
  deriving DecidableEq, Repr

/-- The globals of the handler and what it has published. -/
structure Handler where
  master_schedule : Date → Option Schedule
  active_time_bucket_index : Int
  previous_time_bucket_index : Int
  published : List (Topic × Machine)

def item (schedule : Schedule) (index : Int) : Option TimeBucket :=
  if 0 ≤ index then schedule[index.toNat]?
  else if 0 ≤ schedule.length + index then schedule[(schedule.length + index).toNat]?
  else none

/-- Each machine with a new exchange id, published. `exchange_id` gives the ids
    of the machines in turn; publishing succeeds. -/
def send_machine_updates (exchange_id : ℕ → Int) (machines : List Machine) (handler : Handler) : Handler :=
  { handler with
    published := handler.published ++ machines.mapIdx fun k machine =>
      (.HANDLER_TOPIC_INTERNAL, { machine with exchange_id := some (exchange_id k) }) }

/-- The machines whose status differs from the one at the same place before. -/
def changed_machines (current previous : List Machine) : List Machine :=
  ((current.zip previous).filter fun m => m.1.status ≠ m.2.status).map Prod.fst

def update_active_time_bucket (exchange_id : ℕ → Int) (today_schedule : Schedule) (handler : Handler) :
    Option Handler :=
  if handler.previous_time_bucket_index = -1 then do
    let first_time_bucket ← item today_schedule 0
    return send_machine_updates exchange_id first_time_bucket.machines handler
  else do
    let current_time_bucket ← item today_schedule handler.active_time_bucket_index
    let previous_time_bucket ← item today_schedule handler.previous_time_bucket_index
    let changed := changed_machines current_time_bucket.machines previous_time_bucket.machines
    if changed = [] then return handler
    else return send_machine_updates exchange_id changed handler

/-- The loop that determines the active time bucket, from index `i` on. -/
def active_index (now : ℚ) : List TimeBucket → ℕ → Int → Int
  | [], _, active => active
  | time_bucket :: rest, i, active =>
    if (time_bucket.timestamp : ℚ) > now then active else active_index now rest (i + 1) i

structure Tick where
  now : ℚ
  exchange_id : ℕ → Int

/-- One iteration of the loop of `monitor_active_time_bucket`. An exception is
    logged, which leaves the previous index as it was. -/
def monitor_active_time_bucket (date_of : ℚ → Date) (tick : Tick) (handler : Handler) : Handler :=
  match handler.master_schedule (date_of tick.now) with
  | none => handler
  | some today_schedule =>
    let handler := { handler with
      active_time_bucket_index := active_index tick.now today_schedule 0 handler.active_time_bucket_index }
    if handler.active_time_bucket_index ≠ handler.previous_time_bucket_index then
      match update_active_time_bucket tick.exchange_id today_schedule handler with
      | none => handler
      | some handler => { handler with previous_time_bucket_index := handler.active_time_bucket_index }
    else handler

/-- The first record with the identifier of the update is replaced by it. -/
def replace_first (machine_update : Machine) : List Machine → List Machine
  | [] => []
  | machine :: rest =>
    if machine.machine_id = machine_update.machine_id then machine_update :: rest
    else machine :: replace_first machine_update rest

/-- In a row that lists each machine once, every record of the machine is replaced. -/
theorem replace_first_eq_map {machine : Machine} {machines : List Machine}
    (nodup : (machines.map Machine.machine_id).Nodup) :
    replace_first machine machines = machines.map fun m => if m.machine_id = machine.machine_id then machine else m := by
  induction machines with
  | nil => rfl
  | cons m rest ih =>
    obtain ⟨fresh, nodup'⟩ := List.nodup_cons.mp nodup
    by_cases same : m.machine_id = machine.machine_id
    · have others : ∀ m' ∈ rest, m'.machine_id ≠ machine.machine_id := by
        intro m' member equal
        exact fresh (List.mem_map.mpr ⟨m', member, equal.trans same.symm⟩)
      have kept : (rest.map fun m => if m.machine_id = machine.machine_id then machine else m) = rest := by
        conv_rhs => rw [← List.map_id rest]
        exact List.map_congr_left fun m' member => if_neg (others m' member)
      simp [replace_first, same, kept]
    · simp [replace_first, same, ih nodup']

/-- `incoming_message_processor_internal` on the date it finds. `parse_raw` is
    that of `MACHINE`, none where it raises; the last publication may fail. -/
def incoming_message_processor_internal {Message : Type} (parse_raw : Message → Option Machine)
    (current_date : Date) (forwarded : Bool) (message : Message) (handler : Handler) : Handler :=
  match parse_raw message with
  | none => handler
  | some machine_update =>
    let handler :=
      match handler.master_schedule current_date with
      | none => handler
      | some today_schedule =>
        { handler with
          master_schedule := Function.update handler.master_schedule current_date (some
            (today_schedule.map fun time_bucket =>
              { time_bucket with machines := replace_first machine_update time_bucket.machines })) }
    if forwarded then
      { handler with published := handler.published ++ [(.machine_topic machine_update.machine_id, machine_update)] }
    else handler

def SameBooking (m m' : Machine) : Prop := m'.status = m.status ∧ m'.session_id = m.session_id

/-- Every cell later than the active bucket shows the booking it showed. -/
def LaterKept (active : Int) (before after : Schedule) : Prop :=
  ∀ j k : ℕ, active < j → ∀ m, entry before j k = some m → ∃ m', entry after j k = some m' ∧ SameBooking m m'

/-- A row keeps its bookings when the record that is replaced shows the
    booking of the update. -/
theorem replace_first_kept_iff (machine_update : Machine) (machines : List Machine) :
    (∀ (k : ℕ) (m : Machine), machines[k]? = some m →
      ∃ m', (replace_first machine_update machines)[k]? = some m' ∧ SameBooking m m') ↔
    ∀ m, machines.find? (fun m => m.machine_id = machine_update.machine_id) = some m →
      SameBooking m machine_update := by
  induction machines with
  | nil => simp
  | cons machine rest ih =>
    by_cases found : machine.machine_id = machine_update.machine_id
    · simp only [replace_first, found, if_true, decide_true, List.find?_cons_of_pos, Option.some.injEq, forall_eq']
      constructor
      · intro kept
        obtain ⟨m', here, same⟩ := kept 0 machine rfl
        cases here
        exact same
      · intro same k m at_k
        cases k with
        | zero => cases at_k; exact ⟨_, rfl, same⟩
        | succ k => exact ⟨m, at_k, rfl, rfl⟩
    · simp only [replace_first, found, if_false, decide_false, Bool.false_eq_true, not_false_eq_true,
        List.find?_cons_of_neg, ← ih]
      constructor
      · intro kept k m at_k
        exact kept (k + 1) m at_k
      · intro kept k m at_k
        cases k with
        | zero => exact ⟨m, at_k, rfl, rfl⟩
        | succ k => exact kept k m at_k

/-- What `replace_first` does to a day: the later bookings are kept when, in
    every later bucket, it replaces a record that shows the booking of the update. -/
theorem later_kept_iff (active : Int) (machine_update : Machine) (before : Schedule) :
    LaterKept active before (before.map fun time_bucket =>
        { time_bucket with machines := replace_first machine_update time_bucket.machines }) ↔
      ∀ (j : ℕ) (bucket : TimeBucket), active < j → before[j]? = some bucket →
        ∀ m, bucket.machines.find? (fun m => m.machine_id = machine_update.machine_id) = some m →
          SameBooking m machine_update := by
  have cells (j k : ℕ) (bucket : TimeBucket) (at_j : before[j]? = some bucket) :
      entry before j k = bucket.machines[k]? ∧ entry (before.map fun time_bucket =>
        { time_bucket with machines := replace_first machine_update time_bucket.machines }) j k =
          (replace_first machine_update bucket.machines)[k]? := by
    simp [entry, at_j]
  constructor
  · intro kept j bucket later at_j
    refine (replace_first_kept_iff machine_update bucket.machines).mp ?_
    intro k m at_k
    obtain ⟨was, is⟩ := cells j k bucket at_j
    rw [← is]
    exact kept j k later m (was.trans at_k)
  · intro shown j k later m at_k
    cases at_j : before[j]? with
    | none => simp [entry, at_j] at at_k
    | some bucket =>
      obtain ⟨was, is⟩ := cells j k bucket at_j
      rw [is]
      rw [was] at at_k
      exact (replace_first_kept_iff machine_update bucket.machines).mpr (shown j bucket later at_j) k m at_k

variable {Message : Type} (parse_raw : Message → Option Machine) (current_date : Date) (forwarded : Bool)

/-- After a message, the schedule of the date, if it has one, shows the later
    bookings it showed. -/
def BookingsKept (active : Int) (message : Message) (handler : Handler) : Prop :=
  ∀ before, handler.master_schedule current_date = some before → ∃ after,
    (incoming_message_processor_internal parse_raw current_date forwarded message handler).master_schedule
      current_date = some after ∧ LaterKept active before after

theorem schedule_after {message : Message} {handler : Handler} {machine_update : Machine}
    (parsed : parse_raw message = some machine_update) {before : Schedule}
    (found : handler.master_schedule current_date = some before) :
    (incoming_message_processor_internal parse_raw current_date forwarded message handler).master_schedule
      current_date = some (before.map fun time_bucket =>
        { time_bucket with machines := replace_first machine_update time_bucket.machines }) := by
  cases forwarded <;> simp [incoming_message_processor_internal, parsed, found]

/-- A message keeps the later bookings when it is no machine, or when in every
    later bucket the first record of its machine shows its booking already. -/
theorem bookings_kept_iff (active : Int) (message : Message) (handler : Handler) :
    BookingsKept parse_raw current_date forwarded active message handler ↔
      ∀ machine_update, parse_raw message = some machine_update →
        ∀ before, handler.master_schedule current_date = some before →
          ∀ (j : ℕ) (bucket : TimeBucket), active < j → before[j]? = some bucket →
            ∀ m, bucket.machines.find? (fun m => m.machine_id = machine_update.machine_id) = some m →
              SameBooking m machine_update := by
  cases parsed : parse_raw message with
  | none =>
    simp only [reduceCtorEq, false_implies, implies_true, iff_true]
    intro before found
    refine ⟨before, ?_, fun j k _ m at_k => ⟨m, at_k, rfl, rfl⟩⟩
    simp [incoming_message_processor_internal, parsed, found]
  | some machine_update =>
    constructor
    · rintro kept _ ⟨⟩ before found
      obtain ⟨after, stored, same⟩ := kept before found
      rw [schedule_after parse_raw current_date forwarded parsed found] at stored
      cases stored
      exact (later_kept_iff active machine_update before).mp same
    · intro shown before found
      have replaced := (later_kept_iff active machine_update before).mpr (shown machine_update rfl before found)
      exact ⟨_, schedule_after parse_raw current_date forwarded parsed found, replaced⟩

/-- Machine 1 is available for five minutes and then reserved for session 7. -/
def reservedNext : Schedule :=
  [{ timestamp := 0, machines := [Machine.create 1 .Available (.finite 0)] },
   { timestamp := 300, machines := [{ Machine.create 1 .Reserved (.finite 0) with session_id := some 7 }] }]

def firstBucket : Handler where
  master_schedule _ := some reservedNext
  active_time_bucket_index := 0
  previous_time_bucket_index := -1
  published := []

/-- The handler's own update for the first bucket erases the reservation. -/
theorem own_update_erases_booking :
    ¬ ∀ (handler sent : Handler) (exchange_id : ℕ → Int) (today_schedule : Schedule) (current_date : Date)
      (forwarded : Bool), handler.master_schedule current_date = some today_schedule →
      update_active_time_bucket exchange_id today_schedule handler = some sent →
      ∀ (topic : Topic) (machine : Machine), (topic, machine) ∈ sent.published →
        BookingsKept (machine_of .nan) current_date forwarded handler.active_time_bucket_index (model_dump machine) sent := by
  intro claim
  have kept := claim firstBucket _ (fun _ => 0) reservedNext ⟨1970, 1, 1⟩ true rfl rfl .HANDLER_TOPIC_INTERNAL
    { Machine.create 1 .Available (.finite 0) with exchange_id := some 0 } (by decide)
  obtain ⟨after, stored, same⟩ := kept reservedNext rfl
  rw [schedule_after _ _ _ (machine_of_dump .nan _) rfl] at stored
  cases stored
  obtain ⟨m, at_cell, status, _⟩ := same 1 0 (by decide) _ rfl
  cases at_cell
  exact absurd status (by decide)

end DispenserHub.MachineHandler
