import DispenserHub.MachineHandler
import DispenserHub.Reservation
import Mathlib.Data.List.Duplicate

/-!
`add_session_to_schedule` of `ARCHIVE/nodes/schedule_manager.py`. It checks and
writes one machine of one bucket after the other, in the schedule it is given.
`accepted_iff` says which sessions come through, `written_cells` what any call
has written when the rows list no machine twice.
-/

namespace DispenserHub.ScheduleManager
open Messages Buckets Availability Reservation MachineHandler

/-- `time_bucket[0] == start_time`. -/
def starts_at (start_time : PyFloat) (timestamp : Int) : Bool :=
  match start_time with
  | .finite start => (timestamp : ℚ) = start
  | _ => false

/-- The truth value of a duration: an absent one and zero are false. -/
def truthy : Option PyNumber → Bool
  | none => false
  | some (.int d) => d ≠ 0
  | some (.float d) => d ≠ .finite 0

/-- `-(-duration // TIME_BUCKET_SIZE) if duration else 1`, as an argument of
    `range`, which raises on a float. -/
def session_buckets (duration : Option PyNumber) : Except PyError Int :=
  if truthy duration then
    match duration with
    | some (.int d) => .ok (num_buckets d)
    | _ => .error .TypeError
  else .ok 1

/-- The two readings of the clock at one record: of `last_updated=time.time()`
    and of the timestamp a new record is stamped with. -/
abbrev Readings := PyFloat × PyFloat

/-- `MACHINE(machine_id=machine_id, session_id=session.session_id, ...)`. -/
def session_machine (session : Session) (now : Readings) (machine_id : Int) : Machine where
  machine_id := machine_id
  session_id := some session.session_id
  status := session.status
  ball_level := none
  scheduled_until := if truthy session.duration then some (end_time session) else none
  last_updated := some now.1
  exchange_id := session.exchange_id
  timestamp := now.2
  origin_node := some .Manager
  destination_node := some .Handler

/-- `any(m.machine_id == machine_id and m.status == Status.AVAILABLE for m in
    time_bucket[1:])`. -/
def available_in (machines : List Machine) (machine_id : Int) : Bool :=
  machines.any fun m => m.machine_id = machine_id ∧ m.status = .Available

/-- `for machine_id in machine_ids`, from position `k` of the list on, in one
    bucket: the message it fails with, if any, and the bucket as it is left. -/
def add_machines (session : Session) (clock : ℕ → Readings) : ℕ → List Int → TimeBucket → Option String × TimeBucket
  | _, [], time_bucket => (none, time_bucket)
  | k, machine_id :: rest, time_bucket =>
    if available_in time_bucket.machines machine_id = false then
      (some s!"Machine {machine_id} unavailable at {time_bucket.timestamp}", time_bucket)
    else if (time_bucket.machines.any fun m => m.machine_id = machine_id) = false then
      (some s!"Machine ID {machine_id} not found in time bucket {time_bucket.timestamp}", time_bucket)
    else
      let machine := session_machine session (clock k) machine_id
      add_machines session clock (k + 1) rest
        { time_bucket with machines := replace_first machine time_bucket.machines }

/-- `for i in range(num_buckets)`, over the given values of `i`. -/
def add_buckets (session : Session) (clock : ℕ → ℕ → Readings) (start_index : ℕ) :
    List ℕ → Schedule → Option String × Schedule
  | [], schedule => (none, schedule)
  | i :: rest, schedule =>
    match schedule[start_index + i]? with
    | none => (some "Session exceeds schedule bounds", schedule)
    | some time_bucket =>
      match add_machines session (clock i) 0 session.machine_id time_bucket with
      | (some message, time_bucket) => (some message, schedule.set (start_index + i) time_bucket)
      | (none, time_bucket) => add_buckets session clock start_index rest (schedule.set (start_index + i) time_bucket)

/-- The answer and the schedule as it is left. The first bucket equal to the one
    found is that one, since an equal one before it would start at the same time. -/
def add_session_to_schedule (clock : ℕ → ℕ → Readings) (session : Session) (schedule : Schedule) :
    (Bool × Option String) × Schedule :=
  match schedule.findIdx? fun time_bucket => starts_at session.start_time time_bucket.timestamp with
  | none => ((false, some "Start time not found in schedule"), schedule)
  | some start_index =>
    match session_buckets session.duration with
    | .error _ => ((false, some "An unexpected error occurred while adding the session"), schedule)
    | .ok num_buckets =>
      match add_buckets session clock start_index (List.range num_buckets.toNat) schedule with
      | (some message, schedule) => ((false, some message), schedule)
      | (none, schedule) => ((true, none), schedule)

theorem available_in_iff (machines : List Machine) (machine_id : Int) :
    available_in machines machine_id = true ↔
      ∃ m ∈ machines, m.machine_id = machine_id ∧ m.status = .Available := by
  simp [available_in]

/-- A machine that is available is listed, so the second failure of the loop
    never happens. -/
theorem add_machines_cons (session : Session) (clock : ℕ → Readings) (k : ℕ) (machine_id : Int) (rest : List Int)
    (time_bucket : TimeBucket) :
    add_machines session clock k (machine_id :: rest) time_bucket =
      if available_in time_bucket.machines machine_id then
        add_machines session clock (k + 1) rest { time_bucket with
          machines := replace_first (session_machine session (clock k) machine_id) time_bucket.machines }
      else (some s!"Machine {machine_id} unavailable at {time_bucket.timestamp}", time_bucket) := by
  rw [add_machines]
  by_cases available : available_in time_bucket.machines machine_id = true
  · obtain ⟨m, member, same, _⟩ := (available_in_iff _ _).mp available
    have listed : (time_bucket.machines.any fun m => m.machine_id = machine_id) = true := by
      rw [List.any_eq_true]
      exact ⟨m, member, by simpa using same⟩
    simp [available, listed]
  · simp [available]

/-- The records of a machine in a row. -/
def records (machine_id : Int) (machines : List Machine) : List Machine :=
  machines.filter fun m => m.machine_id = machine_id

/-- A row takes a list of machines: each is available in it, and one that is
    named again still is after its first record has got the session's status. -/
def Admits (status : Status) (machine_ids : List Int) (machines : List Machine) : Prop :=
  (∀ id ∈ machine_ids, available_in machines id = true) ∧
    ∀ id, List.Duplicate id machine_ids → status = .Available ∨ ∃ m ∈ (records id machines).tail, m.status = .Available

theorem available_in_records (machines : List Machine) (machine_id : Int) :
    available_in machines machine_id = true ↔ ∃ m ∈ records machine_id machines, m.status = .Available := by
  simp [available_in, records, and_assoc]

theorem records_replaced (machine : Machine) (machines : List Machine) :
    records machine.machine_id (replace_first machine machines) =
      match records machine.machine_id machines with
      | [] => []
      | _ :: rest => machine :: rest := by
  induction machines with
  | nil => rfl
  | cons m rest ih =>
    by_cases same : m.machine_id = machine.machine_id
    · simp [records, replace_first, same]
    · unfold records at ih ⊢
      simp only [replace_first, same, if_false, decide_false, Bool.false_eq_true, not_false_eq_true,
        List.filter_cons_of_neg, ih]

theorem records_kept {machine : Machine} {machine_id : Int} (other : machine_id ≠ machine.machine_id)
    (machines : List Machine) : records machine_id (replace_first machine machines) = records machine_id machines := by
  induction machines with
  | nil => rfl
  | cons m rest ih =>
    by_cases same : m.machine_id = machine.machine_id
    · simp [records, replace_first, same, Ne.symm other]
    · unfold records at ih ⊢
      simp [replace_first, same, ih, List.filter_cons]

theorem records_available {machine_id : Int} {machines : List Machine}
    (available : available_in machines machine_id = true) : ∃ first later, records machine_id machines = first :: later := by
  obtain ⟨m, member, _⟩ := (available_in_records _ _).mp available
  exact List.exists_cons_of_ne_nil (List.ne_nil_of_mem member)

/-- A machine that has a record gets the session's in its place. -/
theorem records_written (session : Session) (now : Readings) {machine_id : Int} {machines : List Machine}
    {first : Machine} {later : List Machine} (split : records machine_id machines = first :: later) :
    records machine_id (replace_first (session_machine session now machine_id) machines) =
      session_machine session now machine_id :: later := by
  have here : records (session_machine session now machine_id).machine_id machines = first :: later := split
  have replaced := records_replaced (session_machine session now machine_id) machines
  rw [here] at replaced
  exact replaced

/-- What a row admits, machine by machine: the first is available, and the row
    with it replaced admits the others. -/
theorem admits_cons {session : Session} (now : Readings) {machine_id : Int} {rest : List Int}
    {machines : List Machine} :
    Admits session.status (machine_id :: rest) machines ↔
      available_in machines machine_id = true ∧
        Admits session.status rest (replace_first (session_machine session now machine_id) machines) := by
  have kept {id : Int} (other : id ≠ machine_id) :
      records id (replace_first (session_machine session now machine_id) machines) = records id machines :=
    records_kept other machines
  unfold Admits
  simp only [available_in_records, List.forall_mem_cons, and_assoc, List.duplicate_cons_iff]
  refine and_congr_right ?_
  intro here
  -- The machine has a record, so after its replacement the first one is the session's.
  obtain ⟨first, later, split⟩ := records_available ((available_in_records _ _).mpr here)
  have replaced := records_written session now split
  constructor
  · rintro ⟨all, again⟩
    refine ⟨?_, ?_⟩
    · intro id member
      by_cases same : id = machine_id
      · subst same
        rw [replaced]
        rcases again id (.inl ⟨rfl, member⟩) with free | ⟨m, other, free⟩
        · exact ⟨session_machine session now id, List.mem_cons_self, free⟩
        · rw [split] at other
          exact ⟨m, List.mem_cons_of_mem _ other, free⟩
      · rw [kept same]
        exact all id member
    · intro id twice
      by_cases same : id = machine_id
      · subst same
        rw [replaced]
        have free := again id (.inr twice)
        rw [split] at free
        exact free
      · rw [kept same]
        exact again id (.inr twice)
  · rintro ⟨all, again⟩
    refine ⟨?_, ?_⟩
    · intro id member
      by_cases same : id = machine_id
      · subst same
        exact here
      · rw [← kept same]
        exact all id member
    · rintro id (⟨same, member⟩ | twice)
      · subst same
        obtain ⟨m, found, free⟩ := all machine_id member
        rw [replaced] at found
        rw [split]
        rcases List.mem_cons.mp found with rfl | other
        · exact .inl free
        · exact .inr ⟨m, other, free⟩
      · by_cases same : id = machine_id
        · subst same
          have free := again id twice
          rw [replaced] at free
          rw [split]
          exact free
        · rw [← kept same]
          exact again id twice

theorem add_machines_none_iff (session : Session) (clock : ℕ → Readings) (k : ℕ) (machine_ids : List Int)
    (time_bucket : TimeBucket) :
    (add_machines session clock k machine_ids time_bucket).1 = none ↔
      Admits session.status machine_ids time_bucket.machines := by
  induction machine_ids generalizing k time_bucket with
  | nil => simp [add_machines, Admits]
  | cons machine_id rest ih =>
    rw [add_machines_cons, admits_cons (clock k)]
    by_cases available : available_in time_bucket.machines machine_id = true
    · simp [available, ih]
    · simp [available]

theorem add_buckets_none_iff (session : Session) (clock : ℕ → ℕ → Readings) (start_index : ℕ) {offsets : List ℕ}
    (nodup : offsets.Nodup) (schedule : Schedule) :
    (add_buckets session clock start_index offsets schedule).1 = none ↔
      ∀ i ∈ offsets, ∃ time_bucket, schedule[start_index + i]? = some time_bucket ∧
        Admits session.status session.machine_id time_bucket.machines := by
  induction offsets generalizing schedule with
  | nil => simp [add_buckets]
  | cons i rest ih =>
    obtain ⟨fresh, nodup'⟩ := List.nodup_cons.mp nodup
    rw [List.forall_mem_cons, add_buckets]
    cases at_i : schedule[start_index + i]? with
    | none => simp
    | some time_bucket =>
      have admits := add_machines_none_iff session (clock i) 0 session.machine_id time_bucket
      rcases written : add_machines session (clock i) 0 session.machine_id time_bucket with ⟨_ | message, time_bucket'⟩
      · rw [written] at admits
        have other (j : ℕ) (member : j ∈ rest) :
            (schedule.set (start_index + i) time_bucket')[start_index + j]? = schedule[start_index + j]? := by
          have different : start_index + i ≠ start_index + j := by
            rintro same
            obtain rfl : i = j := by omega
            exact fresh member
          exact List.getElem?_set_ne different
        have admitted := admits.mp rfl
        simp only [written, ih nodup', Option.some.injEq, exists_eq_left', admitted, true_and]
        constructor
        · intro all j member
          rw [← other j member]
          exact all j member
        · intro all j member
          rw [other j member]
          exact all j member
      · rw [written] at admits
        simp only [reduceCtorEq, false_iff] at admits
        simp [written, admits]

/-- A session that starts at a bucket, lasts a number of buckets that all exist
    and names machines that each of these admits. -/
def Fits (session : Session) (schedule : Schedule) : Prop :=
  ∃ i n, schedule.findIdx? (fun time_bucket => starts_at session.start_time time_bucket.timestamp) = some i ∧
    session_buckets session.duration = .ok n ∧ ∀ k : ℕ, (k : Int) < n → ∃ time_bucket,
      schedule[i + k]? = some time_bucket ∧ Admits session.status session.machine_id time_bucket.machines

theorem accepted_iff (clock : ℕ → ℕ → Readings) (session : Session) (schedule : Schedule) :
    (add_session_to_schedule clock session schedule).1 = (true, none) ↔ Fits session schedule := by
  unfold add_session_to_schedule Fits
  cases found : schedule.findIdx? fun time_bucket => starts_at session.start_time time_bucket.timestamp with
  | none => simp
  | some i =>
    cases lasts : session_buckets session.duration with
    | error e => simp
    | ok n =>
      have none_iff := add_buckets_none_iff session clock i (List.nodup_range (n := n.toNat)) schedule
      simp only [List.mem_range, Int.lt_toNat] at none_iff
      simp only [Option.some.injEq, Except.ok.injEq, exists_and_left, exists_eq_left']
      rw [← none_iff]
      rcases add_buckets session clock i (List.range n.toNat) schedule with ⟨_ | message, after⟩ <;> simp

theorem refused_iff (clock : ℕ → ℕ → Readings) (session : Session) (schedule : Schedule) :
    (add_session_to_schedule clock session schedule).1.1 = false ↔ ¬ Fits session schedule := by
  rw [← accepted_iff clock]
  unfold add_session_to_schedule
  cases schedule.findIdx? fun time_bucket => starts_at session.start_time time_bucket.timestamp with
  | none => simp
  | some i =>
    cases session_buckets session.duration with
    | error e => simp
    | ok n =>
      rcases written : add_buckets session clock i (List.range n.toNat) schedule with ⟨_ | message, after⟩ <;>
        simp [written]

/-! ### What a call has written -/

/-- A record after the machines in `written` were replaced, each with the
    readings of its last replacement. -/
def marked (session : Session) (written : List Int) (stamp : Int → Readings) (m : Machine) : Machine :=
  if m.machine_id ∈ written then session_machine session (stamp m.machine_id) m.machine_id else m

@[simp] theorem marked_machine_id (session : Session) (written : List Int) (stamp : Int → Readings) (m : Machine) :
    (marked session written stamp m).machine_id = m.machine_id := by
  unfold marked
  split <;> rfl

@[simp] theorem map_marked_nil (session : Session) (stamp : Int → Readings) (machines : List Machine) :
    machines.map (marked session [] stamp) = machines := by
  have unchanged : marked session [] stamp = id := by
    funext m
    simp [marked]
  rw [unchanged, List.map_id]

theorem available_of_nodup {machines : List Machine} (nodup : (machines.map Machine.machine_id).Nodup)
    {machine_id : Int} (available : available_in machines machine_id = true) {m : Machine} (member : m ∈ machines)
    (same : m.machine_id = machine_id) : m.status = .Available := by
  obtain ⟨m', member', same', free⟩ := (available_in_iff _ _).mp available
  rw [List.inj_on_of_nodup_map nodup member member' (same.trans same'.symm)]
  exact free

/-- In a row without repetitions a call replaces some of the asked machines, all
    of them when it comes through, and each was available before. -/
theorem add_machines_written (session : Session) (clock : ℕ → Readings) (k : ℕ) (machine_ids : List Int)
    (time_bucket : TimeBucket) (nodup : (time_bucket.machines.map Machine.machine_id).Nodup) :
    ∃ written stamp, written ⊆ machine_ids ∧
      ((add_machines session clock k machine_ids time_bucket).1 = none → written = machine_ids) ∧
      (∀ m ∈ time_bucket.machines, m.machine_id ∈ written → m.status = .Available) ∧
      (add_machines session clock k machine_ids time_bucket).2 =
        { time_bucket with machines := time_bucket.machines.map (marked session written stamp) } := by
  induction machine_ids generalizing k time_bucket with
  | nil => exact ⟨[], fun _ => clock k, by simp, by simp, by simp, by simp [add_machines]⟩
  | cons machine_id rest ih =>
    rw [add_machines_cons]
    by_cases available : available_in time_bucket.machines machine_id = true
    · rw [if_pos available, replace_first_eq_map nodup]
      obtain ⟨written, stamp, asked, complete, free, result⟩ := ih (k + 1)
        { time_bucket with machines := time_bucket.machines.map fun m =>
            if m.machine_id = (session_machine session (clock k) machine_id).machine_id then
              session_machine session (clock k) machine_id else m } (by
          have ids : (time_bucket.machines.map fun m =>
              if m.machine_id = (session_machine session (clock k) machine_id).machine_id then
                session_machine session (clock k) machine_id else m).map Machine.machine_id =
              time_bucket.machines.map Machine.machine_id := by
            rw [List.map_map]
            refine List.map_congr_left ?_
            intro m _
            simp only [Function.comp]
            split
            · next same => exact same.symm
            · rfl
          rw [ids]
          exact nodup)
      refine ⟨machine_id :: written, fun id => if id ∈ written then stamp id else clock k, ?_, ?_, ?_, ?_⟩
      · exact List.cons_subset_cons machine_id asked
      · intro through
        rw [complete through]
      · intro m member marks
        by_cases same : m.machine_id = machine_id
        · exact available_of_nodup nodup available member same
        · refine free m (List.mem_map.mpr ⟨m, member, if_neg same⟩) ?_
          exact (List.mem_cons.mp marks).resolve_left same
      · rw [result]
        simp only [List.map_map]
        congr 1
        refine List.map_congr_left ?_
        intro m _
        -- The record that was replaced first may be replaced again later.
        by_cases same : m.machine_id = machine_id
        · by_cases again : machine_id ∈ written <;>
            simp [marked, same, again, session_machine]
        · simp [marked, session_machine, same]
          split <;> rfl
    · rw [if_neg available]
      exact ⟨[], fun _ => clock k, by simp, by simp, by simp, by simp⟩

/-- No bucket lists a machine twice. -/
def Unrepeated (schedule : Schedule) : Prop :=
  ∀ bucket ∈ schedule, (bucket.machines.map Machine.machine_id).Nodup

def written_schedule (session : Session) (written : ℕ → List Int) (stamp : ℕ → Int → Readings)
    (schedule : Schedule) : Schedule :=
  schedule.mapIdx fun j bucket => { bucket with machines := bucket.machines.map (marked session (written j) (stamp j)) }

theorem written_schedule_at (session : Session) (written : ℕ → List Int) (stamp : ℕ → Int → Readings)
    (schedule : Schedule) (j : ℕ) :
    (written_schedule session written stamp schedule)[j]? = schedule[j]?.map fun bucket =>
      { bucket with machines := bucket.machines.map (marked session (written j) (stamp j)) } := by
  simp [written_schedule]

theorem written_schedule_none (session : Session) (stamp : ℕ → Int → Readings) (schedule : Schedule) :
    written_schedule session (fun _ => []) stamp schedule = schedule := by
  apply List.ext_getElem?
  intro j
  simp [written_schedule_at]

/-- Writing one more bucket, that was left alone before. -/
theorem written_schedule_set {session : Session} {written : ℕ → List Int} {stamp : ℕ → Int → Readings}
    {schedule : Schedule} {k : ℕ} {bucket : TimeBucket} (at_k : schedule[k]? = some bucket)
    (untouched : written k = []) (row : List Int) (readings : Int → Readings) :
    written_schedule session written stamp
        (schedule.set k { bucket with machines := bucket.machines.map (marked session row readings) }) =
      written_schedule session (Function.update written k row) (Function.update stamp k readings) schedule := by
  apply List.ext_getElem?
  intro j
  rw [written_schedule_at, written_schedule_at]
  by_cases same : k = j
  · subst same
    simp [List.getElem?_set_self (List.getElem?_eq_some_iff.mp at_k).1, at_k, untouched]
  · rw [List.getElem?_set_ne same, Function.update_of_ne (Ne.symm same), Function.update_of_ne (Ne.symm same)]

theorem Unrepeated.set {schedule : Schedule} (unrepeated : Unrepeated schedule) {k : ℕ} {bucket : TimeBucket}
    (at_k : schedule[k]? = some bucket) (session : Session) (row : List Int) (readings : Int → Readings) :
    Unrepeated (schedule.set k { bucket with machines := bucket.machines.map (marked session row readings) }) := by
  intro other member
  rcases List.mem_or_eq_of_mem_set member with old | rfl
  · exact unrepeated other old
  · have ids : (bucket.machines.map (marked session row readings)).map Machine.machine_id =
        bucket.machines.map Machine.machine_id := by simp [Function.comp_def]
    rw [ids]
    exact unrepeated bucket (List.mem_of_getElem? at_k)

/-- What was written into the buckets of a span: in which bucket which of the
    session's machines, all of them if it came through, and each was available
    before. -/
structure Wrote (session : Session) (schedule : Schedule) (span : ℕ → Prop) (through : Prop) (after : Schedule)
    (written : ℕ → List Int) (stamp : ℕ → Int → Readings) : Prop where
  asked : ∀ j, written j ⊆ session.machine_id
  covered : ∀ j, written j ≠ [] → span j
  complete : through → ∀ j, span j → written j = session.machine_id
  free : ∀ j bucket, schedule[j]? = some bucket → ∀ m ∈ bucket.machines, m.machine_id ∈ written j →
    m.status = .Available
  result : after = written_schedule session written stamp schedule

theorem wrote_nothing (session : Session) (schedule : Schedule) {span : ℕ → Prop} {through : Prop}
    (ends : through → ∀ j, ¬ span j) (stamp : ℕ → Int → Readings) :
    Wrote session schedule span through schedule (fun _ => []) stamp where
  asked := by simp
  covered := by simp
  complete came j inside := absurd inside (ends came j)
  free := by simp
  result := (written_schedule_none session stamp schedule).symm

/-- One bucket and then the others of the span. -/
theorem Wrote.cons {session : Session} {schedule after : Schedule} {span rest : ℕ → Prop} {through : Prop}
    {written : ℕ → List Int} {stamp : ℕ → Int → Readings} {k : ℕ} {bucket : TimeBucket} {row : List Int}
    {readings : Int → Readings} (at_k : schedule[k]? = some bucket) (asked : row ⊆ session.machine_id)
    (free : ∀ m ∈ bucket.machines, m.machine_id ∈ row → m.status = .Available)
    (complete : through → row = session.machine_id) (spans : ∀ j, span j ↔ j = k ∨ rest j) (fresh : ¬ rest k)
    (wrote : Wrote session (schedule.set k { bucket with machines := bucket.machines.map (marked session row readings) })
      rest through after written stamp) :
    Wrote session schedule span through after (Function.update written k row) (Function.update stamp k readings) := by
  have untouched : written k = [] := by
    by_contra filled
    exact fresh (wrote.covered k filled)
  refine ⟨?_, ?_, ?_, ?_, ?_⟩
  · intro j
    by_cases here : j = k
    · rw [here, Function.update_self]
      exact asked
    · rw [Function.update_of_ne here]
      exact wrote.asked j
  · intro j filled
    by_cases here : j = k
    · exact (spans j).mpr (.inl here)
    · rw [Function.update_of_ne here] at filled
      exact (spans j).mpr (.inr (wrote.covered j filled))
  · intro came j inside
    by_cases here : j = k
    · rw [here, Function.update_self]
      exact complete came
    · rw [Function.update_of_ne here]
      exact wrote.complete came j (((spans j).mp inside).resolve_left here)
  · intro j other at_j m entry marks
    by_cases here : j = k
    · rw [here, Function.update_self] at marks
      rw [here, at_k] at at_j
      cases at_j
      exact free m entry marks
    · rw [Function.update_of_ne here] at marks
      exact wrote.free j other (by rw [List.getElem?_set_ne (Ne.symm here), at_j]) m entry marks
  · rw [wrote.result, written_schedule_set at_k untouched row readings]

theorem add_buckets_written (session : Session) (clock : ℕ → ℕ → Readings) (start_index : ℕ) {offsets : List ℕ}
    (nodup : offsets.Nodup) {schedule : Schedule} (unrepeated : Unrepeated schedule) :
    ∃ written stamp, Wrote session schedule (fun j => ∃ i ∈ offsets, j = start_index + i)
      ((add_buckets session clock start_index offsets schedule).1 = none)
      (add_buckets session clock start_index offsets schedule).2 written stamp := by
  induction offsets generalizing schedule with
  | nil => exact ⟨_, _, wrote_nothing session schedule (by simp) fun _ _ => clock 0 0⟩
  | cons i rest ih =>
    obtain ⟨fresh, nodup'⟩ := List.nodup_cons.mp nodup
    rw [add_buckets]
    cases at_i : schedule[start_index + i]? with
    | none => exact ⟨_, _, wrote_nothing session schedule (by simp) fun _ _ => clock 0 0⟩
    | some time_bucket =>
      obtain ⟨row, readings, asked, complete, free, result⟩ := add_machines_written session (clock i) 0
        session.machine_id time_bucket (unrepeated time_bucket (List.mem_of_getElem? at_i))
      have spans (j : ℕ) : (∃ k ∈ i :: rest, j = start_index + k) ↔
          j = start_index + i ∨ ∃ k ∈ rest, j = start_index + k := by simp
      have elsewhere : ¬ ∃ k ∈ rest, start_index + i = start_index + k := by
        rintro ⟨k, member, same⟩
        obtain rfl : i = k := by omega
        exact fresh member
      rcases ran : add_machines session (clock i) 0 session.machine_id time_bucket with ⟨_ | message, after⟩
      · rw [ran] at complete result
        obtain rfl : after = _ := result
        obtain ⟨written, stamp, wrote⟩ := ih nodup' (unrepeated.set at_i session row readings)
        simp only [ran]
        exact ⟨_, _, wrote.cons at_i asked free (fun _ => complete rfl) spans elsewhere⟩
      · rw [ran] at result
        obtain rfl : after = _ := result
        simp only [ran]
        exact ⟨_, _, (wrote_nothing session _ (by simp) fun _ _ => clock 0 0).cons at_i asked free (by simp) spans
          elsewhere⟩

/-- The buckets a session takes, from the one it starts at. -/
def Covers (session : Session) (schedule : Schedule) (j : ℕ) : Prop :=
  ∃ i n, schedule.findIdx? (fun time_bucket => starts_at session.start_time time_bucket.timestamp) = some i ∧
    session_buckets session.duration = .ok n ∧ i ≤ j ∧ (j : Int) < i + n

theorem covers_iff {session : Session} {schedule : Schedule} {i : ℕ} {n : Int}
    (start : schedule.findIdx? (fun time_bucket => starts_at session.start_time time_bucket.timestamp) = some i)
    (lasts : session_buckets session.duration = .ok n) (j : ℕ) :
    Covers session schedule j ↔ j ∈ List.range' i n.toNat := by
  rw [List.mem_range'_1]
  constructor
  · rintro ⟨i', n', start', lasts', first, last⟩
    rw [start] at start'
    rw [lasts] at lasts'
    cases start'
    cases lasts'
    omega
  · rintro ⟨first, last⟩
    exact ⟨i, n, start, lasts, first, by omega⟩

/-- An accepted session has found all its buckets ready to take its machines. -/
theorem accepted_admits {clock : ℕ → ℕ → Readings} {session : Session} {schedule : Schedule}
    (accepted : (add_session_to_schedule clock session schedule).1 = (true, none)) {j : ℕ}
    (covers : Covers session schedule j) :
    ∃ bucket, schedule[j]? = some bucket ∧ Admits session.status session.machine_id bucket.machines := by
  obtain ⟨i, n, found, lasts, first, last⟩ := covers
  obtain ⟨i', n', found', lasts', admitted⟩ := (accepted_iff clock session schedule).mp accepted
  rw [found] at found'
  rw [lasts] at lasts'
  cases found'
  cases lasts'
  obtain ⟨bucket, at_j, admits⟩ := admitted (j - i) (by omega)
  rw [show i + (j - i) = j by omega] at at_j
  exact ⟨bucket, at_j, admits⟩

/-- What a call wrote, accepted or refused. -/
theorem written_cells (clock : ℕ → ℕ → Readings) (session : Session) {schedule : Schedule}
    (unrepeated : Unrepeated schedule) :
    ∃ written stamp, Wrote session schedule (Covers session schedule)
      ((add_session_to_schedule clock session schedule).1 = (true, none))
      (add_session_to_schedule clock session schedule).2 written stamp := by
  unfold add_session_to_schedule
  cases found : schedule.findIdx? fun time_bucket => starts_at session.start_time time_bucket.timestamp with
  | none => exact ⟨_, _, wrote_nothing session schedule (by simp) fun _ _ => clock 0 0⟩
  | some i =>
    cases lasts : session_buckets session.duration with
    | error e => exact ⟨_, _, wrote_nothing session schedule (by simp) fun _ _ => clock 0 0⟩
    | ok n =>
      have covers (j : ℕ) : Covers session schedule j ↔ ∃ k ∈ List.range n.toNat, j = i + k := by
        simp only [Covers, found, lasts, Option.some.injEq, Except.ok.injEq, List.mem_range]
        constructor
        · rintro ⟨_, _, rfl, rfl, first, last⟩
          exact ⟨j - i, by omega, by omega⟩
        · rintro ⟨k, inside, rfl⟩
          exact ⟨i, n, rfl, rfl, by omega, by omega⟩
      obtain ⟨written, stamp, wrote⟩ :=
        add_buckets_written session clock i (List.nodup_range (n := n.toNat)) unrepeated
      rw [show Covers session schedule = _ from funext fun j => propext (covers j)]
      rcases ran : add_buckets session clock i (List.range n.toNat) schedule with ⟨_ | message, after⟩ <;>
        rw [ran] at wrote <;> simp only [ran]
      · exact ⟨written, stamp, wrote.asked, wrote.covered, fun _ => wrote.complete rfl, wrote.free, wrote.result⟩
      · exact ⟨written, stamp, wrote.asked, wrote.covered, by simp, wrote.free, wrote.result⟩

end DispenserHub.ScheduleManager
