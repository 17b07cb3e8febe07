import DispenserHub.KeptSessions
import DispenserHub.Rewrite
import DispenserHub.Spacing

/-!
Any run of `add_session` calls, followed by the archived path: it is given the
sessions that were granted, one after the other, from the same blank schedule.
What it answers and what cells it leaves depends on the cells it finds and on
nothing else of the records, so the two schedules keep the same cells.
-/

namespace DispenserHub.Replay
open Messages Buckets FileIo Effects MasterSchedule Availability Reservation MachineHandler ScheduleManager Booking
open KeptSessions (Reply)
open Rewrite Grid

/-- The cells of a row. -/
def row (machines : List Machine) : List (Int × Status × Option Int) :=
  machines.map fun m => (m.machine_id, m.status, m.session_id)

def bucket_cells (bucket : TimeBucket) : Int × List (Int × Status × Option Int) := (bucket.timestamp, row bucket.machines)

theorem cells_eq (schedule : Schedule) : cells schedule = schedule.map bucket_cells := rfl

theorem available_in_congr {machines machines' : List Machine} (same : row machines = row machines') (id : Int) :
    available_in machines id = available_in machines' id := by
  have through (l : List Machine) : available_in l id = (row l).any fun cell => decide (cell.1 = id ∧ cell.2.1 = .Available) := by
    simp [available_in, row, List.any_map, Function.comp_def]
  rw [through, through, same]

theorem row_replace_first {machines machines' : List Machine} (same : row machines = row machines') {m m' : Machine}
    (ids : m.machine_id = m'.machine_id) (statuses : m.status = m'.status) (sessions : m.session_id = m'.session_id) :
    row (replace_first m machines) = row (replace_first m' machines') := by
  induction machines generalizing machines' with
  | nil =>
    cases machines' with
    | nil => rfl
    | cons => cases same
  | cons first rest ih =>
    cases machines' with
    | nil => cases same
    | cons first' rest' =>
      simp only [row, List.map_cons, List.cons.injEq, Prod.mk.injEq] at same
      obtain ⟨⟨id, status, session⟩, later⟩ := same
      by_cases here : first.machine_id = m.machine_id
      · have here' : first'.machine_id = m'.machine_id := by rw [← id, here, ids]
        simp [replace_first, here, here', row, ids, statuses, sessions, later]
      · have here' : ¬ first'.machine_id = m'.machine_id := by rwa [← id, ← ids]
        have replaced := ih later
        unfold row at replaced
        simp only [replace_first, if_neg here, if_neg here', row, List.map_cons, replaced]
        rw [id, status, session]

/-- The loop over the machines answers by the cells of the row, and leaves the same cells. -/
theorem add_machines_congr (session : Session) (clock clock' : ℕ → Readings) (machine_ids : List Int) (k : ℕ)
    {bucket bucket' : TimeBucket} (same : bucket_cells bucket = bucket_cells bucket') :
    (add_machines session clock k machine_ids bucket).1 = (add_machines session clock' k machine_ids bucket').1 ∧
      bucket_cells (add_machines session clock k machine_ids bucket).2 =
        bucket_cells (add_machines session clock' k machine_ids bucket').2 := by
  induction machine_ids generalizing k bucket bucket' with
  | nil => exact ⟨rfl, same⟩
  | cons machine_id rest ih =>
    obtain ⟨times, rows⟩ := Prod.mk.inj same
    rw [add_machines_cons, add_machines_cons, available_in_congr rows machine_id, times]
    by_cases available : available_in bucket'.machines machine_id = true
    · rw [if_pos available, if_pos available]
      refine ih (k + 1) (Prod.ext rfl ?_)
      exact row_replace_first rows rfl rfl rfl
    · rw [if_neg available, if_neg available]
      exact ⟨rfl, same⟩

theorem cells_set {schedule schedule' : Schedule} (same : cells schedule = cells schedule') (j : ℕ)
    {bucket bucket' : TimeBucket} (here : bucket_cells bucket = bucket_cells bucket') :
    cells (schedule.set j bucket) = cells (schedule'.set j bucket') := by
  rw [cells_eq, cells_eq] at same ⊢
  rw [List.map_set, List.map_set, same, here]

theorem add_buckets_congr (session : Session) (clock clock' : ℕ → ℕ → Readings) (start_index : ℕ) (offsets : List ℕ)
    {schedule schedule' : Schedule} (same : cells schedule = cells schedule') :
    (add_buckets session clock start_index offsets schedule).1 =
        (add_buckets session clock' start_index offsets schedule').1 ∧
      cells (add_buckets session clock start_index offsets schedule).2 =
        cells (add_buckets session clock' start_index offsets schedule').2 := by
  induction offsets generalizing schedule schedule' with
  | nil => exact ⟨rfl, same⟩
  | cons i rest ih =>
    have buckets : (schedule[start_index + i]?).map bucket_cells = (schedule'[start_index + i]?).map bucket_cells := by
      rw [← List.getElem?_map, ← List.getElem?_map, ← cells_eq, ← cells_eq, same]
    rw [add_buckets, add_buckets]
    cases at_i : schedule[start_index + i]? with
    | none =>
      rw [at_i, Option.map_none, eq_comm, Option.map_eq_none_iff] at buckets
      rw [buckets]
      exact ⟨rfl, same⟩
    | some bucket =>
      rw [at_i, Option.map_some, eq_comm, Option.map_eq_some_iff] at buckets
      obtain ⟨bucket', at_i', here⟩ := buckets
      rw [at_i']
      obtain ⟨answers, rows⟩ := add_machines_congr session (clock i) (clock' i) session.machine_id 0 here.symm
      dsimp only
      rcases wrote : add_machines session (clock i) 0 session.machine_id bucket with ⟨message, after⟩
      rcases wrote' : add_machines session (clock' i) 0 session.machine_id bucket' with ⟨message', after'⟩
      rw [wrote, wrote'] at answers rows
      obtain rfl : message = message' := answers
      have written := cells_set same (start_index + i) rows
      cases message with
      | some text => exact ⟨rfl, written⟩
      | none => exact ih written

/-- What the archived path answers, and the cells it leaves, depends on the cells it finds. -/
theorem add_session_congr (session : Session) (clock clock' : ℕ → ℕ → Readings) {schedule schedule' : Schedule}
    (same : cells schedule = cells schedule') :
    (add_session_to_schedule clock session schedule).1 = (add_session_to_schedule clock' session schedule').1 ∧
      cells (add_session_to_schedule clock session schedule).2 =
        cells (add_session_to_schedule clock' session schedule').2 := by
  have times : timestamps schedule = timestamps schedule' := by
    have firsts := congrArg (List.map Prod.fst) same
    rwa [cells_eq, cells_eq, List.map_map, List.map_map] at firsts
  unfold add_session_to_schedule
  rw [find_timestamp_congr times (starts_at session.start_time)]
  cases schedule'.findIdx? fun time_bucket => starts_at session.start_time time_bucket.timestamp with
  | none => exact ⟨rfl, same⟩
  | some i =>
    cases session_buckets session.duration with
    | error e => exact ⟨rfl, same⟩
    | ok n =>
      obtain ⟨answers, left⟩ := add_buckets_congr session clock clock' i (List.range n.toNat) same
      dsimp only
      rcases wrote : add_buckets session clock i (List.range n.toNat) schedule with ⟨message, after⟩
      rcases wrote' : add_buckets session clock' i (List.range n.toNat) schedule' with ⟨message', after'⟩
      rw [wrote, wrote'] at answers left
      obtain rfl : message = message' := answers
      cases message with
      | some text => exact ⟨rfl, left⟩
      | none => exact ⟨rfl, left⟩

/-- Where the new path reserves the buckets of a session, the archived path
    accepts it and leaves the same cells. -/
theorem reserved_refines {machines : List Int} {schedule : Schedule} {session : Session} {d : Int}
    (spaced : Spaced TIME_BUCKET_SIZE (timestamps schedule)) (lists : Lists machines schedule)
    (proper : Proper machines schedule session d) {i : ℕ} (matched : start_index schedule session.start_time = some i)
    (room : (i : Int) + d ≤ schedule.length) (free : ∀ j, InWindow i d j → Free session.machine_ids schedule j) (env : Env)
    (clock : ℕ → ℕ → Readings) :
    (add_session_to_schedule clock session schedule).1 = (true, none) ∧
      cells (reserved_schedule env session (List.range' i (num_buckets d).toNat) schedule) =
        cells (add_session_to_schedule clock session schedule).2 := by
  have start := same_start spaced proper matched
  have taken := archived_accepts lists proper start room free clock
  have lasts := session_buckets_positive proper.positive
  rw [← proper.lasts] at lasts
  have covers := covers_iff start lasts
  obtain ⟨written, stamp, wrote⟩ := written_cells clock session fun other listed => (lists other listed).1
  refine ⟨taken, ?_⟩
  rw [wrote.result]
  refine reserved_eq_written proper env (fun j inside => wrote.complete taken j ((covers j).mpr inside)) ?_ stamp
  intro j outside
  by_contra filled
  exact outside ((covers j).mp (wrote.covered j filled))

section
variable {site : Site} {blank : Schedule} {machines : List Int} {date : Date}

/-- What is proper for the blank schedule is so for one with its timestamps. -/
theorem proper_congr {schedule : Schedule} {session : Session} {d : Int} (times : timestamps schedule = timestamps blank)
    (proper : Proper machines blank session d) : Proper machines schedule session d := by
  obtain ⟨bucket, member, start⟩ := proper.aligned
  have stamp : bucket.timestamp ∈ timestamps schedule := by
    rw [times]
    exact List.mem_map_of_mem member
  obtain ⟨bucket', member', same⟩ := List.mem_map.mp stamp
  exact { proper with aligned := ⟨bucket', member', by rw [start, same]⟩ }

/-- The archived path, given proper sessions that were granted so far, accepts
    them in turn and leaves the cells of the schedule in memory. -/
def Beside (site : Site) (blank : Schedule) (machines : List Int) (date : Date)
    (history : List (Booking.Call × Except PyError Bool)) (w : World) : Prop :=
  (∀ s ∈ granted site date history, ∃ d, Proper machines blank s d) → ∀ replay : List KeptSessions.Call,
    replay.map KeptSessions.Call.session = granted site date history →
    (∀ entry ∈ (Runs.run KeptSessions.step blank replay).1, entry.2 = ((true, none) : Reply)) ∧
      (w.master_schedule date).map cells = some (cells (Runs.run KeptSessions.step blank replay).2)

/-- One more session on the archived path. -/
theorem replay_concat {replay : List KeptSessions.Call} {last : KeptSessions.Call} {left : Schedule}
    (answers : ∀ entry ∈ (Runs.run KeptSessions.step blank replay).1, entry.2 = ((true, none) : Reply))
    (taken : (add_session_to_schedule last.clock last.session (Runs.run KeptSessions.step blank replay).2).1 = (true, none))
    (cells_left : cells left =
      cells (add_session_to_schedule last.clock last.session (Runs.run KeptSessions.step blank replay).2).2) :
    (∀ entry ∈ (Runs.run KeptSessions.step blank (replay ++ [last])).1, entry.2 = ((true, none) : Reply)) ∧
      some (cells left) = some (cells (Runs.run KeptSessions.step blank (replay ++ [last])).2) := by
  rw [Runs.run_concat]
  refine ⟨?_, congrArg some cells_left⟩
  intro entry member
  rcases List.mem_append.mp member with old | new
  · exact answers entry old
  · obtain rfl := List.mem_singleton.mp new
    exact taken

theorem step_beside (exact : MatchedRange site) (spaced : Spaced TIME_BUCKET_SIZE (timestamps blank))
    (nodup : machines.Nodup) (history : List (Booking.Call × Except PyError Bool)) (w : World) (call : Booking.Call)
    (booked : Booked site blank machines date history w) (beside : Beside site blank machines date history w) :
    Beside site blank machines date (history ++ [(call, (Booking.step site w call).1)]) (Booking.step site w call).2 := by
  obtain ⟨calendar, schedule, loaded, represents, _⟩ := booked
  intro proper replay same
  rw [granted_append] at proper same
  rcases add_session_cases site call.env exact.inRange call.session w with
    ⟨refused, looked⟩ | ⟨accepted, found_schedule, d, grant⟩
  · rw [if_neg fun granted => refused granted.1, List.append_nil] at same proper
    have kept : (Booking.step site w call).2.master_schedule date = some schedule := looked.keeps loaded
    rw [kept, ← loaded]
    exact beside proper replay same
  · have after : (Booking.step site w call).2 = _ := grant.result
    by_cases here : site.date_of call.session.start_time = date
    · rw [if_pos ⟨accepted, here⟩] at same proper
      obtain ⟨earlier, lasts, rfl, earlier_same, last_same⟩ := List.map_eq_append_iff.mp same
      obtain ⟨last, rfl, asked⟩ := List.map_eq_singleton_iff.mp last_same
      obtain ⟨answers, held⟩ := beside (fun s member => proper s (List.mem_append_left _ member)) earlier earlier_same
      rw [loaded, Option.map_some, Option.some.injEq] at held
      have found := grant.found
      rw [here, scheduleOf_loaded call.env loaded] at found
      obtain rfl := Except.ok.inj found
      obtain ⟨d', own⟩ := proper call.session (by simp)
      obtain rfl : d = d' := by
        have durations := grant.lasts.symm.trans own.lasts
        cases durations
        rfl
      obtain ⟨i, matched, room, free⟩ := (check_availability_iff _ _ _ _).mp grant.passed
      have spaced' : Spaced TIME_BUCKET_SIZE (timestamps schedule) := by
        rw [represents.times]
        exact spaced
      have lists : Lists machines schedule := by
        intro bucket member
        rw [represents.listed bucket member]
        exact ⟨nodup, fun _ => Iff.rfl⟩
      obtain ⟨taken, left⟩ := reserved_refines spaced' lists (proper_congr represents.times own) matched
        (room own.positive) free call.env last.clock
      obtain ⟨replies, cells_left⟩ := add_session_congr call.session last.clock last.clock held
      rw [after, here, updated_same, exact.range grant.lasts matched, Option.map_some]
      rw [replies] at taken
      rw [cells_left] at left
      rw [← asked] at taken left ⊢
      exact replay_concat answers taken left
    · rw [if_neg fun granted => here granted.2, List.append_nil] at same proper
      rw [after, updated_other _ (Ne.symm here)]
      exact beside proper replay same

/-- The archived path accepts, in turn, every session that a run of the new one
    granted, and ends with the same cells. -/
theorem granted_replayed (exact : MatchedRange site) {timestamp : Int → Int} {clock : Nat → Nat → PyFloat}
    (made : generate_blank_schedule timestamp clock date machines = .ok blank)
    (spaced : Spaced TIME_BUCKET_SIZE (timestamps blank)) (nodup : machines.Nodup) {w : World}
    (start : w.master_schedule date = some blank) (calls : List Booking.Call)
    (proper : ∀ s ∈ granted site date (Runs.run (Booking.step site) w calls).1, ∃ d, Proper machines blank s d)
    {replay : List KeptSessions.Call}
    (same : replay.map KeptSessions.Call.session = granted site date (Runs.run (Booking.step site) w calls).1) :
    (∀ entry ∈ (Runs.run KeptSessions.step blank replay).1, entry.2 = ((true, none) : Reply)) ∧
      ((Runs.run (Booking.step site) w calls).2.master_schedule date).map cells =
        some (cells (Runs.run KeptSessions.step blank replay).2) := by
  have isBlank := (generate_blank_schedule_blank made).2
  have init : Booked site blank machines date [] w ∧ Beside site blank machines date [] w := by
    refine ⟨⟨.empty, blank, start, represents_blank isBlank, rfl⟩, ?_⟩
    intro _ replay nothing
    obtain rfl := List.map_eq_nil_iff.mp nothing
    rw [Runs.run]
    exact ⟨fun entry member => absurd member List.not_mem_nil, congrArg (Option.map cells) start⟩
  have ends := Runs.run_invariant (Booking.step site)
    (fun history w => Booked site blank machines date history w ∧ Beside site blank machines date history w) init
    (fun history w call both => ⟨step_booked exact history w call both.1,
      step_beside exact spaced nodup history w call both.1 both.2⟩) calls
  exact ends.2 proper replay same

end

def two_calls : List Booking.Call := [request 7 600 2, request 8 3600 3]

def two_replayed : List KeptSessions.Call :=
  two_calls.map fun call => ⟨fun _ _ => (.finite 0, .finite 0), call.session⟩

theorem two_granted :
    granted firstDay ⟨1970, 1, 1⟩ (Runs.run (Booking.step firstDay) (worldOf (blankDay [1])) two_calls).1 =
      two_replayed.map KeptSessions.Call.session := by
  decide +kernel

theorem two_sessions_replayed :
    (∀ entry ∈ (Runs.run KeptSessions.step (blankDay [1]) two_replayed).1, entry.2 = ((true, none) : Reply)) ∧
      ((Runs.run (Booking.step firstDay) (worldOf (blankDay [1])) two_calls).2.master_schedule ⟨1970, 1, 1⟩).map cells =
        some (cells (Runs.run KeptSessions.step (blankDay [1]) two_replayed).2) := by
  refine granted_replayed firstDay_matched (blankDay_made [1]) (Spacing.blankDay_spaced [1]) (by decide)
    (worldOf_loaded _) two_calls ?_ two_granted.symm
  rw [two_granted]
  have first : (blankDay [1])[2]? = some ⟨600, [Machine.create 1 .Available (.finite 0)]⟩ := by decide +kernel
  have second : (blankDay [1])[12]? = some ⟨3600, [Machine.create 1 .Available (.finite 0)]⟩ := by decide +kernel
  intro s member
  rcases List.mem_cons.mp member with rfl | later
  · exact ⟨2, rfl, by decide, by decide, ⟨_, List.mem_of_getElem? first, by norm_num [two_calls, request]⟩, rfl, by decide⟩
  · obtain rfl := List.mem_singleton.mp later
    exact ⟨3, rfl, by decide, by decide, ⟨_, List.mem_of_getElem? second, by norm_num [two_calls, request]⟩, rfl, by decide⟩

end DispenserHub.Replay
