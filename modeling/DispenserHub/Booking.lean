import DispenserHub.Occupancy
import DispenserHub.Reservation
import DispenserHub.Runs

/-!
Any sequence of `add_session` calls, on any dates, seen from one date that
starts blank. The sessions granted on it form a calendar whose bookings lie
`BUFFER_SIZE` whole buckets apart, and the schedule in memory represents that
calendar: it marks the booked cells with their session and no others.
-/

namespace DispenserHub.Booking
open EStateM (Result)
open Messages Buckets FileIo Effects MasterSchedule Availability Reservation Occupancy Grid

/-- One call of `add_session` with what it meets outside. -/
structure Call where
  env : Env
  session : Session

variable (site : Site)

def step (w : World) (call : Call) : Except PyError Bool × World :=
  let result := EStateM.run (add_session site .complete call.env call.session) w
  (answer result, final result)

def granted_calls (date : Date) (history : List (Call × Except PyError Bool)) : List Call :=
  (history.filter fun entry => match entry.2 with
    | .ok true => site.date_of entry.1.session.start_time = date
    | _ => false).map Prod.fst

def granted (date : Date) (history : List (Call × Except PyError Bool)) : List Session :=
  (granted_calls site date history).map Call.session

theorem granted_calls_append (date : Date) (history : List (Call × Except PyError Bool)) (call : Call)
    (reply : Except PyError Bool) :
    granted_calls site date (history ++ [(call, reply)]) =
      granted_calls site date history ++
        if reply = .ok true ∧ site.date_of call.session.start_time = date then [call] else [] := by
  simp only [granted_calls, List.filter_append, List.map_append]
  congr 1
  rcases reply with e | _ | _ <;> by_cases here : site.date_of call.session.start_time = date <;> simp [here]

/-- `get_time_bucket_range` gives the buckets of the session, one for each
    started five minutes, from the bucket the check matched. -/
def MatchedRange : Prop :=
  ∀ (schedule : Schedule) (start : ℚ) (d : Int) (i : ℕ), start_index schedule (.finite start) = some i →
    site.get_time_bucket_range schedule (.finite start) (.finite (start + d)) =
      List.range' i (num_buckets d).toNat

/-- The session takes `k` buckets of the schedule from bucket `i` on. -/
def Occupies (schedule : Schedule) (session : Session) (i k : ℕ) : Prop :=
  ∃ d, session.duration = some (.int d) ∧ start_index schedule session.start_time = some i ∧
    k = (num_buckets d).toNat

theorem start_index_congr {schedule schedule' : Schedule} (same : timestamps schedule = timestamps schedule')
    (start_time : PyFloat) : start_index schedule start_time = start_index schedule' start_time :=
  find_timestamp_congr same (near · start_time)

variable {site}

theorem MatchedRange.range (exact : MatchedRange site) {schedule : Schedule} {session : Session} {d : Int}
    {i : ℕ} (lasts : session.duration = some (.int d))
    (matched : start_index schedule session.start_time = some i) :
    site.get_time_bucket_range schedule session.start_time (end_time session) =
      List.range' i (num_buckets d).toNat := by
  obtain ⟨bucket, start, _, finite, _⟩ := start_index_some matched
  rw [finite] at matched
  simp only [end_time, finite, lasts]
  exact exact schedule start d i matched

/-- There are buckets in it where the session lasts at all. -/
theorem MatchedRange.filled_iff (exact : MatchedRange site) {schedule : Schedule} {session : Session} {d : Int}
    (lasts : session.duration = some (.int d)) {i : ℕ} (matched : start_index schedule session.start_time = some i) :
    site.get_time_bucket_range schedule session.start_time (end_time session) ≠ [] ↔ 1 ≤ d := by
  rw [exact.range lasts matched, Ne, List.range'_eq_nil_iff]
  unfold num_buckets TIME_BUCKET_SIZE
  omega

theorem MatchedRange.inRange (exact : MatchedRange site) : InRange site := by
  intro session d schedule lasts passed idx member
  obtain ⟨i, matched, room, _⟩ := (check_availability_iff _ _ _ _).mp passed
  rw [exact.range lasts matched, List.mem_range'_1] at member
  unfold num_buckets TIME_BUCKET_SIZE at member
  have := room (by omega)
  omega

/-- The schedule is the blank one with the bookings of the calendar marked. -/
structure Represents (blank : Schedule) (machines : List Int) (calendar : Calendar Int Session BUFFER_SIZE)
    (schedule : Schedule) : Prop where
  times : timestamps schedule = timestamps blank
  listed : ∀ bucket ∈ schedule, bucket.machines.map Machine.machine_id = machines
  spans : ∀ b ∈ calendar.bookings, Occupies blank b.owner b.start b.length ∧ b.stop ≤ schedule.length ∧
    b.resources = {id | id ∈ machines ∧ id ∈ b.owner.machine_ids}
  marked : ∀ b ∈ calendar.bookings, ∀ j, b.Covers j → ∀ bucket, schedule[j]? = some bucket →
    ∀ m ∈ bucket.machines, m.machine_id ∈ b.owner.machine_ids →
      m.status = .Reserved ∧ m.session_id = some b.owner.session_id
  untaken : ∀ j bucket, schedule[j]? = some bucket → ∀ m ∈ bucket.machines,
    ¬ calendar.Taken j m.machine_id → m.status = .Available

theorem represents_blank {machines : List Int} {blank : Schedule} (isBlank : Blank machines blank) :
    Represents blank machines .empty blank where
  times := rfl
  listed bucket member := (isBlank bucket member).1
  spans b member := by simp at member
  marked b member := by simp at member
  untaken j bucket at_j m member _ := (isBlank bucket (List.mem_of_getElem? at_j)).2 m member

section
variable {blank : Schedule} {machines : List Int} {calendar : Calendar Int Session BUFFER_SIZE}
  {schedule : Schedule}

theorem Represents.entry (represents : Represents blank machines calendar schedule) {j : ℕ}
    (inside : j < schedule.length) {id : Int} (listed : id ∈ machines) :
    ∃ m ∈ schedule[j].machines, m.machine_id = id := by
  rw [← represents.listed schedule[j] (List.getElem_mem inside)] at listed
  exact List.mem_map.mp listed

theorem Represents.known (represents : Represents blank machines calendar schedule) {j : ℕ} {bucket : TimeBucket}
    (at_j : schedule[j]? = some bucket) {m : Machine} (entry : m ∈ bucket.machines) : m.machine_id ∈ machines := by
  rw [← represents.listed bucket (List.mem_of_getElem? at_j)]
  exact List.mem_map_of_mem entry

theorem Represents.taken (represents : Represents blank machines calendar schedule) {j : ℕ} {id : Int}
    (taken : calendar.Taken j id) {machine_ids : List Int} (requested : id ∈ machine_ids) :
    ¬ Free machine_ids schedule j := by
  intro free
  obtain ⟨b, member, covers, wanted⟩ := taken
  obtain ⟨_, fits, resources⟩ := represents.spans b member
  rw [resources] at wanted
  have inside : j < schedule.length := lt_of_lt_of_le covers.2 fits
  have here : schedule[j]? = some schedule[j] := List.getElem?_eq_getElem inside
  obtain ⟨m, entry, same⟩ := represents.entry inside wanted.1
  have isFree := free _ here m entry (by rw [same]; exact requested)
  have isReserved := (represents.marked b member j covers _ here m entry (by rw [same]; exact wanted.2)).1
  rw [isFree] at isReserved
  cases isReserved

def bookingOf (machines : List Int) (session : Session) (i k : ℕ) (filled : 0 < k) : Booking Int Session where
  owner := session
  resources := {id | id ∈ machines ∧ id ∈ session.machine_ids}
  start := i
  length := k
  nonempty := filled

theorem Represents.room (represents : Represents blank machines calendar schedule) {session : Session} {d : Int}
    {i k : ℕ} (filled : 0 < k) (positive : 0 ≤ d)
    (free : ∀ j, InWindow i d j → Free session.machine_ids schedule j) :
    calendar.Room (bookingOf machines session i k filled) d.toNat := by
  intro slot early late id wanted taken
  refine represents.taken taken wanted.2 (free slot ((inWindow_iff positive).mpr ⟨early, ?_⟩))
  simp only [bookingOf] at late
  omega

/-- Reserving the buckets of a booking with room around it keeps the schedule
    representing the calendar, now with that booking. -/
theorem Represents.book (represents : Represents blank machines calendar schedule) (env : Env)
    {session : Session} {i k reach : ℕ} (filled : 0 < k) (occupies : Occupies blank session i k)
    (fits : (bookingOf machines session i k filled).length ≤ reach) (ends : i + reach ≤ schedule.length)
    (room : calendar.Room (bookingOf machines session i k filled) reach) :
    Represents blank machines (calendar.book (bookingOf machines session i k filled) reach fits room)
      (reserved_schedule env session (List.range' i k) schedule) := by
  have covered (j : ℕ) : j ∈ List.range' i k ↔ (bookingOf machines session i k filled).Covers j := by
    rw [List.mem_range'_1]
    rfl
  refine ⟨?_, ?_, ?_, ?_, ?_⟩
  · rw [timestamps_reserved, represents.times]
  · intro bucket member
    obtain ⟨j, at_j⟩ := List.mem_iff_getElem?.mp member
    rw [reserved_schedule_at] at at_j
    obtain ⟨old, at_old, rfl⟩ := Option.map_eq_some_iff.mp at_j
    rw [← represents.listed old (List.mem_of_getElem? at_old)]
    split
    · exact machine_ids_reserved _ _ _
    · rfl
  · intro b member
    rw [Calendar.bookings_book, List.mem_append, List.mem_singleton] at member
    rw [reserved_schedule_length]
    rcases member with old | rfl
    · exact represents.spans b old
    · exact ⟨occupies, le_trans (Nat.add_le_add_left fits i) ends, rfl⟩
  · intro b member j covers bucket at_j m entry requested
    obtain ⟨old, m₀, at_old, entry₀, same, marks, keeps⟩ := reserved_schedule_entry env at_j entry
    rw [Calendar.bookings_book, List.mem_append, List.mem_singleton] at member
    rcases member with earlier | rfl
    · by_cases written : j ∈ List.range' i k ∧ m.machine_id ∈ session.machine_ids
      · -- An earlier booking of this cell would stand in the room of the new one.
        obtain ⟨_, _, resources⟩ := represents.spans b earlier
        have known : m.machine_id ∈ machines := by
          rw [← same]
          exact represents.known at_old entry₀
        have taken : calendar.Taken j m.machine_id :=
          ⟨b, earlier, covers, by rw [resources]; exact ⟨known, requested⟩⟩
        obtain ⟨early, late⟩ := (covered j).mp written.1
        have before : j < i + k := late
        have reached : k ≤ reach := fits
        exact absurd taken (room j (Nat.le_add_right_of_le early)
          (show j < i + reach + BUFFER_SIZE by omega) m.machine_id ⟨known, written.2⟩)
      · rw [keeps written]
        rw [← same] at requested
        exact represents.marked b earlier j covers old at_old m₀ entry₀ requested
    · exact marks ((covered j).mpr covers) requested
  · intro j bucket at_j m entry free
    obtain ⟨old, m₀, at_old, entry₀, same, _, keeps⟩ := reserved_schedule_entry env at_j entry
    rw [Calendar.taken_book] at free
    have known : m.machine_id ∈ machines := by
      rw [← same]
      exact represents.known at_old entry₀
    have unwritten : ¬ (j ∈ List.range' i k ∧ m.machine_id ∈ session.machine_ids) :=
      fun written => free (.inr ⟨(covered j).mp written.1, known, written.2⟩)
    rw [keeps unwritten]
    exact represents.untaken j old at_old m₀ entry₀ (by rw [same]; exact fun taken => free (.inl taken))

end

section
variable {site : Site} {blank : Schedule} {machines : List Int} {date : Date}

/-- What holds after a run: the schedule in memory represents a calendar of the
    sessions granted on the date. -/
def Booked (site : Site) (blank : Schedule) (machines : List Int) (date : Date)
    (history : List (Call × Except PyError Bool)) (w : World) : Prop :=
  ∃ calendar schedule, w.master_schedule date = some schedule ∧
    Represents blank machines calendar schedule ∧
    calendar.bookings.map Booking.owner = granted site date history

theorem granted_append (history : List (Call × Except PyError Bool)) (call : Call) (reply : Except PyError Bool) :
    granted site date (history ++ [(call, reply)]) =
      granted site date history ++
        if reply = .ok true ∧ site.date_of call.session.start_time = date then [call.session] else [] := by
  rw [granted, granted_calls_append, List.map_append, granted]
  split <;> rfl

theorem step_booked (exact : MatchedRange site) (history : List (Call × Except PyError Bool)) (w : World)
    (call : Call) (booked : Booked site blank machines date history w) :
    Booked site blank machines date (history ++ [(call, (step site w call).1)]) (step site w call).2 := by
  obtain ⟨calendar, schedule, loaded, represents, owners⟩ := booked
  rcases add_session_cases site call.env exact.inRange call.session w with ⟨refused, looked⟩ | ⟨accepted, grant⟩
  · refine ⟨calendar, schedule, looked.keeps loaded, represents, ?_⟩
    rw [granted_append, if_neg (fun granted => refused granted.1), List.append_nil, owners]
  · obtain ⟨found_schedule, d, found, lasts, passed, filled, result⟩ := grant
    have after : (step site w call).2 = _ := result
    by_cases here : site.date_of call.session.start_time = date
    · rw [here, scheduleOf_loaded call.env loaded] at found
      cases found
      obtain ⟨i, matched, ends, free⟩ := (check_availability_iff _ _ _ _).mp passed
      rw [exact.range lasts matched] at filled after
      have positive : 0 < (num_buckets d).toNat := by
        by_contra zero
        exact filled (by simp [show (num_buckets d).toNat = 0 by omega])
      have lasting : 1 ≤ d := by
        unfold num_buckets TIME_BUCKET_SIZE at positive
        omega
      have occupies : Occupies blank call.session i (num_buckets d).toNat :=
        ⟨d, lasts, by rw [← start_index_congr represents.times, matched], rfl⟩
      have fits : (bookingOf machines call.session i _ positive).length ≤ d.toNat :=
        Int.toNat_le_toNat (num_buckets_bounds lasting).2
      have room := represents.room positive (by omega) free
      refine ⟨calendar.book _ d.toNat fits room, _, ?_, represents.book call.env positive occupies fits ?_ room, ?_⟩
      · rw [after, here, updated_same]
      · have := ends (by omega)
        omega
      · rw [Calendar.bookings_book, List.map_append, owners, granted_append, if_pos ⟨accepted, here⟩]
        rfl
    · refine ⟨calendar, schedule, ?_, represents, ?_⟩
      · rw [after, updated_other _ (Ne.symm here), loaded]
      · rw [granted_append, if_neg (fun granted => here granted.2), List.append_nil, owners]

theorem run_booked (exact : MatchedRange site) (isBlank : Blank machines blank) {w : World}
    (start : w.master_schedule date = some blank) (calls : List Call) :
    Booked site blank machines date (Runs.run (step site) w calls).1 (Runs.run (step site) w calls).2 :=
  Runs.run_invariant (step site) (Booked site blank machines date)
    ⟨.empty, blank, start, represents_blank isBlank, rfl⟩ (step_booked exact) calls

def ShareMachine (machines : List Int) (a b : Session) : Prop :=
  ∃ id ∈ machines, id ∈ a.machine_ids ∧ id ∈ b.machine_ids

theorem Represents.apart {calendar : Calendar Int Session BUFFER_SIZE} {schedule : Schedule}
    (represents : Represents blank machines calendar schedule) :
    (calendar.bookings.map Booking.owner).Pairwise fun a b => ShareMachine machines a b →
      ∃ i k i' k', Occupies blank a i k ∧ 0 < k ∧ Occupies blank b i' k' ∧ 0 < k' ∧
        (i + k + BUFFER_SIZE ≤ i' ∨ i' + k' + BUFFER_SIZE ≤ i) := by
  rw [List.pairwise_map]
  refine calendar.apart.imp_of_mem ?_
  rintro a b memberA memberB apart ⟨id, listed, inA, inB⟩
  obtain ⟨occupiesA, _, resourcesA⟩ := represents.spans a memberA
  obtain ⟨occupiesB, _, resourcesB⟩ := represents.spans b memberB
  refine ⟨_, _, _, _, occupiesA, a.nonempty, occupiesB, b.nonempty, apart ⟨id, ?_, ?_⟩⟩
  · rw [resourcesA]; exact ⟨listed, inA⟩
  · rw [resourcesB]; exact ⟨listed, inB⟩

/-- No double booking: on a date that starts blank, granted sessions that share
    a listed machine have at least `BUFFER_SIZE` whole buckets between them, and
    every granted session still holds its machines in all its buckets. -/
theorem no_double_booking (exact : MatchedRange site) {timestamp : Int → Int} {clock : Nat → Nat → PyFloat}
    (made : generate_blank_schedule timestamp clock date machines = .ok blank) {w : World}
    (start : w.master_schedule date = some blank) (calls : List Call) :
    ((granted site date (Runs.run (step site) w calls).1).Pairwise fun a b => ShareMachine machines a b →
      ∃ i k i' k', Occupies blank a i k ∧ 0 < k ∧ Occupies blank b i' k' ∧ 0 < k' ∧
        (i + k + BUFFER_SIZE ≤ i' ∨ i' + k' + BUFFER_SIZE ≤ i)) ∧
    ∃ schedule, (Runs.run (step site) w calls).2.master_schedule date = some schedule ∧
      ∀ s ∈ granted site date (Runs.run (step site) w calls).1, ∃ i k, Occupies blank s i k ∧ 0 < k ∧
        ∀ j, i ≤ j → j < i + k → ∃ bucket, schedule[j]? = some bucket ∧
          bucket.machines.map Machine.machine_id = machines ∧
          ∀ m ∈ bucket.machines, m.machine_id ∈ s.machine_ids →
            m.status = .Reserved ∧ m.session_id = some s.session_id := by
  have isBlank := (generate_blank_schedule_blank made).2
  obtain ⟨calendar, schedule, loaded, represents, owners⟩ := run_booked exact isBlank start calls
  rw [← owners]
  refine ⟨represents.apart, schedule, loaded, ?_⟩
  intro s member
  obtain ⟨b, booked, rfl⟩ := List.mem_map.mp member
  obtain ⟨occupies, ends, _⟩ := represents.spans b booked
  refine ⟨b.start, b.length, occupies, b.nonempty, ?_⟩
  intro j first last
  have inside : j < schedule.length := lt_of_lt_of_le last ends
  have here : schedule[j]? = some schedule[j] := List.getElem?_eq_getElem inside
  exact ⟨_, here, represents.listed _ (List.getElem_mem inside), represents.marked b booked j ⟨first, last⟩ _ here⟩

end

theorem firstDay_matched : MatchedRange firstDay := by
  intro schedule start d i matched
  simp [firstDay, matched_range, matched]

def request (session_id : Int) (start : ℚ) (seconds : Int) : Call where
  env := plainEnv
  session :=
    { machine_id := [1], session_id, status := .Reserved, start_time := .finite start
      duration := some (.int seconds), exchange_id := none, origin_node := none, destination_node := none }

/-- Ten seconds from 149 s on and ten from 1051 s on: both are granted. -/
theorem two_requests_granted :
    granted firstDay ⟨1970, 1, 1⟩
      (Runs.run (step firstDay) (worldOf (blankDay [1])) [request 7 149 10, request 8 1051 10]).1 =
      [(request 7 149 10).session, (request 8 1051 10).session] := by
  decide +kernel

theorem two_requests_apart :
    ∃ i k i' k', Occupies (blankDay [1]) (request 7 149 10).session i k ∧ 0 < k ∧
      Occupies (blankDay [1]) (request 8 1051 10).session i' k' ∧ 0 < k' ∧
      (i + k + BUFFER_SIZE ≤ i' ∨ i' + k' + BUFFER_SIZE ≤ i) := by
  have apart := (no_double_booking firstDay_matched (blankDay_made [1]) (worldOf_loaded _)
    [request 7 149 10, request 8 1051 10]).1
  rw [two_requests_granted, List.pairwise_cons] at apart
  exact apart.1 _ (by simp) ⟨1, by decide, by decide, by decide⟩

end DispenserHub.Booking
