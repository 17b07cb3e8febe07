import DispenserHub.Booking
import DispenserHub.SlotSearch
import DispenserHub.Spacing

/-!
A day that starts blank, after any run of `add_session` calls. What is granted
next and what the slot search offers is told by the sessions granted so far, and
nothing else of the run: a request or an offer is one that keeps its distance
from those that share a machine with it.
-/

namespace DispenserHub.ClearSlots
open Messages Buckets Effects MasterSchedule Availability Reservation Occupancy Booking Grid

/-- A request of `d` from bucket `i` on for some machines keeps clear of a
    granted session: they share no listed machine, or `BUFFER_SIZE` buckets lie
    between them. The request counts a bucket for every second. -/
def Clear (blank : Schedule) (machines : List Int) (i : ℕ) (d : Int) (machine_ids : List Int) (s : Session) : Prop :=
  (∃ id ∈ machines, id ∈ s.machine_ids ∧ id ∈ machine_ids) → ∀ i' k, Occupies blank s i' k →
    i' + k + BUFFER_SIZE ≤ i ∨ (i : Int) + d + BUFFER_SIZE ≤ i'

section
variable {blank : Schedule} {machines : List Int} {calendar : Calendar Int Session BUFFER_SIZE} {schedule : Schedule}

theorem occupies_unique {s : Session} {i k i' k' : ℕ} (occupies : Occupies blank s i k)
    (occupies' : Occupies blank s i' k') : i = i' ∧ k = k' := by
  obtain ⟨d, lasts, matched, rfl⟩ := occupies
  obtain ⟨d', lasts', matched', rfl⟩ := occupies'
  rw [lasts] at lasts'
  cases lasts'
  rw [matched] at matched'
  cases matched'
  exact ⟨rfl, rfl⟩

/-- The window of a request is free in the schedule when it has room in the
    calendar. -/
theorem window_free_iff (represents : Represents blank machines calendar schedule) (session : Session)
    {i : ℕ} {d : Int} (lasting : 1 ≤ d) (filled : 0 < d.toNat) :
    (∀ j, InWindow i d j → Free session.machine_ids schedule j) ↔
      calendar.Room (bookingOf machines session i d.toNat filled) d.toNat := by
  constructor
  · exact represents.room filled (by omega)
  · intro room j inside bucket at_j m member wanted
    obtain ⟨early, late⟩ := (inWindow_iff (by omega)).mp inside
    refine represents.untaken j bucket at_j m member (room j early ?_ m.machine_id ⟨represents.known at_j member, wanted⟩)
    show j < i + d.toNat + BUFFER_SIZE
    omega

theorem room_iff_clear (represents : Represents blank machines calendar schedule) (session : Session)
    {i : ℕ} {d : Int} (lasting : 1 ≤ d) (filled : 0 < d.toNat) :
    calendar.Room (bookingOf machines session i d.toNat filled) d.toNat ↔
      ∀ s ∈ calendar.bookings.map Booking.owner, Clear blank machines i d session.machine_ids s := by
  refine (calendar.room_iff (bookingOf machines session i d.toNat filled)).trans ?_
  rw [List.forall_mem_map]
  have whole : (d.toNat : Int) = d := Int.toNat_of_nonneg (by omega)
  refine forall₂_congr ?_
  intro a member
  obtain ⟨occupies, _, resources⟩ := represents.spans a member
  constructor
  · rintro apart ⟨id, listed, taken, wanted⟩ i' k occupies'
    obtain ⟨rfl, rfl⟩ := occupies_unique occupies occupies'
    have rivals : Rivals a (bookingOf machines session i d.toNat filled) :=
      ⟨id, by rw [resources]; exact ⟨listed, taken⟩, listed, wanted⟩
    rcases apart rivals with before | after
    · exact .inl before
    · right
      have after' : i + d.toNat + BUFFER_SIZE ≤ a.start := after
      omega
  · rintro clear ⟨id, taken, listed, wanted⟩
    rw [resources] at taken
    rcases clear ⟨id, listed, taken.2, wanted⟩ a.start a.length occupies with before | after
    · exact .inl before
    · right
      show i + d.toNat + BUFFER_SIZE ≤ a.start
      omega

/-- What the check says of a schedule that represents a calendar. -/
theorem check_iff_clear (represents : Represents blank machines calendar schedule) (session : Session) {d : Int}
    (lasting : 1 ≤ d) :
    check_availability session.machine_ids session.start_time d schedule = true ↔
      ∃ i : ℕ, start_index blank session.start_time = some i ∧ (i : Int) + d ≤ blank.length ∧
        ∀ s ∈ calendar.bookings.map Booking.owner, Clear blank machines i d session.machine_ids s := by
  have filled : 0 < d.toNat := by omega
  rw [check_availability_iff, start_index_congr represents.times, length_of_timestamps represents.times]
  refine exists_congr fun i => and_congr_right ?_
  intro _
  rw [window_free_iff represents session lasting filled, room_iff_clear represents session lasting filled]
  exact and_congr_left fun _ => ⟨fun room => room (by omega), fun room _ => room⟩

end

section
variable {site : Site} {blank : Schedule} {machines : List Int} {date : Date}

/-- A call is granted by what it finds for the session's date. -/
theorem accepted_found_iff (session : Session) {w : World} {schedule : Schedule} (exact : MatchedRange site) {env : Env}
    (found : scheduleOf env w (site.date_of session.start_time) = .ok schedule) :
    answer (EStateM.run (add_session site .complete env session) w) = .ok true ↔
      ∃ d, session.duration = some (.int d) ∧ 1 ≤ d ∧
        check_availability session.machine_ids session.start_time d schedule = true := by
  constructor
  · intro accepted
    rcases add_session_cases site env exact.inRange session w with ⟨refused, _⟩ | ⟨_, found_schedule, d, granted⟩
    · exact absurd accepted refused
    · obtain rfl : schedule = found_schedule := Except.ok.inj (found.symm.trans granted.found)
      obtain ⟨i, matched, _⟩ := (check_availability_iff _ _ _ _).mp granted.passed
      exact ⟨d, granted.lasts, (exact.filled_iff granted.lasts matched).mp granted.filled, granted.passed⟩
  · rintro ⟨d, lasts, lasting, passed⟩
    have checked : check_availability_of session.machine_ids session.start_time session.duration schedule = .ok true := by
      rw [lasts, check_availability_of_int, passed]
    obtain ⟨i, matched, _⟩ := (check_availability_iff _ _ _ _).mp passed
    have filled := (exact.filled_iff lasts matched).mpr lasting
    have written := reserve_buckets_complete env session _ schedule (exact.inRange session d schedule lasts passed)
    simp [run_add_session, found, checked, filled, written]

theorem accepted_iff (session : Session) {w : World} {schedule : Schedule} (exact : MatchedRange site)
    (loaded : w.master_schedule (site.date_of session.start_time) = some schedule) (env : Env) :
    answer (EStateM.run (add_session site .complete env session) w) = .ok true ↔
      ∃ d, session.duration = some (.int d) ∧ 1 ≤ d ∧
        check_availability session.machine_ids session.start_time d schedule = true :=
  accepted_found_iff session exact (scheduleOf_loaded env loaded)

/-- A request is granted, after any run, when it lasts, starts at a bucket, ends
    in the day and keeps clear of every session granted so far. -/
theorem run_granted_iff (exact : MatchedRange site) (isBlank : Blank machines blank) {w : World}
    (start : w.master_schedule date = some blank) (calls : List Call) (call : Call)
    (here : site.date_of call.session.start_time = date) :
    (step site (Runs.run (step site) w calls).2 call).1 = .ok true ↔
      ∃ (d : Int) (i : ℕ), call.session.duration = some (.int d) ∧ 1 ≤ d ∧
        start_index blank call.session.start_time = some i ∧ (i : Int) + d ≤ blank.length ∧
        ∀ s ∈ granted site date (Runs.run (step site) w calls).1, Clear blank machines i d call.session.machine_ids s := by
  obtain ⟨calendar, schedule, loaded, represents, owners⟩ := run_booked exact isBlank start calls
  rw [← here] at loaded
  refine (accepted_iff call.session exact loaded call.env).trans ⟨?_, ?_⟩
  · rintro ⟨d, lasts, lasting, passed⟩
    obtain ⟨i, matched, ends, clear⟩ := (check_iff_clear represents call.session lasting).mp passed
    rw [owners] at clear
    exact ⟨d, i, lasts, lasting, matched, ends, clear⟩
  · rintro ⟨d, i, lasts, lasting, matched, ends, clear⟩
    rw [← owners] at clear
    exact ⟨d, lasts, lasting, (check_iff_clear represents call.session lasting).mpr ⟨i, matched, ends, clear⟩⟩

theorem granted_grows (site : Site) (date : Date) (w : World) (earlier later : List Call) :
    granted site date (Runs.run (step site) w earlier).1 ⊆ granted site date (Runs.run (step site) w (earlier ++ later)).1 := by
  rw [Runs.run_append]
  intro s member
  simp only [granted, granted_calls, List.filter_append, List.map_append, List.mem_append]
  exact .inl member

/-- The answers of a run are those of a calendar: on a date that starts blank a
    request is granted when it lasts, starts at a bucket, ends in the day and
    keeps clear of every session granted so far, whatever else was asked. And
    one that is refused stays refused. -/
theorem granted_iff_clear (exact : MatchedRange site) {timestamp : Int → Int} {clock : Nat → Nat → PyFloat}
    (made : generate_blank_schedule timestamp clock date machines = .ok blank) {w : World}
    (start : w.master_schedule date = some blank) (calls : List Call) (call : Call)
    (here : site.date_of call.session.start_time = date) :
    ((step site (Runs.run (step site) w calls).2 call).1 = .ok true ↔
      ∃ (d : Int) (i : ℕ), call.session.duration = some (.int d) ∧ 1 ≤ d ∧
        start_index blank call.session.start_time = some i ∧ (i : Int) + d ≤ blank.length ∧
        ∀ s ∈ granted site date (Runs.run (step site) w calls).1, Clear blank machines i d call.session.machine_ids s) ∧
    ((step site (Runs.run (step site) w calls).2 call).1 ≠ .ok true → ∀ (later : List Call) (env : Env),
      (step site (Runs.run (step site) w (calls ++ later)).2 { call with env }).1 ≠ .ok true) := by
  have isBlank := (generate_blank_schedule_blank made).2
  refine ⟨run_granted_iff exact isBlank start calls call here, ?_⟩
  intro refused later env accepted
  obtain ⟨d, i, lasts, lasting, matched, ends, clear⟩ :=
    (run_granted_iff exact isBlank start (calls ++ later) { call with env } here).mp accepted
  refine refused ((run_granted_iff exact isBlank start calls call here).mpr ⟨d, i, lasts, lasting, matched, ends, ?_⟩)
  intro s member
  exact clear s (granted_grows site date w calls later member)

end

/-- The answered calls of a run that were granted. -/
def was_granted (entry : Call × Except PyError Bool) : Bool :=
  match entry.2 with
  | .ok true => true
  | _ => false

theorem was_granted_iff (call : Call) (reply : Except PyError Bool) :
    was_granted (call, reply) = true ↔ reply = .ok true := by
  rcases reply with e | _ | _ <;> simp [was_granted]

/-- The dates of a run are in memory from its start on. -/
def AllLoaded (site : Site) (calls : List Call) (w : World) : Prop :=
  ∀ call ∈ calls, ∃ schedule, w.master_schedule (site.date_of call.session.start_time) = some schedule

theorem AllLoaded.step {site : Site} (inRange : InRange site) {calls : List Call} {w : World}
    (loaded : AllLoaded site calls w) (call : Call) :
    AllLoaded site calls (step site w call).2 := by
  intro other listed
  obtain ⟨schedule, at_date⟩ := loaded other listed
  rcases add_session_cases site call.env inRange call.session w with ⟨_, looked⟩ | ⟨_, found_schedule, d, grant⟩
  · exact ⟨schedule, looked.keeps at_date⟩
  · have after : (Booking.step site w call).2 = _ := grant.result
    rw [after]
    by_cases same : site.date_of other.session.start_time = site.date_of call.session.start_time
    · exact ⟨_, by rw [same, updated_same]⟩
    · exact ⟨schedule, by rw [updated_other _ same, at_date]⟩

/-- A run in which the refused calls are left out answers the granted ones the
    same and ends in the same world: the same schedules, files and flag. -/
theorem refused_leave_no_trace {site : Site} (inRange : InRange site) {calls : List Call} {w : World}
    (loaded : AllLoaded site calls w) :
    let history := (Runs.run (step site) w calls).1
    Runs.run (step site) w ((history.filter was_granted).map Prod.fst) =
      (history.filter was_granted, (Runs.run (step site) w calls).2) := by
  have silent : ∀ s t call, call ∈ calls → s = t ∧ AllLoaded site calls s →
      was_granted (call, (step site s call).1) = false → (step site s call).2 = t ∧ AllLoaded site calls (step site s call).2 := by
    rintro s _ call member ⟨rfl, there⟩ refused
    obtain ⟨schedule, at_date⟩ := there call member
    rcases add_session_cases site call.env inRange call.session s with ⟨_, looked⟩ | ⟨accepted, _⟩
    · exact ⟨looked.of_loaded at_date, there.step inRange call⟩
    · have shown := (was_granted_iff call (step site s call).1).mpr accepted
      rw [shown] at refused
      cases refused
  have follows : ∀ s t call, call ∈ calls → s = t ∧ AllLoaded site calls s →
      was_granted (call, (step site s call).1) = true → (step site t call).1 = (step site s call).1 ∧
        (step site s call).2 = (step site t call).2 ∧ AllLoaded site calls (step site s call).2 := by
    rintro s _ call member ⟨rfl, there⟩ _
    exact ⟨rfl, rfl, there.step inRange call⟩
  obtain ⟨answers, ends, _⟩ := Runs.run_erase (step site) (step site) (· ∈ calls)
    (fun s t => s = t ∧ AllLoaded site calls s) was_granted silent follows ⟨rfl, loaded⟩ calls fun _ member => member
  exact Prod.ext answers ends.symm

open SlotSearch Adjacency

section
variable {site : Site} {blank : Schedule} {date : Date}

theorem blank_times {calendar : Calendar Int Session BUFFER_SIZE} {schedule : Schedule} {machines : List Int}
    (represents : Represents blank machines calendar schedule) {b : ℕ} {bucket : TimeBucket}
    (at_b : schedule[b]? = some bucket) : ∃ bucket₀, blank[b]? = some bucket₀ ∧ bucket₀.timestamp = bucket.timestamp := by
  have stamp := timestamp_at at_b
  rw [represents.times, timestamps, List.getElem?_map] at stamp
  exact Option.map_eq_some_iff.mp stamp

/-- The slot of a group at a bucket of a represented schedule fits when it ends
    in the day and keeps clear of the calendar's sessions. -/
theorem fits_iff_clear {calendar : Calendar Int Session BUFFER_SIZE} {schedule : Schedule} {machines : List Int}
    (represents : Represents blank machines calendar schedule)
    (spaced : Spaced TIME_BUCKET_SIZE (timestamps blank)) {b : ℕ} {bucket : TimeBucket} (at_b : blank[b]? = some bucket)
    {d : Int} (lasting : 1 ≤ d) (machine_ids : List Int) :
    check_availability machine_ids (.finite bucket.timestamp) d schedule = true ↔
      (b : Int) + d ≤ blank.length ∧
        ∀ s ∈ calendar.bookings.map Booking.owner, Clear blank machines b d machine_ids s := by
  have checked := check_iff_clear represents (offer bucket machine_ids d) lasting
  refine Iff.trans checked ?_
  have here : start_index blank (offer bucket machine_ids d).start_time = some b := start_index_aligned spaced at_b
  simp only [here, Option.some.injEq, exists_eq_left']
  rfl

theorem orFalse_some {options offers : List Session} (found : orFalse options = some offers) : options = offers := by
  unfold orFalse at found
  split at found
  · cases found
  · exact Option.some.inj found

/-- An answer of the search is the options of the loops, in some order. -/
theorem answered_options {schedule : Schedule} (n : ℕ) {d : Int} (env : Env) {w : World}
    (loaded : w.master_schedule date = some schedule) (forward : 0 ≤ d) (start_time : Option ℚ) :
    ∃ offers : List Session, offers.Perm (options schedule n d) ∧
      answer (EStateM.run (get_availability env date n start_time d) w) = .ok (orFalse offers) := by
  rw [answer_get_availability env loaded forward]
  cases start_time with
  | none => exact ⟨_, .refl _, rfl⟩
  | some preferred =>
    by_cases zero : preferred = 0
    · exact ⟨_, .refl _, by simp only [if_pos zero]⟩
    · exact ⟨_, (sort_by_distance_stable preferred _).perm, by simp only [if_neg zero]⟩

theorem mem_answered {schedule : Schedule} {n : ℕ} {d : Int} {env : Env} {w : World}
    (loaded : w.master_schedule date = some schedule) (forward : 0 ≤ d) {start_time : Option ℚ} {offers : List Session}
    (found : answer (EStateM.run (get_availability env date n start_time d) w) = .ok (some offers)) {s : Session}
    (listed : s ∈ offers) : s ∈ options schedule n d := by
  obtain ⟨offers', perm, found'⟩ := answered_options n env loaded forward start_time
  rw [found', Except.ok.injEq] at found
  rw [← orFalse_some found] at listed
  exact perm.subset listed

/-- After any run the search offers exactly the adjacent groups and the buckets
    whose slots end in the day and keep clear of every session granted so far,
    each once, and `False` when there are none. A preferred start makes no
    difference to that. -/
theorem search_offers_clear_slots (exact : MatchedRange site) {timestamp : Int → Int} {clock : Nat → Nat → PyFloat}
    (made : generate_blank_schedule timestamp clock date MACHINE_ID_LIST = .ok blank)
    (spaced : Spaced TIME_BUCKET_SIZE (timestamps blank)) {w : World} (start : w.master_schedule date = some blank)
    (calls : List Call) (env : Env) {n : ℕ} (some_machines : 1 ≤ n) {d : Int} (lasting : 1 ≤ d)
    (start_time : Option ℚ) :
    ∃ offers : List Session,
      answer (EStateM.run (get_availability env date n start_time d) (Runs.run (step site) w calls).2) =
        .ok (orFalse offers) ∧
      (∀ s ∈ offers, ∃ (b : ℕ) (bucket : TimeBucket), blank[b]? = some bucket ∧
        s.start_time = .finite bucket.timestamp ∧ IsGroup n s.machine_ids) ∧
      (offers.Pairwise fun s s' => ¬ (s.start_time = s'.start_time ∧ s.machine_ids.Perm s'.machine_ids)) ∧
      ∀ (b : ℕ) (bucket : TimeBucket), blank[b]? = some bucket → ∀ machine_ids, IsGroup n machine_ids →
        ((∃ s ∈ offers, s.start_time = .finite bucket.timestamp ∧ s.machine_ids.Perm machine_ids) ↔
          are_adjacent MACHINE_LAYOUT machine_ids = true ∧ (b : Int) + d ≤ blank.length ∧
            ∀ s ∈ granted site date (Runs.run (step site) w calls).1, Clear blank MACHINE_ID_LIST b d machine_ids s) := by
  have isBlank := (generate_blank_schedule_blank made).2
  obtain ⟨calendar, schedule, loaded, represents, owners⟩ := run_booked exact isBlank start calls
  have spaced' : Spaced TIME_BUCKET_SIZE (timestamps schedule) := by
    rw [represents.times]
    exact spaced
  have slots := options_exact spaced' represents.listed some_machines (show 0 ≤ d by omega)
  obtain ⟨offers, perm, found⟩ := answered_options n env loaded (show 0 ≤ d by omega) start_time
  refine ⟨offers, found, ?_, ?_, ?_⟩
  · intro s member
    obtain ⟨b, bucket, at_b, starts, _, group⟩ := slots.slots s (perm.subset member)
    obtain ⟨bucket₀, at_b₀, stamp⟩ := blank_times represents at_b
    exact ⟨b, bucket₀, at_b₀, by rw [stamp]; exact starts, group⟩
  · refine (List.Perm.pairwise_iff ?_ perm).mpr slots.once
    rintro s s' differ ⟨starts, groups⟩
    exact differ ⟨starts.symm, groups.symm⟩
  · intro b bucket at_b machine_ids group
    have inside : b < schedule.length := by
      rw [length_of_timestamps represents.times]
      exact (List.getElem?_eq_some_iff.mp at_b).1
    have at_b' : schedule[b]? = some schedule[b] := List.getElem?_eq_getElem inside
    obtain ⟨bucket₀, at_b₀, stamp⟩ := blank_times represents at_b'
    obtain rfl : bucket = bucket₀ := Option.some.inj (at_b.symm.trans at_b₀)
    have same : (∃ s ∈ offers, s.start_time = .finite bucket.timestamp ∧ s.machine_ids.Perm machine_ids) ↔
        ∃ s ∈ options schedule n d, s.start_time = .finite bucket.timestamp ∧ s.machine_ids.Perm machine_ids :=
      exists_congr fun s => and_congr_left fun _ => perm.mem_iff
    rw [same, stamp, slots.offered b schedule[b] at_b' machine_ids group, Fits, ← stamp, ← owners,
      fits_iff_clear represents spaced at_b lasting]

/-- A session with the duration it was asked for, as an integer. -/
def asked (s : Session) (d : Int) : Session := { s with duration := some (.int d) }

/-- No session the search returns can be added as it is: its duration is a
    float, on which the check raises a `TypeError`. With the integer that was
    asked for, every one of them is granted. -/
theorem offers_granted_as_integers (exact : MatchedRange site) {timestamp : Int → Int} {clock : Nat → Nat → PyFloat}
    (made : generate_blank_schedule timestamp clock date MACHINE_ID_LIST = .ok blank)
    (spaced : Spaced TIME_BUCKET_SIZE (timestamps blank))
    (on_date : ∀ bucket ∈ blank, site.date_of (.finite bucket.timestamp) = date) {w : World}
    (start : w.master_schedule date = some blank) (calls : List Call) (env env' : Env) {n : ℕ} {d : Int} (lasting : 1 ≤ d)
    (start_time : Option ℚ) {offers : List Session}
    (found : answer (EStateM.run (get_availability env date n start_time d) (Runs.run (step site) w calls).2) =
      .ok (some offers)) {s : Session} (listed : s ∈ offers) :
    let reached := (Runs.run (step site) w calls).2
    step site reached ⟨env', s⟩ = (.error .TypeError, reached) ∧ (step site reached ⟨env', asked s d⟩).1 = .ok true := by
  have isBlank := (generate_blank_schedule_blank made).2
  obtain ⟨calendar, schedule, loaded, represents, _⟩ := run_booked exact isBlank start calls
  have spaced' : Spaced TIME_BUCKET_SIZE (timestamps schedule) := by
    rw [represents.times]
    exact spaced
  have member := mem_answered loaded (by omega) found listed
  obtain ⟨bucket, taken, at_bucket⟩ := List.mem_flatMap.mp member
  obtain ⟨p, _, _, fits, rfl⟩ := (mem_options_at represents.listed (List.mem_of_mem_take taken)).mp at_bucket
  obtain ⟨b, at_b⟩ := List.mem_iff_getElem?.mp (List.mem_of_mem_take taken)
  obtain ⟨bucket₀, at_b₀, stamp⟩ := blank_times represents at_b
  have dated : site.date_of (offer bucket (Blocks.block MACHINE_ID_LIST p n) d).start_time = date := by
    rw [show (offer bucket (Blocks.block MACHINE_ID_LIST p n) d).start_time = .finite bucket.timestamp from rfl, ← stamp]
    exact on_date bucket₀ (List.mem_of_getElem? at_b₀)
  have matched := start_index_aligned spaced' at_b
  refine ⟨?_, ?_⟩
  · have raises : check_availability_of (offer bucket (Blocks.block MACHINE_ID_LIST p n) d).machine_ids
        (offer bucket (Blocks.block MACHINE_ID_LIST p n) d).start_time
        (offer bucket (Blocks.block MACHINE_ID_LIST p n) d).duration schedule = .error .TypeError := by
      simp [check_availability_of, offer, duration_idx, matched]
    simp [step, run_add_session, dated, scheduleOf_loaded env' loaded, raises, put_self loaded]
  · rw [← dated] at loaded
    exact (accepted_iff (asked _ d) exact loaded env').mpr ⟨d, rfl, lasting, fits.2⟩

end

/-- Machine 1 is booked from 149 s on; a request for 300 s is refused, and refused again. -/
theorem overlapping_request_refused :
    (step firstDay (Runs.run (step firstDay) (worldOf (blankDay [1]))
      ([request 7 149 10] ++ [request 8 300 10])).2 { request 8 300 10 with env := plainEnv }).1 ≠ .ok true :=
  (granted_iff_clear firstDay_matched (blankDay_made [1]) (worldOf_loaded _) [request 7 149 10]
    (request 8 300 10) rfl).2 (by decide +kernel) [request 8 300 10] plainEnv

theorem refused_request_left_out :
    let history := (Runs.run (step firstDay) (worldOf (blankDay [1])) [request 7 149 10, request 8 300 10]).1
    Runs.run (step firstDay) (worldOf (blankDay [1])) ((history.filter was_granted).map Prod.fst) =
      (history.filter was_granted,
        (Runs.run (step firstDay) (worldOf (blankDay [1])) [request 7 149 10, request 8 300 10]).2) :=
  refused_leave_no_trace firstDay_matched.inRange fun _ _ => ⟨_, worldOf_loaded _⟩

/-- The day of all machines, after machine 1 was booked for ten seconds. -/
theorem offers_beside_a_booking :
    ∃ offers : List Session,
      answer (EStateM.run (get_availability plainEnv ⟨1970, 1, 1⟩ 2 (some 600) 1)
        (Runs.run (step firstDay) (worldOf (blankDay MACHINE_ID_LIST)) [request 7 149 10]).2) = .ok (orFalse offers) ∧
      (∀ s ∈ offers, ∃ (b : ℕ) (bucket : TimeBucket), (blankDay MACHINE_ID_LIST)[b]? = some bucket ∧
        s.start_time = .finite bucket.timestamp ∧ IsGroup 2 s.machine_ids) ∧
      (offers.Pairwise fun s s' => ¬ (s.start_time = s'.start_time ∧ s.machine_ids.Perm s'.machine_ids)) ∧
      ∀ (b : ℕ) (bucket : TimeBucket), (blankDay MACHINE_ID_LIST)[b]? = some bucket → ∀ machine_ids, IsGroup 2 machine_ids →
        ((∃ s ∈ offers, s.start_time = .finite bucket.timestamp ∧ s.machine_ids.Perm machine_ids) ↔
          are_adjacent MACHINE_LAYOUT machine_ids = true ∧ (b : Int) + 1 ≤ (blankDay MACHINE_ID_LIST).length ∧
            ∀ s ∈ granted firstDay ⟨1970, 1, 1⟩
              (Runs.run (step firstDay) (worldOf (blankDay MACHINE_ID_LIST)) [request 7 149 10]).1,
              Clear (blankDay MACHINE_ID_LIST) MACHINE_ID_LIST b 1 machine_ids s) :=
  search_offers_clear_slots firstDay_matched (blankDay_made MACHINE_ID_LIST) (Spacing.blankDay_spaced MACHINE_ID_LIST)
    (worldOf_loaded _) [request 7 149 10] plainEnv (by decide) (by decide) (some 600)

/-- On the blank day the search finds something, with a float for its duration. -/
theorem blank_day_searched :
    ∃ offers s, answer (EStateM.run (get_availability plainEnv ⟨1970, 1, 1⟩ 2 none 1)
        (worldOf (blankDay MACHINE_ID_LIST))) = .ok (some offers) ∧ s ∈ offers ∧
      ∀ k : Int, s.duration ≠ some (.int k) := by
  obtain ⟨long, isBlank⟩ := generate_blank_schedule_blank (blankDay_made MACHINE_ID_LIST)
  have spaced := Spacing.blankDay_spaced MACHINE_ID_LIST
  have listed : Listed (blankDay MACHINE_ID_LIST) := fun bucket member => (isBlank bucket member).1
  have inside : 0 < (blankDay MACHINE_ID_LIST).length := by omega
  have first := List.getElem?_eq_getElem inside
  have available := (fits_iff_clear (represents_blank isBlank) spaced first (show (1 : Int) ≤ 1 by decide) [1, 2]).mpr
    ⟨by omega, by simp⟩
  have group : IsGroup 2 [1, 2] := ⟨by decide, by decide, rfl⟩
  obtain ⟨s, member, _⟩ := fitting_offered spaced listed (show (0 : Int) ≤ 1 by decide) first group
    ⟨by decide, available⟩
  have found := answer_get_availability (n := 2) plainEnv (worldOf_loaded (blankDay MACHINE_ID_LIST))
    (show (0 : Int) ≤ 1 by decide) none
  rw [orFalse, if_neg (List.ne_nil_of_mem member)] at found
  obtain ⟨bucket, taken, at_bucket⟩ := List.mem_flatMap.mp member
  obtain ⟨p, _, _, _, rfl⟩ := (mem_options_at listed (List.mem_of_mem_take taken)).mp at_bucket
  exact ⟨_, _, found, member, fun k => by simp [offer]⟩

/-- An offer of it is refused as it is found. -/
theorem offers_of_a_blank_day :
    ∃ offers s, answer (EStateM.run (get_availability plainEnv ⟨1970, 1, 1⟩ 2 none 1)
        (worldOf (blankDay MACHINE_ID_LIST))) = .ok (some offers) ∧ s ∈ offers ∧
      step firstDay (worldOf (blankDay MACHINE_ID_LIST)) ⟨plainEnv, s⟩ =
        (.error .TypeError, worldOf (blankDay MACHINE_ID_LIST)) ∧
      (step firstDay (worldOf (blankDay MACHINE_ID_LIST)) ⟨plainEnv, asked s 1⟩).1 = .ok true := by
  obtain ⟨offers, s, found, member, _⟩ := blank_day_searched
  exact ⟨offers, s, found, member, offers_granted_as_integers firstDay_matched (blankDay_made MACHINE_ID_LIST)
    (Spacing.blankDay_spaced MACHINE_ID_LIST) (fun _ _ => rfl) (worldOf_loaded _) [] plainEnv plainEnv (by decide) none
    found member⟩

end DispenserHub.ClearSlots
