import DispenserHub.ClearSlots

/-!
A restart empties the memory of the process and leaves the files. While saves go
through, the memory holds nothing that a load would not give back, so two
processes with the same files cannot be told apart: bookings, gets and searches
are answered as if the process had never stopped.
-/

namespace DispenserHub.Restarts
open Messages Buckets FileIo Effects MasterSchedule Availability Reservation Booking SlotSearch Grid

inductive Use where
  | book (call : Call)
  | get (env : Env) (date : Date)
  | search (env : Env) (date : Date) (number_of_machines : ℕ) (start_time : Option ℚ) (duration : Int)
  | restart

inductive Reply where
  | booked (reply : Except PyError Bool)
  | got (reply : Except PyError Schedule)
  | offered (reply : Except PyError (Option (List Session)))
  | restarted

def step (site : Site) (w : World) : Use → Reply × World
  | .book call =>
    let result := EStateM.run (add_session site .complete call.env call.session) w
    (.booked (answer result), final result)
  | .get env date =>
    let result := EStateM.run (get_master_schedule env date) w
    (.got (answer result), final result)
  | .search env date n start_time d =>
    let result := EStateM.run (get_availability env date n start_time d) w
    (.offered (answer result), final result)
  | .restart => (.restarted, { w with master_schedule := fun _ => none, today_changed := false })

/-- The saves of a booking go through. -/
def Use.Saved : Use → Prop
  | .book call => call.env.save = .written
  | _ => True

/-- A load does not depend on when it is made, and gives what is in memory. -/
structure Synced (w : World) : Prop where
  stable : ∀ date now now', load_schedule_from_disk now date w.files = load_schedule_from_disk now' date w.files
  memory : ∀ date schedule, w.master_schedule date = some schedule →
    ∀ now, load_schedule_from_disk now date w.files = .ok schedule

/-- Two worlds that agree with the same files. -/
structure Same (s t : World) : Prop where
  left : Synced s
  right : Synced t
  files : s.files = t.files

theorem Synced.scheduleOf {w : World} (synced : Synced w) (env : Env) (date : Date) :
    scheduleOf env w date = load_schedule_from_disk .nan date w.files := by
  unfold MasterSchedule.scheduleOf
  cases loaded : w.master_schedule date with
  | some schedule => exact (synced.memory date schedule loaded .nan).symm
  | none => exact synced.stable date env.load_time .nan

theorem Same.scheduleOf {s t : World} (same : Same s t) (env : Env) (date : Date) :
    scheduleOf env t date = scheduleOf env s date := by
  rw [same.left.scheduleOf, same.right.scheduleOf, same.files]

theorem Synced.put {w : World} (synced : Synced w) (env : Env) {date : Date} {schedule : Schedule}
    (found : MasterSchedule.scheduleOf env w date = .ok schedule) : Synced (w.put date schedule) where
  stable := synced.stable
  memory other held at_other now := by
    by_cases here : other = date
    · subst here
      rw [put_same] at at_other
      cases at_other
      rw [put_files, synced.stable other now .nan, ← synced.scheduleOf env, found]
    · rw [put_other w here] at at_other
      exact synced.memory other held at_other now

theorem Synced.updated {w : World} (synced : Synced w) {env : Env} (saved : env.save = .written) (date : Date)
    (schedule : Schedule) : Synced (updated env date schedule w) := by
  have text : (MasterSchedule.updated env date schedule w).files date = some (.whole (raw_schedule schedule)) := by
    simp [MasterSchedule.updated, saved, save_schedule_to_disk]
  have kept (other : Date) (different : other ≠ date) (now : PyFloat) :
      load_schedule_from_disk now other (MasterSchedule.updated env date schedule w).files =
        load_schedule_from_disk now other w.files :=
    load_congr now (save_other env.save different schedule w.files)
  refine ⟨?_, ?_⟩
  · intro other now now'
    by_cases here : other = date
    · rw [here, load_written now text, load_written now' text]
    · rw [kept other here, kept other here, synced.stable other now now']
  · intro other held at_other now
    by_cases here : other = date
    · subst here
      rw [updated_same] at at_other
      cases at_other
      exact load_written now text
    · rw [updated_other env here] at at_other
      rw [kept other here, synced.memory other held at_other now]

theorem Synced.restart {w : World} (synced : Synced w) :
    Synced { w with master_schedule := fun _ => none, today_changed := false } where
  stable := synced.stable
  memory := nofun

theorem Same.put {s t : World} (same : Same s t) {env : Env} {date : Date} {schedule : Schedule}
    (found : MasterSchedule.scheduleOf env s date = .ok schedule) : Same (s.put date schedule) (t.put date schedule) where
  left := same.left.put env found
  right := same.right.put env (by rw [same.scheduleOf, found])
  files := same.files

theorem Same.updated {s t : World} (same : Same s t) {env : Env} (saved : env.save = .written) (date : Date)
    (schedule : Schedule) : Same (updated env date schedule s) (updated env date schedule t) where
  left := same.left.updated saved date schedule
  right := same.right.updated saved date schedule
  files := by simp only [MasterSchedule.updated, same.files]

section
variable {site : Site}

theorem book_same (inRange : InRange site) {s t : World} (same : Same s t) {call : Call}
    (saved : call.env.save = .written) :
    (Booking.step site t call).1 = (Booking.step site s call).1 ∧
      Same (Booking.step site s call).2 (Booking.step site t call).2 := by
  simp only [Booking.step, run_add_session, same.scheduleOf]
  cases found : MasterSchedule.scheduleOf call.env s (site.date_of call.session.start_time) with
  | error e => exact ⟨rfl, same⟩
  | ok schedule =>
    have looked := same.put found
    dsimp only
    cases checked : check_availability_of call.session.machine_ids call.session.start_time call.session.duration
        schedule with
    | error e => exact ⟨rfl, looked⟩
    | ok available =>
      cases available with
      | false => exact ⟨rfl, looked⟩
      | true =>
        dsimp only
        by_cases empty : site.get_time_bucket_range schedule call.session.start_time (end_time call.session) = []
        · simp only [if_pos empty]
          exact ⟨rfl, looked⟩
        · obtain ⟨d, lasts, passed⟩ := check_availability_of_true checked
          have written := reserve_buckets_complete call.env call.session _ schedule
            (inRange call.session d schedule lasts passed)
          simp only [if_neg empty, written, complete_update, if_true]
          exact ⟨rfl, same.updated saved _ _⟩

theorem get_same {s t : World} (same : Same s t) (env : Env) (date : Date) :
    (step site t (.get env date)).1 = (step site s (.get env date)).1 ∧
      Same (step site s (.get env date)).2 (step site t (.get env date)).2 := by
  simp only [step, run_get_master_schedule, same.scheduleOf]
  cases found : MasterSchedule.scheduleOf env s date with
  | error e => exact ⟨rfl, same⟩
  | ok schedule => exact ⟨rfl, same.put found⟩

/-- A search answers by the schedule it finds, and keeps it in memory. -/
theorem run_get_availability (date : Date) (n : ℕ) (start_time : Option ℚ) (d : Int) :
    ∃ answered : Schedule → Except PyError (Option (List Session)), ∀ (env : Env) (w : World),
      EStateM.run (get_availability env date n start_time d) w =
        match MasterSchedule.scheduleOf env w date with
        | .error e => .error e w
        | .ok schedule =>
          match answered schedule with
          | .error e => .error e (w.put date schedule)
          | .ok offers => .ok offers (w.put date schedule) := by
  refine ⟨fun schedule => (search schedule n d).map fun options => orFalse (match start_time with
    | some preferred => if preferred = 0 then options else sort_by_distance preferred options
    | none => options), ?_⟩
  intro env w
  simp only [get_availability, EStateM.run_bind, run_get_master_schedule]
  cases MasterSchedule.scheduleOf env w date with
  | error e => rfl
  | ok schedule =>
    cases found : search schedule n d with
    | error e => simp [found, Except.map]
    | ok options => cases start_time <;> simp [found, orFalse, Except.map]

theorem search_same {s t : World} (same : Same s t) (env : Env) (date : Date) (n : ℕ) (start_time : Option ℚ)
    (d : Int) :
    (step site t (.search env date n start_time d)).1 = (step site s (.search env date n start_time d)).1 ∧
      Same (step site s (.search env date n start_time d)).2 (step site t (.search env date n start_time d)).2 := by
  obtain ⟨answered, run⟩ := run_get_availability date n start_time d
  simp only [step, run, same.scheduleOf]
  cases found : MasterSchedule.scheduleOf env s date with
  | error e => exact ⟨rfl, same⟩
  | ok schedule =>
    have looked := same.put found
    cases replied : answered schedule with
    | error e => simpa [replied] using looked
    | ok offers => simpa [replied] using looked

theorem step_same (inRange : InRange site) {s t : World} (same : Same s t) {use : Use} (saved : use.Saved) :
    (step site t use).1 = (step site s use).1 ∧ Same (step site s use).2 (step site t use).2 := by
  cases use with
  | book call =>
    obtain ⟨replied, after⟩ := book_same inRange same saved
    exact ⟨congrArg Reply.booked replied, after⟩
  | get env date => exact get_same same env date
  | search env date n start_time d => exact search_same same env date n start_time d
  | restart => exact ⟨rfl, same.left.restart, same.right.restart, same.files⟩

/-- What is no booking and no restart looks at a schedule and keeps it. -/
theorem reading_cases (site : Site) (w : World) {use : Use} (reading : ∀ call, use ≠ .book call) :
    use = .restart ∨ ∃ env date, Looked env w (step site w use).2 date := by
  cases use with
  | book call => exact absurd rfl (reading call)
  | restart => exact .inl rfl
  | get env date =>
    refine .inr ⟨env, date, ?_⟩
    simp only [step, run_get_master_schedule]
    cases found : MasterSchedule.scheduleOf env w date with
    | error e => exact .inl rfl
    | ok schedule => exact .inr ⟨schedule, found, rfl⟩
  | search env date n start_time d =>
    refine .inr ⟨env, date, ?_⟩
    obtain ⟨answered, run⟩ := run_get_availability date n start_time d
    simp only [step, run]
    cases found : MasterSchedule.scheduleOf env w date with
    | error e => exact .inl rfl
    | ok schedule =>
      refine .inr ⟨schedule, found, ?_⟩
      cases replied : answered schedule <;> simp [replied]

/-- What leaves the files alone is not seen by a world with the same files. -/
theorem reading_same (inRange : InRange site) {s t : World} (same : Same s t) {use : Use}
    (reading : ∀ call, use ≠ .book call) : Same (step site s use).2 t := by
  have saved : use.Saved := by
    cases use with
    | book call => exact absurd rfl (reading call)
    | _ => trivial
  have moved := (step_same inRange same saved).2
  have kept : (step site s use).2.files = s.files := by
    rcases reading_cases site s reading with rfl | ⟨_, _, looked | ⟨schedule, _, put⟩⟩
    · rfl
    · rw [looked]
    · rw [put, put_files]
  exact ⟨moved.left, same.right, kept.trans same.files⟩

theorem Synced.same {w : World} (synced : Synced w) : Same w w := ⟨synced, synced, rfl⟩

def is_restart : Use → Bool
  | .restart => true
  | _ => false

/-- While saves go through, a run with restarts answers every booking, get and
    search as the run without them does, and the two end with the same files and
    the same schedule for every date. -/
theorem restarts_invisible (inRange : InRange site) {w : World} (synced : Synced w) {uses : List Use}
    (saved : ∀ use ∈ uses, use.Saved) :
    let history := (Runs.run (step site) w uses).1
    let plain := Runs.run (step site) w (uses.filter fun use => !is_restart use)
    plain.1 = history.filter (fun entry => !is_restart entry.1) ∧
      (Runs.run (step site) w uses).2.files = plain.2.files ∧
      ∀ env date, scheduleOf env (Runs.run (step site) w uses).2 date = scheduleOf env plain.2 date := by
  have silent : ∀ s t use, use.Saved → Same s t → (!is_restart use) = false → Same (step site s use).2 t := by
    intro s t use _ same shown
    refine reading_same inRange same ?_
    rintro call rfl
    cases shown
  have follows : ∀ s t use, use.Saved → Same s t → (!is_restart use) = true →
      (step site t use).1 = (step site s use).1 ∧ Same (step site s use).2 (step site t use).2 :=
    fun s t use saved same _ => step_same inRange same saved
  obtain ⟨answers, same⟩ := Runs.run_erase (step site) (step site) Use.Saved Same (fun entry => !is_restart entry.1)
    silent follows synced.same uses saved
  have left : ((Runs.run (step site) w uses).1.filter fun entry => !is_restart entry.1).map Prod.fst =
      uses.filter fun use => !is_restart use := by
    conv_rhs => rw [← Runs.run_inputs (step site) w uses, List.filter_map]
    rfl
  rw [left] at answers same
  exact ⟨answers, same.files, fun env date => (same.scheduleOf env date).symm⟩

/-- The calls of a run's bookings, each with what it was answered. -/
def bookings (history : List (Use × Reply)) : List (Call × Except PyError Bool) :=
  history.filterMap fun entry => match entry with
    | (.book call, .booked reply) => some (call, reply)
    | _ => none

variable {blank : Schedule} {machines : List Int} {date : Date}

end

/-- A process just started, with a blank day in the file of the date. -/
def started : World where
  master_schedule _ := none
  files := Function.update (fun _ => none) ⟨1970, 1, 1⟩ (some (.whole (raw_schedule (blankDay [1]))))
  today_changed := false
  published := []

theorem started_file (now : PyFloat) : load_schedule_from_disk now ⟨1970, 1, 1⟩ started.files = .ok (blankDay [1]) :=
  load_written now (by simp [started])

theorem started_synced : Synced started where
  stable date now now' := by
    by_cases here : date = ⟨1970, 1, 1⟩
    · rw [here, started_file, started_file]
    · simp [load_schedule_from_disk, started, here]
  memory := nofun

def restartedBetween : List Use := [.book (request 7 149 10), .restart, .book (request 8 300 10)]

theorem restart_between_requests :
    let history := (Runs.run (step firstDay) started restartedBetween).1
    let plain := Runs.run (step firstDay) started (restartedBetween.filter fun use => !is_restart use)
    plain.1 = history.filter (fun entry => !is_restart entry.1) ∧
      (Runs.run (step firstDay) started restartedBetween).2.files = plain.2.files ∧
      ∀ env date, scheduleOf env (Runs.run (step firstDay) started restartedBetween).2 date =
        scheduleOf env plain.2 date :=
  restarts_invisible firstDay_matched.inRange started_synced (by simp [restartedBetween, Use.Saved, request, plainEnv])

end DispenserHub.Restarts
