import DispenserHub.Ledgers
import DispenserHub.Rendering
import DispenserHub.Restarts
import DispenserHub.Storage

/-!
Bookings, gets, searches and restarts where any save may fail. A date that starts
blank is served as a ledger of its granted sessions: the schedule is the blank one
with the entries of the ledger drawn into it, and a restart is a crash of it.
-/

namespace DispenserHub.Crashes
open Messages Buckets FileIo Effects MasterSchedule Availability Reservation Booking Ledgers
open Restarts (Use Reply)
open Rendering (drawn run_ends_drawn)
open ClearSlots (Clear accepted_found_iff run_granted_iff)

def save_of : WriteOutcome → Save
  | .written => .whole
  | .cut_short _ => .torn
  | .no_directory | .not_opened => .missed

/-- What an answered use is to the ledger of a date. -/
def event_of (site : Site) (date : Date) : Use × Reply → Option (Event Call)
  | (.book call, .booked (.ok true)) =>
    if site.date_of call.session.start_time = date then some (.enter call (save_of call.env.save)) else none
  | (.restart, _) => some .crash
  | _ => none

def reads : Use → Bool
  | .get _ _ | .search _ _ _ _ _ => true
  | .book _ | .restart => false

def ledger_of (site : Site) (date : Date) (history : List (Use × Reply)) : Ledger Call :=
  Ledgers.run (history.filterMap (event_of site date))

section
variable {site : Site} {blank : Schedule} {machines : List Int} {date : Date} {start : World}

theorem event_of_refused (call : Call) {reply : Except PyError Bool} (refused : reply ≠ .ok true) :
    event_of site date (.book call, .booked reply) = none := by
  rcases reply with e | _ | _
  · rfl
  · rfl
  · exact absurd rfl refused

theorem event_of_reading {use : Use} (reading : reads use = true) (reply : Reply) :
    event_of site date (use, reply) = none := by
  cases use with
  | book | restart => cases reading
  | get | search => rfl

theorem ledger_of_append (history : List (Use × Reply)) (entry : Use × Reply) :
    ledger_of site date (history ++ [entry]) =
      match event_of site date entry with
      | some event => (ledger_of site date history).step event
      | none => ledger_of site date history := by
  rw [ledger_of, List.filterMap_append]
  cases entered : event_of site date entry with
  | none => simp [entered, ledger_of]
  | some event => simp [entered, ledger_of, Ledgers.run_concat]

/-- The calls are all granted, in turn, to a process that has the blank schedule. -/
def Fair (site : Site) (date : Date) (start : World) (calls : List Call) : Prop :=
  granted_calls site date (Runs.run (Booking.step site) start calls).1 = calls

variable {calls : List Call}

theorem Fair.drawn (exact : MatchedRange site) (isBlank : Blank machines blank)
    (loaded : start.master_schedule date = some blank) (fair : Fair site date start calls) :
    (Runs.run (Booking.step site) start calls).2.master_schedule date = some (Rendering.drawn blank calls) := by
  have ends := (run_ends_drawn exact isBlank loaded calls).drawn
  rw [fair] at ends
  exact ends

/-- A call granted on the schedule with these drawn into it is granted after them,
    and is drawn too. -/
theorem Fair.grant (exact : MatchedRange site) (isBlank : Blank machines blank)
    (loaded : start.master_schedule date = some blank) (fair : Fair site date start calls) {call : Call}
    (here : site.date_of call.session.start_time = date) {w after : World} {d : Int}
    (granted : Granted site call.env call.session w after (Rendering.drawn blank calls) d) :
    Fair site date start (calls ++ [call]) ∧
      after = updated call.env date (Rendering.drawn blank (calls ++ [call])) w := by
  have reached := fair.drawn exact isBlank loaded
  rw [← here] at reached
  have found := scheduleOf_loaded call.env reached
  obtain ⟨i, matched, _⟩ := (check_availability_iff _ _ _ _).mp granted.passed
  have lasting := (exact.filled_iff granted.lasts matched).mp granted.filled
  have accepted := (accepted_found_iff call.session exact found).mpr ⟨d, granted.lasts, lasting, granted.passed⟩
  have again := granted_of_accepted site call.env exact.inRange found granted.lasts accepted
  have longer : Fair site date start (calls ++ [call]) := by
    have reply : (Booking.step site (Runs.run (Booking.step site) start calls).2 call).1 = .ok true := accepted
    rw [Fair, Runs.run_concat, granted_calls_append, if_pos ⟨reply, here⟩, fair]
  have ends := longer.drawn exact isBlank loaded
  rw [Runs.run_concat] at ends
  have same : (Booking.step site (Runs.run (Booking.step site) start calls).2 call).2 = _ := again.result
  rw [same, here, updated_same, Option.some.injEq] at ends
  refine ⟨longer, ?_⟩
  rw [granted.result, here, ends]

/-- The text of the date's file, for what is on disk. -/
def Stored (blank : Schedule) (disk : Option (List Call)) (text : Option FileText) : Prop :=
  match disk with
  | some calls => text = some (.whole (raw_schedule (Rendering.drawn blank calls)))
  | none => ∃ raw n, text = some (.cut raw n)

/-- The schedule of the date, for what is in memory, or what a load of it raises. -/
def shown (blank : Schedule) (memory : Option (List Call)) : Except PyError Schedule :=
  match memory with
  | some calls => .ok (Rendering.drawn blank calls)
  | none => .error .JSONDecodeError

theorem shown_ok {memory : Option (List Call)} {schedule : Schedule} (found : shown blank memory = .ok schedule) :
    ∃ calls, memory = some calls ∧ schedule = Rendering.drawn blank calls := by
  cases memory with
  | none => cases found
  | some calls => exact ⟨calls, rfl, (Except.ok.inj found).symm⟩

theorem load_stored (now : PyFloat) {disk : Option (List Call)} {files : Files} (stored : Stored blank disk (files date)) :
    load_schedule_from_disk now date files = shown blank disk := by
  cases disk with
  | some calls => exact load_written now stored
  | none =>
    obtain ⟨raw, n, text⟩ := stored
    exact Storage.load_cut now text

/-- The date is in memory and on disk as the ledger has it. -/
structure Agrees (site : Site) (date : Date) (blank : Schedule) (start : World) (ledger : Ledger Call) (w : World) :
    Prop where
  fair : ∀ calls, ledger.memory = some calls ∨ ledger.disk = some calls → Fair site date start calls
  loaded : ∀ schedule, w.master_schedule date = some schedule → shown blank ledger.memory = .ok schedule
  unloaded : w.master_schedule date = none → ledger.memory = ledger.disk
  stored : Stored blank ledger.disk (w.files date)

variable {ledger : Ledger Call} {w : World}

theorem Agrees.found (agrees : Agrees site date blank start ledger w) (env : Env) :
    scheduleOf env w date = shown blank ledger.memory := by
  cases held : w.master_schedule date with
  | some schedule => rw [scheduleOf_loaded env held, agrees.loaded schedule held]
  | none =>
    have load : scheduleOf env w date = load_schedule_from_disk env.load_time date w.files := by
      rw [scheduleOf, held]
    rw [load, agrees.unloaded held, load_stored env.load_time agrees.stored]

theorem Agrees.looked (agrees : Agrees site date blank start ledger w) {env : Env} {after : World} {other : Date}
    (looked : Looked env w after other) : Agrees site date blank start ledger after := by
  rcases looked with rfl | ⟨schedule, found, rfl⟩
  · exact agrees
  · by_cases here : other = date
    · subst here
      rw [agrees.found] at found
      refine ⟨agrees.fair, ?_, ?_, agrees.stored⟩
      · intro held at_date
        rw [put_same] at at_date
        rw [found, Option.some.inj at_date]
      · intro missing
        rw [put_same] at missing
        cases missing
    · refine ⟨agrees.fair, ?_, ?_, agrees.stored⟩
      · intro held at_date
        rw [put_other w (Ne.symm here)] at at_date
        exact agrees.loaded held at_date
      · intro missing
        rw [put_other w (Ne.symm here)] at missing
        exact agrees.unloaded missing

/-- A booking on another date leaves this one alone. -/
theorem Agrees.elsewhere (agrees : Agrees site date blank start ledger w) (env : Env) {other : Date} (different : date ≠ other)
    (schedule : Schedule) : Agrees site date blank start ledger (updated env other schedule w) := by
  have files : (updated env other schedule w).files date = w.files date := save_other env.save different schedule w.files
  refine ⟨agrees.fair, ?_, ?_, by rw [files]; exact agrees.stored⟩
  · intro held at_date
    rw [updated_other env different] at at_date
    exact agrees.loaded held at_date
  · intro missing
    rw [updated_other env different] at missing
    exact agrees.unloaded missing

/-- A save of the schedule stores the ledger as the save of its entry does. -/
theorem save_stored {calls : List Call} (memory : ledger.memory = some calls) {files : Files}
    (stored : Stored blank ledger.disk (files date)) (call : Call) (outcome : WriteOutcome) :
    Stored blank (ledger.step (.enter call (save_of outcome))).disk
      ((save_schedule_to_disk outcome date (Rendering.drawn blank (calls ++ [call])) files).2 date) := by
  cases outcome with
  | written => simp [Ledger.step, save_of, memory, Stored, save_schedule_to_disk]
  | cut_short n => exact ⟨_, n, by simp [save_schedule_to_disk]; rfl⟩
  | no_directory | not_opened => exact stored

/-- A booking on the date is entered in the ledger, and saved as it is saved. -/
theorem Agrees.entered (exact : MatchedRange site) (isBlank : Blank machines blank)
    (begins : start.master_schedule date = some blank) (agrees : Agrees site date blank start ledger w) {call : Call}
    (here : site.date_of call.session.start_time = date) {after : World} {schedule : Schedule} {d : Int}
    (granted : Granted site call.env call.session w after schedule d) :
    Agrees site date blank start (ledger.step (.enter call (save_of call.env.save))) after := by
  have found := granted.found
  rw [here, agrees.found] at found
  obtain ⟨calls, memory, rfl⟩ := shown_ok found
  obtain ⟨longer, rfl⟩ := (agrees.fair calls (.inl memory)).grant exact isBlank begins here granted
  have grown : (ledger.step (.enter call (save_of call.env.save))).memory = some (calls ++ [call]) := by
    rw [step_enter_memory, memory, Option.map_some]
  have kept : ∀ list, (ledger.step (.enter call (save_of call.env.save))).memory = some list → Fair site date start list := by
    intro list inMemory
    rw [grown] at inMemory
    rwa [← Option.some.inj inMemory]
  refine ⟨?_, ?_, ?_, save_stored memory agrees.stored call call.env.save⟩
  · rintro list (inMemory | onDisk)
    · exact kept list inMemory
    · rcases step_enter_disk onDisk with now | before
      · exact kept list now
      · exact agrees.fair list (.inr before)
  · intro held at_date
    rw [updated_same] at at_date
    rw [grown, shown, Option.some.inj at_date]
  · intro missing
    rw [updated_same] at missing
    cases missing

theorem step_book (site : Site) (w : World) (call : Call) :
    Restarts.step site w (.book call) = (.booked (Booking.step site w call).1, (Booking.step site w call).2) := rfl

/-- Gets and searches look at a schedule and keep it. -/
theorem reading_looked (site : Site) (w : World) {use : Use} (reading : reads use = true) :
    ∃ env other, Looked env w (Restarts.step site w use).2 other := by
  have reads_only : ∀ call, use ≠ .book call := by
    rintro call rfl
    cases reading
  rcases Restarts.reading_cases site w reads_only with rfl | looked
  · cases reading
  · exact looked

theorem step_agrees (exact : MatchedRange site) (isBlank : Blank machines blank)
    (begins : start.master_schedule date = some blank) (history : List (Use × Reply)) (w : World) (use : Use)
    (agrees : Agrees site date blank start (ledger_of site date history) w) :
    Agrees site date blank start (ledger_of site date (history ++ [(use, (Restarts.step site w use).1)]))
      (Restarts.step site w use).2 := by
  rw [ledger_of_append]
  have quiet (reading : reads use = true) :
      Agrees site date blank start (ledger_of site date history) (Restarts.step site w use).2 := by
    obtain ⟨_, _, looked⟩ := reading_looked site w reading
    exact agrees.looked looked
  cases use with
  | book call =>
    have reply : (Restarts.step site w (.book call)).1 = .booked _ := rfl
    rw [reply]
    rcases add_session_cases site call.env exact.inRange call.session w with ⟨refused, looked⟩ | ⟨accepted, schedule, d, grant⟩
    · rw [event_of_refused call refused]
      exact agrees.looked looked
    · rw [accepted]
      by_cases here : site.date_of call.session.start_time = date
      · rw [event_of, if_pos here]
        exact agrees.entered exact isBlank begins here grant
      · have after : (Restarts.step site w (.book call)).2 = _ := grant.result
        rw [event_of, if_neg here, after]
        exact agrees.elsewhere call.env (Ne.symm here) _
  | get env other =>
    rw [event_of_reading rfl]
    exact quiet rfl
  | search env other n start_time d =>
    rw [event_of_reading rfl]
    exact quiet rfl
  | restart =>
    refine ⟨?_, nofun, fun _ => rfl, agrees.stored⟩
    rintro list (inMemory | onDisk)
    · exact agrees.fair list (.inr inMemory)
    · exact agrees.fair list (.inr onDisk)

/-- A request is granted on the schedule of a fair list as after its calls. -/
theorem Fair.granted_iff (exact : MatchedRange site) (isBlank : Blank machines blank)
    (begins : start.master_schedule date = some blank) (fair : Fair site date start calls) {call : Call}
    (here : site.date_of call.session.start_time = date) {w : World}
    (found : scheduleOf call.env w date = .ok (Rendering.drawn blank calls)) :
    answer (EStateM.run (add_session site .complete call.env call.session) w) = .ok true ↔
      ∃ (d : Int) (i : ℕ), call.session.duration = some (.int d) ∧ 1 ≤ d ∧
        start_index blank call.session.start_time = some i ∧ (i : Int) + d ≤ blank.length ∧
        ∀ other ∈ calls, Clear blank machines i d call.session.machine_ids other.session := by
  have reached := fair.drawn exact isBlank begins
  rw [← here] at found reached
  have alike := (accepted_found_iff call.session exact found).trans
    (accepted_found_iff call.session exact (scheduleOf_loaded call.env reached)).symm
  refine alike.trans ((run_granted_iff exact isBlank begins calls call here).trans ?_)
  have owners : granted site date (Runs.run (Booking.step site) start calls).1 = calls.map Call.session :=
    congrArg (List.map Call.session) fair
  simp only [owners, List.forall_mem_map]

/-- Whatever saves fail, a date that starts blank is served as its ledger says: a
    get gives the blank schedule with the entries drawn into it, or raises where
    they are lost, and a request is granted when it lasts, starts at a bucket, ends
    in the day and keeps clear of the entries. What a restart loses are the last of them. -/
theorem served_as_ledger (exact : MatchedRange site) {timestamp : Int → Int} {clock : Nat → Nat → PyFloat}
    (made : generate_blank_schedule timestamp clock date machines = .ok blank) {w : World}
    (stored : w.files date = some (.whole (raw_schedule blank)))
    (loaded : ∀ schedule, w.master_schedule date = some schedule → schedule = blank) (uses : List Use) :
    let ran := Runs.run (Restarts.step site) w uses
    let ledger := ledger_of site date ran.1
    (∀ env, (Restarts.step site ran.2 (.get env date)).1 = .got (shown blank ledger.memory)) ∧
    (∀ call, site.date_of call.session.start_time = date →
      ((Restarts.step site ran.2 (.book call)).1 = .booked (.ok true) ↔ ∃ calls, ledger.memory = some calls ∧
        ∃ (d : Int) (i : ℕ), call.session.duration = some (.int d) ∧ 1 ≤ d ∧
          start_index blank call.session.start_time = some i ∧ (i : Int) + d ≤ blank.length ∧
          ∀ other ∈ calls, Clear blank machines i d call.session.machine_ids other.session)) ∧
    ∀ saved, ledger.disk = some saved → ∃ lost, ledger.memory = some (saved ++ lost) := by
  intro ran ledger
  have isBlank := (generate_blank_schedule_blank made).2
  have begins : (w.put date blank).master_schedule date = some blank := put_same w date blank
  have first : Agrees site date blank (w.put date blank) (ledger_of site date []) w := by
    refine ⟨?_, ?_, fun _ => rfl, ?_⟩
    · rintro calls (empty | empty) <;> cases empty <;> rfl
    · intro schedule held
      rw [loaded schedule held]
      exact congrArg Except.ok (Rendering.drawn_nil blank)
    · show w.files date = some (.whole (raw_schedule (Rendering.drawn blank [])))
      rw [Rendering.drawn_nil, stored]
  have agrees : Agrees site date blank (w.put date blank) ledger ran.2 :=
    Runs.run_invariant (Restarts.step site)
      (fun history w' => Agrees site date blank (w.put date blank) (ledger_of site date history) w')
      first (step_agrees exact isBlank begins) uses
  refine ⟨?_, ?_, fun saved onDisk => run_prefix _ onDisk⟩
  · intro env
    simp only [Restarts.step, run_get_master_schedule, agrees.found]
    cases shown blank ledger.memory <;> rfl
  · intro call here
    have reply : (Restarts.step site ran.2 (.book call)).1 = .booked (.ok true) ↔
        answer (EStateM.run (add_session site .complete call.env call.session) ran.2) = .ok true := by
      simp only [Restarts.step, Reply.booked.injEq]
    rw [reply]
    have found := agrees.found call.env
    cases memory : ledger.memory with
    | none =>
      rw [memory, ← here] at found
      simp only [run_add_session, found, shown]
      simp
    | some calls =>
      rw [memory] at found
      simp only [Option.some.injEq, exists_eq_left']
      exact (agrees.fair calls (.inl memory)).granted_iff exact isBlank begins here found

end

def unsaved : Call := { request 7 149 10 with env := { plainEnv with save := .not_opened } }

def unsavedBefore : List Use := [.book unsaved, .restart, .book (request 8 149 10)]

theorem unsavedBefore_ledger :
    ledger_of firstDay ⟨1970, 1, 1⟩ (Runs.run (Restarts.step firstDay) Restarts.started unsavedBefore).1 =
      ⟨some [request 8 149 10], some [request 8 149 10]⟩ := by
  have first : (Booking.step firstDay Restarts.started unsaved).1 = .ok true := by decide +kernel
  have second : (Booking.step firstDay
      (Restarts.step firstDay (Booking.step firstDay Restarts.started unsaved).2 .restart).2 (request 8 149 10)).1 =
        .ok true := by decide +kernel
  simp only [unsavedBefore, Runs.run, step_book]
  rw [first, second]
  rfl

/-- Session 7 is confirmed and not saved. After the restart session 8 is confirmed
    for the same ten seconds, and nothing is left of session 7. -/
theorem unsaved_booking_lost :
    (Restarts.step firstDay (Runs.run (Restarts.step firstDay) Restarts.started unsavedBefore).2
      (.get plainEnv ⟨1970, 1, 1⟩)).1 = .got (.ok (drawn (blankDay [1]) [request 8 149 10])) := by
  have stored : Restarts.started.files ⟨1970, 1, 1⟩ = some (.whole (raw_schedule (blankDay [1]))) := by
    simp [Restarts.started]
  have served := (served_as_ledger firstDay_matched (blankDay_made [1]) stored (by simp [Restarts.started])
    unsavedBefore).1 plainEnv
  rw [unsavedBefore_ledger] at served
  exact served

end DispenserHub.Crashes
