import DispenserHub.Effects
import DispenserHub.FileIo

/-!
`schedule/master_schedule.py`: the schedules in memory by date, the files
behind them and the flag for the machine updater. The lists handed out are
shallow copies, so their buckets and records are the ones in memory.
-/

namespace DispenserHub.MasterSchedule
open EStateM (Result)
open Messages Buckets FileIo Effects

/-- What a process holds: the module's globals, the files and what the manager
    has published, each answer with its topic. -/
structure World where
  master_schedule : Date → Option Schedule
  files : Files
  today_changed : Bool
  published : List (String × Acknowledge)

/-- What a call meets outside the program: the dates `datetime.now()` gives to
    `check_availability` and to `update_master_schedule`, the times `time.time()`
    gives at each bucket and record, the time records are loaded at, and how
    far the save gets. -/
structure Env where
  today : Date
  update_today : Date
  clock : Nat → Nat → PyFloat
  load_time : PyFloat
  save : WriteOutcome

abbrev Py := EStateM PyError World

variable (env : Env)

def World.put (w : World) (date : Date) (schedule : Schedule) : World :=
  { w with master_schedule := Function.update w.master_schedule date (some schedule) }

@[simp] theorem put_same (w : World) (date : Date) (schedule : Schedule) :
    (w.put date schedule).master_schedule date = some schedule := by
  simp [World.put]
@[simp] theorem put_other (w : World) {date other : Date} (different : other ≠ date) (schedule : Schedule) :
    (w.put date schedule).master_schedule other = w.master_schedule other := by
  simp [World.put, different]
@[simp] theorem put_files (w : World) (date : Date) (schedule : Schedule) :
    (w.put date schedule).files = w.files := rfl
@[simp] theorem put_today_changed (w : World) (date : Date) (schedule : Schedule) :
    (w.put date schedule).today_changed = w.today_changed := rfl
@[simp] theorem put_published (w : World) (date : Date) (schedule : Schedule) :
    (w.put date schedule).published = w.published := rfl

theorem put_put (w : World) (date : Date) (schedule schedule' : Schedule) :
    (w.put date schedule).put date schedule' = w.put date schedule' := by
  simp [World.put]

theorem put_self {w : World} {date : Date} {schedule : Schedule}
    (loaded : w.master_schedule date = some schedule) : w.put date schedule = w := by
  simp [World.put, ← loaded]

def get_master_schedule (date : Date) : Py Schedule := do
  let w ← get
  match w.master_schedule date with
  | some schedule => return schedule
  | none =>
    let schedule ← raised (load_schedule_from_disk env.load_time date w.files)
    modify fun w => w.put date schedule
    return schedule

/-- The answer of the save is not looked at, and whatever raises is caught. -/
def update_master_schedule (date : Date) (new_schedule : Schedule) : Py Unit :=
  tryCatch (do
    modify fun w => w.put date new_schedule
    let w ← get
    let (answer, files) := save_schedule_to_disk env.save date new_schedule w.files
    set { w with files }
    let _ ← raised answer
    if env.update_today = date then
      modify fun w => { w with today_changed := true })
    fun _ => pure ()

def get_schedule_flag : Py Bool := return (← get).today_changed

def clear_schedule_flag : Py Unit := modify fun w => { w with today_changed := false }

/-- The schedule a date has: the one in memory, else the one on disk. -/
def scheduleOf (w : World) (date : Date) : Except PyError Schedule :=
  match w.master_schedule date with
  | some schedule => .ok schedule
  | none => load_schedule_from_disk env.load_time date w.files

theorem scheduleOf_loaded {w : World} {date : Date} {schedule : Schedule}
    (loaded : w.master_schedule date = some schedule) : scheduleOf env w date = .ok schedule := by
  simp [scheduleOf, loaded]

/-- The schedule is handed out and kept in memory, or nothing changes. -/
theorem run_get_master_schedule (date : Date) (w : World) :
    EStateM.run (get_master_schedule env date) w =
      match scheduleOf env w date with
      | .ok schedule => .ok schedule (w.put date schedule)
      | .error e => .error e w := by
  unfold get_master_schedule scheduleOf
  cases loaded : w.master_schedule date with
  | some schedule => simp [loaded, put_self loaded]
  | none =>
    cases stored : load_schedule_from_disk env.load_time date w.files <;> simp [loaded, stored]

def updated (date : Date) (new_schedule : Schedule) (w : World) : World :=
  { w.put date new_schedule with
    files := (save_schedule_to_disk env.save date new_schedule w.files).2
    today_changed := w.today_changed || (env.update_today = date && env.save ≠ .no_directory) }

@[simp] theorem updated_same (date : Date) (new_schedule : Schedule) (w : World) :
    (updated env date new_schedule w).master_schedule date = some new_schedule := put_same w date new_schedule
@[simp] theorem updated_other {date other : Date} (different : other ≠ date) (new_schedule : Schedule)
    (w : World) : (updated env date new_schedule w).master_schedule other = w.master_schedule other :=
  put_other w different new_schedule

theorem run_update_master_schedule (date : Date) (new_schedule : Schedule) (w : World) :
    EStateM.run (update_master_schedule env date new_schedule) w =
      .ok () (updated env date new_schedule w) := by
  unfold update_master_schedule updated
  cases outcome : env.save <;> by_cases now : env.update_today = date <;>
    simp [save_schedule_to_disk, World.put, now]

end DispenserHub.MasterSchedule
