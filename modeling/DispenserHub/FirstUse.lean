import DispenserHub.MasterSchedule
import DispenserHub.Runs

/-!
Gets of schedules and restarts, which empty the memory of the process and leave
the files. Gets write no file, so what a load of a date gives at the start is
what every get of it answers from then on, in this process or a later one. For
a date without a file that is the exception of a call which lacks an argument.
-/

namespace DispenserHub.FirstUse
open EStateM (Result)
open Messages Buckets FileIo Effects MasterSchedule

inductive Use where
  | get (env : Env) (date : Date)
  | restart

def step (w : World) : Use → Option (Except PyError Schedule) × World
  | .get env date =>
    let result := EStateM.run (get_master_schedule env date) w
    (some (answer result), final result)
  | .restart => (none, { w with master_schedule := fun _ => none, today_changed := false })

/-- The first get of a date returns a blank day of all machines, and whatever
    is used after it, every get of the date answers the same. -/
def Usable (env : Env) (date : Date) (w : World) : Prop :=
  ∃ schedule after, EStateM.run (get_master_schedule env date) w = .ok schedule after ∧
    schedule.length = 86400 / 300 ∧ Blank MACHINE_ID_LIST schedule ∧
    ∀ uses, ∀ answered ∈ (Runs.run step after uses).1, ∀ env', answered.1 = .get env' date →
      answered.2 = some (.ok schedule)

/-- A load of the date gives one answer, and the memory holds no other. -/
structure Steady (date : Date) (result : Except PyError Schedule) (w : World) : Prop where
  stored : ∀ now, load_schedule_from_disk now date w.files = result
  memory : ∀ schedule, w.master_schedule date = some schedule → result = .ok schedule

theorem steady_of_missing {date : Date} {w : World} (unloaded : w.master_schedule date = none)
    (missing : w.files date = none) : Steady date (.error .TypeError) w where
  stored now := by simp [load_schedule_from_disk, missing]
  memory schedule loaded := by rw [unloaded] at loaded; cases loaded

variable {date : Date} {result : Except PyError Schedule}

theorem Steady.scheduleOf {w : World} (steady : Steady date result w) (env : Env) :
    scheduleOf env w date = result := by
  unfold MasterSchedule.scheduleOf
  cases loaded : w.master_schedule date with
  | some schedule => exact (steady.memory schedule loaded).symm
  | none => exact steady.stored env.load_time

theorem Steady.put {w : World} (steady : Steady date result w) {other : Date} {schedule : Schedule}
    (same : other = date → result = .ok schedule) : Steady date result (w.put other schedule) where
  stored := steady.stored
  memory held loaded := by
    by_cases here : other = date
    · subst here
      rw [put_same] at loaded
      cases loaded
      exact same rfl
    · rw [put_other w (Ne.symm here)] at loaded
      exact steady.memory held loaded

theorem step_steady (w : World) (use : Use) (steady : Steady date result w) :
    (∀ env, use = .get env date → (step w use).1 = some result) ∧ Steady date result (step w use).2 := by
  cases use with
  | restart => exact ⟨nofun, steady.stored, nofun⟩
  | get env other =>
    simp only [step, run_get_master_schedule]
    refine ⟨?_, ?_⟩
    · rintro env' same
      cases same
      rw [steady.scheduleOf env]
      cases result <;> rfl
    · cases found : scheduleOf env w other with
      | error e => exact steady
      | ok schedule =>
        refine steady.put ?_
        intro here
        rw [← steady.scheduleOf env, ← here, found]

/-- Every get of the date in a run answers what a load gives at its start. -/
theorem steady_answers (w : World) (steady : Steady date result w) (uses : List Use) :
    ∀ answered ∈ (Runs.run step w uses).1, ∀ env, answered.1 = .get env date → answered.2 = some result := by
  refine (Runs.run_invariant step (fun history w => Steady date result w ∧
    ∀ answered ∈ history, ∀ env, answered.1 = Use.get env date → answered.2 = some result)
    ⟨steady, nofun⟩ ?_ uses).2
  rintro history w use ⟨steady, before⟩
  have now := step_steady w use steady
  refine ⟨now.2, ?_⟩
  intro answered member
  rcases List.mem_append.mp member with earlier | last
  · exact before answered earlier
  · obtain rfl := List.mem_singleton.mp last
    exact now.1

/-- The use of a date works from the first get on just when a load of it gives
    a blank day. -/
theorem first_use_iff (env : Env) (w : World) (steady : Steady date result w) :
    Usable env date w ↔ ∃ schedule, result = .ok schedule ∧ schedule.length = 86400 / 300 ∧
      Blank MACHINE_ID_LIST schedule := by
  have run := run_get_master_schedule env date w
  rw [steady.scheduleOf env] at run
  constructor
  · rintro ⟨schedule, after, got, long, blank, _⟩
    refine ⟨schedule, ?_, long, blank⟩
    cases result with
    | error e => rw [run] at got; cases got
    | ok found => rw [run] at got; cases got; rfl
  · rintro ⟨schedule, rfl, long, blank⟩
    exact ⟨schedule, _, run, long, blank, steady_answers _ (steady.put fun _ => rfl)⟩

/-- A date that is not in memory and has no file cannot be used. -/
theorem first_use_fails (env : Env) {w : World} (unloaded : w.master_schedule date = none)
    (missing : w.files date = none) : ¬ Usable env date w := by
  rw [first_use_iff env w (steady_of_missing unloaded missing)]
  rintro ⟨schedule, returned, _⟩
  cases returned

def emptyWorld : World where
  master_schedule _ := none
  files _ := none
  today_changed := false
  published := []

def writing : Env where
  today := ⟨1970, 1, 1⟩
  update_today := ⟨1970, 1, 1⟩
  clock _ _ := .nan
  load_time := .nan
  save := .written

theorem first_day_fails : ¬ Usable writing ⟨1970, 1, 1⟩ emptyWorld :=
  first_use_fails writing rfl rfl

theorem first_get_raises :
    ¬ ∀ (env : Env) (date : Date) (w : World), env.save = .written → w.master_schedule date = none →
      w.files date = none → Usable env date w := by
  intro claim
  obtain ⟨schedule, after, got, _⟩ := claim writing ⟨1970, 1, 1⟩ emptyWorld rfl rfl rfl
  cases got

end DispenserHub.FirstUse
