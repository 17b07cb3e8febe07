import DispenserHub.ManagerNode
import DispenserHub.MachineHandler
import DispenserHub.Runs

/-!
`main` of `ARCHIVE/nodes/schedule_manager.py` and of `machine_handler.py`, which
bring today's schedule into the shared dictionary alike: it is loaded, or blank,
and saved at once. Nothing else saves it. So every restart brings back what was
first saved, unless such a save is cut short, after which no start that has to
load the date succeeds again.
-/

namespace DispenserHub.Startup
open Messages Buckets FileIo Dicts Wire ManagerNode
open MachineHandler (replace_first)

variable (setting : Setting) (env : Env)

/-- What the nodes do with today's schedule before they subscribe. -/
def main (node : NodeState) : Except PyError Unit × NodeState :=
  match node.master_schedule.get env.current_date with
  | some _ => (.ok (), node)
  | none =>
    match load_master_schedule setting env env.current_date node.files with
    | .error e => (.error e, node)
    | .ok schedule =>
      let master_schedule := node.master_schedule.set env.current_date schedule
      let (answer, files) := save_master_schedule env.save schedule env.current_date node.files
      (answer.map fun _ => (), { node with master_schedule, files })

/-- What happens to the nodes: `main` of either, a restart of both, which shares
    a new dictionary, a message to the manager, and an update that the handler
    hears of a machine. -/
inductive Event where
  | main (env : Env)
  | restart
  | message (env : Env) (text : Option Fields)
  | update (current_date : String) (machine_update : Machine)

/-- The handler replaces the machine in every bucket of the day it finds. -/
def updated (current_date : String) (machine_update : Machine) (node : NodeState) : NodeState :=
  match node.master_schedule.get current_date with
  | none => node
  | some today_schedule =>
    let today_schedule := today_schedule.map fun time_bucket =>
      { time_bucket with machines := replace_first machine_update time_bucket.machines }
    { node with master_schedule := node.master_schedule.set current_date today_schedule }

def restarted (node : NodeState) : NodeState :=
  { node with master_schedule := .empty, master_session_list := [] }

def step (node : NodeState) : Event → Except PyError Unit × NodeState
  | .main env => main setting env node
  | .restart => (.ok (), restarted node)
  | .message env text => (.ok (), incoming_message_processor setting env text node)
  | .update current_date machine_update => (.ok (), updated current_date machine_update node)

/-- The event saves a date's schedule, newly brought in, and the save is cut short. -/
def Cuts (date : String) (node : NodeState) : Event → Prop
  | .main env => env.current_date = date ∧ node.master_schedule.get date = none ∧ ∃ n, env.save = .cut_short n
  | _ => False

def SaveCut (date : String) (node : NodeState) (events : List Event) : Prop :=
  ∃ earlier event later, events = earlier ++ event :: later ∧ Cuts date (Runs.run (step setting) node earlier).2 event

theorem saveCut_concat (date : String) (node : NodeState) (events : List Event) (event : Event) :
    SaveCut setting date node (events ++ [event]) ↔
      SaveCut setting date node events ∨ Cuts date (Runs.run (step setting) node events).2 event := by
  constructor
  · rintro ⟨earlier, cut, later, split, cuts⟩
    rcases List.eq_nil_or_concat later with rfl | ⟨later, last, rfl⟩
    · obtain ⟨rfl, same⟩ := List.append_inj' split rfl
      cases same
      exact .inr cuts
    · rw [List.concat_eq_append, ← List.cons_append, ← List.append_assoc] at split
      obtain ⟨rfl, _⟩ := List.append_inj' split rfl
      exact .inl ⟨earlier, cut, later, rfl, cuts⟩
  · rintro (⟨earlier, cut, later, rfl, cuts⟩ | cuts)
    · exact ⟨earlier, cut, later ++ [event], by simp, cuts⟩
    · exact ⟨events, event, [], rfl, cuts⟩

variable {setting} {env}

theorem incoming_files (floats : ∀ t, setting.strftime t = none) (text : Option Fields) (node : NodeState) :
    (incoming_message_processor setting env text node).files = node.files := by
  unfold incoming_message_processor
  cases text with
  | none => rfl
  | some fields =>
    dsimp only
    cases SESSION.parse .broker env.now fields with
    | some session => simp [handle_session_proposal, floats]
    | none =>
      cases REQUEST.parse .broker env.now fields with
      | none => rfl
      | some request =>
        dsimp only
        cases request.request_type with
        | Schedule => rw [handle_schedule_request_eq]
        | Session => rw [handle_session_request_eq]
        | Machine => rfl

theorem updated_files (current_date : String) (machine_update : Machine) (node : NodeState) :
    (updated current_date machine_update node).files = node.files := by
  unfold updated
  split <;> rfl

theorem save_other_date (outcome : WriteOutcome) (schedule : Schedule) {date other : String} (different : other ≠ date)
    (files : String → Option FileText) :
    (save_master_schedule outcome schedule date files).2 other = files other := by
  cases outcome <;> simp [save_master_schedule, different]

/-- A start on another date leaves the file alone, and so does one that finds its
    date in the shared dictionary. -/
theorem main_files_other {date : String} {node : NodeState}
    (other : env.current_date ≠ date ∨ node.master_schedule.get date ≠ none) :
    (main setting env node).2.files date = node.files date := by
  unfold main
  cases shared : node.master_schedule.get env.current_date with
  | some schedule => rfl
  | none =>
    have different : date ≠ env.current_date := by
      rintro rfl
      rcases other with same | known
      · exact same rfl
      · exact known shared
    cases load_master_schedule setting env env.current_date node.files with
    | error e => rfl
    | ok schedule => exact save_other_date env.save schedule different node.files

theorem load_saved {schedule : Schedule} {date : String} {files : String → Option FileText}
    (text : files date = some (.whole (raw_schedule schedule))) :
    load_master_schedule setting env date files = .ok schedule := by
  simp [load_master_schedule, text, json_load, raw_schedule_reads]

theorem load_cut_file {raw : RawSchedule} {n : ℕ} {date : String} {files : String → Option FileText}
    (text : files date = some (.cut raw n)) : load_master_schedule setting env date files = .error .JSONDecodeError := by
  simp [load_master_schedule, text, json_load]

/-- A file of a date is whole, with its schedule, as long as no save was cut, and
    cut from then on. -/
structure FileState (schedule : Schedule) (date : String) (cut : Prop) (node : NodeState) : Prop where
  whole : ¬ cut → node.files date = some (.whole (raw_schedule schedule))
  broken : cut → ∃ raw n, node.files date = some (.cut raw n)

theorem step_file {schedule : Schedule} {date : String} (floats : ∀ t, setting.strftime t = none) {cut : Prop}
    {node : NodeState} (file : FileState schedule date cut node) (event : Event) :
    FileState schedule date (cut ∨ Cuts date node event) (step setting node event).2 := by
  have kept (same : (step setting node event).2.files date = node.files date) (harmless : ¬ Cuts date node event) :
      FileState schedule date (cut ∨ Cuts date node event) (step setting node event).2 := by
    rw [or_iff_left harmless]
    exact ⟨fun uncut => same.trans (file.whole uncut), fun broken => by rw [same]; exact file.broken broken⟩
  cases event with
  | restart => exact kept rfl id
  | message env text => exact kept (congrFun (incoming_files floats text node) date) id
  | update current_date machine_update => exact kept (congrFun (updated_files _ _ node) date) id
  | main env =>
    by_cases here : env.current_date = date
    · subst here
      cases shared : node.master_schedule.get env.current_date with
      | some known => exact kept (main_files_other (.inr (by simp [shared]))) (fun cuts => by simp [Cuts, shared] at cuts)
      | none =>
        by_cases broken : cut
        · -- What is cut short does not load, and is not saved again.
          obtain ⟨raw, n, text⟩ := file.broken broken
          have same : (step setting node (.main env)).2 = node := by
            simp [step, main, shared, load_cut_file text]
          refine ⟨fun uncut => absurd (.inl broken) uncut, ?_⟩
          intro _
          rw [same]
          exact ⟨raw, n, text⟩
        · have text := file.whole broken
          have saved : (step setting node (.main env)).2.files =
              (save_master_schedule env.save schedule env.current_date node.files).2 := by
            simp [step, main, shared, load_saved text]
          cases outcome : env.save with
          | cut_short n =>
            refine ⟨fun uncut => absurd (.inr ⟨rfl, shared, n, outcome⟩) uncut, ?_⟩
            intro _
            rw [saved, outcome]
            exact ⟨raw_schedule schedule, n, by simp [save_master_schedule]⟩
          | _ =>
            refine kept ?_ (by simp [Cuts, outcome])
            rw [saved, outcome]
            simp [save_master_schedule, text]
    · exact kept (main_files_other (.inl here)) (fun cuts => here cuts.1)

theorem run_file {schedule : Schedule} {date : String} (floats : ∀ t, setting.strftime t = none) {node : NodeState}
    (saved : node.files date = some (.whole (raw_schedule schedule))) (events : List Event) :
    FileState schedule date (SaveCut setting date node events) (Runs.run (step setting) node events).2 := by
  induction events using List.reverseRecOn with
  | nil =>
    have uncut : ¬ SaveCut setting date node [] := by
      rintro ⟨earlier, event, later, split, _⟩
      simp at split
    exact ⟨fun _ => saved, fun cut => absurd cut uncut⟩
  | append_singleton earlier event ih =>
    rw [Runs.run_concat, saveCut_concat]
    exact step_file floats ih event

/-- What a start does that does not find its date in the shared dictionary: it
    brings the schedule in and leaves the other dates alone. -/
structure Loads (schedule : Schedule) (date : String) (save : WriteOutcome) (before : NodeState)
    (start : Except PyError Unit × NodeState) : Prop where
  shared : start.2.master_schedule.get date = some schedule
  others : ∀ other, other ≠ date → start.2.master_schedule.get other = before.master_schedule.get other
  answer : start.1 = if save = .no_directory then .error .OSError else .ok ()

theorem main_loads {schedule : Schedule} {before : NodeState}
    (missing : before.master_schedule.get env.current_date = none)
    (text : before.files env.current_date = some (.whole (raw_schedule schedule))) :
    Loads schedule env.current_date env.save before (main setting env before) := by
  refine ⟨?_, ?_, ?_⟩
  · simp [main, missing, load_saved text]
  · intro other different
    simp [main, missing, load_saved text, different]
  · simp only [main, missing, load_saved text]
    cases env.save <;> rfl

/-- After any run of starts, restarts, messages and updates, a start that does not
    find its date in the shared dictionary, as none does after a restart, brings
    back the schedule that was first saved for the date, and none of the updates.
    But once a start's own save was cut short it raises, and leaves everything as it
    is. A start that finds its date succeeds and does nothing. -/
theorem start_loads_saved {schedule : Schedule} {date : String} (floats : ∀ t, setting.strftime t = none)
    {node : NodeState} (saved : node.files date = some (.whole (raw_schedule schedule))) (events : List Event) {env : Env}
    (today : env.current_date = date) :
    let before := (Runs.run (step setting) node events).2
    (before.master_schedule.get date = none →
      (¬ SaveCut setting date node events → Loads schedule date env.save before (main setting env before)) ∧
      (SaveCut setting date node events → main setting env before = (.error .JSONDecodeError, before))) ∧
    (before.master_schedule.get date ≠ none → main setting env before = (.ok (), before)) ∧
    ∀ earlier, events = earlier ++ [.restart] → before.master_schedule.get date = none := by
  intro before
  subst today
  have file := run_file floats saved events
  refine ⟨fun missing => ⟨?_, ?_⟩, ?_, ?_⟩
  · intro uncut
    exact main_loads missing (file.whole uncut)
  · intro cut
    obtain ⟨raw, n, text⟩ := file.broken cut
    have cut_text : before.files env.current_date = some (.cut raw n) := text
    simp [main, missing, load_cut_file cut_text]
  · intro found
    obtain ⟨known, shared⟩ := Option.ne_none_iff_exists'.mp found
    simp [main, shared]
  · rintro earlier rfl
    simp [before, Runs.run_concat, step, restarted]

/-- One bucket of one machine. -/
def smallDay : Schedule := [⟨0, [Machine.create 1 .Available (.finite 0)]⟩]

def saved : NodeState :=
  { idle with files := Function.update (fun _ => none) "1970-01-01" (some (.whole (raw_schedule smallDay))) }

/-- The machine goes into maintenance, and the start after a restart is cut short in its save. -/
def interrupted : List Event :=
  [.main plain, .update "1970-01-01" (Machine.create 1 .Maintenance (.finite 1)), .restart,
    .main { plain with save := .cut_short 0 }]

/-- After another restart the node does not start any more. -/
theorem interrupted_start_lost :
    let before := (Runs.run (step kiosk) saved (interrupted ++ [.restart])).2
    (before.master_schedule.get "1970-01-01" = none →
      (¬ SaveCut kiosk "1970-01-01" saved (interrupted ++ [.restart]) →
        Loads smallDay "1970-01-01" plain.save before (main kiosk plain before)) ∧
      (SaveCut kiosk "1970-01-01" saved (interrupted ++ [.restart]) →
        main kiosk plain before = (.error .JSONDecodeError, before))) ∧
    (before.master_schedule.get "1970-01-01" ≠ none → main kiosk plain before = (.ok (), before)) ∧
    ∀ earlier, interrupted ++ [.restart] = earlier ++ [.restart] → before.master_schedule.get "1970-01-01" = none := by
  have text : saved.files "1970-01-01" = some (.whole (raw_schedule smallDay)) := by simp [saved]
  have today : plain.current_date = "1970-01-01" := rfl
  have floats : ∀ t, kiosk.strftime t = none := fun _ => rfl
  exact start_loads_saved floats text (interrupted ++ [.restart]) today

example : (main kiosk plain (Runs.run (step kiosk) saved (interrupted ++ [.restart])).2).1 = .error .JSONDecodeError := by
  rfl

/-- Without a restart, the next start finds its date in the shared dictionary. -/
example : (main kiosk plain (Runs.run (step kiosk) saved interrupted).2).1 = .ok () := by
  rfl

end DispenserHub.Startup
