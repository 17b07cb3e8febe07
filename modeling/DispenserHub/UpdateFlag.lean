import DispenserHub.Manager
import DispenserHub.Runs

/-!
Proposals to the manager, interleaved with the updater's reads of the flag and
its clears. Only an update of the master schedule raises the flag, and the one
caller that makes one lowers it again before it returns.
-/

namespace DispenserHub.UpdateFlag
open EStateM (Result)
open Messages Buckets FileIo Effects MasterSchedule Availability Reservation Manager

inductive Event (Payload : Type) where
  | proposal (env : Env) (payload : Payload)
  | get_schedule_flag
  | clear_schedule_flag

variable {Payload : Type} (packages : Packages Payload) (site : Site) (imports : Imports)

/-- The flag that was read, if the event reads it, and the world afterwards. -/
def step (w : World) : Event Payload → Option Bool × World
  | .proposal env payload =>
    (none, final (EStateM.run (handle_session_proposal packages site imports env payload) w))
  | .get_schedule_flag => (some w.today_changed, w)
  | .clear_schedule_flag => (none, final (EStateM.run clear_schedule_flag w))

theorem add_session_keeps_flag (env : Env) (session : Session) (w : World)
    (refused : answer (EStateM.run (add_session site imports env session) w) ≠ .ok true) :
    (final (EStateM.run (add_session site imports env session) w)).today_changed = w.today_changed := by
  rw [run_add_session] at refused ⊢
  cases found : scheduleOf env w (site.date_of session.start_time) with
  | error e => rfl
  | ok schedule =>
    simp only [found] at refused ⊢
    cases checked : check_availability_of session.machine_ids session.start_time session.duration schedule with
    | error e => rfl
    | ok available =>
      cases available with
      | false => rfl
      | true =>
        simp only [checked] at refused ⊢
        by_cases empty : site.get_time_bucket_range schedule session.start_time (end_time session) = []
        · simp [empty]
        · rcases written : reserve_buckets imports env session
            (site.get_time_bucket_range schedule session.start_time (end_time session)) schedule with ⟨_ | e, after⟩
          · by_cases named : imports.update_master_schedule
            · simp [empty, written, named] at refused
            · simp [empty, named]
          · simp [empty]

theorem pre_check_keeps_flag (env : Env) (session : Session) (w : World) :
    (final (EStateM.run (pre_check env session) w)).today_changed = w.today_changed := by
  rw [pre_check, run_check_today]
  cases duration_idx session.duration with
  | error e => rfl
  | ok k =>
    cases scheduleOf env w env.today with
    | error e => rfl
    | ok schedule =>
      simp only
      cases check_availability_of session.machine_ids session.start_time session.duration schedule <;> rfl

theorem publish_keeps_flag (topic : String) (response : Acknowledge) (w : World) :
    (final (EStateM.run (publish packages topic response) w)).today_changed = w.today_changed := by
  rw [run_publish]
  cases packages.publish_dict <;> rfl

/-- Both checks pass and the reservation reports success. -/
def Accepted (env : Env) (session : Session) (w : World) : Prop :=
  answer (EStateM.run (pre_check env session) w) = .ok true ∧
    answer (EStateM.run (add_session site imports env session)
      (final (EStateM.run (pre_check env session) w))) = .ok true

/-- The handler lowers the flag after an accepted proposal and leaves it alone
    after any other. -/
theorem proposal_flag (env : Env) (payload : Payload) (w : World) :
    (final (EStateM.run (handle_session_proposal packages site imports env payload) w)).today_changed = false ∨
    ((final (EStateM.run (handle_session_proposal packages site imports env payload) w)).today_changed =
        w.today_changed ∧
      ∀ session, packages.SESSION payload = some session → ¬ Accepted site imports env session w) := by
  unfold handle_session_proposal
  cases valid : packages.SESSION payload with
  | none => exact .inr ⟨publish_keeps_flag packages _ _ w, by simp⟩
  | some session =>
    have kept := pre_check_keeps_flag env session w
    unfold Accepted
    unfold pre_check at kept ⊢
    simp only [EStateM.run_bind]
    cases checked : EStateM.run (py_check_availability env session.machine_ids session.start_time
      session.duration none) w with
    | error e s =>
      rw [checked] at kept
      refine .inr ⟨kept, ?_⟩
      rintro _ ⟨⟩ ⟨passed, _⟩
      rw [checked] at passed
      cases passed
    | ok available s =>
      rw [checked] at kept
      cases available with
      | false =>
        refine .inr ⟨(publish_keeps_flag packages _ _ s).trans kept, ?_⟩
        rintro _ ⟨⟩ ⟨passed, _⟩
        rw [checked] at passed
        cases passed
      | true =>
        have unreached := add_session_keeps_flag site imports env session s
        simp only [Bool.true_eq_false, if_false, EStateM.run_bind]
        cases added : EStateM.run (add_session site imports env session) s with
        | error e s' =>
          rw [added] at unreached
          refine .inr ⟨(unreached (by simp)).trans kept, ?_⟩
          rintro _ ⟨⟩ ⟨_, accepted⟩
          rw [checked, final_ok, added] at accepted
          cases accepted
        | ok success s' =>
          rw [added] at unreached
          cases success with
          | false =>
            refine .inr ⟨(publish_keeps_flag packages _ _ s').trans ((unreached (by simp)).trans kept), ?_⟩
            rintro _ ⟨⟩ ⟨_, accepted⟩
            rw [checked, final_ok, added] at accepted
            cases accepted
          | true => exact .inl (publish_keeps_flag packages _ _ { s' with today_changed := false })

/-- An accepted proposal changes the schedule of today, which is its own date. -/
def Changes (w : World) : Event Payload → Prop
  | .proposal env payload => ∃ session before, packages.SESSION payload = some session ∧
      Accepted site imports env session w ∧ site.date_of session.start_time = env.update_today ∧
      scheduleOf env w env.update_today = .ok before ∧
      (final (EStateM.run (handle_session_proposal packages site imports env payload) w)).master_schedule
        env.update_today ≠ some before
  | _ => False

/-- Some event of the run changed today's schedule, and the updater has not
    cleared the flag since. -/
def Pending (w : World) (events : List (Event Payload)) : Prop :=
  ∃ earlier event later, events = earlier ++ event :: later ∧ .clear_schedule_flag ∉ later ∧
    Changes packages site imports (Runs.run (step packages site imports) w earlier).2 event

theorem pending_concat {w : World} {events : List (Event Payload)} {event : Event Payload}
    (pending : Pending packages site imports w (events ++ [event])) :
    Changes packages site imports (Runs.run (step packages site imports) w events).2 event ∨
      (event ≠ .clear_schedule_flag ∧ Pending packages site imports w events) := by
  obtain ⟨earlier, changing, later, split, unclear, changes⟩ := pending
  rcases List.eq_nil_or_concat later with rfl | ⟨later', last, rfl⟩
  · obtain ⟨rfl, same⟩ := List.append_inj' split rfl
    cases same
    exact .inl changes
  · rw [List.concat_eq_append] at split unclear
    rw [← List.cons_append, ← List.append_assoc] at split
    obtain ⟨rfl, same⟩ := List.append_inj' split rfl
    cases same
    simp only [List.mem_append, List.mem_singleton, not_or] at unclear
    exact .inr ⟨fun clear => unclear.2 clear.symm, earlier, changing, later', rfl, unclear.1, changes⟩

theorem pending_flag_down (w : World) (events : List (Event Payload))
    (pending : Pending packages site imports w events) :
    (Runs.run (step packages site imports) w events).2.today_changed = false := by
  induction events using List.reverseRecOn with
  | nil =>
    obtain ⟨earlier, event, later, split, _⟩ := pending
    simp at split
  | append_singleton events event ih =>
    rw [Runs.run_concat]
    rcases pending_concat packages site imports pending with changes | ⟨unclear, before⟩
    · cases event with
      | proposal env payload =>
        obtain ⟨session, _, valid, accepted, _⟩ := changes
        rcases proposal_flag packages site imports env payload _ with down | ⟨_, refused⟩
        · exact down
        · exact absurd accepted (refused session valid)
      | get_schedule_flag => exact changes.elim
      | clear_schedule_flag => exact changes.elim
    · cases event with
      | proposal env payload =>
        rcases proposal_flag packages site imports env payload _ with down | ⟨kept, _⟩
        · exact down
        · exact kept.trans (ih before)
      | get_schedule_flag => exact ih before
      | clear_schedule_flag => exact absurd rfl unclear

/-- In every state a run reaches, `get_schedule_flag()` tells of a pending
    change only when there is none to tell of. -/
theorem flag_tells_pending_iff (w : World) (events : List (Event Payload)) :
    (Pending packages site imports w events →
      answer (EStateM.run get_schedule_flag (Runs.run (step packages site imports) w events).2) = .ok true) ↔
    ¬ Pending packages site imports w events := by
  constructor
  · intro tells pending
    have down : answer (EStateM.run get_schedule_flag _) = .ok _ :=
      congrArg Except.ok (pending_flag_down packages site imports w events pending)
    rw [tells pending] at down
    cases down
  · intro none pending
    exact absurd pending none

/-- An accepted proposal for today that no one tells the updater of. -/
theorem accepted_change_untold :
    ¬ ∀ (Payload : Type) (packages : Packages Payload) (site : Site) (w : World)
      (events : List (Event Payload)), Pending packages site .complete w events →
      answer (EStateM.run get_schedule_flag (Runs.run (step packages site .complete) w events).2) = .ok true := by
  intro claim
  have told := claim Session ⟨some, none⟩ firstDay (worldOf (openDay 1)) [.proposal plainEnv (second 0)]
    ⟨[], _, [], rfl, by simp, second 0, openDay 1, rfl, ⟨by decide +kernel, by decide +kernel⟩, rfl, rfl,
      by decide +kernel⟩
  have untold : answer (EStateM.run get_schedule_flag (Runs.run (step ⟨some, none⟩ firstDay .complete)
    (worldOf (openDay 1)) [.proposal plainEnv (second 0)]).2) = .ok false := by decide +kernel
  rw [told] at untold
  cases untold

end DispenserHub.UpdateFlag
