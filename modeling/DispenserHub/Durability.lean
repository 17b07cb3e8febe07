import DispenserHub.Booking

/-!
What a restart would load after a run in which saves may fail. A call reports
success whatever became of its save, so the file of a date agrees with memory
when the save of the last call granted on that date went through.
-/

namespace DispenserHub.Durability
open EStateM (Result)
open Messages Buckets FileIo Effects MasterSchedule Availability Reservation Booking

/-- The schedule in memory is the one a load would return. -/
def Durable (date : Date) (w : World) : Prop :=
  ∃ schedule, w.master_schedule date = some schedule ∧ ∀ now, load_schedule_from_disk now date w.files = .ok schedule

variable {site : Site} {date : Date}

theorem Durable.looked {env : Env} {w after : World} {other : Date} (durable : Durable date w)
    (looked : Looked env w after other) : Durable date after := by
  obtain ⟨schedule, loaded, stored⟩ := durable
  rcases looked with rfl | ⟨schedule', found, rfl⟩
  · exact ⟨schedule, loaded, stored⟩
  · refine ⟨schedule, ?_, stored⟩
    by_cases same : date = other
    · subst same
      rw [scheduleOf_loaded env loaded] at found
      cases found
      exact put_same _ _ _
    · rw [put_other w same, loaded]

theorem Durable.updated_other {env : Env} {w : World} {other : Date} (durable : Durable date w)
    (different : date ≠ other) (schedule : Schedule) : Durable date (updated env other schedule w) := by
  obtain ⟨schedule', loaded, stored⟩ := durable
  refine ⟨schedule', ?_, ?_⟩
  · rw [MasterSchedule.updated_other env different, loaded]
  · intro now
    rw [← stored now]
    exact load_congr now (save_other env.save different schedule w.files)

/-- An update makes its date durable when its save went through, or left the
    file alone and that held the new schedule already. -/
theorem durable_updated_iff (env : Env) (schedule : Schedule) (w : World) :
    Durable date (updated env date schedule w) ↔ env.save = .written ∨
      ((env.save = .no_directory ∨ env.save = .not_opened) ∧
        ∀ now, load_schedule_from_disk now date w.files = .ok schedule) := by
  have memory : Durable date (updated env date schedule w) ↔
      ∀ now, load_schedule_from_disk now date (updated env date schedule w).files = .ok schedule := by
    simp [Durable]
  rw [memory]
  cases outcome : env.save with
  | written =>
    have text : (updated env date schedule w).files date = some (.whole (raw_schedule schedule)) := by
      simp [updated, outcome, save_schedule_to_disk]
    simp [load_written _ text]
  | no_directory => simp [updated, outcome, save_schedule_to_disk]
  | not_opened => simp [updated, outcome, save_schedule_to_disk]
  | cut_short n =>
    simp only [updated, outcome, save_schedule_to_disk, load_schedule_from_disk, json_load, Function.update_self]
    simpa using ⟨PyFloat.nan⟩

/-- The date is durable if the save of the last call granted on it went through. -/
def Kept (site : Site) (date : Date) (history : List (Call × Except PyError Bool)) (w : World) : Prop :=
  ∀ call, (granted_calls site date history).getLast? = some call → call.env.save = .written → Durable date w

theorem step_kept (inRange : InRange site) (history : List (Call × Except PyError Bool)) (w : World) (call : Call)
    (kept : Kept site date history w) :
    Kept site date (history ++ [(call, (step site w call).1)]) (step site w call).2 := by
  intro last isLast saved
  rw [granted_calls_append] at isLast
  rcases add_session_cases site call.env inRange call.session w with ⟨refused, looked⟩ | ⟨accepted, _, _, grant⟩
  · rw [if_neg (fun granted => refused granted.1), List.append_nil] at isLast
    exact (kept last isLast saved).looked looked
  · have after : (step site w call).2 = _ := grant.result
    rw [after]
    by_cases here : site.date_of call.session.start_time = date
    · rw [if_pos ⟨accepted, here⟩, List.getLast?_concat] at isLast
      cases isLast
      rw [here]
      exact (durable_updated_iff call.env _ w).mpr (.inl saved)
    · rw [if_neg (fun granted => here granted.2), List.append_nil] at isLast
      exact (kept last isLast saved).updated_other (Ne.symm here) _

/-- In every state a run reaches, the file of a date holds the schedule in
    memory if the save of the last call granted on that date went through. -/
theorem confirmed_booking_durable (inRange : InRange site) (w : World) (calls : List Call) {call : Call}
    (last : (granted_calls site date (Runs.run (step site) w calls).1).getLast? = some call)
    (saved : call.env.save = .written) : Durable date (Runs.run (step site) w calls).2 :=
  Runs.run_invariant (step site) (Kept site date) (fun _ none => by simp [granted_calls] at none)
    (step_kept inRange) calls call last saved

def saving (works : Bool) : Call where
  env := { plainEnv with save := if works then .written else .not_opened }
  session := (request 7 0 1).session

theorem saving_granted (works : Bool) :
    granted_calls firstDay ⟨1970, 1, 1⟩ (Runs.run (step firstDay) (worldOf (openDay 1)) [saving works]).1 =
      [saving works] := by
  have accepted : (step firstDay (worldOf (openDay 1)) (saving works)).1 = .ok true := by
    cases works <;> decide +kernel
  simp only [granted_calls, Runs.run, accepted]
  simp [firstDay]

theorem saved_booking_durable :
    Durable ⟨1970, 1, 1⟩ (Runs.run (step firstDay) (worldOf (openDay 1)) [saving true]).2 :=
  confirmed_booking_durable firstDay_matched.inRange _ _ (by rw [saving_granted]; rfl) rfl

theorem confirmed_booking_lost :
    ¬ ∀ site : Site, InRange site → ∀ (w : World) (calls : List Call) (date : Date) (call : Call),
      (granted_calls site date (Runs.run (step site) w calls).1).getLast? = some call →
      Durable date (Runs.run (step site) w calls).2 := by
  intro claim
  obtain ⟨schedule, _, stored⟩ := claim firstDay firstDay_matched.inRange (worldOf (openDay 1))
    [saving false] ⟨1970, 1, 1⟩ (saving false) (by rw [saving_granted]; rfl)
  have missing : load_schedule_from_disk .nan ⟨1970, 1, 1⟩
    (Runs.run (step firstDay) (worldOf (openDay 1)) [saving false]).2.files = .error .TypeError := by
    decide +kernel
  rw [stored .nan] at missing
  cases missing

end DispenserHub.Durability
