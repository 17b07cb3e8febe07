import DispenserHub.Proposals

/-!
A search for slots of today, after any run of proposals, and an offer of it
proposed to the manager. With an integer for its duration it is confirmed; with
the float that `SESSION` makes of it, it is not even refused.
-/

namespace DispenserHub.Offers
open EStateM (Result)
open Messages Buckets FileIo Effects MasterSchedule Availability Reservation Manager SlotSearch Proposals Grid
open Booking (MatchedRange firstDay_matched)
open ClearSlots (accepted_iff mem_answered asked blank_day_searched)

/-- What the search vouches for in an offer: it starts at a bucket, and the check
    passes for its machines and the duration asked for. -/
structure Vouched (schedule : Schedule) (d : Int) (s : Session) : Prop where
  starts : ∃ bucket ∈ schedule, s.start_time = .finite bucket.timestamp
  available : check_availability s.machine_ids s.start_time d schedule = true

theorem offer_vouched {schedule : Schedule} (listed : Listed schedule) {n : ℕ} {d : Int} {s : Session}
    (member : s ∈ options schedule n d) : Vouched schedule d s := by
  obtain ⟨bucket, taken, at_bucket⟩ := List.mem_flatMap.mp member
  have inside := List.mem_of_mem_take taken
  obtain ⟨p, _, _, fits, rfl⟩ := (mem_options_at listed inside).mp at_bucket
  exact ⟨⟨bucket, inside, rfl⟩, fits.2⟩

variable {Payload : Type} {packages : Packages Payload} {site : Site}

/-- A proposal for a slot that passes the check, with an integer duration of a
    second at least, is confirmed. -/
theorem proposal_confirmed (exact : MatchedRange site) {w : World} {proposal : Proposal Payload} {session : Session}
    (valid : packages.SESSION proposal.payload = some session) (client : packages.publish_dict = none)
    {schedule : Schedule} (loaded : w.master_schedule proposal.env.today = some schedule)
    (here : site.date_of session.start_time = proposal.env.today) {d : Int} (lasts : session.duration = some (.int d))
    (lasting : 1 ≤ d) (available : check_availability session.machine_ids session.start_time d schedule = true) :
    (step packages site .complete w proposal).1 = [(TEST_SESSION_RESPONSE,
      { success := true, message := some "Session added successfully"
        session_id := some session.session_id, exchange_id := session.exchange_id })] := by
  have found := scheduleOf_loaded proposal.env loaded
  have checked : EStateM.run (py_check_availability proposal.env session.machine_ids session.start_time session.duration
      none) w = .ok true w := by
    rw [run_check_today, found, lasts]
    simp [duration_idx, check_availability_of_int, available, put_self loaded]
  have accepted := (accepted_iff session exact (by rw [here]; exact loaded) proposal.env).mpr ⟨d, lasts, lasting, available⟩
  have quiet := add_session_published exact.inRange proposal.env session w
  cases added : EStateM.run (add_session site .complete proposal.env session) w with
  | error e s => rw [added] at accepted; cases accepted
  | ok success s =>
    rw [added] at accepted quiet
    cases accepted
    have silent : s.published = w.published := quiet
    unfold step handle_session_proposal
    simp [valid, checked, added, clear_schedule_flag, run_publish, client, silent]

/-- A proposal that starts at a bucket of today and whose duration is no integer
    raises: nothing is published, and nothing changes. -/
theorem proposal_unanswered (imports : Imports) {w : World} {proposal : Proposal Payload} {session : Session}
    (valid : packages.SESSION proposal.payload = some session) {schedule : Schedule}
    (loaded : w.master_schedule proposal.env.today = some schedule) {i : ℕ}
    (matched : start_index schedule session.start_time = some i) (noInt : ∀ k : Int, session.duration ≠ some (.int k)) :
    step packages site imports w proposal = ([], w) := by
  have found := scheduleOf_loaded proposal.env loaded
  have ends : final (EStateM.run (handle_session_proposal packages site imports proposal.env proposal.payload) w) = w := by
    unfold handle_session_proposal
    simp only [valid, EStateM.run_bind, run_check_today, found]
    rcases lasts : session.duration with _ | d | d | negative | _
    · simp [duration_idx]
    · exact absurd lasts (noInt d)
    · simp [duration_idx, check_availability_of, matched, put_self loaded]
    · simp [duration_idx]
    · simp [duration_idx]
  simp only [step, ends, List.drop_length]

/-- After any run of proposals, an offer of today's that is proposed back is
    confirmed if its duration is given as the integer that was searched for. If it
    is anything but an integer the proposal is left unanswered and changes nothing. -/
theorem offer_proposed_back (packages : Packages Payload) (exact : MatchedRange site) {blank : Schedule} {date : Date} {timestamp : Int → Int}
    {clock : Nat → Nat → PyFloat} (made : generate_blank_schedule timestamp clock date MACHINE_ID_LIST = .ok blank)
    (spaced : Spaced TIME_BUCKET_SIZE (timestamps blank))
    (on_date : ∀ bucket ∈ blank, site.date_of (.finite bucket.timestamp) = date) {w : World}
    (start : w.master_schedule date = some blank) (proposals : List (Proposal Payload)) (env : Env) {n : ℕ} {d : Int}
    (lasting : 1 ≤ d) (start_time : Option ℚ) {offers : List Session}
    (found : answer (EStateM.run (get_availability env date n start_time d)
      (Runs.run (step packages site .complete) w proposals).2) = .ok (some offers)) {s : Session} (listed : s ∈ offers)
    (proposal : Proposal Payload) (today : proposal.env.today = date) {session : Session}
    (valid : packages.SESSION proposal.payload = some session) (machines : session.machine_ids = s.machine_ids)
    (starts : session.start_time = s.start_time) :
    let reached := (Runs.run (step packages site .complete) w proposals).2
    (session.duration = some (.int d) → packages.publish_dict = none →
      (step packages site .complete reached proposal).1 = [(TEST_SESSION_RESPONSE,
        { success := true, message := some "Session added successfully"
          session_id := some session.session_id, exchange_id := session.exchange_id })]) ∧
      ((∀ k : Int, session.duration ≠ some (.int k)) → step packages site .complete reached proposal = ([], reached)) := by
  intro reached
  have isBlank := (generate_blank_schedule_blank made).2
  obtain ⟨_, ⟨calendar, schedule, loaded, represents, _⟩, _, _⟩ :=
    run_truthful packages exact isBlank start proposals
  have vouched := offer_vouched represents.listed (mem_answered loaded (by omega) found listed)
  obtain ⟨bucket, member, begins⟩ := vouched.starts
  obtain ⟨i, at_i⟩ := List.mem_iff_getElem?.mp member
  have spaced' : Spaced TIME_BUCKET_SIZE (timestamps schedule) := by
    rw [represents.times]
    exact spaced
  have matched : start_index schedule session.start_time = some i := by
    rw [starts, begins]
    exact start_index_aligned spaced' at_i
  have loaded' : reached.master_schedule proposal.env.today = some schedule := by
    rw [today]
    exact loaded
  refine ⟨?_, fun noInt => proposal_unanswered .complete valid loaded' matched noInt⟩
  intro lasts client
  have dated : site.date_of session.start_time = proposal.env.today := by
    obtain ⟨bucket₀, at_i₀, stamp⟩ := ClearSlots.blank_times represents at_i
    rw [starts, begins, today, ← stamp]
    exact on_date bucket₀ (List.mem_of_getElem? at_i₀)
  have available := vouched.available
  rw [← machines, ← starts] at available
  exact proposal_confirmed exact valid client loaded' dated lasts lasting available

/-- An offer of a blank day, proposed with the integer that was asked for and as it is. -/
theorem blank_day_offer_proposed :
    ∃ offers s, answer (EStateM.run (get_availability plainEnv ⟨1970, 1, 1⟩ 2 none 1)
        (worldOf (blankDay MACHINE_ID_LIST))) = .ok (some offers) ∧ s ∈ offers ∧
      (step (⟨some, none⟩ : Packages Session) firstDay .complete (worldOf (blankDay MACHINE_ID_LIST))
          ⟨plainEnv, asked s 1⟩).1 = [(TEST_SESSION_RESPONSE,
        { success := true, message := some "Session added successfully"
          session_id := some s.session_id, exchange_id := s.exchange_id })] ∧
      step (⟨some, none⟩ : Packages Session) firstDay .complete (worldOf (blankDay MACHINE_ID_LIST)) ⟨plainEnv, s⟩ =
        ([], worldOf (blankDay MACHINE_ID_LIST)) := by
  obtain ⟨offers, s, found, listed, floats⟩ := blank_day_searched
  have spaced := Spacing.blankDay_spaced MACHINE_ID_LIST
  have made := blankDay_made MACHINE_ID_LIST
  have loaded := worldOf_loaded (blankDay MACHINE_ID_LIST)
  refine ⟨offers, s, found, listed, ?_, ?_⟩
  · exact (offer_proposed_back ⟨some, none⟩ firstDay_matched made spaced (fun _ _ => rfl) loaded [] plainEnv le_rfl none
      found listed ⟨plainEnv, asked s 1⟩ rfl rfl rfl rfl).1 rfl rfl
  · exact (offer_proposed_back ⟨some, none⟩ firstDay_matched made spaced (fun _ _ => rfl) loaded [] plainEnv le_rfl none
      found listed ⟨plainEnv, s⟩ rfl rfl rfl rfl).2 floats

end DispenserHub.Offers
