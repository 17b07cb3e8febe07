import DispenserHub.ClearSlots
import DispenserHub.Manager

/-!
`handle_session_proposal` for one proposal after the other. A proposal changes
the schedules in memory only through an `add_session` that came through, so the
sessions the manager confirms are among those of a calendar. Since `SESSION`
holds durations as floats, there are none.
-/

namespace DispenserHub.Proposals
open EStateM (Result)
open Messages Buckets FileIo Effects MasterSchedule Availability Reservation Manager Occupancy Booking
open ClearSlots (occupies_unique)

/-- A payload, with what its handler meets outside. -/
structure Proposal (Payload : Type) where
  env : Env
  payload : Payload

variable {Payload : Type} (packages : Packages Payload) (site : Site) (imports : Imports)

/-- What is published for a proposal, and the world afterwards. -/
def step (w : World) (proposal : Proposal Payload) : List (String × Acknowledge) × World :=
  let after := final (EStateM.run (handle_session_proposal packages site imports proposal.env proposal.payload) w)
  (after.published.drop w.published.length, after)

/-- The call whose success was published, if it was. -/
def confirmed (entry : Proposal Payload × List (String × Acknowledge)) : Option (Call × Except PyError Bool) :=
  if entry.2.any fun ack => ack.2.success then
    (packages.SESSION entry.1.payload).map fun session => (⟨entry.1.env, session⟩, .ok true)
  else none

/-- Every schedule in memory stays as it is. -/
def Kept (w after : World) : Prop :=
  ∀ date schedule, w.master_schedule date = some schedule → after.master_schedule date = some schedule

/-- A proposal that did not book: what is published for it, if anything, refuses it. -/
structure Refused (w after : World) : Prop where
  kept : Kept w after
  published : ∃ acks, after.published = w.published ++ acks ∧ acks.length ≤ 1 ∧ ∀ ack ∈ acks, ack.2.success = false

/-- A proposal that did: its `add_session`, in the world as it was after the
    first check, came through. -/
structure Added (env : Env) (session : Session) (w after : World) : Prop where
  added : ∃ looked, Looked env w looked env.today ∧
    answer (EStateM.run (add_session site .complete env session) looked) = .ok true ∧
    after.master_schedule = (final (EStateM.run (add_session site .complete env session) looked)).master_schedule
  published : ∃ acks, after.published = w.published ++ acks ∧ acks.length ≤ 1 ∧
    (packages.publish_dict = none → acks.any fun ack => ack.2.success)

variable {packages} {site}

theorem Looked.kept {env : Env} {w after : World} {date : Date} (looked : Looked env w after date) : Kept w after :=
  fun _ _ loaded => looked.keeps loaded

theorem Looked.published {env : Env} {w after : World} {date : Date} (looked : Looked env w after date) :
    after.published = w.published := by
  rcases looked with rfl | ⟨schedule, _, rfl⟩ <;> rfl

theorem add_session_published (inRange : InRange site) (env : Env) (session : Session) (w : World) :
    (final (EStateM.run (add_session site .complete env session) w)).published = w.published := by
  rcases add_session_cases site env inRange session w with ⟨_, looked⟩ | ⟨_, schedule, d, grant⟩
  · exact Looked.published looked
  · rw [grant.result]
    rfl

/-- An answer that is published, or not, where everything else is settled. -/
theorem run_publish_final (packages : Packages Payload) (topic : String) (response : Acknowledge) (w : World) :
    (final (EStateM.run (publish packages topic response) w)).master_schedule = w.master_schedule ∧
      ∃ acks, (final (EStateM.run (publish packages topic response) w)).published = w.published ++ acks ∧
        acks.length ≤ 1 ∧ (∀ ack ∈ acks, ack.2 = response) ∧ (packages.publish_dict = none → acks = [(topic, response)]) := by
  rw [run_publish]
  cases client : packages.publish_dict with
  | some e => exact ⟨rfl, [], by simp, by simp, by simp, nofun⟩
  | none => exact ⟨rfl, [(topic, response)], rfl, le_rfl, by simp, fun _ => rfl⟩

theorem refused_publish {topic : String} {response : Acknowledge} (refusal : response.success = false) {w looked : World}
    (kept : Kept w looked) (published : looked.published = w.published) :
    Refused w (final (EStateM.run (publish packages topic response) looked)) := by
  obtain ⟨same, acks, appended, one, all, _⟩ := run_publish_final packages topic response looked
  refine ⟨?_, acks, by rw [appended, published], one, ?_⟩
  · intro date schedule loaded
    rw [same]
    exact kept date schedule loaded
  · intro ack member
    rw [all ack member, refusal]

/-- The first check looks at today's schedule, if it gets that far. -/
theorem check_looked (env : Env) (session : Session) (w : World) :
    Looked env w (final (EStateM.run (py_check_availability env session.machine_ids session.start_time session.duration
      none) w)) env.today := by
  rw [run_check_today]
  cases duration_idx session.duration with
  | error e => exact .inl rfl
  | ok k =>
    cases found : scheduleOf env w env.today with
    | error e => exact .inl rfl
    | ok schedule =>
      right
      refine ⟨schedule, found, ?_⟩
      simp only
      cases check_availability_of session.machine_ids session.start_time session.duration schedule <;> rfl

/-- A proposal refuses, or its `add_session` came through. -/
theorem proposal_cases (packages : Packages Payload) (inRange : InRange site) (env : Env) (payload : Payload) (w : World) :
    Refused w (final (EStateM.run (handle_session_proposal packages site .complete env payload) w)) ∨
      ∃ session, packages.SESSION payload = some session ∧
        Added packages site env session w
          (final (EStateM.run (handle_session_proposal packages site .complete env payload) w)) := by
  unfold handle_session_proposal
  cases valid : packages.SESSION payload with
  | none => exact .inl (refused_publish rfl (fun _ _ => id) rfl)
  | some session =>
    have looked := check_looked env session w
    simp only [EStateM.run_bind]
    cases checked : EStateM.run (py_check_availability env session.machine_ids session.start_time session.duration
        none) w with
    | error e s =>
      rw [checked] at looked
      exact .inl ⟨Looked.kept looked, [], by simpa using Looked.published looked, by simp, by simp⟩
    | ok available s =>
      rw [checked, final_ok] at looked
      have kept : Kept w s := Looked.kept looked
      have silent : s.published = w.published := Looked.published looked
      cases available with
      | false => exact .inl (refused_publish rfl kept silent)
      | true =>
        have quiet := add_session_published inRange env session s
        simp only [Bool.true_eq_false, if_false, EStateM.run_bind]
        rcases add_session_cases site env inRange session s with ⟨refused, again⟩ | ⟨accepted, _⟩
        · cases added : EStateM.run (add_session site .complete env session) s with
          | error e s' =>
            rw [added, final_error] at again quiet
            left
            refine ⟨fun date schedule loaded => again.keeps (kept date schedule loaded), [], ?_, by simp, by simp⟩
            simp only [final_error, List.append_nil]
            rw [quiet, silent]
          | ok success s' =>
            rw [added, final_ok] at again quiet
            rw [added, answer_ok] at refused
            cases success with
            | true => exact absurd rfl refused
            | false =>
              exact .inl (refused_publish rfl (fun date schedule loaded => again.keeps (kept date schedule loaded))
                (quiet.trans silent))
        · right
          refine ⟨session, rfl, ?_⟩
          cases added : EStateM.run (add_session site .complete env session) s with
          | error e s' => rw [added] at accepted; cases accepted
          | ok success s' =>
            rw [added, final_ok] at quiet
            have came_through := accepted
            rw [added] at accepted
            cases accepted
            obtain ⟨same, acks, appended, one, _, client⟩ := run_publish_final packages
              TEST_SESSION_RESPONSE
              { success := true, message := some "Session added successfully"
                session_id := some session.session_id, exchange_id := session.exchange_id }
              { s' with today_changed := false }
            refine ⟨⟨s, looked, came_through, ?_⟩, acks, ?_, one, fun takes => by simp [client takes]⟩
            · rw [added]
              exact same
            · rw [← silent, ← quiet]
              exact appended

/-- What is published for a proposal is what it appended. -/
theorem step_published {w : World} {proposal : Proposal Payload} {acks : List (String × Acknowledge)}
    (appended : (step packages site .complete w proposal).2.published = w.published ++ acks) :
    (step packages site .complete w proposal).1 = acks := by
  show List.drop _ (step packages site .complete w proposal).2.published = acks
  rw [appended, List.drop_left]

/-- After a run everything published answers a proposal, each at most once. -/
structure Answered (start : World) (history : List (Proposal Payload × List (String × Acknowledge))) (w : World) :
    Prop where
  once : ∀ entry ∈ history, entry.2.length ≤ 1
  published : w.published = start.published ++ history.flatMap Prod.snd

section
variable {blank : Schedule} {machines : List Int} {date : Date}

/-- The schedule of the date represents a calendar that holds the confirmed
    sessions: no others, if the client takes what it is given. -/
def Truthful (packages : Packages Payload) (site : Site) (blank : Schedule) (machines : List Int) (date : Date)
    (history : List (Proposal Payload × List (String × Acknowledge))) (w : World) : Prop :=
  ∃ calls, Booked site blank machines date calls w ∧
    (granted site date (history.filterMap (confirmed packages))).Sublist (granted site date calls) ∧
    (packages.publish_dict = none → granted site date (history.filterMap (confirmed packages)) = granted site date calls)

/-- What a calendar says of a schedule depends on the schedule in memory only. -/
theorem booked_kept {calls : List (Call × Except PyError Bool)} {w after : World}
    (booked : Booked site blank machines date calls w) (kept : Kept w after) :
    Booked site blank machines date calls after := by
  obtain ⟨calendar, schedule, loaded, represents, owners⟩ := booked
  exact ⟨calendar, schedule, kept date schedule loaded, represents, owners⟩

section
variable {w after : World} {history : List (Proposal Payload × List (String × Acknowledge))}
  {proposal : Proposal Payload}

theorem Truthful.refused (truthful : Truthful packages site blank machines date history w) (refused : Refused w after) :
    ∃ acks, after.published = w.published ++ acks ∧
      Truthful packages site blank machines date (history ++ [(proposal, acks)]) after := by
  obtain ⟨acks, appended, _, refusal⟩ := refused.published
  obtain ⟨calls, booked, among, equal⟩ := truthful
  have unconfirmed : confirmed packages (proposal, acks) = none := by
    refine if_neg ?_
    rw [List.any_eq_true]
    rintro ⟨ack, member, success⟩
    rw [refusal ack member] at success
    cases success
  have same : (history ++ [(proposal, acks)]).filterMap (confirmed packages) = history.filterMap (confirmed packages) := by
    simp [unconfirmed]
  refine ⟨acks, appended, calls, booked_kept booked refused.kept, ?_, ?_⟩ <;> rw [same]
  · exact among
  · exact equal

/-- The call that came through is one more of the calls that are booked. If its
    success is published, it is also one more of those confirmed. -/
theorem Truthful.added (exact : MatchedRange site) (truthful : Truthful packages site blank machines date history w)
    {session : Session} (valid : packages.SESSION proposal.payload = some session)
    (added : Added packages site proposal.env session w after) :
    ∃ acks, after.published = w.published ++ acks ∧
      Truthful packages site blank machines date (history ++ [(proposal, acks)]) after := by
  obtain ⟨⟨looked, seen, accepted, memory⟩, acks, appended, _, client⟩ := added
  obtain ⟨calls, booked, among, equal⟩ := truthful
  have next := step_booked exact calls looked ⟨proposal.env, session⟩ (booked_kept booked (Looked.kept seen))
  have reply : (Booking.step site looked ⟨proposal.env, session⟩).1 = .ok true := accepted
  rw [reply] at next
  have holds : Booked site blank machines date (calls ++ [(⟨proposal.env, session⟩, .ok true)]) after := by
    refine booked_kept next ?_
    intro other schedule loaded
    exact (congrFun memory other).trans loaded
  by_cases said : acks.any fun ack => ack.2.success
  · have now : confirmed packages (proposal, acks) = some (⟨proposal.env, session⟩, .ok true) := by
      rw [confirmed, if_pos said, valid, Option.map_some]
    have joined : (history ++ [(proposal, acks)]).filterMap (confirmed packages) =
        history.filterMap (confirmed packages) ++ [(⟨proposal.env, session⟩, .ok true)] := by
      simp [now]
    refine ⟨acks, appended, _, holds, ?_, ?_⟩ <;> rw [joined, granted_append, granted_append]
    · exact among.append (List.Sublist.refl _)
    · intro takes
      rw [equal takes]
  · have same : (history ++ [(proposal, acks)]).filterMap (confirmed packages) = history.filterMap (confirmed packages) := by
      simp [confirmed, said]
    refine ⟨acks, appended, _, holds, ?_, ?_⟩
    · rw [same, granted_append]
      exact among.trans (List.sublist_append_left _ _)
    · intro takes
      exact absurd (client takes) said

end

theorem step_truthful (exact : MatchedRange site) (history : List (Proposal Payload × List (String × Acknowledge)))
    (w : World) (proposal : Proposal Payload) (truthful : Truthful packages site blank machines date history w) :
    Truthful packages site blank machines date (history ++ [(proposal, (step packages site .complete w proposal).1)])
      (step packages site .complete w proposal).2 := by
  rcases proposal_cases packages exact.inRange proposal.env proposal.payload w with
    refused | ⟨session, valid, added⟩
  · obtain ⟨acks, appended, next⟩ := truthful.refused refused
    rw [step_published appended]
    exact next
  · obtain ⟨acks, appended, next⟩ := truthful.added exact valid added
    rw [step_published appended]
    exact next

theorem run_truthful (packages : Packages Payload) (exact : MatchedRange site) (isBlank : Blank machines blank) {w : World}
    (start : w.master_schedule date = some blank) (proposals : List (Proposal Payload)) :
    Truthful packages site blank machines date (Runs.run (step packages site .complete) w proposals).1
      (Runs.run (step packages site .complete) w proposals).2 :=
  Runs.run_invariant (step packages site .complete) (Truthful packages site blank machines date)
    ⟨[], ⟨.empty, blank, start, represents_blank isBlank, rfl⟩, List.Sublist.refl _, fun _ => rfl⟩
    (step_truthful exact) proposals

/-- The session takes a machine in bucket `j`. -/
def Takes (blank : Schedule) (s : Session) (j : ℕ) (id : Int) : Prop :=
  id ∈ s.machine_ids ∧ ∃ i k, Occupies blank s i k ∧ i ≤ j ∧ j < i + k

/-- The schedule shows the session wherever it takes a machine. -/
def Holds (blank schedule : Schedule) (s : Session) : Prop :=
  ∀ j id, Takes blank s j id → ∃ bucket, schedule[j]? = some bucket ∧
    ∀ m ∈ bucket.machines, m.machine_id = id → m.status = .Reserved ∧ m.session_id = some s.session_id

/-- The sessions confirmed on a date that starts blank lie `BUFFER_SIZE` buckets
    apart where they share a machine, and the schedule holds them. Where the client
    takes what it is given, a machine that is not available is held by one of them. -/
structure Held (packages : Packages Payload) (blank : Schedule) (machines : List Int) (date : Date)
    (sessions : List Session) (after : World) : Prop where
  apart : sessions.Pairwise fun a b => ShareMachine machines a b →
    ∃ i k i' k', Occupies blank a i k ∧ 0 < k ∧ Occupies blank b i' k' ∧ 0 < k' ∧
      (i + k + BUFFER_SIZE ≤ i' ∨ i' + k' + BUFFER_SIZE ≤ i)
  shown : ∃ schedule, after.master_schedule date = some schedule ∧
    (∀ s ∈ sessions, Holds blank schedule s) ∧
    (packages.publish_dict = none → ∀ j bucket, schedule[j]? = some bucket → ∀ m ∈ bucket.machines,
      m.status ≠ .Available → ∃ s ∈ sessions, Takes blank s j m.machine_id)

end

section
variable (packages)

/-- What is published for a proposal, by the schedules in memory, where `SESSION`
    gives no integers for durations. -/
def answer_to (master_schedule : Date → Option Schedule) (proposal : Proposal Payload) : List (String × Acknowledge) :=
  if packages.publish_dict.isSome then []
  else
    match packages.SESSION proposal.payload with
    | none =>
      [(TEST_SESSION_RESPONSE,
        { success := false, message := some "Invalid session format", session_id := none, exchange_id := none })]
    | some session =>
      match session.duration, master_schedule proposal.env.today with
      | some (.float (.finite _)), some schedule =>
        if start_index schedule session.start_time = none then
          [(TEST_SESSION_RESPONSE,
            { success := false, message := some "Requested time or machines are unavailable"
              session_id := some session.session_id, exchange_id := session.exchange_id })]
        else []
      | _, _ => []

end

theorem float_step (floats : FloatDurations packages) (imports : Imports) {w : World} {proposal : Proposal Payload}
    {schedule : Schedule} (loaded : w.master_schedule proposal.env.today = some schedule) :
    step packages site imports w proposal = (answer_to packages w.master_schedule proposal,
      { w with published := w.published ++ answer_to packages w.master_schedule proposal }) := by
  have ends : final (EStateM.run (handle_session_proposal packages site imports proposal.env proposal.payload) w) =
      { w with published := w.published ++ answer_to packages w.master_schedule proposal } := by
    unfold handle_session_proposal answer_to
    cases valid : packages.SESSION proposal.payload with
    | none => cases client : packages.publish_dict <;> simp [run_publish, client]
    | some session =>
      have found := scheduleOf_loaded proposal.env loaded
      have ints := floats proposal.payload session valid
      simp only [EStateM.run_bind, run_check_today, found, loaded]
      rcases lasts : session.duration with _ | d | d | negative | _
      · simp [duration_idx]
      · exact absurd lasts (ints d)
      · cases matched : start_index schedule session.start_time with
        | none =>
          cases client : packages.publish_dict <;>
            simp [duration_idx, check_availability_of, matched, run_publish, client, put_self loaded]
        | some i => simp [duration_idx, check_availability_of, matched, put_self loaded]
      · simp [duration_idx]
      · simp [duration_idx]
  have appended : (step packages site imports w proposal).1 = answer_to packages w.master_schedule proposal := by
    simp only [step, ends, List.drop_left]
  exact Prod.ext appended ends

/-- Where durations are floats a run refuses what it answers and changes nothing
    else: what is published for each proposal is told by the schedules it starts
    with, and in the end the schedules, the files and the flag are as they were. -/
theorem floats_book_nothing (floats : FloatDurations packages) (site : Site) (imports : Imports) {w : World}
    {proposals : List (Proposal Payload)}
    (loaded : ∀ proposal ∈ proposals, ∃ schedule, w.master_schedule proposal.env.today = some schedule) :
    Runs.run (step packages site imports) w proposals =
      (proposals.map fun proposal => (proposal, answer_to packages w.master_schedule proposal),
        { w with published := w.published ++ proposals.flatMap (answer_to packages w.master_schedule) }) := by
  induction proposals generalizing w with
  | nil => simp [Runs.run]
  | cons proposal rest ih =>
    obtain ⟨schedule, today⟩ := loaded proposal List.mem_cons_self
    have later := ih (w := { w with published := w.published ++ answer_to packages w.master_schedule proposal })
      fun other member => loaded other (List.mem_cons_of_mem _ member)
    rw [Runs.run, float_step floats imports today, later]
    simp

def two_payloads : List (Proposal Record) :=
  [⟨plainEnv, proposal 0 [("duration", .int 10)]⟩, ⟨plainEnv, proposal 1000000 [("duration", .int 10)]⟩]

/-- A proposal for now raises and one for far away is refused; nothing is booked. -/
theorem float_proposals_refused :
    Runs.run (step ⟨session_of, none⟩ firstDay .complete) (worldOf (openDay 2)) two_payloads =
      (two_payloads.map fun p => (p, answer_to ⟨session_of, none⟩ (worldOf (openDay 2)).master_schedule p),
        { worldOf (openDay 2) with
          published := (worldOf (openDay 2)).published ++
            two_payloads.flatMap (answer_to ⟨session_of, none⟩ (worldOf (openDay 2)).master_schedule) }) := by
  refine floats_book_nothing (session_of_floats none) firstDay .complete fun p member => ⟨openDay 2, ?_⟩
  rcases List.mem_cons.mp member with rfl | later
  · exact worldOf_loaded _
  · obtain rfl := List.mem_singleton.mp later
    exact worldOf_loaded _

end DispenserHub.Proposals
