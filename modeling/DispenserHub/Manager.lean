import DispenserHub.Reservation

/-!
`handle_session_proposal` of `schedule/manager.py`: a proposal is validated,
checked against today's schedule, added to the schedule of its own date and
answered. What leaves the handler early leaves it without an answer.
-/

namespace DispenserHub.Manager
open EStateM (Result)
open Messages Buckets FileIo Effects MasterSchedule Availability Reservation

def TEST_SESSION_RESPONSE : String := "internal/test/response/session"

/-- The packages under the handler: what `SESSION(**payload)` makes of a
    payload, if it is no `ValidationError`, and what the MQTT client's `publish`
    raises, if anything, on the dictionary of a dumped answer. -/
structure Packages (Payload : Type) where
  SESSION : Payload → Option Session
  publish_dict : Option PyError

variable {Payload : Type} (packages : Packages Payload) (site : Site) (imports : Imports) (env : Env)

def publish (topic : String) (response : Acknowledge) : Py Unit :=
  match packages.publish_dict with
  | some e => throw e
  | none => modify fun w => { w with published := w.published ++ [(topic, response)] }

def handle_session_proposal (payload : Payload) : Py Unit := do
  match packages.SESSION payload with
  | none =>
    publish packages TEST_SESSION_RESPONSE
      { success := false, message := some "Invalid session format", session_id := none, exchange_id := none }
  | some session =>
    let is_available ← py_check_availability env session.machine_ids session.start_time session.duration none
    if is_available = false then
      publish packages TEST_SESSION_RESPONSE
        { success := false, message := some "Requested time or machines are unavailable"
          session_id := some session.session_id, exchange_id := session.exchange_id }
    else
      let success ← add_session site imports env session
      if success = true then
        clear_schedule_flag
        publish packages TEST_SESSION_RESPONSE
          { success := true, message := some "Session added successfully"
            session_id := some session.session_id, exchange_id := session.exchange_id }
      else
        publish packages TEST_SESSION_RESPONSE
          { success := false, message := some "Failed to add session"
            session_id := some session.session_id, exchange_id := session.exchange_id }

theorem run_publish (topic : String) (response : Acknowledge) (w : World) :
    EStateM.run (publish packages topic response) w =
      match packages.publish_dict with
      | some e => .error e w
      | none => .ok () { w with published := w.published ++ [(topic, response)] } := by
  unfold publish
  cases packages.publish_dict <;> simp

theorem run_check_today (machine_ids : List Int) (start_time : PyFloat) (duration : Option PyNumber)
    (w : World) :
    EStateM.run (py_check_availability env machine_ids start_time duration none) w =
      match duration_idx duration, scheduleOf env w env.today with
      | .error e, _ => .error e w
      | .ok _, .error e => .error e w
      | .ok _, .ok schedule =>
        match check_availability_of machine_ids start_time duration schedule with
        | .ok available => .ok available (w.put env.today schedule)
        | .error e => .error e (w.put env.today schedule) := by
  unfold py_check_availability
  cases converted : duration_idx duration with
  | error e => simp
  | ok k =>
    cases found : scheduleOf env w env.today with
    | error e => simp [run_get_master_schedule, found]
    | ok schedule =>
      cases checked : check_availability_of machine_ids start_time duration schedule <;>
        simp [run_get_master_schedule, found, checked]

/-- No bucket lies within half a bucket of the start. -/
def Unmatched (schedule : Schedule) (start_time : PyFloat) : Prop :=
  ∀ bucket ∈ schedule, near bucket.timestamp start_time = false

theorem start_index_none_iff (schedule : Schedule) (start_time : PyFloat) :
    start_index schedule start_time = none ↔ Unmatched schedule start_time := by
  simp [start_index, Unmatched, List.findIdx?_eq_none_iff]

/-- On a float the check answers, with `False`, or raises. -/
theorem check_availability_of_float (machine_ids : List Int) (start_time : PyFloat) (duration : Option PyNumber)
    (schedule : Schedule) (noInt : ∀ d : Int, duration ≠ some (.int d)) (available : Bool) :
    check_availability_of machine_ids start_time duration schedule = .ok available ↔
      available = false ∧ (∃ d, duration = some (.float (.finite d))) ∧ Unmatched schedule start_time := by
  rw [← start_index_none_iff]
  unfold check_availability_of
  rcases duration with _ | d | d | negative | _
  · simp [duration_idx]
  · exact absurd rfl (noInt d)
  · cases found : start_index schedule start_time <;> simp [duration_idx, eq_comm]
  · simp [duration_idx]
  · simp [duration_idx]

/-- A record of a requested machine that was available on the session's date
    is reserved for the session afterwards. -/
def Reserved (session : Session) (w after : World) : Prop :=
  ∃ before schedule, scheduleOf env w (site.date_of session.start_time) = .ok before ∧
    after.master_schedule (site.date_of session.start_time) = some schedule ∧
    ∃ j k m₀ m, entry before j k = some m₀ ∧ entry schedule j k = some m ∧
      m.machine_id ∈ session.machine_ids ∧ m₀.status = .Available ∧
      m.status = .Reserved ∧ m.session_id = some session.session_id

/-- The handler returns and has published one answer, whose `success` is true
    exactly when the session was reserved. -/
def Answered (payload : Payload) (w : World) : Prop :=
  let result := EStateM.run (handle_session_proposal packages site imports env payload) w
  answer result = .ok () ∧ ∃ ack, (final result).published = w.published ++ [(TEST_SESSION_RESPONSE, ack)] ∧
    (ack.success = true ↔
      ∃ session, packages.SESSION payload = some session ∧ Reserved site env session w (final result))

theorem not_reserved_of_looked {session : Session} {w after : World} {date : Date} {schedule : Schedule}
    (found : scheduleOf env w date = .ok schedule)
    (looked : after.master_schedule = (w.put date schedule).master_schedule) :
    ¬ Reserved site env session w after := by
  rintro ⟨before, later, was, is, j, k, m₀, m, at_before, at_later, _, available, isReserved, _⟩
  have same : before = later := by
    rw [looked] at is
    by_cases here : site.date_of session.start_time = date
    · rw [here, found] at was
      rw [here, put_same] at is
      cases was
      cases is
      rfl
    · rw [put_other w here] at is
      rw [scheduleOf_loaded env is] at was
      cases was
      rfl
  subst same
  rw [at_before] at at_later
  cases at_later
  rw [available] at isReserved
  cases isReserved

/-- `SESSION` declares `duration: Optional[float]`. -/
def FloatDurations : Prop :=
  ∀ payload session, packages.SESSION payload = some session → ∀ d : Int, session.duration ≠ some (.int d)

/-- A proposal is answered, once and truthfully, when the client takes the
    dictionary and the payload is no session, or a session whose duration is a
    finite float and whose start matches no bucket of today's schedule. -/
theorem proposal_answered_iff (floats : FloatDurations packages) (payload : Payload) (w : World) :
    Answered packages site imports env payload w ↔
      packages.publish_dict = none ∧ ∀ session, packages.SESSION payload = some session →
        (∃ d, session.duration = some (.float (.finite d))) ∧
        ∃ schedule, scheduleOf env w env.today = .ok schedule ∧ Unmatched schedule session.start_time := by
  unfold Answered handle_session_proposal
  cases valid : packages.SESSION payload with
  | none => cases client : packages.publish_dict <;> simp [run_publish, client]
  | some session =>
    have checks (schedule : Schedule) := check_availability_of_float session.machine_ids session.start_time
      session.duration schedule (floats payload session valid)
    simp only [EStateM.run_bind, run_check_today, Option.some.injEq, forall_eq']
    cases converted : duration_idx session.duration with
    | error e =>
      -- The division or the conversion raises.
      simp only [answer_error, reduceCtorEq, false_and, false_iff]
      rintro ⟨_, ⟨d, lasts⟩, _⟩
      rw [lasts] at converted
      cases converted
    | ok k =>
      cases found : scheduleOf env w env.today with
      | error e => simp
      | ok schedule =>
        cases checked : check_availability_of session.machine_ids session.start_time session.duration schedule with
        | error e =>
          simp only [checked, answer_error, reduceCtorEq, false_and, false_iff]
          rintro ⟨_, lasts, _, same, unmatched⟩
          cases same
          rw [(checks schedule false).mpr ⟨rfl, lasts, unmatched⟩] at checked
          cases checked
        | ok available =>
          obtain ⟨rfl, lasts, unmatched⟩ := (checks schedule available).mp checked
          cases client : packages.publish_dict with
          | some e => simp [checked, run_publish, client]
          | none =>
            simp only [checked, if_true, run_publish, client]
            refine ⟨fun _ => ⟨trivial, lasts, schedule, rfl, unmatched⟩, fun _ => ⟨rfl, _, rfl, ?_⟩⟩
            simp only [Bool.false_eq_true, false_iff]
            rintro ⟨_, rfl, isReserved⟩
            exact not_reserved_of_looked site env found rfl isReserved

/-- A schedule has room for a session of `d`, as the check counts it: the start
    is near a bucket, `d` buckets follow, and the machines are free in these and
    in the buffers around them. -/
def HasRoom (session : Session) (d : Int) (schedule : Schedule) : Prop :=
  ∃ i, start_index schedule session.start_time = some i ∧ (0 < d → (i : Int) + d ≤ schedule.length) ∧
    ∀ j, InWindow i d j → Free session.machine_ids schedule j

/-- What `handle_session_proposal` asks before it adds the session. -/
def pre_check (session : Session) : Py Bool :=
  py_check_availability env session.machine_ids session.start_time session.duration none

/-- What `add_session` asks. -/
def own_check (session : Session) : Py Bool := do
  let schedule ← get_master_schedule env (site.date_of session.start_time)
  py_check_availability env session.machine_ids session.start_time session.duration (some schedule)

/-- A proposal that fails the first check is answered as unavailable. -/
theorem pre_check_refused (client : packages.publish_dict = none) {payload : Payload} {session : Session}
    (valid : packages.SESSION payload = some session) {w : World}
    (refused : answer (EStateM.run (pre_check env session) w) = .ok false) :
    (final (EStateM.run (handle_session_proposal packages site imports env payload) w)).published =
      (final (EStateM.run (pre_check env session) w)).published ++
        [(TEST_SESSION_RESPONSE,
          { success := false, message := some "Requested time or machines are unavailable"
            session_id := some session.session_id, exchange_id := session.exchange_id })] := by
  unfold handle_session_proposal
  simp only [valid, EStateM.run_bind]
  unfold pre_check at refused ⊢
  cases checked : EStateM.run (py_check_availability env session.machine_ids session.start_time
    session.duration none) w with
  | error e s => rw [checked] at refused; cases refused
  | ok available s =>
    rw [checked] at refused
    cases refused
    simp [run_publish, client]

/-- A session that fails the second check is not added. -/
theorem own_check_refused {session : Session} {w : World}
    (refused : answer (EStateM.run (own_check site env session) w) = .ok false) :
    answer (EStateM.run (add_session site imports env session) w) = .ok false := by
  unfold own_check at refused
  rw [run_add_session]
  simp only [EStateM.run_bind, run_get_master_schedule] at refused
  cases found : scheduleOf env w (site.date_of session.start_time) with
  | error e => rw [found] at refused; cases refused
  | ok schedule =>
    simp only [found, run_check_given] at refused ⊢
    cases checked : check_availability_of session.machine_ids session.start_time session.duration schedule with
    | error e => rw [checked] at refused; cases refused
    | ok available =>
      rw [checked] at refused
      cases refused
      simp

/-- The two checks answer alike, and the first refuses a session only when its
    own date has no room for it. -/
structure ChecksAgree (session : Session) (d : Int) (own : Schedule) (w : World) : Prop where
  same : answer (EStateM.run (pre_check env session) w) = answer (EStateM.run (own_check site env session) w)
  honest : answer (EStateM.run (pre_check env session) w) = .ok false → ¬ HasRoom session d own

section
variable {session : Session} {d : Int} {w : World} {today own : Schedule}

theorem answer_pre_check (lasts : session.duration = some (.int d))
    (loaded : w.master_schedule env.today = some today) :
    answer (EStateM.run (pre_check env session) w) =
      .ok (check_availability session.machine_ids session.start_time d today) := by
  simp [pre_check, run_check_today, scheduleOf_loaded env loaded, lasts, check_availability_of_int, duration_idx]

theorem answer_own_check (lasts : session.duration = some (.int d))
    (loaded : w.master_schedule (site.date_of session.start_time) = some own) :
    answer (EStateM.run (own_check site env session) w) =
      .ok (check_availability session.machine_ids session.start_time d own) := by
  simp [own_check, run_get_master_schedule, run_check_given, scheduleOf_loaded env loaded, lasts,
    check_availability_of_int]

/-- The checks agree when today and the session's own date both have room for
    it, or neither has. -/
theorem checks_agree_iff (lasts : session.duration = some (.int d))
    (loaded_today : w.master_schedule env.today = some today)
    (loaded_own : w.master_schedule (site.date_of session.start_time) = some own) :
    ChecksAgree site env session d own w ↔ (HasRoom session d today ↔ HasRoom session d own) := by
  have before := answer_pre_check env lasts loaded_today
  have inside := answer_own_check site env lasts loaded_own
  have today_iff : _ ↔ HasRoom session d today := check_availability_iff session.machine_ids session.start_time d today
  have own_iff : _ ↔ HasRoom session d own := check_availability_iff session.machine_ids session.start_time d own
  constructor
  · intro agree
    have same := agree.same
    rw [before, inside, Except.ok.injEq] at same
    rw [← today_iff, ← own_iff, same]
  · intro rooms
    rw [← today_iff, ← own_iff, ← Bool.eq_iff_iff] at rooms
    refine ⟨by rw [before, inside, rooms], ?_⟩
    intro refused
    rw [before, Except.ok.injEq, rooms] at refused
    rw [← own_iff, refused]
    simp

end

def twoDays : Site where
  date_of
    | .finite start => if start < 86400 then ⟨1970, 1, 1⟩ else ⟨1970, 1, 2⟩
    | _ => ⟨1970, 1, 1⟩
  get_time_bucket_range := matched_range

def secondDay : Schedule := [{ timestamp := 86400, machines := [Machine.create 1 .Available .nan] }]

def second (start : ℚ) : Session where
  machine_id := [1]
  session_id := 7
  status := .Reserved
  start_time := .finite start
  duration := some (.int 1)
  exchange_id := none
  origin_node := none
  destination_node := none

theorem checks_agree_today : ChecksAgree firstDay plainEnv (second 0) 1 (openDay 1) (worldOf (openDay 1)) :=
  (checks_agree_iff firstDay plainEnv rfl (worldOf_loaded _) (worldOf_loaded _)).mpr Iff.rfl

/-- A free second tomorrow is refused because today has no bucket near it. -/
theorem checks_disagree_tomorrow :
    ¬ ∀ (site : Site) (env : Env) (session : Session) (d : Int) (w : World) (today own : Schedule),
      session.duration = some (.int d) → w.master_schedule env.today = some today →
      w.master_schedule (site.date_of session.start_time) = some own → ChecksAgree site env session d own w := by
  intro claim
  have agree := claim twoDays plainEnv (second 86400) 1 ((worldOf (openDay 1)).put ⟨1970, 1, 2⟩ secondDay)
    (openDay 1) secondDay rfl rfl rfl
  have refused : answer (EStateM.run (pre_check plainEnv (second 86400))
    ((worldOf (openDay 1)).put ⟨1970, 1, 2⟩ secondDay)) = .ok false := by decide +kernel
  have room : check_availability [1] (.finite 86400) 1 secondDay = true := by decide +kernel
  exact agree.honest refused ((check_availability_iff _ _ _ _).mp room)

/-- `SESSION(**payload)` for a payload with a single machine: the identifier
    becomes a list, and a number given as the duration a float. -/
def session_of (payload : Record) : Option Session := do
  let machine_id ← (payload.lookup "machine_id").bind read_int
  let session_id ← (payload.lookup "session_id").bind read_int
  let status ← (payload.lookup "status").bind (read_str status_of)
  let start_time ← (payload.lookup "start_time").bind read_float
  let duration ← read_optional read_float (payload.lookup "duration")
  let exchange_id ← read_optional read_int (payload.lookup "exchange_id")
  let origin_node ← read_optional (read_str node_of) (payload.lookup "origin_node")
  let destination_node ← read_optional (read_str node_of) (payload.lookup "destination_node")
  return { machine_id := [machine_id], session_id, status, start_time, duration := duration.map .float
           exchange_id, origin_node, destination_node }

theorem session_of_floats (client : Option PyError) : FloatDurations ⟨session_of, client⟩ := by
  intro payload session valid d
  simp only [session_of, Option.bind_eq_bind, Option.bind_eq_some_iff, Option.pure_def, Option.some.injEq] at valid
  obtain ⟨_, _, _, _, _, _, _, _, duration, _, _, _, _, _, _, _, rfl⟩ := valid
  cases duration <;> simp

def proposal (start_time : Int) (duration : List (String × Scalar)) : Record :=
  [("machine_id", .int 1), ("session_id", .int 7), ("status", .str "reserved"), ("start_time", .int start_time)] ++
    duration

/-- A proposal far from today is answered when the client takes dictionaries,
    and not when it raises on them. -/
theorem distant_proposal_answered :
    Answered ⟨session_of, none⟩ firstDay .complete plainEnv (proposal 1000000 [("duration", .int 3600)])
      (worldOf (openDay 2)) ∧
    ¬ Answered ⟨session_of, some .TypeError⟩ firstDay .complete plainEnv (proposal 1000000 [("duration", .int 3600)])
      (worldOf (openDay 2)) := by
  refine ⟨?_, ?_⟩
  · rw [proposal_answered_iff _ _ _ _ (session_of_floats _)]
    refine ⟨rfl, ?_⟩
    rintro session valid
    cases valid
    exact ⟨⟨3600, rfl⟩, openDay 2, scheduleOf_loaded _ (worldOf_loaded _), by unfold Unmatched; decide +kernel⟩
  · rw [proposal_answered_iff _ _ _ _ (session_of_floats _)]
    rintro ⟨client, _⟩
    cases client

theorem absent_duration_unanswered :
    ¬ ∀ (packages : Packages Record), FloatDurations packages → packages.publish_dict = none →
      ∀ (site : Site) (imports : Imports) (env : Env) (payload : Record) (w : World), env.save = .written →
      Answered packages site imports env payload w := by
  intro claim
  have answered := claim ⟨session_of, none⟩ (session_of_floats none) rfl firstDay .complete plainEnv
    (proposal 0 []) (worldOf (openDay 2)) rfl
  have raised : answer (EStateM.run (handle_session_proposal ⟨session_of, none⟩ firstDay .complete plainEnv
    (proposal 0 [])) (worldOf (openDay 2))) = .error .TypeError := rfl
  rw [answered.1] at raised
  cases raised

end DispenserHub.Manager
