import DispenserHub.Dicts
import DispenserHub.ScheduleManager
import DispenserHub.Wire

/-!
`ARCHIVE/nodes/schedule_manager.py` around `add_session_to_schedule`: the files
of the schedules and of the session list, and the handlers of the messages on
the manager's topic. Files and shared schedules go by the text of their date.
-/

namespace DispenserHub.ManagerNode
open Messages Buckets FileIo Codecs Dicts Wire ScheduleManager

/-- The library of dates, and the map of the configuration that the node takes its
    topics from. -/
structure Setting where
  /-- `start_time.strftime("%Y-%m-%d")` on what a session has for its start. -/
  strftime : PyFloat → Option String
  /-- `datetime.strptime(date, "%Y-%m-%d")`, in seconds on the wall clock. -/
  strptime : String → Except PyError Int
  /-- `int(t.timestamp())` of a time on the wall clock. -/
  timestamp : Int → Int
  /-- `datetime.fromtimestamp(t).strftime("%Y-%m-%d")`. -/
  date_of : PyFloat → Option String
  TOPIC_MAP : Option Node → Option String

/-- What one message meets outside: today's date, the clocks, and how far the
    saves get. -/
structure Env where
  current_date : String
  now : PyFloat
  clock : ℕ → ℕ → PyFloat
  readings : ℕ → ℕ → Readings
  save : WriteOutcome
  save_list : WriteOutcome

/-- The text of the session list's file. -/
inductive ListText where
  | whole (raw : List Fields)
  | cut (raw : List Fields) (characters : ℕ)

/-- The shared dictionary, the files, the session list in memory and what was published. -/
structure NodeState where
  master_schedule : Dict String Schedule
  files : String → Option FileText
  session_file : Option ListText
  master_session_list : List SESSION
  published : List (String × Message)

variable (setting : Setting) (env : Env)

def generate_blank_schedule (date : String) : Except PyError Schedule := do
  let start_of_day ← setting.strptime date
  let intervals_per_day := 24 * 60 * 60 / TIME_BUCKET_SIZE
  return (List.range intervals_per_day.toNat).map fun (i : ℕ) =>
    { timestamp := setting.timestamp (start_of_day + TIME_BUCKET_SIZE * (i : Int))
      machines := MACHINE_ID_LIST.mapIdx fun k machine_id => Machine.create machine_id .Available (env.clock i k) }

/-- Without a file the schedule is blank, and it is not saved. -/
def load_master_schedule (date : String) (files : String → Option FileText) : Except PyError Schedule :=
  match files date with
  | some text =>
    match json_load text with
    | none => .error .JSONDecodeError
    | some raw =>
      match raw.mapM (bucket_of env.now) with
      | none => .error .ValidationError
      | some schedule => .ok schedule
  | none => generate_blank_schedule setting env date

/-- The file is opened before the records are converted, so one that does not
    convert leaves it cut short after no characters. -/
def save_master_schedule (outcome : WriteOutcome) (schedule : Schedule) (date : String)
    (files : String → Option FileText) : Except PyError Bool × (String → Option FileText) :=
  match outcome with
  | .no_directory => (.error .OSError, files)
  | .not_opened => (.ok false, files)
  | .cut_short n => (.ok false, Function.update files date (some (.cut (raw_schedule schedule) n)))
  | .written => (.ok true, Function.update files date (some (.whole (raw_schedule schedule))))

/-- There is no directory to make. -/
def save_master_session_list (outcome : WriteOutcome) (session_list : List SESSION) (file : Option ListText) :
    Bool × Option ListText :=
  let raw := session_list.map (SESSION.fields .file)
  match outcome with
  | .written => (true, some (.whole raw))
  | .cut_short n => (false, some (.cut raw n))
  | _ => (false, file)

def session_of (s : SESSION) : Session where
  machine_id := s.machine_id
  session_id := s.session_id
  status := s.status
  start_time := s.start_time
  duration := s.duration.map .float
  exchange_id := s.exchange_id
  origin_node := s.origin_node
  destination_node := s.destination_node

/-- The schedule of the session's date with the session added to it. Today's
    schedule is taken to be the shared dictionary; its keys are texts, whose first
    characters are no start times. -/
def add_proposed (session : SESSION) (session_date : String) (node : NodeState) :
    Except PyError ((Bool × Option String) × Option Schedule) := do
  if session_date = env.current_date then
    return ((false, some "Start time not found in schedule"), none)
  else
    let schedule ← load_master_schedule setting env session_date node.files
    let (answer, schedule) := add_session_to_schedule env.readings (session_of session) schedule
    return (answer, some schedule)

def confirmation (session : SESSION) (success : Bool) (message : String) : Message :=
  .acknowledge
    { success, message := some message, machine_id := none, session_id := some session.session_id, status := none
      exchange_id := session.exchange_id, timestamp := env.now, origin_node := some .Manager
      destination_node := session.origin_node }

def NodeState.publish (node : NodeState) (topic : String) (message : Message) : NodeState :=
  { node with published := node.published ++ [(topic, message)] }

/-- What raises is caught and logged, here and in the handlers below. -/
def handle_session_proposal (session : SESSION) (node : NodeState) : NodeState :=
  match setting.strftime session.start_time with
  | none => node
  | some session_date =>
    match add_proposed setting env session session_date node, setting.TOPIC_MAP session.origin_node with
    | .error _, _ | _, none => node
    | .ok ((true, _), some schedule), some topic =>
      let node := node.publish topic (confirmation env session true s!"Session {session.session_id} added successfully")
      match save_master_schedule env.save schedule session_date node.files with
      | (.error _, files) => { node with files }
      | (.ok _, files) =>
        let master_session_list := node.master_session_list ++ [session]
        let (_, session_file) := save_master_session_list env.save_list master_session_list node.session_file
        { node with files, master_session_list, session_file }
    | .ok ((_, conflict_message), _), some topic =>
      let reason := conflict_message.getD "None"
      node.publish topic (confirmation env session false s!"Failed to add session {session.session_id}: {reason}")

/-- The date a schedule is asked for: the one in the request, if there is one
    and it is not empty, else that of its timestamp. -/
def requested_date (request : REQUEST) : Option String :=
  match request.date with
  | some date => if date = "" then setting.date_of request.timestamp else some date
  | none => setting.date_of request.timestamp

/-- `[timestamp, machine, ...]`. -/
def row (bucket : TimeBucket) : Value :=
  .list (.int bucket.timestamp :: bucket.machines.map .machine)

/-- The rows for a date. For today they are what `SCHEDULE` makes of the shared
    dictionary: the list of its keys. -/
def schedule_rows (date : String) (master_schedule : Dict String Schedule) (files : String → Option FileText) :
    Except PyError (List Value) :=
  if date = env.current_date then .ok (master_schedule.keys.map .str)
  else (load_master_schedule setting env date files).map (List.map row)

/-- The answer to a request for a schedule, with its topic. -/
def schedule_answer (request : REQUEST) (master_schedule : Dict String Schedule)
    (files : String → Option FileText) : Option (String × Message) := do
  let date ← requested_date setting request
  let schedule ← (schedule_rows setting env date master_schedule files).toOption
  let topic ← setting.TOPIC_MAP request.origin_node
  return (topic, .schedule
    { date := .text date, schedule, exchange_id := request.exchange_id, timestamp := env.now
      origin_node := some .Manager, destination_node := request.origin_node })

def handle_schedule_request (request : REQUEST) (node : NodeState) : NodeState :=
  match schedule_answer setting env request node.master_schedule node.files with
  | none => node
  | some (topic, message) => node.publish topic message

/-- The message is built with a field `session` and without `session_id`. -/
def session_message (request : REQUEST) (session : SESSION) : Fields :=
  [("session", json_int.write session.session_id),
   ("machine_id", machine_ids.write session.machine_id),
   ("status", json_status.write session.status),
   ("start_time", (json_float .file).write session.start_time),
   ("duration", (optional_float .file).write session.duration),
   ("time_created", (json_float .file).write session.time_created),
   ("exchange_id", optional_int.write request.exchange_id),
   ("origin_node", json_node.write .Manager),
   ("destination_node", optional_node.write request.origin_node)]

def handle_session_request (request : REQUEST) (node : NodeState) : NodeState :=
  match node.master_session_list.find? fun s => some s.session_id = request.session_id with
  | none => node
  | some session =>
    match SESSION.parse .file env.now (session_message request session), setting.TOPIC_MAP request.origin_node with
    | some message, some topic => node.publish topic (.session message)
    | _, _ => node

/-- A message that is no object is neither of the two. -/
def incoming_message_processor (message : Option Fields) (node : NodeState) : NodeState :=
  match message with
  | none => node
  | some fields =>
    match SESSION.parse .broker env.now fields with
    | some session => handle_session_proposal setting env session node
    | none =>
      match REQUEST.parse .broker env.now fields with
      | none => node
      | some request =>
        match request.request_type with
        | .Schedule => handle_schedule_request setting env request node
        | .Session => handle_session_request setting env request node
        | .Machine => node

/-- The messages of the manager's topic, each with what it meets. -/
def run (node : NodeState) (messages : List (Env × Option Fields)) : NodeState :=
  messages.foldl (fun node input => incoming_message_processor setting input.1 input.2 node) node

/-- A handler that answered or did nothing. -/
theorem handle_schedule_request_eq (request : REQUEST) (node : NodeState) :
    handle_schedule_request setting env request node =
      { node with published := node.published ++
          (schedule_answer setting env request node.master_schedule node.files).toList } := by
  unfold handle_schedule_request
  cases schedule_answer setting env request node.master_schedule node.files with
  | none => simp
  | some answer => rfl

/-- The message a session request is answered with lacks a field. -/
theorem session_message_invalid (now : PyFloat) (request : REQUEST) (session : SESSION) :
    SESSION.parse .file now (session_message request session) = none := by
  simp [SESSION.parse, session_message, Codec.required, List.lookup_cons]

theorem handle_session_request_eq (request : REQUEST) (node : NodeState) :
    handle_session_request setting env request node = node := by
  unfold handle_session_request
  cases node.master_session_list.find? fun s => some s.session_id = request.session_id with
  | none => rfl
  | some session => simp [session_message_invalid]

/-- Whatever a session has for its start, its proposal leaves the shared schedules alone. -/
theorem handle_session_proposal_shared (session : SESSION) (node : NodeState) :
    (handle_session_proposal setting env session node).master_schedule = node.master_schedule := by
  unfold handle_session_proposal
  cases setting.strftime session.start_time with
  | none => rfl
  | some session_date =>
    simp only
    split
    · rfl
    · rfl
    · split <;> rfl
    · rfl

theorem incoming_shared (message : Option Fields) (node : NodeState) :
    (incoming_message_processor setting env message node).master_schedule = node.master_schedule := by
  unfold incoming_message_processor
  cases message with
  | none => rfl
  | some fields =>
    dsimp only
    cases SESSION.parse .broker env.now fields with
    | some session => exact handle_session_proposal_shared setting env session node
    | none =>
      cases REQUEST.parse .broker env.now fields with
      | none => rfl
      | some request =>
        dsimp only
        cases request.request_type with
        | Schedule => rw [handle_schedule_request_eq]
        | Session => rw [handle_session_request_eq]
        | Machine => rfl

/-- What the node publishes for a message: the schedule, to a request for one. -/
def answer_to (node : NodeState) (input : Env × Message) : Option (String × Message) :=
  match input.2 with
  | .request request =>
    if request.request_type = .Schedule then
      schedule_answer setting input.1 request node.master_schedule node.files
    else none
  | _ => none

variable {setting} {env}

/-- One message where a start, a float, has no `strftime`. -/
theorem incoming_eq (env : Env) (floats : ∀ t, setting.strftime t = none) {message : Message} (kept : message.Kept .broker)
    (node : NodeState) :
    incoming_message_processor setting env (some (message.fields .broker)) node =
      { node with published := node.published ++ (answer_to setting node (env, message)).toList } := by
  have sessions (s : SESSION) := session_read_iff .broker env.now kept s
  have requests (r : REQUEST) := request_read_iff .broker env.now kept r
  unfold incoming_message_processor
  dsimp only
  cases parsed : SESSION.parse .broker env.now (message.fields .broker) with
  | some session =>
    obtain rfl := (sessions session).mp parsed
    simp [handle_session_proposal, floats, answer_to]
  | none =>
    cases asked : REQUEST.parse .broker env.now (message.fields .broker) with
    | some request =>
      obtain rfl := (requests request).mp asked
      cases type : request.request_type with
      | Schedule =>
        simp only [handle_schedule_request_eq, answer_to, type, if_true]
      | Session => simp [handle_session_request_eq, answer_to, type]
      | Machine => simp [answer_to, type]
    | none =>
      cases message with
      | request request =>
        rw [(requests request).mpr rfl] at asked
        cases asked
      | _ => simp [answer_to]

theorem run_shared (node : NodeState) (messages : List (Env × Option Fields)) :
    (run setting node messages).master_schedule = node.master_schedule := by
  induction messages generalizing node with
  | nil => rfl
  | cons input rest ih =>
    rw [run, List.foldl_cons, ← run, ih]
    exact incoming_shared setting input.1 input.2 node

theorem run_answers (floats : ∀ t, setting.strftime t = none) (node : NodeState) {inputs : List (Env × Message)}
    (kept : ∀ input ∈ inputs, input.2.Kept .broker) :
    run setting node (inputs.map fun input => (input.1, some (input.2.fields .broker))) =
      { node with published := node.published ++ inputs.filterMap (answer_to setting node) } := by
  induction inputs generalizing node with
  | nil => simp [run]
  | cons input rest ih =>
    have first := incoming_eq input.1 floats (kept input List.mem_cons_self) node
    rw [List.map_cons, run, List.foldl_cons, ← run, first,
      ih _ fun other member => kept other (List.mem_cons_of_mem _ member)]
    have same : answer_to setting { node with published := node.published ++ (answer_to setting node input).toList } =
        answer_to setting node := rfl
    rw [same]
    cases answered : answer_to setting node input <;> simp [answered]

/-- The rows that a request for a date is answered with: for today the dates of the
    shared dictionary, for another date the buckets of its file, or blank ones. -/
inductive Rows (setting : Setting) (env : Env) (node : NodeState) : String → List Value → Prop where
  | today : Rows setting env node env.current_date (node.master_schedule.keys.map .str)
  | loaded {date : String} {schedule : Schedule} (other : date ≠ env.current_date)
      (found : load_master_schedule setting env date node.files = .ok schedule) :
      Rows setting env node date (schedule.map row)

theorem schedule_rows_iff (setting : Setting) (env : Env) (node : NodeState) (date : String) (rows : List Value) :
    (schedule_rows setting env date node.master_schedule node.files).toOption = some rows ↔
      Rows setting env node date rows := by
  unfold schedule_rows
  constructor
  · intro answered
    by_cases today : date = env.current_date
    · rw [if_pos today] at answered
      cases answered
      exact today ▸ .today
    · rw [if_neg today] at answered
      cases found : load_master_schedule setting env date node.files with
      | error e => simp [found, Except.map, Except.toOption] at answered
      | ok schedule =>
        simp only [found, Except.map, Except.toOption, Option.some.injEq] at answered
        cases answered
        exact .loaded today found
  · intro answers
    cases answers with
    | today => simp [Except.toOption]
    | loaded other found => simp [other, found, Except.map, Except.toOption]

/-- Today's rows are the dates with a schedule in the shared dictionary, each once,
    and none of the schedules. -/
theorem today_rows {setting : Setting} {env : Env} {node : NodeState} {rows : List Value}
    (answers : Rows setting env node env.current_date rows) :
    ∃ dates : List String, rows = dates.map .str ∧ dates.Nodup ∧
      ∀ date, date ∈ dates ↔ node.master_schedule.get date ≠ none := by
  cases answers with
  | today => exact ⟨_, rfl, node.master_schedule.once, node.master_schedule.mem_keys_iff⟩
  | loaded other found => exact absurd rfl other

/-- A message is answered when it is a request for a schedule whose date is known,
    whose origin has a topic, and for which there are rows. -/
theorem answer_to_iff (setting : Setting) (node : NodeState) (env : Env) (message : Message) (topic : String)
    (reply : Message) :
    answer_to setting node (env, message) = some (topic, reply) ↔
      ∃ request date rows, message = .request request ∧ request.request_type = .Schedule ∧
        requested_date setting request = some date ∧ setting.TOPIC_MAP request.origin_node = some topic ∧
        Rows setting env node date rows ∧
        reply = .schedule
          { date := .text date, schedule := rows, exchange_id := request.exchange_id, timestamp := env.now
            origin_node := some .Manager, destination_node := request.origin_node } := by
  cases message with
  | request request =>
    by_cases type : request.request_type = .Schedule
    · simp only [answer_to, type, if_true, schedule_answer, Option.bind_eq_bind, Option.bind_eq_some_iff,
        Option.pure_def, Option.some.injEq, Prod.mk.injEq, schedule_rows_iff]
      constructor
      · rintro ⟨date, dated, rows, answers, topic', mapped, rfl, rfl⟩
        exact ⟨request, date, rows, rfl, type, dated, mapped, answers, rfl⟩
      · rintro ⟨request', date, rows, same, _, dated, mapped, answers, rfl⟩
        cases same
        exact ⟨date, dated, rows, answers, topic, mapped, rfl, rfl⟩
    · simp only [answer_to, type, if_false, reduceCtorEq, false_iff, not_exists]
      rintro request' date rows ⟨same, type', _⟩
      cases same
      exact type type'
  | _ => simp [answer_to]

/-- No text on the manager's topic changes the shared schedules. And where a
    start has no `strftime`, as a float has not, nothing is changed at all: of the
    messages of the five models only requests for a schedule are answered, with the
    rows for their date where there are any; proposals and requests for a session
    never are. -/
theorem only_schedules_answered (setting : Setting) (node : NodeState) :
    (∀ messages, (run setting node messages).master_schedule = node.master_schedule) ∧
      ((∀ t, setting.strftime t = none) → ∀ inputs : List (Env × Message), (∀ input ∈ inputs, input.2.Kept .broker) →
        run setting node (inputs.map fun input => (input.1, some (input.2.fields .broker))) =
          { node with published := node.published ++ inputs.filterMap (answer_to setting node) }) ∧
      ∀ (env : Env) (message : Message) (topic : String) (reply : Message),
        answer_to setting node (env, message) = some (topic, reply) ↔
          ∃ request date rows, message = .request request ∧ request.request_type = .Schedule ∧
            requested_date setting request = some date ∧ setting.TOPIC_MAP request.origin_node = some topic ∧
            Rows setting env node date rows ∧
            reply = .schedule
              { date := .text date, schedule := rows, exchange_id := request.exchange_id, timestamp := env.now
                origin_node := some .Manager, destination_node := request.origin_node } :=
  ⟨run_shared node, fun floats _ kept => run_answers floats node kept, answer_to_iff setting node⟩

def kiosk : Setting where
  strftime _ := none
  strptime _ := .ok 86400
  timestamp := id
  date_of _ := none
  TOPIC_MAP
    | some .Kiosk => some "internal/kiosk/response/schedule"
    | _ => none

def plain : Env where
  current_date := "1970-01-01"
  now := .finite 0
  clock _ _ := .finite 0
  readings _ _ := (.finite 0, .finite 0)
  save := .written
  save_list := .written

def kiosk_messages : List (Env × Message) :=
  [(plain, .session
     { machine_id := [1], session_id := 7, status := .Reserved, start_time := .finite 86400
       duration := some (.finite 600), time_created := .finite 0, exchange_id := some 1, timestamp := .finite 0
       origin_node := some .Kiosk, destination_node := some .Manager }),
   (plain, .request
     { request_type := .Schedule, date := some "1970-01-02", machine_id := none, session_id := none
       exchange_id := some 2, timestamp := .finite 0, origin_node := some .Kiosk, destination_node := some .Manager })]

def idle : NodeState where
  master_schedule := .empty
  files _ := none
  session_file := none
  master_session_list := []
  published := []

/-- The proposal stays unanswered, and the request gets a blank day. -/
theorem kiosk_gets_schedule :
    run kiosk idle (kiosk_messages.map fun input => (input.1, some (input.2.fields .broker))) =
      { idle with published := idle.published ++ kiosk_messages.filterMap (answer_to kiosk idle) } := by
  refine (only_schedules_answered kiosk idle).2.1 (fun _ => rfl) kiosk_messages ?_
  intro input member
  rcases List.mem_cons.mp member with rfl | later
  · exact (kept_iff .broker _).mpr ⟨trivial, by
      simp [Message.floats, Message.required_floats, Message.optional_floats, json_float, broker_float]⟩
  · obtain rfl := List.mem_singleton.mp later
    exact (kept_iff .broker _).mpr ⟨trivial, by
      simp [Message.floats, Message.required_floats, Message.optional_floats, json_float, broker_float]⟩

example : (kiosk_messages.filterMap (answer_to kiosk idle)).map Prod.fst = ["internal/kiosk/response/schedule"] := by
  decide +kernel

end DispenserHub.ManagerNode
