import DispenserHub.Codecs
import DispenserHub.FileIo

/-!
The models of `utils/messages.py`, written by `.json()` for the broker and by
`.dict()` and `json.dump` for a file, and read by `parse_raw` and `parse_obj`.
-/

namespace DispenserHub.Wire
open Messages Buckets FileIo Codecs

inductive Json where
  | null
  | bool (value : Bool)
  | int (value : Int)
  | float (value : PyFloat)
  | str (value : String)
  | array (items : List Json)
  | object (fields : List (String × Json))

abbrev Fields := List (String × Json)

def is_null : Json → Bool
  | .null => true
  | _ => false

def json_int : Codec Int Json :=
  exact .int (fun | .int n => some n | _ => none) fun _ => rfl

def json_bool : Codec Bool Json :=
  exact .bool (fun | .bool b => some b | _ => none) fun _ => rfl

def json_str : Codec String Json :=
  exact .str (fun | .str s => some s | _ => none) fun _ => rfl

def read_float : Json → Option PyFloat
  | .float x => some x
  | .int n => some (.finite n)
  | _ => none

/-- `.json()` writes what is no finite number as `null`. -/
def broker_float : Codec PyFloat Json where
  write
    | .finite x => .float (.finite x)
    | _ => .null
  read := read_float
  Fits x := ∃ q, x = .finite q
  reads_iff x := by cases x <;> simp [read_float]

/-- `json.dump` writes every float so that `json.load` reads it. -/
def file_float : Codec PyFloat Json :=
  exact .float read_float fun _ => rfl

/-- Where a message is written: to the broker, by `.json()`, or to a file. -/
inductive Medium where
  | broker
  | file
  deriving DecidableEq, Repr

def keeps : Medium → PyFloat → Bool
  | .broker, .finite _ => true
  | .broker, _ => false
  | .file, _ => true

def json_float : Medium → Codec PyFloat Json
  | .broker => broker_float
  | .file => file_float

def json_status : Codec Status Json :=
  (exact status_value status_of status_of_value).tagged .str (fun | .str s => some s | _ => none) fun _ => rfl

def json_ball_level : Codec BallLevel Json :=
  (exact ball_level_value ball_level_of ball_level_of_value).tagged .str (fun | .str s => some s | _ => none)
    fun _ => rfl

def json_node : Codec Node Json :=
  (exact node_value node_of node_of_value).tagged .str (fun | .str s => some s | _ => none) fun _ => rfl

/-- `Request` of `utils/enums.py`. -/
inductive Request where
  | Schedule
  | Session
  | Machine
  deriving DecidableEq, Repr

def request_value : Request → String
  | .Schedule => "schedule"
  | .Session => "session"
  | .Machine => "machine"

def request_of (text : String) : Option Request :=
  [.Schedule, .Session, .Machine].find? fun request => request_value request = text

theorem request_of_value (request : Request) : request_of (request_value request) = some request := by
  cases request <;> decide +kernel

def json_request : Codec Request Json :=
  (exact request_value request_of request_of_value).tagged .str (fun | .str s => some s | _ => none) fun _ => rfl

def array {α : Type} (c : Codec α Json) : Codec (List α) Json :=
  c.list.tagged .array (fun | .array items => some items | _ => none) fun _ => rfl

/-- `Optional[..] = None`. -/
def optional {α : Type} (c : Codec α Json) (solid : c.read .null = none) : Codec (Option α) Json :=
  c.optional .null is_null rfl fun b null => by
    cases b <;> first | exact solid | cases null

def optional_float (medium : Medium) : Codec (Option PyFloat) Json :=
  optional (json_float medium) (by cases medium <;> rfl)

def optional_int : Codec (Option Int) Json := optional json_int rfl
def optional_str : Codec (Option String) Json := optional json_str rfl
def optional_status : Codec (Option Status) Json := optional json_status rfl
def optional_ball_level : Codec (Option BallLevel) Json := optional json_ball_level rfl
def optional_node : Codec (Option Node) Json := optional json_node rfl

/-- The validator `ensure_list`, and the list of integers that the union takes. -/
def machine_ids : Codec (List Int) Json where
  write l := .array (l.map .int)
  read
    | .array items => items.mapM json_int.read
    | one => [one].mapM json_int.read
  Fits _ := True
  reads_iff l := by simpa [json_int] using mapM_map_some Json.int json_int.read (fun _ => rfl) l

@[simp] theorem int_fits (n : Int) : json_int.Fits n := trivial
@[simp] theorem bool_fits (b : Bool) : json_bool.Fits b := trivial
@[simp] theorem status_fits (s : Status) : json_status.Fits s := trivial
@[simp] theorem request_fits (r : Request) : json_request.Fits r := trivial
@[simp] theorem machine_ids_fits (l : List Int) : machine_ids.Fits l := trivial
@[simp] theorem optional_int_fits (o : Option Int) : optional_int.Fits o := fun _ _ => trivial
@[simp] theorem optional_str_fits (o : Option String) : optional_str.Fits o := fun _ _ => trivial
@[simp] theorem optional_status_fits (o : Option Status) : optional_status.Fits o := fun _ _ => trivial
@[simp] theorem optional_ball_level_fits (o : Option BallLevel) : optional_ball_level.Fits o := fun _ _ => trivial
@[simp] theorem optional_node_fits (o : Option Node) : optional_node.Fits o := fun _ _ => trivial

structure REQUEST where
  request_type : Request
  date : Option String
  machine_id : Option Int
  session_id : Option Int
  exchange_id : Option Int
  timestamp : PyFloat
  origin_node : Option Node
  destination_node : Option Node
  deriving DecidableEq, Repr

structure ACKNOWLEDGE where
  success : Bool
  message : Option String
  machine_id : Option Int
  session_id : Option Int
  status : Option Status
  exchange_id : Option Int
  timestamp : PyFloat
  origin_node : Option Node
  destination_node : Option Node
  deriving DecidableEq, Repr

structure SESSION where
  machine_id : List Int
  session_id : Int
  status : Status
  start_time : PyFloat
  duration : Option PyFloat
  time_created : PyFloat
  exchange_id : Option Int
  timestamp : PyFloat
  origin_node : Option Node
  destination_node : Option Node
  deriving DecidableEq, Repr

/-- The date of a `SCHEDULE`: a string, or its default, which is a float. -/
inductive ScheduleDate where
  | text (date : String)
  | imported (time : PyFloat)
  deriving DecidableEq, Repr

/-- What a list holds that is given to a `SCHEDULE`: values as JSON has them, and
    records of machines. -/
inductive Value where
  | null
  | bool (value : Bool)
  | int (value : Int)
  | float (value : PyFloat)
  | str (value : String)
  | list (items : List Value)
  | dict (fields : List (String × Value))
  | machine (record : Machine)

structure SCHEDULE where
  date : ScheduleDate
  schedule : List Value
  exchange_id : Option Int
  timestamp : PyFloat
  origin_node : Option Node
  destination_node : Option Node

variable (medium : Medium)

/-- The default is written as the float it is, and no `str` is read from it. -/
def schedule_date : Codec ScheduleDate Json where
  write
    | .text date => .str date
    | .imported time => (json_float medium).write time
  read
    | .str date => some (.text date)
    | _ => none
  Fits date := ∃ text, date = .text text
  reads_iff date := by
    cases date with
    | text date => simp
    | imported time => cases medium <;> cases time <;> simp [json_float, broker_float, file_float, exact]

def REQUEST.fields (r : REQUEST) : Fields :=
  [("request_type", json_request.write r.request_type),
   ("date", optional_str.write r.date),
   ("machine_id", optional_int.write r.machine_id),
   ("session_id", optional_int.write r.session_id),
   ("exchange_id", optional_int.write r.exchange_id),
   ("timestamp", (json_float medium).write r.timestamp),
   ("origin_node", optional_node.write r.origin_node),
   ("destination_node", optional_node.write r.destination_node)]

/-- None is a `ValidationError`. `now` is the time of creation. The conversions
    of other values to a field's type are left out, here and below: no message
    is written with a value that needs one. -/
def REQUEST.parse (now : PyFloat) (fields : Fields) : Option REQUEST := do
  let request_type ← json_request.required "request_type" fields
  let date ← optional_str.defaulted "date" fields none
  let machine_id ← optional_int.defaulted "machine_id" fields none
  let session_id ← optional_int.defaulted "session_id" fields none
  let exchange_id ← optional_int.defaulted "exchange_id" fields none
  let timestamp ← (json_float medium).defaulted "timestamp" fields now
  let origin_node ← optional_node.defaulted "origin_node" fields none
  let destination_node ← optional_node.defaulted "destination_node" fields none
  return { request_type, date, machine_id, session_id, exchange_id, timestamp, origin_node, destination_node }

/-- `CONFIRMATION` to the archived nodes. -/
def ACKNOWLEDGE.fields (a : ACKNOWLEDGE) : Fields :=
  [("success", json_bool.write a.success),
   ("message", optional_str.write a.message),
   ("machine_id", optional_int.write a.machine_id),
   ("session_id", optional_int.write a.session_id),
   ("status", optional_status.write a.status),
   ("exchange_id", optional_int.write a.exchange_id),
   ("timestamp", (json_float medium).write a.timestamp),
   ("origin_node", optional_node.write a.origin_node),
   ("destination_node", optional_node.write a.destination_node)]

def ACKNOWLEDGE.parse (now : PyFloat) (fields : Fields) : Option ACKNOWLEDGE := do
  let success ← json_bool.required "success" fields
  let message ← optional_str.defaulted "message" fields none
  let machine_id ← optional_int.defaulted "machine_id" fields none
  let session_id ← optional_int.defaulted "session_id" fields none
  let status ← optional_status.defaulted "status" fields none
  let exchange_id ← optional_int.defaulted "exchange_id" fields none
  let timestamp ← (json_float medium).defaulted "timestamp" fields now
  let origin_node ← optional_node.defaulted "origin_node" fields none
  let destination_node ← optional_node.defaulted "destination_node" fields none
  return { success, message, machine_id, session_id, status, exchange_id, timestamp, origin_node,
           destination_node }

def SESSION.fields (s : SESSION) : Fields :=
  [("machine_id", machine_ids.write s.machine_id),
   ("session_id", json_int.write s.session_id),
   ("status", json_status.write s.status),
   ("start_time", (json_float medium).write s.start_time),
   ("duration", (optional_float medium).write s.duration),
   ("time_created", (json_float medium).write s.time_created),
   ("exchange_id", optional_int.write s.exchange_id),
   ("timestamp", (json_float medium).write s.timestamp),
   ("origin_node", optional_node.write s.origin_node),
   ("destination_node", optional_node.write s.destination_node)]

def SESSION.parse (now : PyFloat) (fields : Fields) : Option SESSION := do
  let machine_id ← machine_ids.required "machine_id" fields
  let session_id ← json_int.required "session_id" fields
  let status ← json_status.required "status" fields
  let start_time ← (json_float medium).required "start_time" fields
  let duration ← (optional_float medium).defaulted "duration" fields none
  let time_created ← (json_float medium).defaulted "time_created" fields now
  let exchange_id ← optional_int.defaulted "exchange_id" fields none
  let timestamp ← (json_float medium).defaulted "timestamp" fields now
  let origin_node ← optional_node.defaulted "origin_node" fields none
  let destination_node ← optional_node.defaulted "destination_node" fields none
  return { machine_id, session_id, status, start_time, duration, time_created, exchange_id, timestamp,
           origin_node, destination_node }

def MACHINE.fields (m : Machine) : Fields :=
  [("machine_id", json_int.write m.machine_id),
   ("session_id", optional_int.write m.session_id),
   ("status", json_status.write m.status),
   ("ball_level", optional_ball_level.write m.ball_level),
   ("scheduled_until", (optional_float medium).write m.scheduled_until),
   ("last_updated", (optional_float medium).write m.last_updated),
   ("exchange_id", optional_int.write m.exchange_id),
   ("timestamp", (json_float medium).write m.timestamp),
   ("origin_node", optional_node.write m.origin_node),
   ("destination_node", optional_node.write m.destination_node)]

def MACHINE.parse (now : PyFloat) (fields : Fields) : Option Machine := do
  let machine_id ← json_int.required "machine_id" fields
  let session_id ← optional_int.defaulted "session_id" fields none
  let status ← json_status.required "status" fields
  let ball_level ← optional_ball_level.defaulted "ball_level" fields none
  let scheduled_until ← (optional_float medium).defaulted "scheduled_until" fields none
  let last_updated ← (optional_float medium).defaulted "last_updated" fields none
  let exchange_id ← optional_int.defaulted "exchange_id" fields none
  let timestamp ← (json_float medium).defaulted "timestamp" fields now
  let origin_node ← optional_node.defaulted "origin_node" fields none
  let destination_node ← optional_node.defaulted "destination_node" fields none
  return { machine_id, session_id, status, ball_level, scheduled_until, last_updated, exchange_id, timestamp,
           origin_node, destination_node }

mutual

/-- A record of a machine is written as an object. -/
def write_value : Value → Json
  | .null => .null
  | .bool b => .bool b
  | .int n => .int n
  | .float x => (json_float medium).write x
  | .str s => .str s
  | .list items => .array (write_items items)
  | .dict fields => .object (write_fields fields)
  | .machine m => .object (MACHINE.fields medium m)

def write_items : List Value → List Json
  | [] => []
  | v :: rest => write_value v :: write_items rest

def write_fields : List (String × Value) → Fields
  | [] => []
  | (name, v) :: rest => (name, write_value v) :: write_fields rest

end

mutual

/-- What is given to a `list` without a type for its entries is taken as it is. -/
def read_value : Json → Value
  | .null => .null
  | .bool b => .bool b
  | .int n => .int n
  | .float x => .float x
  | .str s => .str s
  | .array items => .list (read_items items)
  | .object fields => .dict (read_fields fields)

def read_items : List Json → List Value
  | [] => []
  | j :: rest => read_value j :: read_items rest

def read_fields : Fields → List (String × Value)
  | [] => []
  | (name, j) :: rest => (name, read_value j) :: read_fields rest

end

mutual

/-- A value without records of machines, and with no float that its medium does
    not keep. -/
def Value.Stays : Value → Prop
  | .null | .bool _ | .int _ | .str _ => True
  | .float x => (json_float medium).Fits x
  | .list items => items_stay items
  | .dict fields => fields_stay fields
  | .machine _ => False

def items_stay : List Value → Prop
  | [] => True
  | v :: rest => v.Stays ∧ items_stay rest

def fields_stay : List (String × Value) → Prop
  | [] => True
  | (_, v) :: rest => v.Stays ∧ fields_stay rest

end

mutual

theorem value_stays_iff : ∀ v : Value, read_value (write_value medium v) = v ↔ v.Stays medium
  | .null | .bool _ | .int _ | .str _ => by simp [write_value, read_value, Value.Stays]
  | .float x => by
    cases medium <;> cases x <;>
      simp [write_value, read_value, Value.Stays, json_float, broker_float, file_float, exact]
  | .list items => by simp [write_value, read_value, Value.Stays, items_stay_iff items]
  | .dict fields => by simp [write_value, read_value, Value.Stays, fields_stay_iff fields]
  | .machine m => by simp [write_value, read_value, Value.Stays]

theorem items_stay_iff : ∀ items : List Value,
    read_items (write_items medium items) = items ↔ items_stay medium items
  | [] => by simp [write_items, read_items, items_stay]
  | v :: rest => by simp [write_items, read_items, items_stay, value_stays_iff v, items_stay_iff rest]

theorem fields_stay_iff : ∀ fields : List (String × Value),
    read_fields (write_fields medium fields) = fields ↔ fields_stay medium fields
  | [] => by simp [write_fields, read_fields, fields_stay]
  | (name, v) :: rest => by simp [write_fields, read_fields, fields_stay, value_stays_iff v, fields_stay_iff rest]

end

def json_value : Codec Value Json where
  write := write_value medium
  read j := some (read_value j)
  Fits v := v.Stays medium
  reads_iff v := by simp [value_stays_iff]

def rows : Codec (List Value) Json := array (json_value medium)

def SCHEDULE.fields (s : SCHEDULE) : Fields :=
  [("date", (schedule_date medium).write s.date),
   ("schedule", (rows medium).write s.schedule),
   ("exchange_id", optional_int.write s.exchange_id),
   ("timestamp", (json_float medium).write s.timestamp),
   ("origin_node", optional_node.write s.origin_node),
   ("destination_node", optional_node.write s.destination_node)]

/-- `imported` is the default of the date: the time when the class was made. -/
def SCHEDULE.parse (imported now : PyFloat) (fields : Fields) : Option SCHEDULE := do
  let date ← (schedule_date medium).defaulted "date" fields (.imported imported)
  let schedule ← (rows medium).required "schedule" fields
  let exchange_id ← optional_int.defaulted "exchange_id" fields none
  let timestamp ← (json_float medium).defaulted "timestamp" fields now
  let origin_node ← optional_node.defaulted "origin_node" fields none
  let destination_node ← optional_node.defaulted "destination_node" fields none
  return { date, schedule, exchange_id, timestamp, origin_node, destination_node }

def of_scalar : Scalar → Json
  | .null => .null
  | .int n => .int n
  | .float x => .float x
  | .str s => .str s

theorem lookup_scalars (record : Record) (name : String) :
    (record.map (Prod.map id of_scalar)).lookup name = (record.lookup name).map of_scalar := by
  induction record with
  | nil => rfl
  | cons field rest ih =>
    obtain ⟨key, value⟩ := field
    by_cases here : name == key <;> simp [List.lookup_cons, here, ih]

/-- A record in a schedule's file is written as `model_dump` gives it. -/
theorem machine_file_fields (m : Machine) : MACHINE.fields .file m = (model_dump m).map (Prod.map id of_scalar) := by
  obtain ⟨machine_id, session_id, status, ball_level, scheduled_until, last_updated, exchange_id, timestamp, origin,
    destination⟩ := m
  cases session_id <;> cases ball_level <;> cases scheduled_until <;> cases last_updated <;> cases exchange_id <;>
    cases origin <;> cases destination <;> rfl

theorem required_scalar {α : Type} (c : Codec α Json) (read : Scalar → Option α)
    (same : ∀ v, c.read (of_scalar v) = read v) (record : Record) (name : String) :
    c.required name (record.map (Prod.map id of_scalar)) = (record.lookup name).bind read := by
  rw [Codec.required, lookup_scalars, Option.bind_map]
  exact Option.bind_congr fun v _ => same v

theorem optional_scalar {α : Type} (c : Codec α Json) (solid : c.read .null = none) (read : Scalar → Option α)
    (same : ∀ v, c.read (of_scalar v) = read v) (record : Record) (name : String) :
    (optional c solid).defaulted name (record.map (Prod.map id of_scalar)) none =
      read_optional read (record.lookup name) := by
  rw [Codec.defaulted, lookup_scalars]
  cases record.lookup name with
  | none => rfl
  | some v =>
    have here := same v
    cases v with
    | null => rfl
    | _ => exact congrArg (Option.map some) here

/-- And read as `machine_of` reads it. -/
theorem machine_file_parse (now : PyFloat) (record : Record) :
    MACHINE.parse .file now (record.map (Prod.map id of_scalar)) = machine_of now record := by
  have ints (v : Scalar) : json_int.read (of_scalar v) = read_int v := by cases v <;> rfl
  have floats (v : Scalar) : (json_float .file).read (of_scalar v) = FileIo.read_float v := by cases v <;> rfl
  have states (v : Scalar) : json_status.read (of_scalar v) = read_str status_of v := by cases v <;> rfl
  have levels (v : Scalar) : json_ball_level.read (of_scalar v) = read_str ball_level_of v := by cases v <;> rfl
  have nodes (v : Scalar) : json_node.read (of_scalar v) = read_str node_of v := by cases v <;> rfl
  have int_field (name : String) : optional_int.defaulted name (record.map (Prod.map id of_scalar)) none =
      read_optional read_int (record.lookup name) := optional_scalar _ rfl _ ints record name
  have float_field (name : String) :
      (optional_float .file).defaulted name (record.map (Prod.map id of_scalar)) none =
        read_optional FileIo.read_float (record.lookup name) := optional_scalar _ rfl _ floats record name
  have level_field (name : String) : optional_ball_level.defaulted name (record.map (Prod.map id of_scalar)) none =
      read_optional (read_str ball_level_of) (record.lookup name) := optional_scalar _ rfl _ levels record name
  have node_field (name : String) : optional_node.defaulted name (record.map (Prod.map id of_scalar)) none =
      read_optional (read_str node_of) (record.lookup name) := optional_scalar _ rfl _ nodes record name
  have timestamp : (json_float .file).defaulted "timestamp" (record.map (Prod.map id of_scalar)) now =
      (record.lookup "timestamp").elim (some now) FileIo.read_float := by
    rw [Codec.defaulted, lookup_scalars]
    cases record.lookup "timestamp" with
    | none => rfl
    | some v => exact floats v
  simp only [MACHINE.parse, machine_of, required_scalar _ _ ints, required_scalar _ _ states, int_field, float_field,
    level_field, node_field, timestamp]
  cases record.lookup "timestamp" <;> rfl

/-! ### Reading back -/

/-- What the nodes send each other. -/
inductive Message where
  | request (r : REQUEST)
  | acknowledge (a : ACKNOWLEDGE)
  | session (s : SESSION)
  | schedule (s : SCHEDULE)
  | machine (m : Machine)

def Message.fields : Message → Fields
  | .request r => r.fields medium
  | .acknowledge a => a.fields medium
  | .session s => s.fields medium
  | .schedule s => s.fields medium
  | .machine m => MACHINE.fields medium m

/-- A message read by the model it was written by. -/
def Message.reread (imported now : PyFloat) : Message → Option Message
  | .request r => (REQUEST.parse medium now (r.fields medium)).map .request
  | .acknowledge a => (ACKNOWLEDGE.parse medium now (a.fields medium)).map .acknowledge
  | .session s => (SESSION.parse medium now (s.fields medium)).map .session
  | .schedule s => (SCHEDULE.parse medium imported now (s.fields medium)).map .schedule
  | .machine m => (MACHINE.parse medium now (MACHINE.fields medium m)).map .machine

/-- Every field of the message is one that its medium keeps, but for the rows of a
    schedule. -/
def Message.Kept : Message → Prop
  | .request r => (json_float medium).Fits r.timestamp
  | .acknowledge a => (json_float medium).Fits a.timestamp
  | .session s => (json_float medium).Fits s.start_time ∧ (optional_float medium).Fits s.duration ∧
      (json_float medium).Fits s.time_created ∧ (json_float medium).Fits s.timestamp
  | .schedule s => (schedule_date medium).Fits s.date ∧ (json_float medium).Fits s.timestamp
  | .machine m => (optional_float medium).Fits m.scheduled_until ∧ (optional_float medium).Fits m.last_updated ∧
      (json_float medium).Fits m.timestamp

/-- The floats without which a message is not read. -/
def Message.required_floats : Message → List PyFloat
  | .request r => [r.timestamp]
  | .acknowledge a => [a.timestamp]
  | .session s => [s.start_time, s.time_created, s.timestamp]
  | .schedule s => [s.timestamp]
  | .machine m => [m.timestamp]

def Message.optional_floats : Message → List PyFloat
  | .session s => s.duration.toList
  | .machine m => m.scheduled_until.toList ++ m.last_updated.toList
  | _ => []

def Message.floats (m : Message) : List PyFloat := m.required_floats ++ m.optional_floats

def Message.rows : Message → List Value
  | .schedule s => s.schedule
  | _ => []

/-- A schedule was given its date, and does not have the default for one. -/
def Message.Dated : Message → Prop
  | .schedule s => ∃ date, s.date = .text date
  | _ => True

/-- What comes back of a message that is read: the optional floats that are not
    kept are gone, and the rows of a schedule are as they were written. -/
def Message.received : Message → Message
  | .session s => .session { s with duration := s.duration.filter (keeps medium) }
  | .schedule s => .schedule { s with schedule := s.schedule.map fun v => read_value (write_value medium v) }
  | .machine m => .machine
      { m with scheduled_until := m.scheduled_until.filter (keeps medium)
               last_updated := m.last_updated.filter (keeps medium) }
  | m => m

theorem optional_float_fits_iff (o : Option PyFloat) :
    (optional_float medium).Fits o ↔ ∀ x ∈ o.toList, (json_float medium).Fits x := by
  cases o with
  | none => simp [optional_float, optional, Codec.optional]
  | some x => simp [optional_float, optional, Codec.optional]

theorem kept_iff (m : Message) : m.Kept medium ↔ m.Dated ∧ ∀ x ∈ m.floats, (json_float medium).Fits x := by
  cases m <;>
    simp only [Message.Kept, Message.Dated, Message.floats, Message.required_floats, Message.optional_floats,
      optional_float_fits_iff, List.append_nil, List.mem_append, List.mem_cons, List.not_mem_nil, or_false, forall_eq,
      true_and, or_imp, forall_and]
  · tauto
  · rfl
  · tauto

theorem float_fits_iff (x : PyFloat) : (json_float medium).Fits x ↔ keeps medium x = true := by
  cases medium <;> cases x <;> simp [json_float, broker_float, file_float, exact, keeps]

theorem float_read (x : PyFloat) :
    (json_float medium).read ((json_float medium).write x) = if keeps medium x then some x else none := by
  cases medium <;> cases x <;> rfl

theorem optional_float_read (o : Option PyFloat) :
    (optional_float medium).read ((optional_float medium).write o) = some (o.filter (keeps medium)) := by
  cases o with
  | none => rfl
  | some x => cases medium <;> cases x <;> rfl

theorem schedule_date_read (date : ScheduleDate) :
    (schedule_date medium).read ((schedule_date medium).write date) =
      match date with
      | .text text => some (.text text)
      | .imported _ => none := by
  cases date with
  | text text => rfl
  | imported time => cases medium <;> cases time <;> rfl

theorem rows_read (l : List Value) :
    (rows medium).read ((rows medium).write l) = some (l.map fun v => read_value (write_value medium v)) := by
  have values : l.mapM (fun v => some (read_value (write_value medium v))) =
      some (l.map fun v => read_value (write_value medium v)) := by
    induction l with
    | nil => rfl
    | cons v rest ih => simp [ih]
  simpa [rows, array, Codec.tagged, Codec.list, json_value, List.mapM_map, Function.comp_def] using values

/-- What is read of a message that was written: nothing without a date or with a
    required float that is not kept. -/
theorem reread_cases (imported now : PyFloat) (m : Message) :
    (m.Dated ∧ (∀ x ∈ m.required_floats, keeps medium x = true) →
      m.reread medium imported now = some (m.received medium)) ∧
    (¬ (m.Dated ∧ ∀ x ∈ m.required_floats, keeps medium x = true) → m.reread medium imported now = none) := by
  cases m with
  | request r =>
    cases r
    simp +contextual [Message.reread, Message.received, Message.Dated, Message.required_floats, REQUEST.parse,
      REQUEST.fields, Codec.required, Codec.defaulted, Codec.reads, float_read, List.lookup_cons]
  | acknowledge a =>
    cases a
    simp +contextual [Message.reread, Message.received, Message.Dated, Message.required_floats, ACKNOWLEDGE.parse,
      ACKNOWLEDGE.fields, Codec.required, Codec.defaulted, Codec.reads, float_read, List.lookup_cons]
  | session s =>
    cases s
    simp +contextual [Message.reread, Message.received, Message.Dated, Message.required_floats, SESSION.parse,
      SESSION.fields, Codec.required, Codec.defaulted, Codec.reads, float_read, optional_float_read, List.lookup_cons]
  | schedule s =>
    obtain ⟨date, _, _, _, _, _⟩ := s
    cases date <;>
      simp +contextual [Message.reread, Message.received, Message.Dated, Message.required_floats, SCHEDULE.parse,
        SCHEDULE.fields, Codec.required, Codec.defaulted, Codec.reads, float_read, schedule_date_read, rows_read,
        List.lookup_cons]
  | machine m =>
    cases m
    simp +contextual [Message.reread, Message.received, Message.Dated, Message.required_floats, MACHINE.parse,
      MACHINE.fields, Codec.required, Codec.defaulted, Codec.reads, float_read, optional_float_read, List.lookup_cons]

theorem filter_self_iff (o : Option PyFloat) :
    o.filter (keeps medium) = o ↔ ∀ x ∈ o.toList, keeps medium x = true := by
  cases o <;> simp [Option.filter]

/-- What comes back is what was sent if nothing optional is lost. -/
theorem received_iff (m : Message) :
    m.received medium = m ↔
      (∀ x ∈ m.optional_floats, keeps medium x = true) ∧ ∀ row ∈ m.rows, row.Stays medium := by
  cases m with
  | request r => simp [Message.received, Message.optional_floats, Message.rows]
  | acknowledge a => simp [Message.received, Message.optional_floats, Message.rows]
  | session s =>
    cases s
    simp [Message.received, Message.optional_floats, Message.rows, filter_self_iff]
  | schedule s =>
    have rows := List.map_inj_left (l := s.schedule) (f := fun v => read_value (write_value medium v)) (g := id)
    rw [List.map_id] at rows
    cases s
    simpa [Message.received, Message.optional_floats, Message.rows, value_stays_iff] using rows
  | machine m =>
    cases m
    simp [Message.received, Message.optional_floats, Message.rows, filter_self_iff, or_imp, forall_and]

/-- A message is read when it has its date, if it is a schedule, and the floats it
    must have are ones that its medium keeps. Then it comes back as it was but for
    the optional floats that are not kept, which are gone, and the rows of a
    schedule, where records of machines are objects. -/
theorem comes_back_as (imported now : PyFloat) (m : Message) :
    (m.Dated ∧ (∀ x ∈ m.required_floats, keeps medium x = true) →
      m.reread medium imported now = some (m.received medium)) ∧
    (¬ (m.Dated ∧ ∀ x ∈ m.required_floats, keeps medium x = true) → m.reread medium imported now = none) ∧
    (m.received medium = m ↔
      (∀ x ∈ m.optional_floats, keeps medium x = true) ∧ ∀ row ∈ m.rows, row.Stays medium) :=
  ⟨(reread_cases medium imported now m).1, (reread_cases medium imported now m).2, received_iff medium m⟩

theorem reread_iff (imported now : PyFloat) (m : Message) :
    m.reread medium imported now = some m ↔ m.Kept medium ∧ ∀ row ∈ m.rows, row.Stays medium := by
  obtain ⟨read, unread⟩ := reread_cases medium imported now m
  have floats : (∀ x ∈ m.floats, (json_float medium).Fits x) ↔
      (∀ x ∈ m.required_floats, keeps medium x = true) ∧ ∀ x ∈ m.optional_floats, keeps medium x = true := by
    simp only [Message.floats, List.mem_append, or_imp, forall_and, float_fits_iff]
  rw [kept_iff, floats]
  by_cases readable : m.Dated ∧ ∀ x ∈ m.required_floats, keeps medium x = true
  · rw [read readable, Option.some.injEq, received_iff]
    tauto
  · rw [unread readable]
    simp only [reduceCtorEq, false_iff]
    tauto

/-! ### Telling messages apart -/

/-- The machine an acknowledgement is taken for, if it names one and a status. -/
def ACKNOWLEDGE.as_machine (a : ACKNOWLEDGE) : Option Machine := do
  let machine_id ← a.machine_id
  let status ← a.status
  return { machine_id, session_id := a.session_id, status, ball_level := none, scheduled_until := none,
           last_updated := none, exchange_id := a.exchange_id, timestamp := a.timestamp,
           origin_node := a.origin_node, destination_node := a.destination_node }

theorem int_of_ids (l : List Int) : json_int.read (machine_ids.write l) = none := rfl

theorem int_of_optional (o : Option Int) : json_int.read (optional_int.write o) = o := by
  cases o <;> rfl

theorem status_of_optional (o : Option Status) : json_status.read (optional_status.write o) = o := by
  cases o with
  | none => rfl
  | some s => exact json_status.reads trivial

theorem session_read_iff (now : PyFloat) {m : Message} (kept : m.Kept medium) (s : SESSION) :
    SESSION.parse medium now (m.fields medium) = some s ↔ m = .session s := by
  cases m with
  | request r => simp [SESSION.parse, Message.fields, REQUEST.fields, Codec.required, List.lookup_cons]
  | acknowledge a => simp [SESSION.parse, Message.fields, ACKNOWLEDGE.fields, Codec.required, List.lookup_cons]
  | session s' =>
    have survives := (reread_iff medium now now _).mpr ⟨kept, by simp [Message.rows]⟩
    simp only [Message.reread, Option.map_eq_some_iff, Message.session.injEq] at survives
    obtain ⟨_, parsed, rfl⟩ := survives
    simp [Message.fields, parsed]
  | schedule s' => simp [SESSION.parse, Message.fields, SCHEDULE.fields, Codec.required, List.lookup_cons]
  | machine m => simp [SESSION.parse, Message.fields, MACHINE.fields, Codec.required, List.lookup_cons]

theorem request_read_iff (now : PyFloat) {m : Message} (kept : m.Kept medium) (r : REQUEST) :
    REQUEST.parse medium now (m.fields medium) = some r ↔ m = .request r := by
  cases m with
  | request r' =>
    have survives := (reread_iff medium now now _).mpr ⟨kept, by simp [Message.rows]⟩
    simp only [Message.reread, Option.map_eq_some_iff, Message.request.injEq] at survives
    obtain ⟨_, parsed, rfl⟩ := survives
    simp [Message.fields, parsed]
  | acknowledge a => simp [REQUEST.parse, Message.fields, ACKNOWLEDGE.fields, Codec.required, List.lookup_cons]
  | session s => simp [REQUEST.parse, Message.fields, SESSION.fields, Codec.required, List.lookup_cons]
  | schedule s => simp [REQUEST.parse, Message.fields, SCHEDULE.fields, Codec.required, List.lookup_cons]
  | machine m => simp [REQUEST.parse, Message.fields, MACHINE.fields, Codec.required, List.lookup_cons]

theorem machine_read_iff (now : PyFloat) {m : Message} (kept : m.Kept medium) (u : Machine) :
    MACHINE.parse medium now (m.fields medium) = some u ↔
      m = .machine u ∨ ∃ a, m = .acknowledge a ∧ a.as_machine = some u := by
  cases m with
  | request r => simp [MACHINE.parse, Message.fields, REQUEST.fields, Codec.required, List.lookup_cons]
  | acknowledge a =>
    have stamped : (json_float medium).Fits a.timestamp := kept
    simp [MACHINE.parse, Message.fields, ACKNOWLEDGE.fields, Codec.required, Codec.defaulted, List.lookup_cons,
      ACKNOWLEDGE.as_machine, int_of_optional, status_of_optional, Codec.reads, stamped]
  | session s =>
    simp [MACHINE.parse, Message.fields, SESSION.fields, Codec.required, List.lookup_cons, int_of_ids]
  | schedule s => simp [MACHINE.parse, Message.fields, SCHEDULE.fields, Codec.required, List.lookup_cons]
  | machine m =>
    have survives := (reread_iff medium now now _).mpr ⟨kept, by simp [Message.rows]⟩
    simp only [Message.reread, Option.map_eq_some_iff, Message.machine.injEq] at survives
    obtain ⟨_, parsed, rfl⟩ := survives
    simp [Message.fields, parsed]

end DispenserHub.Wire
