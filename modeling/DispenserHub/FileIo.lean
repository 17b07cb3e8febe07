import DispenserHub.Buckets
import Mathlib.Logic.Function.Basic

/-!
`save_schedule_to_disk` and `load_schedule_from_disk` of `schedule/file_io.py`.
A file's text is told by the document it was dumped from and by how much of
that text is there. Where a write fails is an input of the save.
-/

namespace DispenserHub.FileIo
open Messages Buckets

inductive Scalar where
  | null
  | int (value : Int)
  | float (value : PyFloat)
  | str (value : String)
  deriving DecidableEq, Repr

abbrev Record := List (String × Scalar)

/-- A list of lists, each a timestamp and the dumped records of a bucket. -/
abbrev RawSchedule := List (Int × List Record)

/-- A member of a `str` enumeration is written as its string; the string of
    the member declared as `None` is `"None"`. -/
def status_value : Status → String
  | .Active => "active"
  | .Available => "available"
  | .Reserved => "reserved"
  | .Maintenance => "maintenance"
  | .Idle => "idle"
  | .Error => "error"
  | .Null => "None"

def status_of (text : String) : Option Status :=
  [.Active, .Available, .Reserved, .Maintenance, .Idle, .Error, .Null].find? fun s => status_value s = text

def ball_level_value : BallLevel → String
  | .Full => "full"
  | .Medium => "medium"
  | .Low => "low"
  | .Urgent => "urgent"
  | .Empty => "empty"
  | .Null => "None"

def ball_level_of (text : String) : Option BallLevel :=
  [.Full, .Medium, .Low, .Urgent, .Empty, .Null].find? fun level => ball_level_value level = text

def node_value : Node → String
  | .Manager => "schedule_manager"
  | .Handler => "machine_handler"
  | .Admin => "admin_portal"
  | .Kiosk => "kiosk_interface"
  | .Reservation => "reservation_interface"
  | .Machine => "machine"

def node_of (text : String) : Option Node :=
  [.Manager, .Handler, .Admin, .Kiosk, .Reservation, .Machine].find? fun node => node_value node = text

@[simp] theorem status_of_value (status : Status) : status_of (status_value status) = some status := by
  cases status <;> decide +kernel
@[simp] theorem ball_level_of_value (level : BallLevel) : ball_level_of (ball_level_value level) = some level := by
  cases level <;> decide +kernel
@[simp] theorem node_of_value (node : Node) : node_of (node_value node) = some node := by
  cases node <;> decide +kernel

def optional_value {α : Type} (value : α → Scalar) : Option α → Scalar
  | none => .null
  | some a => value a

def model_dump (m : Machine) : Record :=
  [("machine_id", .int m.machine_id),
   ("session_id", optional_value .int m.session_id),
   ("status", .str (status_value m.status)),
   ("ball_level", optional_value (.str ∘ ball_level_value) m.ball_level),
   ("scheduled_until", optional_value .float m.scheduled_until),
   ("last_updated", optional_value .float m.last_updated),
   ("exchange_id", optional_value .int m.exchange_id),
   ("timestamp", .float m.timestamp),
   ("origin_node", optional_value (.str ∘ node_value) m.origin_node),
   ("destination_node", optional_value (.str ∘ node_value) m.destination_node)]

def read_int : Scalar → Option Int
  | .int n => some n
  | _ => none

def read_float : Scalar → Option PyFloat
  | .float x => some x
  | .int n => some (.finite n)
  | _ => none

def read_str {α : Type} (of : String → Option α) : Scalar → Option α
  | .str text => of text
  | _ => none

def read_optional {α : Type} (read : Scalar → Option α) : Option Scalar → Option (Option α)
  | none => some none
  | some .null => some none
  | some v => (read v).map some

/-- `MACHINE(**m)`: none is a `ValidationError`. A record without a timestamp is
    stamped with the time of its creation. The conversions of other values to a
    field's type are left out: `model_dump` writes none that need one. -/
def machine_of (now : PyFloat) (record : Record) : Option Machine := do
  let machine_id ← (record.lookup "machine_id").bind read_int
  let session_id ← read_optional read_int (record.lookup "session_id")
  let status ← (record.lookup "status").bind (read_str status_of)
  let ball_level ← read_optional (read_str ball_level_of) (record.lookup "ball_level")
  let scheduled_until ← read_optional read_float (record.lookup "scheduled_until")
  let last_updated ← read_optional read_float (record.lookup "last_updated")
  let exchange_id ← read_optional read_int (record.lookup "exchange_id")
  let timestamp ← match record.lookup "timestamp" with
    | none => some now
    | some v => read_float v
  let origin_node ← read_optional (read_str node_of) (record.lookup "origin_node")
  let destination_node ← read_optional (read_str node_of) (record.lookup "destination_node")
  return { machine_id, session_id, status, ball_level, scheduled_until, last_updated, exchange_id,
           timestamp, origin_node, destination_node }

theorem read_optional_value {α : Type} (value : α → Scalar) (read : Scalar → Option α)
    (reads : ∀ a, read (value a) = some a) (solid : ∀ a, value a ≠ .null) (o : Option α) :
    read_optional read (some (optional_value value o)) = some o := by
  cases o with
  | none => rfl
  | some a =>
    have back := reads a
    have full := solid a
    simp only [optional_value]
    cases image : value a with
    | null => exact absurd image full
    | int n => rw [image] at back; simp [read_optional, back]
    | float x => rw [image] at back; simp [read_optional, back]
    | str s => rw [image] at back; simp [read_optional, back]

theorem machine_of_dump (now : PyFloat) (m : Machine) : machine_of now (model_dump m) = some m := by
  have ints := read_optional_value (.int) read_int (fun _ => rfl) (fun _ => Scalar.noConfusion)
  have floats := read_optional_value (.float) read_float (fun _ => rfl) (fun _ => Scalar.noConfusion)
  have levels := read_optional_value (.str ∘ ball_level_value) (read_str ball_level_of)
    (fun level => by simp [read_str]) (fun _ => Scalar.noConfusion)
  have nodes := read_optional_value (.str ∘ node_value) (read_str node_of)
    (fun node => by simp [read_str]) (fun _ => Scalar.noConfusion)
  simp [machine_of, model_dump, List.lookup_cons, ints, floats, levels, nodes, read_int, read_float, read_str]

/-- The text of a file: all that `json.dump` writes for a document, or only so
    many characters of it. -/
inductive FileText where
  | whole (raw : RawSchedule)
  | cut (raw : RawSchedule) (characters : Nat)
  deriving DecidableEq, Repr

/-- `json.load`: it reads back what was dumped, and a list whose text breaks
    off is no JSON document. -/
def json_load : FileText → Option RawSchedule
  | .whole raw => some raw
  | .cut _ _ => none

/-- The files `schedules/{date}_schedule.json`. -/
abbrev Files := Date → Option FileText

/-- How far a save gets: to its end; to `os.makedirs`, which raises outside the
    `try`; to a record that does not convert or a file that does not open; or to
    `json.dump`, which raises with only so many characters in the file that
    `open` emptied. -/
inductive WriteOutcome where
  | written
  | no_directory
  | not_opened
  | cut_short (characters : Nat)
  deriving DecidableEq, Repr

def raw_schedule (schedule : Schedule) : RawSchedule :=
  schedule.map fun bucket => (bucket.timestamp, bucket.machines.map model_dump)

/-- What the save returns or raises, and the files after it. -/
def save_schedule_to_disk (outcome : WriteOutcome) (date : Date) (schedule : Schedule)
    (files : Files) : Except PyError Bool × Files :=
  match outcome with
  | .no_directory => (.error .OSError, files)
  | .not_opened => (.ok false, files)
  | .cut_short n => (.ok false, Function.update files date (some (.cut (raw_schedule schedule) n)))
  | .written => (.ok true, Function.update files date (some (.whole (raw_schedule schedule))))

def bucket_of (now : PyFloat) (raw : Int × List Record) : Option TimeBucket := do
  let machines ← raw.2.mapM (machine_of now)
  return { timestamp := raw.1, machines }

/-- The schedule in a date's file. Without a file it calls
    `generate_blank_schedule(date)`, which lacks the argument `machines`. -/
def load_schedule_from_disk (now : PyFloat) (date : Date) (files : Files) : Except PyError Schedule :=
  match files date with
  | none => .error .TypeError
  | some text =>
    match json_load text with
    | none => .error .JSONDecodeError
    | some raw =>
      match raw.mapM (bucket_of now) with
      | none => .error .ValidationError
      | some schedule => .ok schedule

theorem mapM_map_some {α β : Type} (write : α → β) (read : β → Option α) (reads : ∀ a, read (write a) = some a)
    (l : List α) : (l.map write).mapM read = some l := by
  induction l with
  | nil => rfl
  | cons a rest ih => simp [reads, ih]

theorem raw_schedule_reads (now : PyFloat) (schedule : Schedule) :
    (raw_schedule schedule).mapM (bucket_of now) = some schedule := by
  apply mapM_map_some
  intro bucket
  simp [bucket_of, mapM_map_some model_dump (machine_of now) (machine_of_dump now)]

theorem load_written (now : PyFloat) {date : Date} {schedule : Schedule} {files : Files}
    (text : files date = some (.whole (raw_schedule schedule))) :
    load_schedule_from_disk now date files = .ok schedule := by
  simp [load_schedule_from_disk, text, json_load, raw_schedule_reads]

theorem load_congr (now : PyFloat) {date : Date} {files files' : Files} (same : files' date = files date) :
    load_schedule_from_disk now date files' = load_schedule_from_disk now date files := by
  unfold load_schedule_from_disk
  rw [same]

theorem save_other (outcome : WriteOutcome) {date other : Date} (different : other ≠ date)
    (schedule : Schedule) (files : Files) :
    (save_schedule_to_disk outcome date schedule files).2 other = files other := by
  cases outcome <;> simp [save_schedule_to_disk, different]

end DispenserHub.FileIo
