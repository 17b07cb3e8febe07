import DispenserHub.Messages
import DispenserHub.Grid

/-!
A schedule is the list of a day's time buckets, each a timestamp followed by
one record for each machine. `generate_blank_schedule` of `schedule/file_io.py`
builds the first one of a date.
-/

namespace DispenserHub.Buckets
open Messages

/-- `[timestamp, machine, machine, ...]`. -/
structure TimeBucket where
  timestamp : Int
  machines : List Machine
  deriving DecidableEq, Repr

abbrev Schedule := List TimeBucket

def timestamps (schedule : Schedule) : List Int := schedule.map TimeBucket.timestamp

def entry (schedule : Schedule) (j k : ℕ) : Option Machine :=
  schedule[j]?.bind fun bucket => bucket.machines[k]?

/-- Every listed entry of a requested machine is available in the bucket at
    an index, if there is one. -/
def Free (machine_ids : List Int) (schedule : Schedule) (j : ℕ) : Prop :=
  ∀ bucket, schedule[j]? = some bucket →
    ∀ m ∈ bucket.machines, m.machine_id ∈ machine_ids → m.status = .Available

theorem timestamp_at {schedule : Schedule} {i : ℕ} {bucket : TimeBucket} (at_i : schedule[i]? = some bucket) :
    (timestamps schedule)[i]? = some bucket.timestamp := by
  simp [timestamps, at_i]

theorem length_of_timestamps {schedule schedule' : Schedule} (same : timestamps schedule' = timestamps schedule) :
    schedule'.length = schedule.length := by
  have lengths := congrArg List.length same
  simpa [timestamps] using lengths

/-- A search for a timestamp looks at nothing else. -/
theorem find_timestamp_congr {schedule schedule' : Schedule} (same : timestamps schedule' = timestamps schedule)
    (p : Int → Bool) :
    schedule'.findIdx? (fun bucket => p bucket.timestamp) = schedule.findIdx? fun bucket => p bucket.timestamp := by
  have through (s : Schedule) : s.findIdx? (fun bucket => p bucket.timestamp) = (timestamps s).findIdx? p := by
    simp [timestamps, List.findIdx?_map, Function.comp_def]
  rw [through, through, same]

theorem Free.mono {few many : List Int} (subset : few ⊆ many) {schedule : Schedule} {j : ℕ}
    (free : Free many schedule j) : Free few schedule j :=
  fun bucket at_j m member requested => free bucket at_j m member (subset requested)

/-- `MACHINE(machine_id=..., status=...)`: the optional fields stay empty and
    the record is stamped with the time of its creation. -/
def Machine.create (machine_id : Int) (status : Status) (now : PyFloat) : Machine where
  machine_id := machine_id
  session_id := none
  status := status
  ball_level := none
  scheduled_until := none
  last_updated := none
  exchange_id := none
  timestamp := now
  origin_node := none
  destination_node := none

def days_in_month (year month : Nat) : Nat :=
  if month = 2 then if year % 4 = 0 ∧ (year % 100 ≠ 0 ∨ year % 400 = 0) then 29 else 28
  else if month = 4 ∨ month = 6 ∨ month = 9 ∨ month = 11 then 30 else 31

/-- `date.toordinal()`: the days from the first day of year 1, counted as 1. -/
def toordinal (date : Date) : Int :=
  let years : Int := date.year - 1
  years * 365 + years / 4 - years / 100 + years / 400 +
    ((List.range' 1 (date.month - 1)).map (days_in_month date.year)).sum + date.day

/-- `datetime.strptime(date, "%Y-%m-%d")`, as the seconds of that local
    midnight after 1970-01-01 00:00 on the same wall clock. -/
def strptime (date : Date) : Except PyError Int :=
  if 1 ≤ date.year ∧ date.year ≤ 9999 ∧ 1 ≤ date.month ∧ date.month ≤ 12 ∧ 1 ≤ date.day ∧
      date.day ≤ days_in_month date.year date.month then
    .ok ((toordinal date - 719163) * (24 * 60 * 60))
  else .error .ValueError

/-- A blank schedule for a date. `timestamp` stands for the local time zone: it
    gives `int(t.timestamp())` of a wall-clock time; `clock` gives the creation
    times of the records. -/
def generate_blank_schedule (timestamp : Int → Int) (clock : Nat → Nat → PyFloat) (date : Date)
    (machines : List Int) : Except PyError Schedule := do
  let start_of_day ← strptime date
  let intervals_per_day := 24 * 60 * 60 / TIME_BUCKET_SIZE
  return (List.range intervals_per_day.toNat).map fun (i : ℕ) =>
    { timestamp := timestamp (start_of_day + TIME_BUCKET_SIZE * (i : Int))
      machines := machines.mapIdx fun k machine_id => Machine.create machine_id .Available (clock i k) }

example : strptime ⟨1970, 1, 2⟩ = .ok 86400 := by decide
example : strptime ⟨2024, 2, 29⟩ = .ok 1709164800 := by decide

/-- A schedule in which every bucket lists the given machines, in order, all available. -/
def Blank (machines : List Int) (schedule : Schedule) : Prop :=
  ∀ bucket ∈ schedule, bucket.machines.map Machine.machine_id = machines ∧
    ∀ m ∈ bucket.machines, m.status = .Available

theorem Blank.free {machines : List Int} {schedule : Schedule} (blank : Blank machines schedule)
    (machine_ids : List Int) (j : ℕ) : Free machine_ids schedule j :=
  fun bucket at_j m member _ => (blank bucket (List.mem_of_getElem? at_j)).2 m member

theorem generate_blank_schedule_blank {timestamp : Int → Int} {clock : Nat → Nat → PyFloat} {date : Date}
    {machines : List Int} {schedule : Schedule}
    (made : generate_blank_schedule timestamp clock date machines = .ok schedule) :
    schedule.length = 288 ∧ Blank machines schedule := by
  unfold generate_blank_schedule at made
  cases midnight : strptime date with
  | error e => rw [midnight] at made; cases made
  | ok start_of_day =>
    rw [midnight] at made
    cases made
    refine ⟨by rw [List.length_map, List.length_range]; rfl, ?_⟩
    intro bucket member
    obtain ⟨i, _, rfl⟩ := List.mem_map.mp member
    refine ⟨?_, ?_⟩
    · apply List.ext_getElem <;> simp [Machine.create]
    · intro m listed
      obtain ⟨k, _, rfl⟩ := List.mem_mapIdx.mp listed
      rfl

end DispenserHub.Buckets
