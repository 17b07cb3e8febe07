import DispenserHub.Buckets
import Mathlib.Tactic.NormNum

/-!
`check_availability` of `schedule/scheduler.py` on a given schedule: the bucket
closest to the start, then three loops over the buckets of the reservation and
the buffers before and after it. `check_availability_iff` says what the loops
look at; everything about availability is derived from it.
-/

namespace DispenserHub.Availability
open Messages Buckets Grid

/-- `abs((bucket[0] - start_time)) < TIME_BUCKET_SIZE / 2`. Any comparison with
    a distance to `nan` or to an infinity is false. -/
def near (timestamp : Int) : PyFloat → Bool
  | .finite start => |(timestamp : ℚ) - start| < (TIME_BUCKET_SIZE : ℚ) / 2
  | _ => false

def start_index (schedule : Schedule) (start_time : PyFloat) : Option ℕ :=
  schedule.findIdx? fun bucket => near bucket.timestamp start_time

/-- `all(m.status == Status.AVAILABLE and m.machine_id in machine_ids for m in
    bucket if m.machine_id in machine_ids)`. -/
def all_available (machine_ids : List Int) (bucket : TimeBucket) : Bool :=
  (bucket.machines.filter fun m => m.machine_id ∈ machine_ids).all fun m =>
    m.status = .Available ∧ m.machine_id ∈ machine_ids

def bucket_at (schedule : Schedule) (index : Int) : Option TimeBucket :=
  if index < 0 ∨ index ≥ schedule.length then none else schedule[index.toNat]?

/-- `check_availability` for the integer duration its signature asks for. The
    first loop counts the duration, which is in seconds, as a number of buckets;
    `duration_idx`, the duration in buckets, is computed and never used. -/
def check_availability (machine_ids : List Int) (start_time : PyFloat) (duration : Int)
    (schedule : Schedule) : Bool :=
  match start_index schedule start_time with
  | none => false  -- the start does not align with any known time bucket
  | some start_idx =>
    -- the reservation: an index out of the schedule fails
    ((List.range duration.toNat).all fun offset =>
      match bucket_at schedule (start_idx + offset) with
      | none => false
      | some bucket => all_available machine_ids bucket) &&
    -- the buffers: an index out of the schedule is skipped
    ((List.range' 1 BUFFER_SIZE).all fun b =>
      match bucket_at schedule (start_idx - b) with
      | none => true
      | some bucket => all_available machine_ids bucket) &&
    ((List.range' 1 BUFFER_SIZE).all fun b =>
      match bucket_at schedule (start_idx + duration + b - 1) with
      | none => true
      | some bucket => all_available machine_ids bucket)

/-- `int(duration / TIME_BUCKET_SIZE)`, for whatever a session holds. The
    quotient is exact, as the one of floats is far beyond a day; integers too
    large for a float, which raise here, are left out. -/
def duration_idx : Option PyNumber → Except PyError Int
  | none => .error .TypeError
  | some (.int d) => .ok (d.tdiv TIME_BUCKET_SIZE)
  | some (.float (.finite d)) => .ok ((d / TIME_BUCKET_SIZE).num.tdiv (d / TIME_BUCKET_SIZE).den)
  | some (.float (.inf _)) => .error .OverflowError
  | some (.float .nan) => .error .ValueError

/-- `check_availability` entered with whatever a session holds as its duration:
    an absent one fails the division, a float that is no number the conversion
    to an integer, and any other float `range(duration)`, when the start is found. -/
def check_availability_of (machine_ids : List Int) (start_time : PyFloat) (duration : Option PyNumber)
    (schedule : Schedule) : Except PyError Bool :=
  match duration_idx duration with
  | .error e => .error e
  | .ok _ =>
    match start_index schedule start_time, duration with
    | none, _ => .ok false
    | some _, some (.int d) => .ok (check_availability machine_ids start_time d schedule)
    | some _, _ => .error .TypeError

theorem check_availability_of_int (machine_ids : List Int) (start_time : PyFloat) (d : Int)
    (schedule : Schedule) :
    check_availability_of machine_ids start_time (some (.int d)) schedule =
      .ok (check_availability machine_ids start_time d schedule) := by
  unfold check_availability_of check_availability
  cases start_index schedule start_time <;> rfl

theorem check_availability_of_true {machine_ids : List Int} {start_time : PyFloat}
    {duration : Option PyNumber} {schedule : Schedule}
    (passed : check_availability_of machine_ids start_time duration schedule = .ok true) :
    ∃ d, duration = some (.int d) ∧ check_availability machine_ids start_time d schedule = true := by
  unfold check_availability_of at passed
  cases converted : duration_idx duration with
  | error e => rw [converted] at passed; cases passed
  | ok k =>
    simp only [converted] at passed
    cases found : start_index schedule start_time with
    | none => rw [found] at passed; cases passed
    | some i =>
      rw [found] at passed
      cases duration with
      | none => cases passed
      | some number =>
        cases number with
        | float x => cases passed
        | int d => exact ⟨d, rfl, by simpa using passed⟩

/-- The indices the three loops look at, from a matched start `i`. -/
def InWindow (i : ℕ) (d : Int) (j : ℕ) : Prop :=
  ((i : Int) ≤ j ∧ (j : Int) < i + d) ∨ (j < i ∧ i ≤ j + BUFFER_SIZE) ∨
    ((i : Int) + d ≤ j ∧ (j : Int) < i + d + BUFFER_SIZE)

theorem inWindow_iff {i j : ℕ} {d : Int} (forward : 0 ≤ d) :
    InWindow i d j ↔ i ≤ j + BUFFER_SIZE ∧ (j : Int) < i + d + BUFFER_SIZE := by
  unfold InWindow BUFFER_SIZE
  omega

theorem bucket_at_nat (schedule : Schedule) (j : ℕ) : bucket_at schedule j = schedule[j]? := by
  unfold bucket_at
  split
  · next outside => rw [List.getElem?_eq_none (by omega)]
  · simp

theorem bucket_at_negative (schedule : Schedule) {index : Int} (negative : index < 0) :
    bucket_at schedule index = none := if_pos (.inl negative)

theorem all_available_iff (machine_ids : List Int) (bucket : TimeBucket) :
    all_available machine_ids bucket = true ↔
      ∀ m ∈ bucket.machines, m.machine_id ∈ machine_ids → m.status = .Available := by
  simp only [all_available, List.all_eq_true, List.mem_filter, decide_eq_true_eq]
  constructor
  · intro all m member requested
    exact (all m ⟨member, requested⟩).1
  · rintro all m ⟨member, requested⟩
    exact ⟨all m member requested, requested⟩

theorem skipped_or_available (machine_ids : List Int) (schedule : Schedule) (index : Int) :
    (match bucket_at schedule index with
      | none => true
      | some bucket => all_available machine_ids bucket) = true ↔
      ∀ j : ℕ, index = j → Free machine_ids schedule j := by
  by_cases negative : index < 0
  · rw [bucket_at_negative schedule negative]
    simp only [true_iff]
    intro j same
    omega
  · obtain ⟨j, rfl⟩ := Int.eq_ofNat_of_zero_le (not_lt.mp negative)
    rw [bucket_at_nat]
    cases found : schedule[j]? with
    | none =>
      simp only [true_iff]
      intro k same bucket at_k
      rw [← Int.natCast_inj.mp same, found] at at_k
      cases at_k
    | some bucket =>
      rw [all_available_iff]
      constructor
      · intro all k same bucket' at_k
        rw [← Int.natCast_inj.mp same, found] at at_k
        cases at_k
        exact all
      · intro free
        exact free j rfl bucket found

theorem present_and_available (machine_ids : List Int) (schedule : Schedule) (j : ℕ) :
    (match bucket_at schedule j with
      | none => false
      | some bucket => all_available machine_ids bucket) = true ↔
      j < schedule.length ∧ Free machine_ids schedule j := by
  rw [bucket_at_nat]
  by_cases inside : j < schedule.length
  · rw [List.getElem?_eq_getElem inside]
    simp only [all_available_iff, inside, true_and, Free, List.getElem?_eq_getElem inside]
    constructor
    · rintro all bucket same
      cases same
      exact all
    · intro free
      exact free _ rfl
  · simp [inside]

/-- The check passes when the start is matched, the buckets it counts for the
    reservation are all there, and the requested machines are free in every
    bucket of the window. -/
theorem check_availability_iff (machine_ids : List Int) (start_time : PyFloat) (d : Int)
    (schedule : Schedule) :
    check_availability machine_ids start_time d schedule = true ↔
      ∃ i, start_index schedule start_time = some i ∧ (0 < d → (i : Int) + d ≤ schedule.length) ∧
        ∀ j, InWindow i d j → Free machine_ids schedule j := by
  unfold check_availability
  cases found : start_index schedule start_time with
  | none => simp
  | some i =>
    have cast (offset : ℕ) : (i : Int) + offset = ((i + offset : ℕ) : Int) := by push_cast; rfl
    simp only [Bool.and_eq_true, List.all_eq_true, List.mem_range, List.mem_range'_1, cast,
      present_and_available, skipped_or_available, Option.some.injEq, exists_eq_left']
    constructor
    · rintro ⟨⟨reserved, before⟩, after⟩
      refine ⟨?_, ?_⟩
      · intro positive
        have := (reserved (d.toNat - 1) (by omega)).1
        omega
      · rintro j (⟨_, _⟩ | ⟨_, _⟩ | ⟨_, _⟩)
        · have := (reserved (j - i) (by omega)).2
          rwa [show i + (j - i) = j by omega] at this
        · exact before (i - j) (by omega) j (by omega)
        · exact after (j - i - d + 1).toNat (by omega) j (by omega)
    · rintro ⟨room, free⟩
      refine ⟨⟨?_, ?_⟩, ?_⟩
      · intro offset inside
        exact ⟨by omega, free _ (.inl (by omega))⟩
      · intro b bounds j same
        exact free j (.inr (.inl (by omega)))
      · intro b bounds j same
        exact free j (.inr (.inr (by omega)))

theorem check_availability_congr {few many : List Int} (same : ∀ id, id ∈ few ↔ id ∈ many) (start_time : PyFloat)
    (d : Int) (schedule : Schedule) :
    check_availability few start_time d schedule = check_availability many start_time d schedule := by
  have free (j : ℕ) : Free few schedule j ↔ Free many schedule j :=
    ⟨Free.mono fun id => (same id).mpr, Free.mono fun id => (same id).mp⟩
  rw [Bool.eq_iff_iff, check_availability_iff, check_availability_iff]
  simp only [free]

/-- The matched bucket is less than half a bucket from the start, and the
    first such. -/
theorem start_index_some {schedule : Schedule} {start_time : PyFloat} {i : ℕ}
    (found : start_index schedule start_time = some i) :
    ∃ bucket start, schedule[i]? = some bucket ∧ start_time = .finite start ∧
      |(bucket.timestamp : ℚ) - start| < (TIME_BUCKET_SIZE : ℚ) / 2 := by
  obtain ⟨inside, matched, _⟩ := List.findIdx?_eq_some_iff_getElem.mp found
  cases start_time with
  | finite start => exact ⟨schedule[i], start, List.getElem?_eq_getElem inside, rfl, by simpa [near] using matched⟩
  | inf negative => simp [near] at matched
  | nan => simp [near] at matched

theorem start_index_spaced {schedule : Schedule} (spaced : Spaced TIME_BUCKET_SIZE (timestamps schedule))
    {i : ℕ} {bucket : TimeBucket} (at_i : schedule[i]? = some bucket) {start : ℚ}
    (close : |(bucket.timestamp : ℚ) - start| < (TIME_BUCKET_SIZE : ℚ) / 2) :
    start_index schedule (.finite start) = some i := by
  have exists_near : (start_index schedule (.finite start)).isSome := by
    rw [start_index, List.findIdx?_isSome, List.any_eq_true]
    exact ⟨bucket, List.mem_of_getElem? at_i, by simpa [near] using close⟩
  obtain ⟨k, found⟩ := Option.isSome_iff_exists.mp exists_near
  obtain ⟨other, start', at_k, same, close'⟩ := start_index_some found
  cases same
  have equal := spaced.unique_near (by decide) (timestamp_at at_i) (timestamp_at at_k) close close'
  rw [found, equal]

theorem start_index_aligned {schedule : Schedule} (spaced : Spaced TIME_BUCKET_SIZE (timestamps schedule))
    {i : ℕ} {bucket : TimeBucket} (at_i : schedule[i]? = some bucket) :
    start_index schedule (.finite bucket.timestamp) = some i :=
  start_index_spaced spaced at_i (by norm_num [TIME_BUCKET_SIZE])

/-- `ceil(duration / TIME_BUCKET_SIZE)`: the buckets a session takes. -/
def num_buckets (duration : Int) : Int := -(-duration / TIME_BUCKET_SIZE)

theorem num_buckets_bounds {d : Int} (positive : 1 ≤ d) : 1 ≤ num_buckets d ∧ num_buckets d ≤ d := by
  unfold num_buckets TIME_BUCKET_SIZE
  omega

/-- The buckets of a session from bucket `i` on exist, and the machines are free
    in them and in the existing buckets of the buffers around them. -/
def Bookable (machine_ids : List Int) (schedule : Schedule) (i : ℕ) (d : Int) : Prop :=
  (i : Int) + num_buckets d ≤ schedule.length ∧
    ∀ j : ℕ, i ≤ j + BUFFER_SIZE → (j : Int) < i + num_buckets d + BUFFER_SIZE → Free machine_ids schedule j

/-- A bookable slot passes the check when the schedule goes on for as many
    buckets as the session has seconds, and the machines stay free there. -/
theorem bookable_slot_accepted_iff {schedule : Schedule}
    (spaced : Spaced TIME_BUCKET_SIZE (timestamps schedule)) {machine_ids : List Int} {i : ℕ}
    {bucket : TimeBucket} (at_i : schedule[i]? = some bucket) {d : Int} (positive : 1 ≤ d)
    (bookable : Bookable machine_ids schedule i d) :
    check_availability machine_ids (.finite bucket.timestamp) d schedule = true ↔
      (i : Int) + d ≤ schedule.length ∧
        ∀ j : ℕ, (i : Int) + num_buckets d + BUFFER_SIZE ≤ j → (j : Int) < i + d + BUFFER_SIZE →
          Free machine_ids schedule j := by
  rw [check_availability_iff, start_index_aligned spaced at_i]
  simp only [Option.some.injEq, exists_eq_left', inWindow_iff (show 0 ≤ d by omega)]
  constructor
  · rintro ⟨room, free⟩
    refine ⟨room (by omega), ?_⟩
    intro j late inside
    have := (num_buckets_bounds positive).1
    exact free j ⟨by omega, inside⟩
  · rintro ⟨room, free⟩
    refine ⟨fun _ => room, ?_⟩
    rintro j ⟨first, last⟩
    by_cases early : (j : Int) < i + num_buckets d + BUFFER_SIZE
    · exact bookable.2 j first early
    · exact free j (by omega) last

def openDay (buckets : ℕ) : Schedule :=
  (List.range buckets).map fun (i : ℕ) =>
    { timestamp := TIME_BUCKET_SIZE * (i : Int), machines := [Machine.create 1 .Available .nan] }

theorem openDay_blank (buckets : ℕ) : Blank [1] (openDay buckets) := by
  intro bucket member
  obtain ⟨i, _, rfl⟩ := List.mem_map.mp member
  simp [Machine.create]

theorem bookable_slot_accepted_one_second : check_availability [1] (.finite 0) 1 (openDay 2) = true := by
  have free := (openDay_blank 2).free [1]
  have bookable : Bookable [1] (openDay 2) 0 1 := ⟨by decide, fun j _ _ => free j⟩
  have first : (openDay 2)[0]? = some (openDay 2)[0] := rfl
  exact (bookable_slot_accepted_iff (by decide) first (by decide) bookable).mpr ⟨by decide, fun j _ _ => free j⟩

theorem bookable_slot_refused :
    ¬ ∀ schedule : Schedule, Spaced TIME_BUCKET_SIZE (timestamps schedule) →
      ∀ machine_ids : List Int, machine_ids ≠ [] →
      (∀ id ∈ machine_ids, ∀ bucket ∈ schedule, ∃ m ∈ bucket.machines, m.machine_id = id) →
      ∀ (i : ℕ) (bucket : TimeBucket), schedule[i]? = some bucket → ∀ d : Int, 1 ≤ d →
      Bookable machine_ids schedule i d →
      check_availability machine_ids (.finite bucket.timestamp) d schedule = true := by
  intro claim
  have passed := claim (openDay 1) (by decide) [1] (by decide) (by decide) 0 (openDay 1)[0] (by decide) 300
    (by decide) ⟨by decide, fun j _ _ => (openDay_blank 1).free [1] j⟩
  obtain ⟨i, _, room, _⟩ := (check_availability_iff _ _ _ _).mp passed
  have : (openDay 1).length = 1 := rfl
  have := room (by decide)
  omega

end DispenserHub.Availability
