import DispenserHub.Adjacency
import DispenserHub.Reservation

/-!
`get_availability` of `schedule/scheduler.py`: every bucket where a session may
start, every window of machines in that bucket's row, and three filters.
-/

namespace DispenserHub.SlotSearch
open EStateM (Result)
open Messages Buckets Effects MasterSchedule Availability Reservation Adjacency Blocks Grid

/-- The session offered for a group at a bucket. `SESSION` makes a float of the
    duration. -/
def offer (candidate_bucket : TimeBucket) (machine_ids : List Int) (duration : Int) : Session where
  machine_id := machine_ids
  session_id := 12345
  status := .Reserved
  start_time := .finite candidate_bucket.timestamp
  duration := some (.float (.finite duration))
  exchange_id := none
  origin_node := none
  destination_node := none

/-- The session for a window of the row of a candidate bucket, if it passes. -/
def option_at (schedule : Schedule) (number_of_machines : ℕ) (duration : Int) (candidate_bucket : TimeBucket)
    (start_pos : ℕ) : Option Session :=
  let group := block candidate_bucket.machines start_pos number_of_machines
  let machine_ids := group.map Machine.machine_id
  if (group.all fun m => m.status = .Available) = false then none
  else if check_availability machine_ids (.finite candidate_bucket.timestamp) duration schedule = false then none
  else if are_adjacent MACHINE_LAYOUT machine_ids = false then none
  else some (offer candidate_bucket machine_ids duration)

/-- The inner loop, over the contiguous windows of a row. -/
def options_at (schedule : Schedule) (number_of_machines : ℕ) (duration : Int) (candidate_bucket : TimeBucket) :
    List Session :=
  (List.range (candidate_bucket.machines.length + 1 - number_of_machines)).filterMap
    (option_at schedule number_of_machines duration candidate_bucket)

/-- The outer loop. A negative duration makes it run past the schedule. -/
def search (schedule : Schedule) (number_of_machines : ℕ) (duration : Int) : Except PyError (List Session) := do
  let duration_idx := duration.tdiv TIME_BUCKET_SIZE
  let found ← (List.range (schedule.length - duration_idx).toNat).mapM fun idx =>
    match schedule[idx]? with
    | none => .error .IndexError
    | some candidate_bucket => .ok (options_at schedule number_of_machines duration candidate_bucket)
  return found.flatten

def distance (start_time : ℚ) (s : Session) : ℚ :=
  match s.start_time with
  | .finite start => |start - start_time|
  | _ => 0

/-- `options.sort(key=...)`, which is stable. -/
def sort_by_distance (start_time : ℚ) (options : List Session) : List Session :=
  options.insertionSort fun s s' => distance start_time s ≤ distance start_time s'

/-- None is `False`. A preferred start of 0 is no preference. -/
def get_availability (env : Env) (date : Date) (number_of_machines : ℕ) (start_time : Option ℚ) (duration : Int) :
    Py (Option (List Session)) := do
  let schedule ← get_master_schedule env date
  let options ← raised (search schedule number_of_machines duration)
  let options := match start_time with
    | some preferred => if preferred = 0 then options else sort_by_distance preferred options
    | none => options
  return if options = [] then none else some options

theorem mapM_buckets {β : Type} (schedule : Schedule) (f : TimeBucket → β) {k : ℕ} (fits : k ≤ schedule.length) :
    (List.range k).mapM (fun idx => match schedule[idx]? with
      | none => (.error .IndexError : Except PyError β)
      | some bucket => .ok (f bucket)) = .ok ((schedule.take k).map f) := by
  induction k with
  | zero => rfl
  | succ k ih =>
    have inside : k < schedule.length := by omega
    rw [List.range_succ, List.mapM_append, ih (by omega), List.take_add_one, List.map_append,
      List.getElem?_eq_getElem inside]
    simp only [List.mapM_cons, List.getElem?_eq_getElem inside]
    rfl

/-- The buckets the outer loop visits, for a duration that is not negative. -/
theorem search_eq (schedule : Schedule) (n : ℕ) {d : Int} (forward : 0 ≤ d) :
    search schedule n d =
      .ok ((schedule.take (schedule.length - d / TIME_BUCKET_SIZE).toNat).flatMap (options_at schedule n d)) := by
  have quotient : 0 ≤ d / TIME_BUCKET_SIZE := Int.ediv_nonneg forward (by decide)
  simp only [search, Int.tdiv_eq_ediv_of_nonneg forward]
  rw [mapM_buckets schedule _ (by omega)]
  rfl

theorem option_at_eq_some_iff {schedule : Schedule} {n : ℕ} {d : Int} {bucket : TimeBucket} {p : ℕ} {s : Session} :
    option_at schedule n d bucket p = some s ↔
      (∀ m ∈ block bucket.machines p n, m.status = .Available) ∧
      check_availability (block (bucket.machines.map Machine.machine_id) p n) (.finite bucket.timestamp) d schedule = true ∧
      are_adjacent MACHINE_LAYOUT (block (bucket.machines.map Machine.machine_id) p n) = true ∧
      offer bucket (block (bucket.machines.map Machine.machine_id) p n) d = s := by
  have ids : (block bucket.machines p n).map Machine.machine_id =
      block (bucket.machines.map Machine.machine_id) p n := by simp [block]
  simp only [option_at, ids]
  have all : (block bucket.machines p n).all (fun m => m.status = .Available) = true ↔
      ∀ m ∈ block bucket.machines p n, m.status = .Available := by simp
  rw [← all]
  split
  · next busy => simp [busy]
  · split
    · next taken => simp [taken]
    · split
      · next scattered => simp [scattered]
      · next free available adjacent =>
        simp only [Bool.not_eq_false] at free available adjacent
        simp only [free, available, adjacent, true_and, Option.some.injEq]

/-- `n` different machines of the list, in some order. -/
structure IsGroup (n : ℕ) (machine_ids : List Int) : Prop where
  nodup : machine_ids.Nodup
  listed : machine_ids ⊆ MACHINE_ID_LIST
  size : machine_ids.length = n

/-- The machines are adjacent and pass the check at the bucket's timestamp. -/
def Fits (schedule : Schedule) (d : Int) (bucket : TimeBucket) (machine_ids : List Int) : Prop :=
  are_adjacent MACHINE_LAYOUT machine_ids = true ∧
    check_availability machine_ids (.finite bucket.timestamp) d schedule = true

theorem Fits.perm {schedule : Schedule} {d : Int} {bucket : TimeBucket} {few many : List Int}
    (perm : few.Perm many) (fits : Fits schedule d bucket few) : Fits schedule d bucket many := by
  obtain ⟨adjacent, available⟩ := fits
  rw [are_adjacent_perm perm] at adjacent
  rw [check_availability_congr fun id => perm.mem_iff] at available
  exact ⟨adjacent, available⟩

/-- Some options are the slots of a schedule: each is a bucket, which its start
    resolves to, and a group; a bucket and a group are offered when they fit;
    and none is offered twice. -/
structure Exact (schedule : Schedule) (n : ℕ) (d : Int) (options : List Session) : Prop where
  slots : ∀ s ∈ options, ∃ (b : ℕ) (bucket : TimeBucket), schedule[b]? = some bucket ∧
    s.start_time = .finite bucket.timestamp ∧ start_index schedule s.start_time = some b ∧ IsGroup n s.machine_ids
  offered : ∀ (b : ℕ) (bucket : TimeBucket), schedule[b]? = some bucket → ∀ machine_ids, IsGroup n machine_ids →
    ((∃ s ∈ options, s.start_time = .finite bucket.timestamp ∧ s.machine_ids.Perm machine_ids) ↔
      Fits schedule d bucket machine_ids)
  once : options.Pairwise fun s s' => ¬ (s.start_time = s'.start_time ∧ s.machine_ids.Perm s'.machine_ids)

theorem machine_id_list_nodup : MACHINE_ID_LIST.Nodup := by decide

section
variable {schedule : Schedule} {n : ℕ} {d : Int}

/-- Every bucket lists the machines of `MACHINE_ID_LIST`, in order. -/
def Listed (schedule : Schedule) : Prop :=
  ∀ bucket ∈ schedule, bucket.machines.map Machine.machine_id = MACHINE_ID_LIST

/-- The options of the two loops, one for each visited bucket and window. -/
def options (schedule : Schedule) (n : ℕ) (d : Int) : List Session :=
  (schedule.take (schedule.length - d / TIME_BUCKET_SIZE).toNat).flatMap (options_at schedule n d)

theorem Listed.length (listed : Listed schedule) {bucket : TimeBucket} (member : bucket ∈ schedule) :
    bucket.machines.length = 10 := by
  rw [← List.length_map (f := Machine.machine_id), listed bucket member]
  rfl

theorem mem_options_at (listed : Listed schedule) {bucket : TimeBucket} (member : bucket ∈ schedule) {s : Session} :
    s ∈ options_at schedule n d bucket ↔ ∃ p, p < 11 - n ∧
      (∀ m ∈ block bucket.machines p n, m.status = .Available) ∧
      Fits schedule d bucket (block MACHINE_ID_LIST p n) ∧ offer bucket (block MACHINE_ID_LIST p n) d = s := by
  have row := listed bucket member
  have size := listed.length member
  simp only [options_at, List.mem_filterMap, List.mem_range, option_at_eq_some_iff, row, size, Fits]
  constructor
  · rintro ⟨p, inside, free, available, adjacent, same⟩
    exact ⟨p, inside, free, ⟨adjacent, available⟩, same⟩
  · rintro ⟨p, inside, free, ⟨adjacent, available⟩, same⟩
    exact ⟨p, inside, free, available, adjacent, same⟩

theorem window_group {p : ℕ} (inside : p < 11 - n) : IsGroup n (block MACHINE_ID_LIST p n) where
  nodup := machine_id_list_nodup.sublist (block_contiguous _ _ _).sublist
  listed := (block_contiguous _ _ _).subset
  size := block_length (show p + n ≤ 10 by omega)

/-- A bucket at which a group fits is visited, and the group is free there. -/
theorem fits_visited (spaced : Spaced TIME_BUCKET_SIZE (timestamps schedule)) (forward : 0 ≤ d) {b : ℕ}
    {bucket : TimeBucket} (at_b : schedule[b]? = some bucket) {machine_ids : List Int}
    (fits : Fits schedule d bucket machine_ids) :
    b < (schedule.length - d / TIME_BUCKET_SIZE).toNat ∧ Free machine_ids schedule b := by
  obtain ⟨i, matched, room, free⟩ := (check_availability_iff _ _ _ _).mp fits.2
  rw [start_index_aligned spaced at_b] at matched
  cases matched
  have inside := (List.getElem?_eq_some_iff.mp at_b).1
  refine ⟨?_, free b ((inWindow_iff forward).mpr ⟨by omega, by unfold BUFFER_SIZE; omega⟩)⟩
  unfold TIME_BUCKET_SIZE
  omega

theorem timestamps_differ (spaced : Spaced TIME_BUCKET_SIZE (timestamps schedule)) :
    schedule.Pairwise fun a b => a.timestamp ≠ b.timestamp := by
  rw [List.pairwise_iff_getElem]
  intro i j insideI insideJ less same
  have steps := spaced.sub (timestamp_at (List.getElem?_eq_getElem insideI))
    (timestamp_at (List.getElem?_eq_getElem insideJ))
  unfold TIME_BUCKET_SIZE at steps
  omega

theorem options_at_once (listed : Listed schedule) (some_machines : 1 ≤ n) {bucket : TimeBucket}
    (member : bucket ∈ schedule) :
    (options_at schedule n d bucket).Pairwise fun s s' => ¬ s.machine_ids.Perm s'.machine_ids := by
  have row := listed bucket member
  have size := listed.length member
  rw [options_at, List.pairwise_filterMap]
  refine List.pairwise_lt_range.imp_of_mem ?_
  intro p q _ inside less s first s' second
  obtain ⟨_, _, _, rfl⟩ := option_at_eq_some_iff.mp first
  obtain ⟨_, _, _, rfl⟩ := option_at_eq_some_iff.mp second
  rw [List.mem_range, size] at inside
  rw [row]
  exact block_not_perm machine_id_list_nodup some_machines less (show q + n ≤ 10 by omega)

/-- A group that fits at a bucket is offered there, in the order of its row. -/
theorem fitting_offered (spaced : Spaced TIME_BUCKET_SIZE (timestamps schedule)) (listed : Listed schedule)
    (forward : 0 ≤ d) {b : ℕ} {bucket : TimeBucket} (at_b : schedule[b]? = some bucket) {machine_ids : List Int}
    (group : IsGroup n machine_ids) (fits : Fits schedule d bucket machine_ids) :
    ∃ s ∈ options schedule n d, s.start_time = .finite bucket.timestamp ∧ s.machine_ids.Perm machine_ids := by
  have member := List.mem_of_getElem? at_b
  obtain ⟨part, contiguous, perm⟩ := adjacent_block group.listed fits.1
  obtain ⟨p, ends, shape⟩ := contiguous_block contiguous
  rw [← perm.length_eq, group.size] at ends shape
  subst shape
  obtain ⟨inside, free⟩ := fits_visited spaced forward at_b fits
  refine ⟨offer bucket (block MACHINE_ID_LIST p n) d, List.mem_flatMap.mpr ⟨bucket, ?_, ?_⟩, rfl, perm.symm⟩
  · exact List.mem_iff_getElem?.mpr ⟨b, by rw [List.getElem?_take, if_pos inside, at_b]⟩
  · have ten : MACHINE_ID_LIST.length = 10 := rfl
    refine (mem_options_at listed member).mpr ⟨p, by omega, ?_, fits.perm perm, rfl⟩
    intro m window
    refine free bucket at_b m ((block_contiguous _ _ _).subset window) (perm.symm.subset ?_)
    rw [← listed bucket member]
    have ids : block (bucket.machines.map Machine.machine_id) p n =
        (block bucket.machines p n).map Machine.machine_id := by simp [block]
    rw [ids]
    exact List.mem_map_of_mem window

theorem options_exact (spaced : Spaced TIME_BUCKET_SIZE (timestamps schedule)) (listed : Listed schedule)
    (some_machines : 1 ≤ n) (forward : 0 ≤ d) : Exact schedule n d (options schedule n d) := by
  refine ⟨?_, ?_, ?_⟩
  · intro s member
    obtain ⟨bucket, taken, found⟩ := List.mem_flatMap.mp member
    obtain ⟨p, inside, _, _, rfl⟩ := (mem_options_at listed (List.mem_of_mem_take taken)).mp found
    obtain ⟨b, at_b⟩ := List.mem_iff_getElem?.mp (List.mem_of_mem_take taken)
    exact ⟨b, bucket, at_b, rfl, start_index_aligned spaced at_b, window_group inside⟩
  · intro b bucket at_b machine_ids group
    constructor
    · rintro ⟨s, member, starts, perm⟩
      obtain ⟨other, taken, found⟩ := List.mem_flatMap.mp member
      obtain ⟨p, inside, _, fits, rfl⟩ := (mem_options_at listed (List.mem_of_mem_take taken)).mp found
      have same : other.timestamp = bucket.timestamp := by simpa [offer] using starts
      have here : Fits schedule d bucket (block MACHINE_ID_LIST p n) := ⟨fits.1, by rw [← same]; exact fits.2⟩
      exact here.perm perm
    · exact fitting_offered spaced listed forward at_b group
  · rw [options, List.pairwise_flatMap]
    refine ⟨?_, ?_⟩
    · intro bucket taken
      exact (options_at_once listed some_machines (List.mem_of_mem_take taken)).imp fun apart same => apart same.2
    · refine ((timestamps_differ spaced).sublist (List.take_sublist _ _)).imp_of_mem ?_
      intro a b takenA takenB different s found s' found' same
      obtain ⟨_, _, _, _, rfl⟩ := (mem_options_at listed (List.mem_of_mem_take takenA)).mp found
      obtain ⟨_, _, _, _, rfl⟩ := (mem_options_at listed (List.mem_of_mem_take takenB)).mp found'
      exact different (by simpa [offer] using same.1)

structure StablySorted (start_time : ℚ) (options sorted : List Session) : Prop where
  perm : sorted.Perm options
  closest_first : sorted.Pairwise fun s s' => distance start_time s ≤ distance start_time s'
  stable : ∀ s s', distance start_time s ≤ distance start_time s' → [s, s'].Sublist options → [s, s'].Sublist sorted

theorem sort_by_distance_stable (start_time : ℚ) (options : List Session) :
    StablySorted start_time options (sort_by_distance start_time options) := by
  let closer : Session → Session → Prop := fun s s' => distance start_time s ≤ distance start_time s'
  have total : Std.Total closer := ⟨fun s s' => le_total _ _⟩
  have trans : IsTrans Session closer := ⟨fun s s' s'' => le_trans⟩
  exact ⟨List.perm_insertionSort closer options, List.pairwise_insertionSort closer options,
    fun _ _ closer => List.pair_sublist_insertionSort closer⟩

def orFalse (options : List Session) : Option (List Session) := if options = [] then none else some options

theorem answer_get_availability (env : Env) {date : Date} {w : World} (loaded : w.master_schedule date = some schedule)
    (forward : 0 ≤ d) (start_time : Option ℚ) :
    answer (EStateM.run (get_availability env date n start_time d) w) =
      .ok (orFalse (match start_time with
        | some preferred =>
          if preferred = 0 then options schedule n d else sort_by_distance preferred (options schedule n d)
        | none => options schedule n d)) := by
  simp only [get_availability, EStateM.run_bind, run_get_master_schedule, scheduleOf_loaded env loaded,
    search_eq schedule n forward, run_raised]
  rfl

/-- The search offers exactly the slots that fit, each once; it returns `False`
    when there are none; and a preferred start only sorts them. -/
theorem slot_search_exact (spaced : Spaced TIME_BUCKET_SIZE (timestamps schedule)) (listed : Listed schedule)
    (some_machines : 1 ≤ n) (forward : 0 ≤ d) (env : Env) {date : Date} {w : World}
    (loaded : w.master_schedule date = some schedule) :
    ∃ options, Exact schedule n d options ∧
      answer (EStateM.run (get_availability env date n none d) w) = .ok (orFalse options) ∧
      (answer (EStateM.run (get_availability env date n none d) w) = .ok none ↔
        ∀ (b : ℕ) (bucket : TimeBucket), schedule[b]? = some bucket → ∀ machine_ids, IsGroup n machine_ids →
          ¬ Fits schedule d bucket machine_ids) ∧
      ∀ preferred : ℚ, preferred ≠ 0 → ∃ sorted, StablySorted preferred options sorted ∧
        answer (EStateM.run (get_availability env date n (some preferred) d) w) = .ok (orFalse sorted) := by
  have exact := options_exact spaced listed some_machines forward
  have found := answer_get_availability (n := n) env loaded forward
  refine ⟨options schedule n d, exact, found none, ?_, ?_⟩
  · rw [found none, Except.ok.injEq]
    constructor
    · intro nothing b bucket at_b machine_ids group fits
      obtain ⟨s, member, _⟩ := (exact.offered b bucket at_b machine_ids group).mpr fits
      by_cases empty : options schedule n d = []
      · rw [empty] at member
        cases member
      · simp [orFalse, empty] at nothing
    · intro none_fits
      cases offers : options schedule n d with
      | nil => rfl
      | cons s rest =>
        have member : s ∈ options schedule n d := by simp [offers]
        obtain ⟨b, bucket, at_b, starts, _, group⟩ := exact.slots s member
        exact absurd ((exact.offered b bucket at_b _ group).mp ⟨s, member, starts, .refl _⟩)
          (none_fits b bucket at_b _ group)
  · intro preferred nonzero
    refine ⟨_, sort_by_distance_stable preferred _, ?_⟩
    rw [found (some preferred)]
    simp [nonzero]

end

def oneBucket : Schedule :=
  [{ timestamp := 0, machines := MACHINE_ID_LIST.map fun machine_id => Machine.create machine_id .Available .nan }]

theorem one_bucket_searched :
    ∃ options, Exact oneBucket 2 1 options ∧ answer (EStateM.run
      (get_availability plainEnv ⟨1970, 1, 1⟩ 2 none 1) (worldOf oneBucket)) = .ok (orFalse options) := by
  have listed : Listed oneBucket := by unfold Listed; decide
  obtain ⟨options, exact, found, _⟩ := slot_search_exact (n := 2) (d := 1) (by decide) listed (by decide)
    (by decide) plainEnv (worldOf_loaded oneBucket)
  exact ⟨options, exact, found⟩

/-- `range(len(schedule) - duration_idx)`. -/
def candidate_starts (length : ℕ) (duration : Int) : List ℕ :=
  List.range (length - duration.tdiv TIME_BUCKET_SIZE).toNat

/-- These are the indices of the outer loop. -/
theorem search_candidates (schedule : Schedule) (number_of_machines : ℕ) (duration : Int) :
    search schedule number_of_machines duration = do
      let found ← (candidate_starts schedule.length duration).mapM fun idx =>
        match schedule[idx]? with
        | none => .error .IndexError
        | some candidate_bucket => .ok (options_at schedule number_of_machines duration candidate_bucket)
      return found.flatten := rfl

theorem mem_candidate_starts {length : ℕ} {d : Int} (forward : 0 ≤ d) (idx : ℕ) :
    idx ∈ candidate_starts length d ↔ (idx : Int) + d / TIME_BUCKET_SIZE < length := by
  rw [candidate_starts, List.mem_range, Int.tdiv_eq_ediv_of_nonneg forward]
  omega

/-- The outer loop reaches every start at which the buckets of a session fit,
    unless the session fills whole buckets: then the last such start is missed. -/
theorem fitting_starts_visited_iff (length : ℕ) {d : Int} (lasting : 1 ≤ d) :
    (∀ idx : ℕ, (idx : Int) + num_buckets d ≤ length → idx ∈ candidate_starts length d) ↔
      ¬ (TIME_BUCKET_SIZE ∣ d ∧ d ≤ TIME_BUCKET_SIZE * length) := by
  simp only [mem_candidate_starts (show 0 ≤ d by omega)]
  unfold num_buckets TIME_BUCKET_SIZE
  constructor
  · rintro visited ⟨whole, fits⟩
    have last := visited (length - (d / 300).toNat) (by omega)
    omega
  · intro rounded idx fits
    by_contra missed
    exact rounded ⟨by omega, by omega⟩

/-- A second is a part of a bucket, so the last bucket of the day is visited for it. -/
theorem last_second_visited : 287 ∈ candidate_starts 288 1 :=
  (fitting_starts_visited_iff 288 (by decide)).mpr (by decide) 287 (by decide)

/-- Five minutes fit the only bucket of a schedule, and the loop is empty. -/
theorem last_start_missed :
    ¬ ∀ (length : ℕ) (d : Int), 1 ≤ d → ∀ idx : ℕ, (idx : Int) + num_buckets d ≤ length →
      idx ∈ candidate_starts length d := by
  intro claim
  exact absurd (claim 1 300 (by decide) 0 (by decide)) (by decide)

end DispenserHub.SlotSearch
