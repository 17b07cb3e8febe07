import DispenserHub.Availability

/-!
Which starts of the day the scan of `check_availability` finds a bucket for. It
wants a timestamp nearer than half a bucket, so a start halfway between two
neighbours has none; for every other start it finds the nearest.
-/

namespace DispenserHub.StartLookup
open Messages Buckets Availability Grid

/-- The scan selects a bucket, and no other is nearer to the start. -/
def FindsNearest (schedule : Schedule) (start : ℚ) : Prop :=
  ∃ i bucket, start_index schedule (.finite start) = some i ∧ schedule[i]? = some bucket ∧
    ∀ other ∈ schedule, |(bucket.timestamp : ℚ) - start| ≤ |(other.timestamp : ℚ) - start|

variable {schedule : Schedule}

theorem bucket_apart (spaced : Spaced TIME_BUCKET_SIZE (timestamps schedule)) {i j : ℕ} {bucket other : TimeBucket}
    (at_i : schedule[i]? = some bucket) (at_j : schedule[j]? = some other) :
    other.timestamp = bucket.timestamp ∨ (300 : ℚ) ≤ |(other.timestamp : ℚ) - bucket.timestamp| := by
  rcases spaced.apart (by decide) (timestamp_at at_i) (timestamp_at at_j) with same | far
  · exact .inl same
  · exact .inr (by exact_mod_cast far)

/-- A bucket nearer than half a step is the nearest. -/
theorem finds_near (spaced : Spaced TIME_BUCKET_SIZE (timestamps schedule)) {i : ℕ} {bucket : TimeBucket}
    (at_i : schedule[i]? = some bucket) {start : ℚ} (close : |(bucket.timestamp : ℚ) - start| < 150) :
    FindsNearest schedule start := by
  have found : start_index schedule (.finite start) = some i :=
    start_index_spaced spaced at_i (by norm_num [TIME_BUCKET_SIZE]; exact close)
  refine ⟨i, bucket, found, at_i, ?_⟩
  intro other member
  obtain ⟨j, at_j⟩ := List.mem_iff_getElem?.mp member
  rcases bucket_apart spaced at_i at_j with same | far
  · rw [same]
  · have triangle := abs_sub_le (other.timestamp : ℚ) start bucket.timestamp
    rw [abs_sub_comm start] at triangle
    linarith

/-- For a start of the day the scan finds the nearest bucket, unless the start
    lies halfway between two of them. -/
theorem finds_nearest_iff (spaced : Spaced TIME_BUCKET_SIZE (timestamps schedule)) {first last : TimeBucket}
    (head : schedule.head? = some first) (final : schedule.getLast? = some last) {start : ℚ}
    (late : (first.timestamp : ℚ) ≤ start) (early : start ≤ last.timestamp) :
    FindsNearest schedule start ↔ ∀ bucket ∈ schedule, start ≠ bucket.timestamp + 150 := by
  constructor
  · rintro ⟨i, bucket, found, at_i, _⟩ middle member halfway
    obtain ⟨j, at_j⟩ := List.mem_iff_getElem?.mp member
    obtain ⟨matched, _, at_i', same, close⟩ := start_index_some found
    cases same
    rw [at_i] at at_i'
    cases at_i'
    norm_num [TIME_BUCKET_SIZE] at close
    -- The bucket found would be a neighbour less than a step away.
    obtain ⟨above, below⟩ := abs_lt.mp close
    rcases bucket_apart spaced at_j at_i with same | far
    · rw [same] at above
      linarith
    · rcases le_abs.mp far with far | far <;> linarith
  · intro between
    obtain ⟨i, a, at_i, above, below⟩ := spaced.round (by decide) (by simp [timestamps, head]) (by simp [timestamps, final])
      late early
    norm_num [TIME_BUCKET_SIZE] at above below
    obtain ⟨bucket, here, rfl⟩ : ∃ bucket, schedule[i]? = some bucket ∧ bucket.timestamp = a := by
      simpa [timestamps] using at_i
    refine finds_near spaced here (abs_lt.mpr ⟨by linarith, ?_⟩)
    by_contra halfway
    obtain _ | k := i
    · -- The start is not before the first bucket.
      rw [← List.head?_eq_getElem?, head] at here
      cases here
      linarith
    · have inside : k < schedule.length := by
        have := (List.getElem?_eq_some_iff.mp here).1
        omega
      have step := spaced.sub_rat (timestamp_at (List.getElem?_eq_getElem inside)) (timestamp_at here)
      norm_num [TIME_BUCKET_SIZE] at step
      exact between schedule[k] (List.getElem_mem inside) (by linarith)

theorem start_before_middle_found : FindsNearest (openDay 2) 149 :=
  (finds_nearest_iff (by decide) (show (openDay 2).head? = some (openDay 2)[0] from rfl)
    (show (openDay 2).getLast? = some (openDay 2)[1] from rfl) (by decide +kernel) (by decide +kernel)).mpr
    (by decide +kernel)

/-- At 150 s, halfway between the two buckets of a day, there is none. -/
theorem halfway_start_refused :
    ¬ ∀ schedule : Schedule, Spaced TIME_BUCKET_SIZE (timestamps schedule) → ∀ first last : TimeBucket,
      schedule.head? = some first → schedule.getLast? = some last → ∀ start : ℚ,
      (first.timestamp : ℚ) ≤ start → start ≤ last.timestamp → FindsNearest schedule start := by
  intro claim
  obtain ⟨i, _, found, _⟩ := claim (openDay 2) (by decide) (openDay 2)[0] (openDay 2)[1] (by decide) (by decide) 150
    (by decide +kernel) (by decide +kernel)
  have missing : start_index (openDay 2) (.finite 150) = none := by decide +kernel
  rw [missing] at found
  cases found

end DispenserHub.StartLookup
