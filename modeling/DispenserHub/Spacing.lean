import DispenserHub.Booking

/-!
What the whole buckets between granted sessions come to in seconds, when the
starts are not on the timestamps of buckets. Each start is rounded to the
closest bucket, so the gap in seconds may be short of the gap in buckets: by
what the earlier start lies after its bucket and the later one before its own.
-/

namespace DispenserHub.Spacing
open Messages Buckets MasterSchedule Availability Reservation Grid Booking

/-- How far after the timestamp of its bucket a session starts; negative for a
    start before it. -/
def rounding (schedule : Schedule) (session : Session) : ℚ :=
  match session.start_time, (start_index schedule session.start_time).bind (schedule[·]?) with
  | .finite start, some bucket => start - bucket.timestamp
  | _, _ => 0

section
variable {site : Site} {blank : Schedule} {machines : List Int} {date : Date}

theorem rounding_near {session : Session} {i k : ℕ} (occupies : Occupies blank session i k) :
    ∃ start bucket, session.start_time = .finite start ∧ blank[i]? = some bucket ∧
      rounding blank session = start - bucket.timestamp ∧ |rounding blank session| < 150 := by
  obtain ⟨d, _, matched, _⟩ := occupies
  obtain ⟨bucket, start, at_i, finite, close⟩ := start_index_some matched
  have value : rounding blank session = start - bucket.timestamp := by
    rw [finite] at matched
    simp [rounding, finite, matched, at_i]
  refine ⟨start, bucket, finite, at_i, value, ?_⟩
  rw [value, abs_sub_comm]
  norm_num [TIME_BUCKET_SIZE] at close
  exact close

theorem num_buckets_cover (d : Int) : d ≤ num_buckets d * TIME_BUCKET_SIZE := by
  unfold num_buckets TIME_BUCKET_SIZE
  omega

/-- The later of two sessions starts `BUFFER_SIZE` buckets of seconds after the
    end of the earlier one, as far as the roundings of the two starts allow. -/
def SpacedInSeconds (blank : Schedule) (a b : Session) : Prop :=
  ∃ (s t : ℚ) (d e : Int), a.start_time = .finite s ∧ a.duration = some (.int d) ∧
    b.start_time = .finite t ∧ b.duration = some (.int e) ∧
    |rounding blank a| < 150 ∧ |rounding blank b| < 150 ∧
    (s ≤ t → s + d + 900 + rounding blank b ≤ t + rounding blank a) ∧
    (t ≤ s → t + e + 900 + rounding blank a ≤ s + rounding blank b)

theorem SpacedInSeconds.symm {a b : Session} (spacing : SpacedInSeconds blank a b) :
    SpacedInSeconds blank b a := by
  obtain ⟨s, t, d, e, startA, lastsA, startB, lastsB, nearA, nearB, forth, back⟩ := spacing
  exact ⟨t, s, e, d, startB, lastsB, startA, lastsA, nearB, nearA, back, forth⟩

theorem spaced_of_before (spaced : Spaced TIME_BUCKET_SIZE (timestamps blank)) {a b : Session} {i k i' k' : ℕ}
    (occupiesA : Occupies blank a i k) (filled : 0 < k) (occupiesB : Occupies blank b i' k')
    (before : i + k + BUFFER_SIZE ≤ i') : SpacedInSeconds blank a b := by
  obtain ⟨s, bucketA, finiteA, at_i, valueA, nearA⟩ := rounding_near occupiesA
  obtain ⟨t, bucketB, finiteB, at_i', valueB, nearB⟩ := rounding_near occupiesB
  obtain ⟨d, lastsA, _, count⟩ := occupiesA
  obtain ⟨e, lastsB, _, _⟩ := occupiesB
  have steps := spaced.sub (timestamp_at at_i) (timestamp_at at_i')
  have covered := num_buckets_cover d
  have far : bucketA.timestamp + d + 900 ≤ bucketB.timestamp ∧ 1 ≤ d := by
    unfold num_buckets TIME_BUCKET_SIZE BUFFER_SIZE at *
    omega
  have far' : (bucketA.timestamp : ℚ) + d + 900 ≤ bucketB.timestamp := by exact_mod_cast far.1
  have lasting : (1 : ℚ) ≤ d := by exact_mod_cast far.2
  refine ⟨s, t, d, e, finiteA, lastsA, finiteB, lastsB, nearA, nearB, fun _ => by linarith, ?_⟩
  -- The roundings are too small to put the starts in the other order.
  intro order
  have late := (abs_lt.mp nearA).2
  have early := (abs_lt.mp nearB).1
  linarith

/-- Granted sessions that share a machine, in seconds: between the end of the
    earlier one and the start of the later one are at least 900 s, more by the
    rounding of the later start and less by that of the earlier, each under 150 s. -/
theorem granted_spaced_in_seconds (exact : MatchedRange site) {timestamp : Int → Int}
    {clock : Nat → Nat → PyFloat} (made : generate_blank_schedule timestamp clock date machines = .ok blank)
    (spaced : Spaced TIME_BUCKET_SIZE (timestamps blank)) {w : World}
    (start : w.master_schedule date = some blank) (calls : List Call) :
    (granted site date (Runs.run (step site) w calls).1).Pairwise fun a b =>
      ShareMachine machines a b → SpacedInSeconds blank a b := by
  obtain ⟨calendar, _, _, represents, owners⟩ :=
    run_booked exact (generate_blank_schedule_blank made).2 start calls
  rw [← owners]
  refine represents.apart.imp ?_
  intro a b apart share
  obtain ⟨i, k, i', k', occupiesA, filledA, occupiesB, filledB, before | after⟩ := apart share
  · exact spaced_of_before spaced occupiesA filledA occupiesB before
  · exact (spaced_of_before spaced occupiesB filledB occupiesA after).symm

end

theorem blankDay_spaced (machines : List Int) : Spaced TIME_BUCKET_SIZE (timestamps (blankDay machines)) := by
  have times : timestamps (blankDay machines) = (List.range 288).map fun (i : ℕ) => 300 * (i : Int) := by
    simp [timestamps, blankDay, Function.comp_def]
  rw [times]
  decide +kernel

theorem two_requests_spaced :
    SpacedInSeconds (blankDay [1]) (request 7 149 10).session (request 8 1051 10).session := by
  have spacing := granted_spaced_in_seconds firstDay_matched (blankDay_made [1]) (blankDay_spaced [1])
    (worldOf_loaded _) [request 7 149 10, request 8 1051 10]
  rw [two_requests_granted, List.pairwise_cons] at spacing
  exact spacing.1 _ (by simp) ⟨1, by decide, by decide, by decide⟩

/-- Granted sessions may lie closer than 900 s: from 159 s to 1051 s there are 892. -/
theorem spacing_below_buffer :
    ¬ ∀ (site : Site), MatchedRange site → ∀ (timestamp : Int → Int) (clock : Nat → Nat → PyFloat) (date : Date)
      (machines : List Int) (blank : Schedule),
      generate_blank_schedule timestamp clock date machines = .ok blank →
      Spaced TIME_BUCKET_SIZE (timestamps blank) →
      ∀ w : World, w.master_schedule date = some blank → ∀ calls : List Call,
      (granted site date (Runs.run (step site) w calls).1).Pairwise fun a b => ShareMachine machines a b →
        ∀ (s t : ℚ) (d e : Int), a.start_time = .finite s → a.duration = some (.int d) →
          b.start_time = .finite t → b.duration = some (.int e) →
          (s ≤ t → s + d + 900 ≤ t) ∧ (t ≤ s → t + e + 900 ≤ s) := by
  intro claim
  have spacing := claim firstDay firstDay_matched _ _ _ _ _ (blankDay_made [1]) (blankDay_spaced [1]) _
    (worldOf_loaded _) [request 7 149 10, request 8 1051 10]
  rw [two_requests_granted, List.pairwise_cons] at spacing
  have gap := spacing.1 (request 8 1051 10).session (by simp) ⟨1, by decide, by decide, by decide⟩ 149 1051 10 10
    rfl rfl rfl rfl
  have late := gap.1 (by norm_num)
  norm_num at late

end DispenserHub.Spacing
