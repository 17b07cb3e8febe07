import DispenserHub.Buckets
import DispenserHub.LocalTime

/-!
The timestamps that `generate_blank_schedule` gives a date, against the instants
of that local day. The wall-clock times of the buckets are five minutes apart;
their instants are so only as long as the clocks are not set.
-/

namespace DispenserHub.DayCover
open Messages Buckets LocalTime

variable {zone : Zone} {midnight : ℤ} {instants : List ℤ}

/-- The clocks show a time of the day at this instant. -/
def InDay (zone : Zone) (midnight : ℤ) (instant : ℚ) : Prop :=
  midnight ≤ instant + zone.offset ⌊instant⌋ ∧ instant + zone.offset ⌊instant⌋ < midnight + 86400

/-- The timestamps increase, and every instant of the day is in the five
    minutes from exactly one of them. -/
structure DayCovered (zone : Zone) (midnight : ℤ) (instants : List ℤ) : Prop where
  increasing : instants.Pairwise (· < ·)
  covered : ∀ instant, InDay zone midnight instant →
    ∃! t, t ∈ instants ∧ (t : ℚ) ≤ instant ∧ instant < t + TIME_BUCKET_SIZE

/-- Clocks set forward do not come to a time of the day after its midnight,
    unless from a time of the same day into its last five minutes; and clocks set
    back repeat no time of the day. -/
structure Undisturbed (zone : Zone) (midnight : ℤ) : Prop where
  forward : ∀ jump, zone.reached jump < zone.wall jump → zone.wall jump ≤ midnight ∨
    midnight + 86400 ≤ zone.wall jump ∨
    (midnight + 86400 - TIME_BUCKET_SIZE < zone.wall jump ∧ midnight ≤ zone.reached jump)
  back : ∀ jump, zone.wall jump < zone.reached jump →
    zone.reached jump ≤ midnight ∨ midnight + 86400 ≤ zone.wall jump

theorem inDay_floor (instant : ℚ) : InDay zone midnight instant ↔
    midnight ≤ zone.wall ⌊instant⌋ ∧ zone.wall ⌊instant⌋ < midnight + 86400 := by
  have low : (midnight : ℚ) ≤ instant + zone.offset ⌊instant⌋ ↔ midnight - zone.offset ⌊instant⌋ ≤ ⌊instant⌋ := by
    rw [Int.le_floor, Int.cast_sub, sub_le_iff_le_add]
  have high : instant + zone.offset ⌊instant⌋ < midnight + 86400 ↔
      ⌊instant⌋ < midnight + 86400 - zone.offset ⌊instant⌋ := by
    rw [Int.floor_lt]
    push_cast
    rw [lt_sub_iff_add_lt]
  rw [InDay, low, high, Zone.wall]
  omega

theorem inBucket_floor (t : ℤ) (instant : ℚ) :
    ((t : ℚ) ≤ instant ∧ instant < t + TIME_BUCKET_SIZE) ↔ t ≤ ⌊instant⌋ ∧ ⌊instant⌋ < t + TIME_BUCKET_SIZE := by
  rw [Int.le_floor, Int.floor_lt, Int.cast_add]

/-- It is enough to look at whole seconds. -/
theorem dayCovered_iff : DayCovered zone midnight instants ↔ instants.Pairwise (· < ·) ∧
    ∀ u, midnight ≤ zone.wall u → zone.wall u < midnight + 86400 →
      ∃! t, t ∈ instants ∧ t ≤ u ∧ u < t + TIME_BUCKET_SIZE := by
  constructor
  · rintro ⟨increasing, covered⟩
    refine ⟨increasing, ?_⟩
    intro u low high
    have once := covered u ((inDay_floor (u : ℚ)).mpr (by rw [Int.floor_intCast]; exact ⟨low, high⟩))
    simpa only [inBucket_floor, Int.floor_intCast] using once
  · rintro ⟨increasing, covered⟩
    refine ⟨increasing, ?_⟩
    intro instant inside
    obtain ⟨low, high⟩ := (inDay_floor instant).mp inside
    simpa only [inBucket_floor] using covered _ low high

/-- The instants of the buckets' wall-clock times. -/
def bucket_times (timestamp : ℤ → ℤ) (midnight : ℤ) : List ℤ :=
  (List.range 288).map fun i : ℕ => timestamp (midnight + 300 * (i : ℤ))

theorem mem_bucket_times {timestamp : ℤ → ℤ} {t : ℤ} :
    t ∈ bucket_times timestamp midnight ↔ ∃ i : ℕ, i < 288 ∧ timestamp (midnight + 300 * i) = t := by
  simp [bucket_times]

theorem bucket_times_lt {timestamp : ℤ → ℤ} (increasing : (bucket_times timestamp midnight).Pairwise (· < ·)) {i j : ℕ}
    (before : i < j) (inside : j < 288) : timestamp (midnight + 300 * i) < timestamp (midnight + 300 * j) := by
  have ordered := List.pairwise_iff_getElem.mp (List.pairwise_map.mp increasing) i j
    (by simpa using before.trans inside) (by simpa using inside) before
  simpa using ordered

theorem timestamps_blank {timestamp : Int → Int} {clock : Nat → Nat → PyFloat} {date : Date} {machines : List Int}
    {schedule : Schedule} (made : generate_blank_schedule timestamp clock date machines = .ok schedule) :
    ∃ midnight, strptime date = .ok midnight ∧ timestamps schedule = bucket_times timestamp midnight := by
  unfold generate_blank_schedule at made
  cases starts : strptime date with
  | error e => rw [starts] at made; cases made
  | ok midnight =>
    rw [starts] at made
    cases made
    exact ⟨midnight, rfl, by rw [timestamps, List.map_map]; rfl⟩

/-- Where one offset reads all bucket times and shows all instants of the day
    in it, the day is covered. -/
theorem covered_of_uniform {timestamp : ℤ → ℤ} (offset : ℤ)
    (reads : ∀ i : ℕ, i < 288 → timestamp (midnight + 300 * i) = midnight + 300 * i - offset)
    (shows : ∀ u, midnight ≤ zone.wall u → zone.wall u < midnight + 86400 →
      midnight ≤ u + offset ∧ u + offset < midnight + 86400) :
    DayCovered zone midnight (bucket_times timestamp midnight) := by
  refine dayCovered_iff.mpr ⟨?_, ?_⟩
  · rw [bucket_times, List.pairwise_map]
    refine List.pairwise_lt_range.imp_of_mem fun {i j} first second before => ?_
    rw [reads i (List.mem_range.mp first), reads j (List.mem_range.mp second)]
    omega
  · intro u low high
    obtain ⟨late, early⟩ := shows u low high
    obtain ⟨i, index⟩ := Int.eq_ofNat_of_zero_le (show 0 ≤ (u + offset - midnight) / 300 by omega)
    refine ⟨midnight + 300 * i - offset, ⟨mem_bucket_times.mpr ⟨i, by omega, reads i (by omega)⟩, ?_⟩, ?_⟩
    · rw [TIME_BUCKET_SIZE]
      omega
    · rintro t ⟨member, below, above⟩
      obtain ⟨j, inside, rfl⟩ := mem_bucket_times.mp member
      rw [reads j inside] at below above ⊢
      rw [TIME_BUCKET_SIZE] at above
      omega

section
variable {timestamp : ℤ → ℤ} {jump : ℤ}

/-- The instant of each bucket, by the offsets around the day. -/
theorem bucket_time (converts : Converts zone timestamp) (once : zone.SetAt midnight jump) {i : ℕ} (inside : i < 288) :
    timestamp (midnight + 300 * i) = midnight + 300 * i -
      if midnight + 300 * i < max (zone.reached jump) (zone.wall jump) then zone.offset (jump - 1)
      else zone.offset jump :=
  converts.timestamp_eq once (by omega) (by omega)

theorem undisturbed_covers (converts : Converts zone timestamp) (undisturbed : Undisturbed zone midnight) :
    DayCovered zone midnight (bucket_times timestamp midnight) := by
  obtain ⟨jump, once⟩ := zone.exists_setAt midnight
  have forward := undisturbed.forward jump
  have back := undisturbed.back jump
  rw [TIME_BUCKET_SIZE] at forward
  by_cases past : max (zone.reached jump) (zone.wall jump) ≤ midnight
  · -- The clocks are set before any time of the day.
    refine covered_of_uniform (zone.offset jump) ?_ ?_
    · intro i inside
      rw [bucket_time converts once inside, if_neg (by omega)]
    · intro u low high
      have value := once.offset_of_wall low high
      unfold Zone.reached Zone.wall at *
      split at value <;> omega
  · refine covered_of_uniform (zone.offset (jump - 1)) ?_ ?_
    · intro i inside
      rw [bucket_time converts once inside]
      split
      · rfl
      · unfold Zone.reached Zone.wall at *
        omega
    · intro u low high
      have value := once.offset_of_wall low high
      unfold Zone.reached Zone.wall at *
      split at value <;> omega

/-- Clocks set forward between two bucket times leave two buckets that overlap
    or change their order. -/
theorem overlap_of_forward (converts : Converts zone timestamp)
    (covers : DayCovered zone midnight (bucket_times timestamp midnight)) (skips : zone.reached jump < zone.wall jump)
    (late : midnight < zone.wall jump) : midnight + 86400 - TIME_BUCKET_SIZE < zone.wall jump := by
  obtain ⟨increasing, covered⟩ := dayCovered_iff.mp covers
  by_contra early
  rw [TIME_BUCKET_SIZE] at *
  have once : zone.SetAt midnight jump := Zone.setAt_of_shown (by omega) (by omega) (by omega)
  obtain ⟨k, index⟩ := Int.eq_ofNat_of_zero_le (show 0 ≤ (zone.wall jump - midnight - 1) / 300 by omega)
  have earlier := bucket_time converts once (show k < 288 by omega)
  have later := bucket_time converts once (show k + 1 < 288 by omega)
  rw [if_pos (by omega)] at earlier
  rw [if_neg (by push_cast; omega)] at later
  have order := bucket_times_lt increasing (show k < k + 1 by omega) (by omega)
  have day : zone.wall (timestamp (midnight + 300 * (k + 1 : ℕ))) = midnight + 300 * (k + 1 : ℕ) := by
    rw [later]
    exact once.wall_after (by omega) (by omega) (by omega)
  -- The second of the two buckets begins within the first.
  have alone := (covered (timestamp (midnight + 300 * (k + 1 : ℕ))) (by omega) (by omega)).unique
    ⟨mem_bucket_times.mpr ⟨k, by omega, rfl⟩, order.le, by unfold Zone.reached Zone.wall at *; omega⟩
    ⟨mem_bucket_times.mpr ⟨k + 1, by omega, rfl⟩, le_rfl, by omega⟩
  omega

theorem forward_of_covered (converts : Converts zone timestamp)
    (covers : DayCovered zone midnight (bucket_times timestamp midnight))
    (skips : zone.reached jump < zone.wall jump) : zone.wall jump ≤ midnight ∨
      midnight + 86400 ≤ zone.wall jump ∨
      (midnight + 86400 - TIME_BUCKET_SIZE < zone.wall jump ∧ midnight ≤ zone.reached jump) := by
  by_contra disturbs
  have last := overlap_of_forward converts covers skips (by omega)
  rw [TIME_BUCKET_SIZE] at *
  have once : zone.SetAt midnight jump := Zone.setAt_of_shown (by omega) (by omega) (by omega)
  -- The clocks were set before midnight, to a time that no bucket begins after.
  obtain ⟨t, ⟨member, below, _⟩, _⟩ := (dayCovered_iff.mp covers).2 jump (by omega) (by omega)
  obtain ⟨i, inside, rfl⟩ := mem_bucket_times.mp member
  rw [bucket_time converts once inside, if_pos (by omega)] at below
  unfold Zone.reached at *
  omega

/-- Clocks set back to a time of the day leave instants in no bucket. -/
theorem back_of_covered (converts : Converts zone timestamp)
    (covers : DayCovered zone midnight (bucket_times timestamp midnight))
    (repeats : zone.wall jump < zone.reached jump) :
    zone.reached jump ≤ midnight ∨ midnight + 86400 ≤ zone.wall jump := by
  by_contra disturbs
  have once : zone.SetAt midnight jump := Zone.setAt_of_shown (by omega) (by omega) (by omega)
  -- The last bucket time that is read with the offset before the jump.
  obtain ⟨k, inside, early, next⟩ : ∃ k : ℕ, k < 288 ∧ midnight + 300 * k < zone.reached jump ∧
      (k = 287 ∨ zone.reached jump ≤ midnight + 300 * (k + 1)) := by
    obtain ⟨k, index⟩ := Int.eq_ofNat_of_zero_le (show 0 ≤ min 287 ((zone.reached jump - midnight - 1) / 300) by omega)
    exact ⟨k, by omega, by omega, by omega⟩
  have day : zone.wall (midnight + 300 * (k + 1) - 1 - zone.offset jump) = midnight + 300 * (k + 1) - 1 :=
    once.wall_after (by omega) (by omega) (by omega)
  obtain ⟨t, ⟨member, below, above⟩, _⟩ := (dayCovered_iff.mp covers).2 _ (by rw [day]; omega) (by rw [day]; omega)
  obtain ⟨i, within, rfl⟩ := mem_bucket_times.mp member
  rw [bucket_time converts once within] at below above
  rw [TIME_BUCKET_SIZE] at above
  unfold Zone.reached Zone.wall at *
  split at below <;> omega

/-- The buckets of a date are in order and cover its day just when the clocks
    are not set to a time of it, or into its last five minutes. -/
theorem blank_day_covered_iff (converts : Converts zone timestamp) {clock : Nat → Nat → PyFloat} {date : Date}
    {machines : List Int} {schedule : Schedule}
    (made : generate_blank_schedule timestamp clock date machines = .ok schedule) :
    ∃ midnight, strptime date = .ok midnight ∧
      (DayCovered zone midnight (timestamps schedule) ↔ Undisturbed zone midnight) := by
  obtain ⟨midnight, starts, times⟩ := timestamps_blank made
  refine ⟨midnight, starts, ?_⟩
  rw [times]
  constructor
  · intro covers
    exact ⟨fun jump => forward_of_covered converts covers, fun jump => back_of_covered converts covers⟩
  · exact undisturbed_covers converts

end

/-- From an hour to two hours before UTC on 2024-03-31 at 01:00 UTC. -/
def spring : Zone := .once 1711846800 3600 7200 (by decide)

def spring_timestamp : ℤ → ℤ := once_timestamp 1711846800 3600 7200

def springDay (day : Nat) : Schedule :=
  match generate_blank_schedule spring_timestamp (fun _ _ => .nan) ⟨2024, 3, day⟩ MACHINE_ID_LIST with
  | .ok schedule => schedule
  | .error _ => []

theorem springDay_made (day : Nat) {midnight : ℤ} (starts : strptime ⟨2024, 3, day⟩ = .ok midnight) :
    generate_blank_schedule spring_timestamp (fun _ _ => .nan) ⟨2024, 3, day⟩ MACHINE_ID_LIST =
      .ok (springDay day) := by
  unfold springDay generate_blank_schedule
  rw [starts]
  rfl

theorem day_before_spring_covered : ∃ midnight, strptime ⟨2024, 3, 30⟩ = .ok midnight ∧
    (DayCovered spring midnight (timestamps (springDay 30)) ↔ Undisturbed spring midnight) :=
  blank_day_covered_iff (once_converts (by decide))
    (springDay_made 30 (show strptime ⟨2024, 3, 30⟩ = .ok 1711756800 by decide))

/-- The hour from 02:00 is skipped, and the buckets of 02:00 and 03:00 get the
    same timestamp. -/
theorem skipped_hour_repeated :
    ¬ ∀ (zone : Zone) (timestamp : ℤ → ℤ), Converts zone timestamp →
      ∀ (clock : Nat → Nat → PyFloat) (date : Date) (machines : List Int) (midnight : ℤ) (schedule : Schedule),
        strptime date = .ok midnight → generate_blank_schedule timestamp clock date machines = .ok schedule →
        DayCovered zone midnight (timestamps schedule) := by
  intro claim
  have starts : strptime ⟨2024, 3, 31⟩ = .ok 1711843200 := by decide
  have made := springDay_made 31 starts
  obtain ⟨midnight, starts', times⟩ := timestamps_blank made
  rw [starts] at starts'
  cases starts'
  have covers := claim spring spring_timestamp (once_converts (by decide)) _ _ _ _ _ starts made
  rw [times] at covers
  have order := bucket_times_lt covers.increasing (show 24 < 36 by omega) (by omega)
  exact absurd order (by decide)

end DispenserHub.DayCover
