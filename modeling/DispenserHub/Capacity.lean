import DispenserHub.ClearSlots
import Mathlib.Algebra.Order.BigOperators.Group.List

/-!
The sessions granted on a date that starts blank take their buckets of each of
their machines, and the buffer after them. Together they cannot take more than
the day has, and sessions of a second can take all of it.
-/

namespace DispenserHub.Capacity
open Messages Buckets FileIo Effects MasterSchedule Availability Reservation Occupancy Booking ClearSlots Grid

/-- The time buckets a granted session takes. -/
def buckets_of (session : Session) : ℕ :=
  match session.duration with
  | some (.int d) => (num_buckets d).toNat
  | _ => 0

section
variable {site : Site} {blank : Schedule} {machines : List Int} {date : Date}

theorem buckets_of_occupies {session : Session} {i k : ℕ} (occupies : Occupies blank session i k) :
    buckets_of session = k := by
  obtain ⟨d, lasts, _, rfl⟩ := occupies
  rw [buckets_of, lasts]

/-- The sessions a run grants a machine, with `BUFFER_SIZE` buckets after each,
    fit into the buckets of the day and one buffer; they are 72 at most. -/
theorem granted_packed (exact : MatchedRange site) (long : blank.length = 288) (isBlank : Blank machines blank) {w : World}
    (start : w.master_schedule date = some blank) (calls : List Call) {id : Int} (listed : id ∈ machines) :
    let booked := (granted site date (Runs.run (step site) w calls).1).filter (id ∈ ·.machine_ids)
    (booked.map fun s => buckets_of s + BUFFER_SIZE).sum ≤ 288 + BUFFER_SIZE ∧ booked.length ≤ 72 := by
  intro booked
  obtain ⟨calendar, schedule, _, represents, owners⟩ := run_booked exact isBlank start calls
  let held := calendar.bookings.filter (id ∈ ·.owner.machine_ids)
  have of_held : held.map Booking.owner = booked := by
    show (calendar.bookings.filter _).map _ = (granted _ _ _).filter _
    rw [← owners, List.filter_map]
    rfl
  have spans (b : Occupancy.Booking Int Session) (member : b ∈ held) :
      Occupies blank b.owner b.start b.length ∧ b.stop ≤ schedule.length ∧ id ∈ b.resources := by
    obtain ⟨booked, wanted⟩ := List.mem_filter.mp member
    obtain ⟨occupies, ends, resources⟩ := represents.spans b booked
    refine ⟨occupies, ends, ?_⟩
    rw [resources]
    exact ⟨listed, by simpa using wanted⟩
  have apart : held.Pairwise (Apart BUFFER_SIZE) :=
    (calendar.apart.sublist List.filter_sublist).imp_of_mem fun {a b} memberA memberB apart =>
      apart ⟨id, (spans a memberA).2.2, (spans b memberB).2.2⟩
  have sum := packed apart fun b member => (spans b member).2.1
  rw [length_of_timestamps represents.times, long] at sum
  have same : booked.map (fun s => buckets_of s + BUFFER_SIZE) = held.map fun b => b.length + BUFFER_SIZE := by
    rw [← of_held, List.map_map]
    refine List.map_congr_left ?_
    intro b member
    exact congrArg (· + BUFFER_SIZE) (buckets_of_occupies (spans b member).1)
  refine ⟨by rw [same]; exact sum, ?_⟩
  -- A session takes one bucket at least and its buffer three.
  have least : booked.length * 4 ≤ (booked.map fun s => buckets_of s + BUFFER_SIZE).sum := by
    have each : ∀ taken ∈ held.map (fun b => b.length + BUFFER_SIZE), 4 ≤ taken := by
      intro taken member
      obtain ⟨b, _, rfl⟩ := List.mem_map.mp member
      have := b.nonempty
      unfold BUFFER_SIZE
      omega
    have bound := List.card_nsmul_le_sum _ 4 each
    rwa [List.length_map, ← List.length_map Booking.owner, of_held, ← same] at bound
  rw [same] at least
  unfold BUFFER_SIZE at sum least
  omega

/-- A request for one second of a machine from bucket `4 * n` on. -/
def second_of (blank : Schedule) (id : Int) (n : ℕ) : Call where
  env := plainEnv
  session :=
    { machine_id := [id], session_id := n, status := .Reserved
      start_time := .finite ((timestamps blank).getD (4 * n) 0), duration := some (.int 1), exchange_id := none
      origin_node := none, destination_node := none }

def seconds_of (blank : Schedule) (id : Int) (n : ℕ) : List Call := (List.range n).map (second_of blank id)

theorem second_matched (spaced : Spaced TIME_BUCKET_SIZE (timestamps blank)) (id : Int) {n : ℕ}
    (inside : 4 * n < blank.length) : start_index blank (second_of blank id n).session.start_time = some (4 * n) := by
  have at_n := List.getElem?_eq_getElem inside
  have stamp := timestamp_at at_n
  rw [show (second_of blank id n).session.start_time = .finite ((timestamps blank).getD (4 * n) 0) from rfl,
    List.getD_eq_getElem?_getD, stamp]
  exact start_index_aligned spaced at_n

theorem seconds_granted (exact : MatchedRange site) (long : blank.length = 288) (isBlank : Blank machines blank)
    (spaced : Spaced TIME_BUCKET_SIZE (timestamps blank))
    (on_date : ∀ bucket ∈ blank, site.date_of (.finite bucket.timestamp) = date) {w : World}
    (start : w.master_schedule date = some blank) (id : Int) {n : ℕ} (fits : n ≤ 72) :
    granted site date (Runs.run (step site) w (seconds_of blank id n)).1 =
      (seconds_of blank id n).map Call.session := by
  induction n with
  | zero => rfl
  | succ n ih =>
    have before := ih (by omega)
    have inside : 4 * n < blank.length := by omega
    have matched := second_matched spaced id inside
    have here : site.date_of (second_of blank id n).session.start_time = date := by
      have stamp := timestamp_at (List.getElem?_eq_getElem inside)
      rw [show (second_of blank id n).session.start_time = .finite ((timestamps blank).getD (4 * n) 0) from rfl,
        List.getD_eq_getElem?_getD, stamp]
      exact on_date _ (List.getElem_mem inside)
    have accepted := (run_granted_iff exact isBlank start (seconds_of blank id n) (second_of blank id n) here).mpr
      ⟨1, 4 * n, rfl, le_rfl, matched, by omega, ?_⟩
    · rw [seconds_of, List.range_succ, List.map_append, ← seconds_of, List.map_singleton, Runs.run_concat, granted_append,
        if_pos ⟨accepted, here⟩, before, List.map_append, List.map_singleton]
    · rw [before, seconds_of, List.map_map]
      intro s member _ i k occupies
      obtain ⟨m, earlier, rfl⟩ := List.mem_map.mp member
      rw [List.mem_range] at earlier
      have taken : Occupies blank (second_of blank id m).session (4 * m) 1 :=
        ⟨1, rfl, second_matched spaced id (by omega), rfl⟩
      obtain ⟨rfl, rfl⟩ := occupies_unique occupies taken
      left
      unfold BUFFER_SIZE
      omega

/-- However requests come, a machine is granted 72 sessions of a day at most,
    and they fit into its buckets with the buffers between them. And where the
    day's buckets follow each other evenly there are requests that get it 72. -/
theorem machine_day_packed (exact : MatchedRange site) {timestamp : Int → Int} {clock : Nat → Nat → PyFloat}
    (made : generate_blank_schedule timestamp clock date machines = .ok blank) {w : World}
    (start : w.master_schedule date = some blank) {id : Int} (listed : id ∈ machines) :
    let booked (calls : List Call) := (granted site date (Runs.run (step site) w calls).1).filter (id ∈ ·.machine_ids)
    (∀ calls, ((booked calls).map fun s => buckets_of s + BUFFER_SIZE).sum ≤ 288 + BUFFER_SIZE ∧
      (booked calls).length ≤ 72) ∧
    (Spaced TIME_BUCKET_SIZE (timestamps blank) →
      (∀ bucket ∈ blank, site.date_of (.finite bucket.timestamp) = date) → ∃ calls, (booked calls).length = 72) := by
  intro booked
  obtain ⟨long, isBlank⟩ := generate_blank_schedule_blank made
  refine ⟨fun calls => granted_packed exact long isBlank start calls listed, ?_⟩
  intro spaced on_date
  refine ⟨seconds_of blank id 72, ?_⟩
  have all : (fun s : Session => decide (id ∈ s.machine_ids)) ∘ Call.session ∘ second_of blank id = fun _ => true := by
    funext n
    simp [second_of, Session.machine_ids]
  show ((granted _ _ _).filter _).length = 72
  rw [seconds_granted exact long isBlank spaced on_date start id le_rfl, seconds_of, List.map_map, List.filter_map, all]
  simp

end

/-- Machine 1 on a blank day. -/
theorem first_machine_packed :
    let booked (calls : List Call) :=
      (granted firstDay ⟨1970, 1, 1⟩ (Runs.run (step firstDay) (worldOf (blankDay [1])) calls).1).filter (1 ∈ ·.machine_ids)
    (∀ calls, ((booked calls).map fun s => buckets_of s + BUFFER_SIZE).sum ≤ 288 + BUFFER_SIZE ∧
      (booked calls).length ≤ 72) ∧
    ∃ calls, (booked calls).length = 72 := by
  obtain ⟨bound, full⟩ := machine_day_packed firstDay_matched (blankDay_made [1]) (worldOf_loaded _)
    (show (1 : Int) ∈ [1] by decide)
  exact ⟨bound, full (Spacing.blankDay_spaced [1]) fun _ _ => rfl⟩

end DispenserHub.Capacity
