import DispenserHub.RowShape
import Mathlib.Data.Rat.Floor

/-!
What an accepted call of the archived `add_session_to_schedule` has checked and
written: the session's machines in the buckets it lasts, and nothing else.
-/

namespace DispenserHub.SessionCells
open Messages Buckets Availability ScheduleManager RowShape

/-- The time buckets of a duration: one if it is absent or zero, none if it is
    negative. -/
def bucket_count : Option Int → ℕ
  | none => 1
  | some d => if d = 0 then 1 else ⌈(d : ℚ) / 300⌉.toNat

/-- Machine `id` in bucket `j` is one of the cells of a session that lasts `k`
    buckets from bucket `i` on. -/
def Taken (session : Session) (i k j : ℕ) (id : Int) : Prop := (i ≤ j ∧ j < i + k) ∧ id ∈ session.machine_id

structure WritesCells (session : Session) (i k : ℕ) (before after : Schedule) : Prop where
  start : ∀ j, (∃ bucket, before[j]? = some bucket ∧ session.start_time = .finite bucket.timestamp) ↔ j = i
  exist : ∀ j, i ≤ j → j < i + k → j < before.length
  free : ∀ j bucket, before[j]? = some bucket → ∀ id, Taken session i k j id →
    ∃ m ∈ bucket.machines, m.machine_id = id ∧ m.status = .Available
  shape : shape after = shape before
  written : ∀ j p m, entry before j p = some m → Taken session i k j m.machine_id →
    ∃ m', entry after j p = some m' ∧ m'.machine_id = m.machine_id ∧ m'.status = session.status ∧
      m'.session_id = some session.session_id
  kept : ∀ j p m, entry before j p = some m → ¬ Taken session i k j m.machine_id → entry after j p = some m

theorem num_buckets_ceil (d : Int) : num_buckets d = ⌈(d : ℚ) / 300⌉ := by
  rw [num_buckets, TIME_BUCKET_SIZE]
  exact (Rat.ceil_intCast_div_natCast d 300).symm

theorem session_buckets_count (duration : Option Int) :
    ∃ n, session_buckets (duration.map .int) = .ok n ∧ n.toNat = bucket_count duration := by
  cases duration with
  | none => exact ⟨1, rfl, rfl⟩
  | some d =>
    by_cases zero : d = 0
    · exact ⟨1, by simp [session_buckets, truthy, zero], by simp [bucket_count, zero]⟩
    · exact ⟨num_buckets d, by simp [session_buckets, truthy, zero], by simp [bucket_count, zero, num_buckets_ceil]⟩

/-- The bucket a search for the start finds is the only one that starts there. -/
theorem start_unique {schedule : Schedule} (distinct : (timestamps schedule).Nodup) {start_time : PyFloat} {i : ℕ}
    (found : schedule.findIdx? (fun time_bucket => starts_at start_time time_bucket.timestamp) = some i) (j : ℕ) :
    (∃ bucket, schedule[j]? = some bucket ∧ start_time = .finite bucket.timestamp) ↔ j = i := by
  obtain ⟨inside, here, _⟩ := List.findIdx?_eq_some_iff_getElem.mp found
  have at_i : schedule[i]? = some schedule[i] := List.getElem?_eq_getElem inside
  have start : start_time = .finite schedule[i].timestamp := by
    cases start_time with
    | finite start => simpa [starts_at, eq_comm] using here
    | inf negative => cases here
    | nan => cases here
  constructor
  · rintro ⟨bucket, at_j, equal⟩
    rw [start, PyFloat.finite.injEq, Int.cast_inj] at equal
    have timed := timestamp_at at_j
    rw [← equal, ← timestamp_at at_i] at timed
    have within : j < (timestamps schedule).length := by
      simpa [timestamps] using (List.getElem?_eq_some_iff.mp at_j).1
    exact (List.getElem?_inj within distinct).mp timed
  · rintro rfl
    exact ⟨schedule[j], at_i, start⟩

theorem entry_written_schedule (session : Session) (written : ℕ → List Int) (stamp : ℕ → Int → Readings)
    (schedule : Schedule) (j p : ℕ) :
    entry (written_schedule session written stamp schedule) j p =
      (entry schedule j p).map (marked session (written j) (stamp j)) := by
  unfold entry
  rw [written_schedule_at]
  cases schedule[j]? <;> simp

/-- An accepted session of an integer or absent duration has taken its cells,
    each available before, and left everything else as it was. -/
theorem accepted_writes_cells (clock : ℕ → ℕ → Readings) (session : Session) {schedule : Schedule}
    (distinct : (timestamps schedule).Nodup) (unrepeated : Unrepeated schedule) {duration : Option Int}
    (lasts : session.duration = duration.map .int)
    (accepted : (add_session_to_schedule clock session schedule).1 = (true, none)) :
    ∃ i, WritesCells session i (bucket_count duration) schedule (add_session_to_schedule clock session schedule).2 := by
  obtain ⟨n, buckets, count⟩ := session_buckets_count duration
  rw [← lasts] at buckets
  obtain ⟨i, _, found, _⟩ := (accepted_iff clock session schedule).mp accepted
  obtain ⟨written, stamp, wrote⟩ := written_cells clock session unrepeated
  have covers (j : ℕ) : Covers session schedule j ↔ i ≤ j ∧ j < i + bucket_count duration := by
    rw [covers_iff found buckets, List.mem_range'_1, count]
  have marks (j : ℕ) (id : Int) : id ∈ written j ↔ Taken session i (bucket_count duration) j id := by
    rw [Taken, ← covers]
    constructor
    · intro marked
      exact ⟨wrote.covered j (List.ne_nil_of_mem marked), wrote.asked j marked⟩
    · rintro ⟨inside, asked⟩
      rw [wrote.complete accepted j inside]
      exact asked
  refine ⟨i, start_unique distinct found, ?_, ?_, add_session_shape clock session schedule, ?_, ?_⟩
  · intro j first last
    obtain ⟨bucket, at_j, _⟩ := accepted_admits accepted ((covers j).mpr ⟨first, last⟩)
    exact (List.getElem?_eq_some_iff.mp at_j).1
  · rintro j bucket at_j id ⟨inside, asked⟩
    obtain ⟨bucket', at_j', admits⟩ := accepted_admits accepted ((covers j).mpr inside)
    rw [at_j] at at_j'
    cases at_j'
    exact (available_in_iff _ _).mp (admits.1 id asked)
  · intro j p m before taken
    refine ⟨session_machine session (stamp j m.machine_id) m.machine_id, ?_, rfl, rfl, rfl⟩
    rw [wrote.result, entry_written_schedule, before, Option.map_some, marked, if_pos ((marks j _).mpr taken)]
  · intro j p m before free
    rw [wrote.result, entry_written_schedule, before, Option.map_some, marked, if_neg (mt (marks j _).mp free)]

def untimedSession : Session where
  machine_id := [1, 1]
  session_id := 7
  status := .Available
  start_time := .finite 300
  duration := none
  exchange_id := none
  origin_node := none
  destination_node := none

theorem untimed_writes_cell : ∃ i, WritesCells untimedSession i 1 (openDay 2)
    (add_session_to_schedule (fun _ _ => (.nan, .nan)) untimedSession (openDay 2)).2 :=
  accepted_writes_cells _ _ (by decide) (by unfold Unrepeated; decide) 
    (show untimedSession.duration = Option.map .int none from rfl) (by decide +kernel)

end DispenserHub.SessionCells
