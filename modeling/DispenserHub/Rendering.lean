import DispenserHub.Booking

/-!
After any run of `add_session` calls the schedule of a date that starts blank is
the blank one with the granted sessions drawn into it. Every cell is asked for
by one of them at most, so it does not matter in which order they came.
-/

namespace DispenserHub.Rendering
open Messages Buckets FileIo Effects MasterSchedule Availability Reservation Booking Grid

/-- The call asks for a machine in bucket `j`. -/
def asks_for (blank : Schedule) (j : ℕ) (id : Int) (call : Call) : Bool :=
  decide (id ∈ call.session.machine_ids) &&
    match call.session.duration, start_index blank call.session.start_time with
    | some (.int d), some i => decide (i ≤ j ∧ j < i + (num_buckets d).toNat)
    | _, _ => false

def drawn_machine (blank : Schedule) (calls : List Call) (j k : ℕ) (machine : Machine) : Machine :=
  match calls.find? (asks_for blank j machine.machine_id) with
  | some call => reserved call.session (call.env.clock j (1 + k)) machine
  | none => machine

def drawn_bucket (blank : Schedule) (calls : List Call) (j : ℕ) (bucket : TimeBucket) : TimeBucket :=
  { bucket with machines := bucket.machines.mapIdx (drawn_machine blank calls j) }

def drawn (blank : Schedule) (calls : List Call) : Schedule := blank.mapIdx (drawn_bucket blank calls)

section
variable {blank : Schedule} {calls : List Call}

theorem asks_for_iff (j : ℕ) (id : Int) {call : Call} {d : Int} {i : ℕ} (lasts : call.session.duration = some (.int d))
    (matched : start_index blank call.session.start_time = some i) :
    asks_for blank j id call = true ↔ j ∈ List.range' i (num_buckets d).toNat ∧ id ∈ call.session.machine_ids := by
  simp [asks_for, lasts, matched, and_comm]

theorem asked_listed {j : ℕ} {id : Int} {call : Call} (asked : asks_for blank j id call = true) :
    id ∈ call.session.machine_ids := by
  unfold asks_for at asked
  rw [Bool.and_eq_true, decide_eq_true_eq] at asked
  exact asked.1

theorem drawn_at (blank : Schedule) (calls : List Call) (j : ℕ) :
    (drawn blank calls)[j]? = blank[j]?.map (drawn_bucket blank calls j) := by
  simp [drawn]

@[simp] theorem drawn_machine_id (blank : Schedule) (calls : List Call) (j k : ℕ) (machine : Machine) :
    (drawn_machine blank calls j k machine).machine_id = machine.machine_id := by
  unfold drawn_machine
  split
  · exact reserved_machine_id _ _ _
  · rfl

theorem timestamps_drawn (blank : Schedule) (calls : List Call) : timestamps (drawn blank calls) = timestamps blank := by
  apply List.ext_getElem?
  intro j
  simp only [timestamps, List.getElem?_map, drawn_at, Option.map_map]
  rfl

theorem drawn_nil (blank : Schedule) : drawn blank [] = blank := by
  apply List.ext_getElem?
  intro j
  rw [drawn_at]
  cases blank[j]? with
  | none => rfl
  | some bucket =>
    have same : bucket.machines.mapIdx (drawn_machine blank [] j) = bucket.machines := by
      apply List.ext_getElem (by simp)
      intro k _ _
      simp [drawn_machine]
    simp only [Option.map_some, drawn_bucket, same]

/-- The first hit of a search that has one at most does not depend on the order. -/
theorem find_of_perm {α : Type} {p : α → Bool} {l l' : List α} (once : (l.filter p).length ≤ 1) (perm : l'.Perm l) :
    l'.find? p = l.find? p := by
  have same := perm.filter p
  rw [← List.head?_filter, ← List.head?_filter]
  rcases hits : l.filter p with _ | ⟨hit, _ | ⟨other, rest⟩⟩
  · rw [hits] at same
    rw [same.eq_nil]
  · rw [hits] at same
    rw [List.perm_singleton.mp same]
  · simp [hits] at once

/-- The sessions are free of each other: a cell is asked for by one at most. -/
def Exclusive (blank : Schedule) (machines : List Int) (calls : List Call) : Prop :=
  ∀ j < blank.length, ∀ id ∈ machines, (calls.filter (asks_for blank j id)).length ≤ 1

/-- The order in which such sessions are drawn does not matter. -/
theorem drawn_perm {machines : List Int} (isBlank : Blank machines blank) (exclusive : Exclusive blank machines calls)
    {order : List Call} (perm : order.Perm calls) : drawn blank order = drawn blank calls := by
  apply List.ext_getElem?
  intro j
  rw [drawn_at, drawn_at]
  refine Option.map_congr ?_
  intro bucket at_j
  obtain ⟨inside, _⟩ := List.getElem?_eq_some_iff.mp at_j
  have row := (isBlank bucket (List.mem_of_getElem? at_j)).1
  unfold drawn_bucket
  congr 1
  apply List.ext_getElem (by simp)
  intro k _ here
  rw [List.length_mapIdx] at here
  have listed : bucket.machines[k].machine_id ∈ machines := by
    rw [← row]
    exact List.mem_map_of_mem (List.getElem_mem here)
  have found := find_of_perm (exclusive j inside _ listed) perm
  simp only [List.getElem_mapIdx, drawn_machine, found]

end

section
variable {blank : Schedule} {machines : List Int} {calls : List Call} {call : Call} {d : Int} {i : ℕ}

/-- A cell that is free in the drawn schedule is asked for by none of its sessions. -/
theorem free_unasked {j k : ℕ} {bucket : TimeBucket} (at_j : blank[j]? = some bucket) (inside : k < bucket.machines.length)
    (free : Free call.session.machine_ids (drawn blank calls) j)
    (asked : bucket.machines[k].machine_id ∈ call.session.machine_ids) :
    calls.find? (asks_for blank j bucket.machines[k].machine_id) = none := by
  by_contra taken
  obtain ⟨old, found⟩ := Option.ne_none_iff_exists'.mp taken
  have wanted := asked_listed (List.find?_some found)
  have here : (drawn blank calls)[j]? = some (drawn_bucket blank calls j bucket) := by rw [drawn_at, at_j, Option.map_some]
  have member : drawn_machine blank calls j k bucket.machines[k] ∈ (drawn_bucket blank calls j bucket).machines :=
    List.mem_mapIdx.mpr ⟨k, inside, rfl⟩
  have available := free _ here _ member (by rw [drawn_machine_id]; exact asked)
  rw [drawn_machine, found] at available
  simp [reserved, wanted] at available

/-- Reserving the buckets of a session, free in the drawn schedule, draws it too. -/
theorem reserved_drawn (lasts : call.session.duration = some (.int d))
    (matched : start_index blank call.session.start_time = some i)
    (free : ∀ j ∈ List.range' i (num_buckets d).toNat, Free call.session.machine_ids (drawn blank calls) j) :
    reserved_schedule call.env call.session (List.range' i (num_buckets d).toNat) (drawn blank calls) =
      drawn blank (calls ++ [call]) := by
  apply List.ext_getElem?
  intro j
  rw [reserved_schedule_at, drawn_at, drawn_at, Option.map_map]
  refine Option.map_congr ?_
  intro bucket at_j
  have asks (id : Int) := asks_for_iff j id lasts matched
  by_cases covered : j ∈ List.range' i (num_buckets d).toNat
  · simp only [Function.comp, covered, if_true, reserved_bucket, drawn_bucket]
    congr 1
    apply List.ext_getElem (by simp)
    intro k _ inside
    rw [List.length_mapIdx] at inside
    simp only [List.getElem_mapIdx]
    by_cases wanted : bucket.machines[k].machine_id ∈ call.session.machine_ids
    · have unasked := free_unasked at_j inside (free j covered) wanted
      have now : asks_for blank j bucket.machines[k].machine_id call = true := (asks _).mpr ⟨covered, wanted⟩
      simp [drawn_machine, unasked, now]
    · have not_now : ¬ asks_for blank j bucket.machines[k].machine_id call = true := fun now => wanted ((asks _).mp now).2
      have left : reserved call.session (call.env.clock j (1 + k)) (drawn_machine blank calls j k bucket.machines[k]) =
          drawn_machine blank calls j k bucket.machines[k] := by
        rw [reserved, drawn_machine_id, if_neg wanted]
      rw [left]
      simp [drawn_machine, not_now]
  · simp only [Function.comp, covered, if_false, drawn_bucket]
    congr 1
    apply List.ext_getElem (by simp)
    intro k _ inside
    rw [List.length_mapIdx] at inside
    have not_now : ¬ asks_for blank j bucket.machines[k].machine_id call = true := fun now => covered ((asks _).mp now).1
    simp [drawn_machine, not_now]

theorem exclusive_append (isBlank : Blank machines blank) (exclusive : Exclusive blank machines calls)
    (lasts : call.session.duration = some (.int d)) (matched : start_index blank call.session.start_time = some i)
    (free : ∀ j ∈ List.range' i (num_buckets d).toNat, Free call.session.machine_ids (drawn blank calls) j) :
    Exclusive blank machines (calls ++ [call]) := by
  intro j inside id listed
  rw [List.filter_append, List.length_append]
  by_cases now : asks_for blank j id call = true
  · obtain ⟨covered, wanted⟩ := (asks_for_iff j id lasts matched).mp now
    have at_j := List.getElem?_eq_getElem inside
    rw [← (isBlank _ (List.getElem_mem inside)).1] at listed
    obtain ⟨m, member, rfl⟩ := List.mem_map.mp listed
    obtain ⟨k, here, rfl⟩ := List.mem_iff_getElem.mp member
    have unasked := free_unasked at_j here (free j covered) wanted
    rw [List.find?_eq_none] at unasked
    rw [List.filter_eq_nil_iff.mpr unasked]
    simp [now]
  · simpa [now] using exclusive j inside id listed

end

section
variable {site : Site} {blank : Schedule} {machines : List Int} {date : Date}

/-- What holds after a run. -/
structure Drawn (site : Site) (blank : Schedule) (machines : List Int) (date : Date)
    (history : List (Call × Except PyError Bool)) (w : World) : Prop where
  exclusive : Exclusive blank machines (granted_calls site date history)
  drawn : w.master_schedule date = some (drawn blank (granted_calls site date history))

theorem step_drawn (exact : MatchedRange site) (isBlank : Blank machines blank)
    (history : List (Call × Except PyError Bool)) (w : World) (call : Call)
    (before : Drawn site blank machines date history w) :
    Drawn site blank machines date (history ++ [(call, (step site w call).1)]) (step site w call).2 := by
  obtain ⟨exclusive, loaded⟩ := before
  rcases add_session_cases site call.env exact.inRange call.session w with ⟨refused, looked⟩ | ⟨accepted, grant⟩
  · have nothing : ¬ ((step site w call).1 = .ok true ∧ site.date_of call.session.start_time = date) :=
      fun granted => refused granted.1
    refine ⟨?_, ?_⟩ <;> rw [granted_calls_append, if_neg nothing, List.append_nil]
    · exact exclusive
    · exact looked.keeps loaded
  · obtain ⟨found_schedule, d, found, lasts, passed, filled, result⟩ := grant
    have after : (step site w call).2 = _ := result
    by_cases here : site.date_of call.session.start_time = date
    · rw [here, scheduleOf_loaded call.env loaded] at found
      cases found
      obtain ⟨i, matched, _, free⟩ := (check_availability_iff _ _ _ _).mp passed
      have lasting := (exact.filled_iff lasts matched).mp filled
      rw [exact.range lasts matched] at after
      have within (j : ℕ) (covered : j ∈ List.range' i (num_buckets d).toNat) :
          Free call.session.machine_ids (drawn blank (granted_calls site date history)) j := by
        have bounds := num_buckets_bounds lasting
        rw [List.mem_range'_1] at covered
        exact free j (.inl (by omega))
      rw [start_index_congr (timestamps_drawn _ _)] at matched
      refine ⟨?_, ?_⟩ <;> rw [granted_calls_append, if_pos ⟨accepted, here⟩]
      · exact exclusive_append isBlank exclusive lasts matched within
      · rw [after, here, updated_same, reserved_drawn lasts matched within]
    · have elsewhere : ¬ ((step site w call).1 = .ok true ∧ site.date_of call.session.start_time = date) :=
        fun granted => here granted.2
      refine ⟨?_, ?_⟩ <;> rw [granted_calls_append, if_neg elsewhere, List.append_nil]
      · exact exclusive
      · rw [after, updated_other _ (Ne.symm here), loaded]

theorem run_ends_drawn (exact : MatchedRange site) (isBlank : Blank machines blank) {w : World}
    (start : w.master_schedule date = some blank) (calls : List Call) :
    Drawn site blank machines date (Runs.run (step site) w calls).1 (Runs.run (step site) w calls).2 :=
  Runs.run_invariant (step site) (Drawn site blank machines date)
    ⟨fun j _ id _ => by simp [granted_calls], by rw [start]; exact congrArg some (drawn_nil blank).symm⟩
    (step_drawn exact isBlank) calls

/-- On a date that starts blank each cell is asked for by one granted session at
    most, and the schedule is the blank one with the granted sessions drawn into
    it, in whatever order. -/
theorem run_drawn (exact : MatchedRange site) {timestamp : Int → Int} {clock : Nat → Nat → PyFloat}
    (made : generate_blank_schedule timestamp clock date machines = .ok blank) {w : World}
    (start : w.master_schedule date = some blank) (calls : List Call) :
    Exclusive blank machines (granted_calls site date (Runs.run (step site) w calls).1) ∧
      ∀ order, order.Perm (granted_calls site date (Runs.run (step site) w calls).1) →
        (Runs.run (step site) w calls).2.master_schedule date = some (drawn blank order) := by
  have isBlank := (generate_blank_schedule_blank made).2
  have ends := run_ends_drawn exact isBlank start calls
  refine ⟨ends.exclusive, ?_⟩
  intro order perm
  rw [drawn_perm isBlank ends.exclusive perm]
  exact ends.drawn

end

/-- Two granted requests, drawn the later one first. -/
theorem two_requests_drawn :
    (Runs.run (step firstDay) (worldOf (blankDay [1])) [request 7 149 10, request 8 1051 10]).2.master_schedule
        ⟨1970, 1, 1⟩ =
      some (drawn (blankDay [1]) (granted_calls firstDay ⟨1970, 1, 1⟩
        (Runs.run (step firstDay) (worldOf (blankDay [1])) [request 7 149 10, request 8 1051 10]).1).reverse) :=
  (run_drawn firstDay_matched (blankDay_made [1]) (worldOf_loaded _) [request 7 149 10, request 8 1051 10]).2 _
    (List.reverse_perm _)

end DispenserHub.Rendering
