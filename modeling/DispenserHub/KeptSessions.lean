import DispenserHub.RowShape
import Mathlib.Data.Fintype.EquivFin

/-!
Runs of `add_session_to_schedule` from a blank schedule. Later calls write
available cells only, so an accepted session is safe behind the status that was
written for it; but that status is the message's own, and a session that comes
as available leaves its cells open to the next one.
-/

namespace DispenserHub.KeptSessions
open Messages Buckets Reservation ScheduleManager RowShape

/-- One call with the readings of its clock. -/
structure Call where
  clock : ℕ → ℕ → Readings
  session : Session

abbrev Reply := Bool × Option String

def step (schedule : Schedule) (call : Call) : Reply × Schedule :=
  add_session_to_schedule call.clock call.session schedule

def session_id (call : Call) : Int := call.session.session_id

/-- A cell that an accepted session is written to. -/
def Cell (schedule : Schedule) (session : Session) (j : ℕ) (id : Int) : Prop :=
  Covers session schedule j ∧ id ∈ session.machine_id

/-- The bucket lists the machine, and every record of it there satisfies `P`. -/
def Shows (schedule : Schedule) (j : ℕ) (id : Int) (P : Machine → Prop) : Prop :=
  ∃ bucket, schedule[j]? = some bucket ∧ (∃ m ∈ bucket.machines, m.machine_id = id) ∧
    ∀ m ∈ bucket.machines, m.machine_id = id → P m

theorem Shows.mono {schedule : Schedule} {j : ℕ} {id : Int} {P Q : Machine → Prop} (weaker : ∀ m, P m → Q m)
    (shows_P : Shows schedule j id P) : Shows schedule j id Q := by
  obtain ⟨bucket, at_j, listed, all⟩ := shows_P
  exact ⟨bucket, at_j, listed, fun m member same => weaker m (all m member same)⟩

theorem unrepeated_of_shape {schedule schedule' : Schedule} (same : shape schedule' = shape schedule)
    (unrepeated : Unrepeated schedule) : Unrepeated schedule' := by
  intro bucket member
  obtain ⟨other, member', ids⟩ := row_of_shape same member
  rw [ids]
  exact unrepeated other member'

theorem covers_congr {schedule schedule' : Schedule} (same : timestamps schedule' = timestamps schedule)
    (session : Session) (j : ℕ) : Covers session schedule' j ↔ Covers session schedule j := by
  unfold Covers
  rw [find_timestamp_congr same (starts_at session.start_time)]

/-- What a call leaves in a bucket, from what it finds there. -/
theorem shows_after {session : Session} {schedule after : Schedule} {span : ℕ → Prop} {through : Prop}
    {written : ℕ → List Int} {stamp : ℕ → Int → Readings} (wrote : Wrote session schedule span through after written stamp)
    {j : ℕ} {bucket : TimeBucket} (at_j : schedule[j]? = some bucket) {id : Int} {P : Machine → Prop}
    (listed : ∃ m ∈ bucket.machines, m.machine_id = id)
    (each : ∀ m ∈ bucket.machines, m.machine_id = id → P (marked session (written j) (stamp j) m)) :
    Shows after j id P := by
  obtain ⟨m, member, same⟩ := listed
  refine ⟨{ bucket with machines := bucket.machines.map (marked session (written j) (stamp j)) }, ?_, ?_, ?_⟩
  · rw [wrote.result, written_schedule_at, at_j]
    rfl
  · exact ⟨_, List.mem_map_of_mem member, by rw [marked_machine_id, same]⟩
  · intro m' member' same'
    obtain ⟨m₀, member₀, rfl⟩ := List.mem_map.mp member'
    rw [marked_machine_id] at same'
    exact each m₀ member₀ same'

/-- A cell of an accepted session shows its identifier and its status. -/
theorem accepted_shows {clock : ℕ → ℕ → Readings} {session : Session} {schedule : Schedule}
    (unrepeated : Unrepeated schedule) (accepted : (add_session_to_schedule clock session schedule).1 = (true, none))
    {j : ℕ} {id : Int} (cell : Cell schedule session j id) :
    Shows (add_session_to_schedule clock session schedule).2 j id fun m =>
      m.session_id = some session.session_id ∧ m.status = session.status := by
  obtain ⟨covers, asked⟩ := cell
  obtain ⟨written, stamp, wrote⟩ := written_cells clock session unrepeated
  have all := wrote.complete accepted j covers
  obtain ⟨bucket, at_j, admits⟩ := accepted_admits accepted covers
  obtain ⟨m, member, same, _⟩ := (available_in_iff _ _).mp (admits.1 id asked)
  refine shows_after wrote at_j ⟨m, member, same⟩ ?_
  intro m₀ _ same'
  simp [marked, all, same', asked, session_machine]

/-- A cell that is not available is left alone by every call. -/
theorem unavailable_kept (clock : ℕ → ℕ → Readings) (session : Session) {schedule : Schedule}
    (unrepeated : Unrepeated schedule) {j : ℕ} {id : Int} {P : Machine → Prop}
    (shown : Shows schedule j id fun m => P m ∧ m.status ≠ .Available) :
    Shows (add_session_to_schedule clock session schedule).2 j id fun m => P m ∧ m.status ≠ .Available := by
  obtain ⟨written, stamp, wrote⟩ := written_cells clock session unrepeated
  obtain ⟨bucket, at_j, listed, all⟩ := shown
  refine shows_after wrote at_j listed ?_
  intro m member same
  have here := all m member same
  have unwritten : m.machine_id ∉ written j := fun marks => here.2 (wrote.free j bucket at_j m member marks)
  rw [marked, if_neg unwritten]
  exact here

/-- A session is accepted only on cells that are available. -/
theorem accepted_available {clock : ℕ → ℕ → Readings} {session : Session} {schedule : Schedule}
    (accepted : (add_session_to_schedule clock session schedule).1 = (true, none)) {j : ℕ} {id : Int}
    (cell : Cell schedule session j id) : ¬ Shows schedule j id fun m => m.status ≠ .Available := by
  rintro ⟨bucket, at_j, _, all⟩
  obtain ⟨bucket', at_j', admits⟩ := accepted_admits accepted cell.1
  rw [at_j] at at_j'
  cases at_j'
  obtain ⟨m, member, same, free⟩ := (available_in_iff _ _).mp (admits.1 id cell.2)
  exact all m member same free

/-- After further calls every cell of a session still carries its identifier,
    and none of them was granted to another session. -/
structure Keeps (blank : Schedule) (session : Session) (later : List (Call × Reply) × Schedule) : Prop where
  carried : ∀ j id, Cell blank session j id → Shows later.2 j id fun m => m.session_id = some session.session_id
  alone : ∀ entry ∈ later.1, entry.2 = (true, none) → ∀ j id, Cell blank session j id →
    ¬ Cell blank entry.1.session j id

/-- The run has kept the shape of the schedule, and a session that is not
    available still holds its cells. -/
structure Held (blank : Schedule) (session : Session) (history : List (Call × Reply)) (schedule : Schedule) : Prop where
  shaped : shape schedule = shape blank
  held : ∀ j id, Cell blank session j id → Shows schedule j id fun m =>
    m.session_id = some session.session_id ∧ m.status ≠ .Available
  alone : ∀ entry ∈ history, entry.2 = (true, none) → ∀ j id, Cell blank session j id →
    ¬ Cell blank entry.1.session j id

theorem step_held {blank : Schedule} (unrepeated : Unrepeated blank) {session : Session}
    (history : List (Call × Reply)) (schedule : Schedule) (call : Call) (held : Held blank session history schedule) :
    Held blank session (history ++ [(call, (step schedule call).1)]) (step schedule call).2 := by
  have unrepeated' := unrepeated_of_shape held.shaped unrepeated
  refine ⟨(add_session_shape call.clock call.session schedule).trans held.shaped, ?_, ?_⟩
  · intro j id cell
    exact unavailable_kept call.clock call.session unrepeated' (held.held j id cell)
  · intro entry member accepted j id cell
    rcases List.mem_append.mp member with earlier | last
    · exact held.alone entry earlier accepted j id cell
    · obtain rfl := List.mem_singleton.mp last
      intro shared
      have shared' : Cell schedule call.session j id :=
        ⟨(covers_congr (timestamps_of_shape held.shaped) call.session j).mpr shared.1, shared.2⟩
      exact accepted_available accepted shared' ((held.held j id cell).mono fun m both => both.2)

theorem run_shape (blank : Schedule) (calls : List Call) : shape (Runs.run step blank calls).2 = shape blank :=
  Runs.run_invariant step (fun _ schedule => shape schedule = shape blank) rfl
    (fun _ schedule call same => (add_session_shape call.clock call.session schedule).trans same) calls

theorem first_granted {schedule : Schedule} {call : Call} (granted : (step schedule call).1 = (true, none))
    (rest : List Call) : (call, (true, none)) ∈ (Runs.run step schedule (call :: rest)).1 := by
  rw [← granted]
  exact List.mem_cons_self

/-- The same session under another identifier is accepted right after a session
    that came as available. -/
theorem accepted_again {clock clock' : ℕ → ℕ → Readings} {session other : Session} {schedule : Schedule}
    (unrepeated : Unrepeated schedule) (accepted : (add_session_to_schedule clock session schedule).1 = (true, none))
    (open_cells : session.status = .Available) (same : other = { session with session_id := other.session_id }) :
    (add_session_to_schedule clock' other (add_session_to_schedule clock session schedule).2).1 = (true, none) := by
  have times := timestamps_of_shape (add_session_shape clock session schedule)
  obtain ⟨i, n, found, lasts, admitted⟩ := (accepted_iff clock session schedule).mp accepted
  have covers (k : ℕ) (inside : (k : Int) < n) : Covers session schedule (i + k) :=
    ⟨i, n, found, lasts, by omega, by push_cast; omega⟩
  rw [accepted_iff]
  refine ⟨i, n, ?_, by rw [same]; exact lasts, ?_⟩
  · rw [same]
    exact (find_timestamp_congr times (starts_at session.start_time)).trans found
  · intro k inside
    obtain ⟨bucket, at_k, _⟩ := admitted k inside
    have fits : i + k < (add_session_to_schedule clock session schedule).2.length := by
      rw [length_of_timestamps times]
      exact (List.getElem?_eq_some_iff.mp at_k).1
    refine ⟨_, List.getElem?_eq_getElem fits, ?_, ?_⟩
    · intro id asked
      have asked' : id ∈ session.machine_id := by rw [same] at asked; exact asked
      obtain ⟨after, at_k', ⟨m, member, named⟩, all⟩ := accepted_shows unrepeated accepted ⟨covers k inside, asked'⟩
      rw [List.getElem?_eq_getElem fits] at at_k'
      cases at_k'
      exact (available_in_iff _ _).mpr ⟨m, member, named, (all m member named).2.trans open_cells⟩
    · intro id _
      left
      rw [same]
      exact open_cells

/-- So the cells of a session that came as available can be asked for again,
    by a session that was not there before. -/
theorem open_cells_retaken {schedule : Schedule} {call : Call} (unrepeated : Unrepeated schedule)
    (accepted : (step schedule call).1 = (true, none)) (open_cells : call.session.status = .Available)
    (used : List Int) : ∃ other : Call, session_id other ∉ used ∧
      (step (step schedule call).2 other).1 = (true, none) ∧
      ∀ blank j id, Cell blank call.session j id → Cell blank other.session j id := by
  obtain ⟨fresh, unused⟩ := Infinite.exists_notMem_finset used.toFinset
  rw [List.mem_toFinset] at unused
  refine ⟨⟨call.clock, { call.session with session_id := fresh }⟩, unused, ?_, fun _ _ _ cell => cell⟩
  exact accepted_again unrepeated accepted open_cells rfl

/-- An accepted session keeps its cells through every continuation of its run
    exactly when its own status is not that of an available machine, or when it
    has no cell at all. -/
theorem accepted_keeps_cells_iff {machines : List Int} (nodup : machines.Nodup) {timestamp : Int → Int}
    {clock : Nat → Nat → PyFloat} {date : Date} {blank : Schedule}
    (made : generate_blank_schedule timestamp clock date machines = .ok blank) (earlier : List Call) (call : Call)
    (accepted : (step (Runs.run step blank earlier).2 call).1 = (true, none))
    (distinct : ((earlier ++ [call]).map session_id).Nodup) :
    (∀ later, ((earlier ++ call :: later).map session_id).Nodup →
      Keeps blank call.session (Runs.run step (step (Runs.run step blank earlier).2 call).2 later)) ↔
    call.session.status ≠ .Available ∨ ∀ j id, ¬ Cell blank call.session j id := by
  have unrepeated : Unrepeated blank := by
    intro bucket member
    rw [((generate_blank_schedule_blank made).2 bucket member).1]
    exact nodup
  have shaped := run_shape blank earlier
  have unrepeated' := unrepeated_of_shape shaped unrepeated
  have cells (j : ℕ) (id : Int) (session : Session) :
      Cell (Runs.run step blank earlier).2 session j id ↔ Cell blank session j id :=
    and_congr_left fun _ => covers_congr (timestamps_of_shape shaped) session j
  have shape_after := (add_session_shape call.clock call.session _).trans shaped
  have shows_call {j : ℕ} {id : Int} (cell : Cell blank call.session j id) :=
    accepted_shows unrepeated' accepted ((cells j id call.session).mpr cell)
  constructor
  · intro keeps
    by_contra neither
    simp only [not_or, not_not, not_forall] at neither
    obtain ⟨open_cells, j, id, cell⟩ := neither
    obtain ⟨other, unused, again, shared⟩ :=
      open_cells_retaken unrepeated' accepted open_cells ((earlier ++ [call]).map session_id)
    have distinct' : ((earlier ++ [call, other]).map session_id).Nodup := by
      rw [List.append_cons, List.map_append, List.nodup_append]
      refine ⟨distinct, by simp, ?_⟩
      intro a member b last equal
      rw [equal, List.mem_singleton.mp last] at member
      exact unused member
    have kept := keeps [other] distinct'
    exact kept.alone _ (first_granted again []) rfl j id cell (shared blank j id cell)
  · rintro (closed | none) later distinct'
    · have start : Held blank call.session [] (step (Runs.run step blank earlier).2 call).2 := by
        refine ⟨shape_after, ?_, by simp⟩
        intro j id cell
        exact (shows_call cell).mono fun m both => ⟨both.1, by rw [both.2]; exact closed⟩
      have held := Runs.run_invariant step (Held blank call.session) start
        (fun history schedule c => step_held unrepeated history schedule c) later
      exact ⟨fun j id cell => (held.held j id cell).mono fun m both => both.1, held.alone⟩
    · exact ⟨fun j id cell => absurd cell (none j id), fun _ _ _ j id cell => absurd cell (none j id)⟩

/-- Five minutes on machine 1 from midnight, at an instant when the clock reads zero. -/
def ask (session_id : Int) (status : Status) : Call where
  clock _ _ := (.finite 0, .finite 0)
  session :=
    { machine_id := [1]
      session_id := session_id
      status := status
      start_time := .finite 0
      duration := some (.int 300)
      exchange_id := none
      origin_node := none
      destination_node := none }

/-- A session that comes as reserved keeps its cell from the next one. -/
theorem reserved_session_kept :
    Keeps (blankDay [1]) (ask 7 .Reserved).session (Runs.run step
      (step (Runs.run step (blankDay [1]) [ask 6 .Available]).2 (ask 7 .Reserved)).2 [ask 8 .Available]) :=
  (accepted_keeps_cells_iff (by decide) (blankDay_made [1]) [ask 6 .Available] (ask 7 .Reserved)
    (by decide +kernel) (by decide)).mpr (.inl (by decide)) [ask 8 .Available] (by decide)

/-- The second of two sessions is granted the cell of the first, which came as
    available. -/
theorem available_session_lost :
    ¬ ∀ (machines : List Int) (timestamp : Int → Int) (clock : Nat → Nat → PyFloat) (date : Date) (blank : Schedule),
      machines.Nodup → generate_blank_schedule timestamp clock date machines = .ok blank →
      ∀ (earlier : List Call) (call : Call) (later : List Call),
        ((earlier ++ call :: later).map session_id).Nodup →
        (step (Runs.run step blank earlier).2 call).1 = (true, none) →
        Keeps blank call.session (Runs.run step (step (Runs.run step blank earlier).2 call).2 later) := by
  intro claim
  have kept := claim [1] id (fun _ _ => .finite 0) ⟨1970, 1, 1⟩ (blankDay [1]) (by decide) (blankDay_made [1])
    [] (ask 7 .Available) [ask 8 .Reserved] (by decide) (by decide +kernel)
  have first : Cell (blankDay [1]) (ask 7 .Available).session 0 1 :=
    ⟨⟨0, 1, by decide +kernel, by decide +kernel, by decide, by decide⟩, by decide⟩
  have second : Cell (blankDay [1]) (ask 8 .Reserved).session 0 1 :=
    ⟨⟨0, 1, by decide +kernel, by decide +kernel, by decide, by decide⟩, by decide⟩
  have again : (step (step (Runs.run step (blankDay [1]) []).2 (ask 7 .Available)).2 (ask 8 .Reserved)).1 =
      (true, none) := by decide +kernel
  exact kept.alone _ (first_granted again []) rfl 0 1 first second

end DispenserHub.KeptSessions
