import DispenserHub.Monitoring
import DispenserHub.Wire

/-!
The archived handler publishes its updates on the topic it subscribes to. Its
iterations and its hearing of them interleave; each update it hears it stores in
every bucket of the day.
-/

namespace DispenserHub.ClosedLoop
open Messages Buckets MachineHandler Monitoring Mirror Wire

/-- The updates published on the handler's own topic, in order. -/
def internal (handler : Handler) : List Machine :=
  (handler.published.filter fun p => p.1 = .HANDLER_TOPIC_INTERNAL).map Prod.snd

/-- What was published to the machines. -/
def forwards (handler : Handler) : List (Topic × Machine) :=
  handler.published.filter fun p => p.1 ≠ .HANDLER_TOPIC_INTERNAL

/-- The broker hands the node what it published on its own topic, in order; so
    many of these updates it has heard. -/
structure Loop where
  handler : Handler
  delivered : ℕ

/-- An iteration of the loop, or the next update heard at a time, whose last
    publication may fail. -/
inductive Event where
  | tick (tick : Tick)
  | deliver (now : ℚ) (forwarded : Bool)

def step (date_of : ℚ → Date) (loop : Loop) : Event → Unit × Loop
  | .tick tick => ((), { loop with handler := monitor_active_time_bucket date_of tick loop.handler })
  | .deliver now forwarded =>
    match (internal loop.handler)[loop.delivered]? with
    | none => ((), loop)
    | some machine =>
      ((), { handler := incoming_message_processor_internal (MACHINE.parse .broker (.finite now)) (date_of now)
               forwarded (MACHINE.fields .broker machine) loop.handler
             delivered := loop.delivered + 1 })

/-- Machines as they are sent, each with its exchange id. -/
def stamped (exchange_id : ℕ → Int) (machines : List Machine) : List Machine :=
  machines.mapIdx fun k machine => { machine with exchange_id := some (exchange_id k) }

theorem stamped_ids (exchange_id : ℕ → Int) (machines : List Machine) :
    (stamped exchange_id machines).map Machine.machine_id = machines.map Machine.machine_id := by
  apply List.ext_getElem <;> simp [stamped]

theorem mem_stamped {exchange_id : ℕ → Int} {machines : List Machine} {m : Machine}
    (member : m ∈ stamped exchange_id machines) :
    ∃ m₀ ∈ machines, ∃ id, m = { m₀ with exchange_id := some id } := by
  obtain ⟨k, inside, rfl⟩ := List.mem_mapIdx.mp member
  exact ⟨machines[k], List.getElem_mem inside, exchange_id k, rfl⟩

theorem updates_published (exchange_id : ℕ → Int) (machines : List Machine) (handler : Handler) :
    (send_machine_updates exchange_id machines handler).published =
      handler.published ++ (stamped exchange_id machines).map fun m => (.HANDLER_TOPIC_INTERNAL, m) := by
  simp only [send_machine_updates, stamped, List.append_cancel_left_eq]
  apply List.ext_getElem <;> simp

theorem internal_append {handler after : Handler} {batch : List Machine}
    (published : after.published = handler.published ++ batch.map fun m => (.HANDLER_TOPIC_INTERNAL, m)) :
    internal after = internal handler ++ batch := by
  simp only [internal, published, List.filter_append, List.map_append, List.append_cancel_left_eq]
  clear published
  induction batch with
  | nil => rfl
  | cons m rest ih => simpa using ih

theorem forwards_append {handler after : Handler} {batch : List Machine}
    (published : after.published = handler.published ++ batch.map fun m => (.HANDLER_TOPIC_INTERNAL, m)) :
    forwards after = forwards handler := by
  simp [forwards, published, List.filter_append]

theorem item_mem {schedule : Schedule} {index : Int} {bucket : TimeBucket}
    (found : item schedule index = some bucket) : bucket ∈ schedule := by
  unfold item at found
  split at found
  · exact List.mem_of_getElem? found
  · split at found
    · exact List.mem_of_getElem? found
    · cases found

theorem changed_subset (current previous : List Machine) : changed_machines current previous ⊆ current := by
  intro m member
  obtain ⟨pair, both, rfl⟩ := List.mem_map.mp member
  exact (List.of_mem_zip (List.mem_of_mem_filter both)).1

/-- What an update of the active bucket publishes are records of the schedule. -/
theorem update_publishes {exchange_id : ℕ → Int} {schedule : Schedule} {handler after : Handler}
    (updated : update_active_time_bucket exchange_id schedule handler = some after) :
    ∃ sends, after.published =
        handler.published ++ (stamped exchange_id sends).map (fun m => (.HANDLER_TOPIC_INTERNAL, m)) ∧
      ∀ m ∈ sends, ∃ bucket ∈ schedule, m ∈ bucket.machines := by
  by_cases fresh : handler.previous_time_bucket_index = -1
  · simp only [update_active_time_bucket, fresh, if_true, Option.bind_eq_bind, Option.bind_eq_some_iff,
      Option.pure_def, Option.some.injEq] at updated
    obtain ⟨first, found, rfl⟩ := updated
    exact ⟨first.machines, updates_published exchange_id _ handler, fun m member => ⟨first, item_mem found, member⟩⟩
  · simp only [update_active_time_bucket, fresh, if_false, Option.bind_eq_bind, Option.bind_eq_some_iff] at updated
    obtain ⟨current, found, previous, _, sends⟩ := updated
    by_cases quiet : changed_machines current.machines previous.machines = []
    · rw [if_pos quiet] at sends
      cases sends
      exact ⟨[], by simp [stamped], by simp⟩
    · rw [if_neg quiet] at sends
      cases sends
      refine ⟨_, updates_published exchange_id _ handler, ?_⟩
      intro m member
      exact ⟨current, item_mem found, changed_subset _ _ member⟩

/-- An iteration publishes records of the day's schedule, on the handler's own
    topic. -/
theorem monitor_publishes (date_of : ℚ → Date) (tick : Tick) (handler : Handler) :
    ∃ sends, (monitor_active_time_bucket date_of tick handler).published =
        handler.published ++ (stamped tick.exchange_id sends).map (fun m => (.HANDLER_TOPIC_INTERNAL, m)) ∧
      ∀ m ∈ sends, ∃ schedule bucket, handler.master_schedule (date_of tick.now) = some schedule ∧
        bucket ∈ schedule ∧ m ∈ bucket.machines := by
  unfold monitor_active_time_bucket
  cases found : handler.master_schedule (date_of tick.now) with
  | none => exact ⟨[], by simp [stamped], by simp⟩
  | some schedule =>
    dsimp only
    split
    · split
      · exact ⟨[], by simp [stamped], by simp⟩
      · next after updated =>
        obtain ⟨sends, published, listed⟩ := update_publishes updated
        refine ⟨sends, published, ?_⟩
        intro m member
        obtain ⟨bucket, inside, here⟩ := listed m member
        exact ⟨schedule, bucket, rfl, inside, here⟩
    · exact ⟨[], by simp [stamped], by simp⟩

/-- A machine whose floats are finite, which `.json()` writes so that it is read
    back. -/
def Sound (m : Machine) : Prop := (Message.machine m).Kept .broker

theorem Sound.read {m : Machine} (sound : Sound m) (now : PyFloat) :
    MACHINE.parse .broker now (MACHINE.fields .broker m) = some m :=
  (machine_read_iff .broker now sound m).mpr (.inl rfl)

theorem stamped_sound {exchange_id : ℕ → Int} {machines : List Machine} (sound : ∀ m ∈ machines, Sound m) :
    ∀ m ∈ stamped exchange_id machines, Sound m := by
  intro m member
  obtain ⟨m₀, listed, _, rfl⟩ := mem_stamped member
  exact sound m₀ listed

theorem mem_replace_first {machine_update m : Machine} {machines : List Machine}
    (member : m ∈ replace_first machine_update machines) : m = machine_update ∨ m ∈ machines := by
  induction machines with
  | nil => exact absurd member (List.not_mem_nil)
  | cons machine rest ih =>
    by_cases found : machine.machine_id = machine_update.machine_id
    · rw [replace_first, if_pos found] at member
      exact (List.mem_cons.mp member).imp_right (List.mem_cons_of_mem _)
    · rw [replace_first, if_neg found] at member
      rcases List.mem_cons.mp member with rfl | later
      · exact .inr (List.mem_cons_self)
      · exact (ih later).imp_right (List.mem_cons_of_mem _)

/-- A day with an update stored in every bucket. -/
def stored (machine_update : Machine) (schedule : Schedule) : Schedule :=
  schedule.map fun time_bucket =>
    { time_bucket with machines := replace_first machine_update time_bucket.machines }

def addressed (m : Machine) : Topic × Machine := (.machine_topic m.machine_id, m)

/-- A handler that heard an update: it is stored in the schedule of the date, if
    there is one, and forwarded to its machine if the publication succeeded. -/
def hearing (handler : Handler) (machine : Machine) (current_date : Date) (forwarded : Bool) : Handler :=
  { handler with
    master_schedule := Function.update handler.master_schedule current_date
      ((handler.master_schedule current_date).map (stored machine))
    published := handler.published ++ if forwarded then [addressed machine] else [] }

section
variable (handler : Handler) (machine : Machine) (current_date : Date) (forwarded : Bool)

@[simp] theorem hearing_same :
    (hearing handler machine current_date forwarded).master_schedule current_date =
      (handler.master_schedule current_date).map (stored machine) := Function.update_self ..

theorem hearing_other {date : Date} (other : date ≠ current_date) :
    (hearing handler machine current_date forwarded).master_schedule date = handler.master_schedule date :=
  Function.update_of_ne other ..

@[simp] theorem internal_hearing :
    internal (hearing handler machine current_date forwarded) = internal handler := by
  cases forwarded <;> simp [hearing, internal, List.filter_append, addressed]

@[simp] theorem forwards_hearing :
    forwards (hearing handler machine current_date forwarded) =
      forwards handler ++ if forwarded then [addressed machine] else [] := by
  cases forwarded <;> simp [hearing, forwards, List.filter_append, addressed]

end

/-- Hearing an update of the handler's own, on a date with a schedule or without. -/
theorem heard {machine : Machine} (sound : Sound machine) {now : PyFloat} (current_date : Date) (forwarded : Bool)
    (handler : Handler) :
    incoming_message_processor_internal (MACHINE.parse .broker now) current_date forwarded
        (MACHINE.fields .broker machine) handler = hearing handler machine current_date forwarded := by
  cases found : handler.master_schedule current_date with
  | none =>
    have unchanged : Function.update handler.master_schedule current_date none = handler.master_schedule := by
      rw [← found, Function.update_eq_self]
    cases forwarded <;>
      simp [incoming_message_processor_internal, sound.read, found, hearing, unchanged, addressed]
  | some schedule =>
    cases forwarded <;> simp [incoming_message_processor_internal, sound.read, found, hearing, stored, addressed]

/-- All records of all schedules are sound, and so is what was published. -/
structure AllSound (handler : Handler) : Prop where
  records : ∀ date schedule, handler.master_schedule date = some schedule →
    ∀ bucket ∈ schedule, ∀ m ∈ bucket.machines, Sound m
  updates : ∀ m ∈ internal handler, Sound m

/-- What was forwarded is what was heard, less the publications that failed. -/
structure Conserved (loop : Loop) : Prop where
  sent_first : loop.delivered ≤ (internal loop.handler).length
  forwarded : (forwards loop.handler).Sublist (((internal loop.handler).take loop.delivered).map addressed)

theorem AllSound.tick {handler : Handler} (sound : AllSound handler) (date_of : ℚ → Date) (tick : Tick) :
    AllSound (monitor_active_time_bucket date_of tick handler) := by
  obtain ⟨sends, published, listed⟩ := monitor_publishes date_of tick handler
  refine ⟨?_, ?_⟩
  · rw [monitor_keeps_schedules]
    exact sound.records
  · rw [internal_append published]
    intro m member
    rcases List.mem_append.mp member with old | new
    · exact sound.updates m old
    · refine stamped_sound ?_ m new
      intro m' sent
      obtain ⟨schedule, bucket, found, inside, here⟩ := listed m' sent
      exact sound.records _ schedule found bucket inside m' here

theorem stored_sound {machine : Machine} (sound : Sound machine) {schedule : Schedule}
    (records : ∀ bucket ∈ schedule, ∀ m ∈ bucket.machines, Sound m) :
    ∀ bucket ∈ stored machine schedule, ∀ m ∈ bucket.machines, Sound m := by
  intro bucket inside m member
  obtain ⟨bucket₀, inside₀, rfl⟩ := List.mem_map.mp inside
  rcases mem_replace_first member with rfl | old
  · exact sound
  · exact records bucket₀ inside₀ m old

theorem AllSound.hearing {handler : Handler} (sound : AllSound handler) {machine : Machine}
    (listed : machine ∈ internal handler) (current_date : Date) (forwarded : Bool) :
    AllSound (hearing handler machine current_date forwarded) := by
  refine ⟨?_, ?_⟩
  · intro date day at_date
    by_cases same : date = current_date
    · subst same
      rw [hearing_same] at at_date
      obtain ⟨schedule, found, rfl⟩ := Option.map_eq_some_iff.mp at_date
      exact stored_sound (sound.updates machine listed) (sound.records date schedule found)
    · rw [hearing_other _ _ _ _ same] at at_date
      exact sound.records date day at_date
  · rw [internal_hearing]
    exact sound.updates

/-- What the next hearing does: nothing, if all was heard, or the next update is
    stored and forwarded. -/
theorem deliver_cases (date_of : ℚ → Date) {loop : Loop} (sound : AllSound loop.handler) (now : ℚ)
    (forwarded : Bool) :
    (internal loop.handler).length ≤ loop.delivered ∧ (step date_of loop (.deliver now forwarded)).2 = loop ∨
    ∃ machine, (internal loop.handler)[loop.delivered]? = some machine ∧
      (step date_of loop (.deliver now forwarded)).2 =
        { handler := hearing loop.handler machine (date_of now) forwarded
          delivered := loop.delivered + 1 } := by
  cases next : (internal loop.handler)[loop.delivered]? with
  | none =>
    left
    refine ⟨List.getElem?_eq_none_iff.mp next, ?_⟩
    simp [step, next]
  | some machine =>
    right
    refine ⟨machine, rfl, ?_⟩
    have listed := List.mem_of_getElem? next
    simp [step, next, heard (sound.updates machine listed)]

def Event.forwards : Event → Bool
  | .tick _ => true
  | .deliver _ forwarded => forwarded

/-- The invariant of the loop: what was heard so far was published, and it was
    forwarded, in order, if no publication failed. -/
structure Inv (events : List Event) (loop : Loop) : Prop where
  sound : AllSound loop.handler
  conserved : Conserved loop
  complete : (∀ event ∈ events, event.forwards = true) →
    forwards loop.handler = ((internal loop.handler).take loop.delivered).map addressed

theorem Inv.tick {events : List Event} {loop : Loop} (inv : Inv events loop) (date_of : ℚ → Date) (tick : Tick) :
    Inv (events ++ [.tick tick]) (step date_of loop (.tick tick)).2 := by
  obtain ⟨sends, published, _⟩ := monitor_publishes date_of tick loop.handler
  have grown := internal_append published
  have kept := forwards_append published
  have heard_before : (internal (monitor_active_time_bucket date_of tick loop.handler)).take loop.delivered =
      (internal loop.handler).take loop.delivered := by
    rw [grown, List.take_append_of_le_length inv.conserved.sent_first]
  refine ⟨inv.sound.tick date_of tick, ⟨?_, ?_⟩, ?_⟩
  · have room := inv.conserved.sent_first
    simp only [step, grown, List.length_append]
    omega
  · simp only [step, kept, heard_before]
    exact inv.conserved.forwarded
  · intro all
    simp only [step, kept, heard_before]
    exact inv.complete fun event member => all event (List.mem_append_left _ member)

theorem Inv.deliver {events : List Event} {loop : Loop} (inv : Inv events loop) (date_of : ℚ → Date) (now : ℚ)
    (forwarded : Bool) : Inv (events ++ [.deliver now forwarded]) (step date_of loop (.deliver now forwarded)).2 := by
  have shorter (all : ∀ event ∈ events ++ [.deliver now forwarded], event.forwards = true) :
      ∀ event ∈ events, event.forwards = true := fun event member => all event (List.mem_append_left _ member)
  rcases deliver_cases date_of inv.sound now forwarded with ⟨_, idle⟩ | ⟨machine, next, result⟩
  · rw [idle]
    exact ⟨inv.sound, inv.conserved, fun all => inv.complete (shorter all)⟩
  · rw [result]
    have inside := (List.getElem?_eq_some_iff.mp next).1
    have one_more : (internal loop.handler).take (loop.delivered + 1) =
        (internal loop.handler).take loop.delivered ++ [machine] := by
      rw [List.take_add_one, next]
      rfl
    refine ⟨inv.sound.hearing (List.mem_of_getElem? next) _ forwarded, ⟨?_, ?_⟩, ?_⟩
    · rw [internal_hearing]
      exact inside
    · rw [internal_hearing, forwards_hearing, one_more, List.map_append]
      refine List.Sublist.append inv.conserved.forwarded ?_
      cases forwarded <;> simp
    · intro all
      have published : forwarded = true := all (.deliver now forwarded) (by simp)
      rw [internal_hearing, forwards_hearing, one_more, List.map_append, inv.complete (shorter all), published]
      rfl

/-- A handler that has published nothing, with sound schedules. -/
structure Fresh (handler : Handler) : Prop where
  silent : handler.published = []
  records : ∀ date schedule, handler.master_schedule date = some schedule →
    ∀ bucket ∈ schedule, ∀ m ∈ bucket.machines, Sound m

theorem Fresh.inv {handler : Handler} (fresh : Fresh handler) : Inv [] ⟨handler, 0⟩ := by
  have nothing : internal handler = [] := by simp [internal, fresh.silent]
  refine ⟨⟨fresh.records, ?_⟩, ⟨by simp, ?_⟩, ?_⟩
  · rw [nothing]
    simp
  · simp [forwards, fresh.silent]
  · intro _
    simp [forwards, fresh.silent]

theorem run_inv (date_of : ℚ → Date) {handler : Handler} (fresh : Fresh handler) (events : List Event) :
    Inv events (Runs.run (step date_of) ⟨handler, 0⟩ events).2 := by
  have whole := Runs.run_invariant (step date_of) (fun history loop => Inv (history.map Prod.fst) loop) fresh.inv ?_ events
  · rw [Runs.run_inputs] at whole
    exact whole
  · intro history loop event inv
    rw [List.map_append]
    cases event with
    | tick tick => exact inv.tick date_of tick
    | deliver now forwarded => exact inv.deliver date_of now forwarded

/-- However iterations and deliveries interleave, on dates with a schedule and
    without, the machines are sent what was heard so far, each update at most once
    and in order, and all of it if no publication fails. -/
theorem updates_forwarded (date_of : ℚ → Date) {handler : Handler} (fresh : Fresh handler) (events : List Event) :
    let loop := (Runs.run (step date_of) ⟨handler, 0⟩ events).2
    (forwards loop.handler).Sublist (((internal loop.handler).take loop.delivered).map addressed) ∧
      ((∀ event ∈ events, event.forwards = true) →
        forwards loop.handler = ((internal loop.handler).take loop.delivered).map addressed) := by
  have inv := run_inv date_of fresh events
  exact ⟨inv.conserved.forwarded, inv.complete⟩

/-! ### A day that has been told -/

def keyed (updates : List Machine) : List (Int × Machine) := updates.map fun u => (u.machine_id, u)

/-- The record in the place of another: the last update of its machine, if there
    was one. -/
def shown (updates : List Machine) (m : Machine) : Machine := (latest (keyed updates) m.machine_id).getD m

/-- A day that was told updates. -/
def told (updates : List Machine) (schedule : Schedule) : Schedule :=
  schedule.map fun time_bucket => { time_bucket with machines := time_bucket.machines.map (shown updates) }

theorem latest_keyed {updates : List Machine} {key : Int} {u : Machine} (found : latest (keyed updates) key = some u) :
    u.machine_id = key := by
  have member : key ∈ (keyed updates).map Prod.fst := by
    by_contra absent
    rw [latest_none absent] at found
    cases found
  obtain ⟨u', found', pair⟩ := latest_mem member
  rw [found] at found'
  cases found'
  obtain ⟨u₀, _, same⟩ := List.mem_map.mp pair
  cases same
  rfl

@[simp] theorem shown_id (updates : List Machine) (m : Machine) : (shown updates m).machine_id = m.machine_id := by
  unfold shown
  cases found : latest (keyed updates) m.machine_id with
  | none => rfl
  | some u => exact latest_keyed found

theorem shown_concat (updates : List Machine) (u m : Machine) :
    shown (updates ++ [u]) m =
      if (shown updates m).machine_id = u.machine_id then u else shown updates m := by
  rw [shown_id]
  have grown : keyed (updates ++ [u]) = keyed updates ++ [(u.machine_id, u)] := by simp [keyed]
  by_cases same : m.machine_id = u.machine_id
  · rw [if_pos same, shown, same, grown, latest_concat (keyed updates) (u.machine_id, u)]
    rfl
  · rw [if_neg same, shown, grown, latest_append_other]
    · rfl
    · simpa using same

/-- Rows that list the same machines show the same once all of these were told. -/
theorem shown_rows {updates row row' : List Machine} (aligned : row.map Machine.machine_id = row'.map Machine.machine_id)
    (all : ∀ id ∈ row.map Machine.machine_id, id ∈ updates.map Machine.machine_id) :
    row.map (shown updates) = row'.map (shown updates) := by
  have known (row : List Machine) (all : ∀ id ∈ row.map Machine.machine_id, id ∈ updates.map Machine.machine_id) :
      (row.map (shown updates)).map some = (row.map Machine.machine_id).map (latest (keyed updates)) := by
    rw [List.map_map, List.map_map]
    apply List.map_congr_left
    intro m member
    have told : m.machine_id ∈ (keyed updates).map Prod.fst := by
      simpa [keyed, Function.comp_def] using all m.machine_id (List.mem_map_of_mem member)
    obtain ⟨u, found, _⟩ := latest_mem told
    simp [shown, found]
  have all' := all
  rw [aligned] at all'
  have equal := (known row all).trans ((congrArg _ aligned).trans (known row' all').symm)
  exact List.map_injective_iff.mpr (Option.some_injective Machine) equal

theorem changed_none (row : List Machine) : changed_machines row row = [] := by
  induction row with
  | nil => rfl
  | cons m rest ih => simpa [changed_machines] using ih

variable {schedule : Schedule} {opening : TimeBucket} {machines : List Int}

theorem told_nothing (schedule : Schedule) : told [] schedule = schedule := by
  have same : shown [] = id := by
    funext m
    rfl
  simp [told, same]

theorem told_timestamps (updates : List Machine) (schedule : Schedule) :
    timestamps (told updates schedule) = timestamps schedule := by
  simp [timestamps, told, Function.comp_def]

theorem told_ids (updates row : List Machine) :
    (row.map (shown updates)).map Machine.machine_id = row.map Machine.machine_id := by
  simp [Function.comp_def]

theorem told_day (day : DaySchedule schedule opening machines) (updates : List Machine) :
    DaySchedule (told updates schedule) { opening with machines := opening.machines.map (shown updates) } machines where
  opens := by simp [told, day.opens]
  rising := by
    rw [told_timestamps]
    exact day.rising
  ordered := by
    intro bucket member
    obtain ⟨bucket₀, member₀, rfl⟩ := List.mem_map.mp member
    rw [← day.ordered bucket₀ member₀]
    exact told_ids updates bucket₀.machines
  nodup := day.nodup

/-- Storing one more update in a day that was told some. -/
theorem stored_told (day : DaySchedule schedule opening machines) (updates : List Machine) (u : Machine) :
    stored u (told updates schedule) = told (updates ++ [u]) schedule := by
  rw [stored, told, told, List.map_map]
  apply List.map_congr_left
  intro bucket member
  have once : ((bucket.machines.map (shown updates)).map Machine.machine_id).Nodup := by
    rw [told_ids, day.ordered bucket member]
    exact day.nodup
  simp only [Function.comp_apply, TimeBucket.mk.injEq, true_and]
  rw [replace_first_eq_map once, List.map_map]
  apply List.map_congr_left
  intro m _
  rw [Function.comp_apply, shown_concat]

/-- A later iteration sends what differs between the bucket it finds and the one
    before. -/
theorem next_sends (day : DaySchedule schedule opening machines) {date_of : ℚ → Date} {handler : Handler} {tick : Tick}
    (seen : handler.master_schedule (date_of tick.now) = some schedule)
    (started : (opening.timestamp : ℚ) ≤ tick.now) {p : ℕ} {before : TimeBucket} (at_p : schedule[p]? = some before)
    (active : handler.active_time_bucket_index = p) (previous : handler.previous_time_bucket_index = p) :
    ∃ (a : ℕ) (bucket : TimeBucket), schedule[a]? = some bucket ∧
      (monitor_active_time_bucket date_of tick handler).active_time_bucket_index = a ∧
      (monitor_active_time_bucket date_of tick handler).previous_time_bucket_index = a ∧
      internal (monitor_active_time_bucket date_of tick handler) =
        internal handler ++ stamped tick.exchange_id (changed_machines bucket.machines before.machines) := by
  obtain ⟨a, bucket, isActive, found⟩ := day.index started (p : Int)
  have at_a := isActive.here
  refine ⟨a, bucket, at_a, ?_⟩
  simp only [monitor_active_time_bucket, seen, active, found]
  by_cases same : a = p
  · subst same
    obtain rfl : bucket = before := Option.some.inj (at_a.symm.trans at_p)
    rw [if_neg (not_not.mpr previous.symm), changed_none]
    exact ⟨rfl, previous, by simp [stamped, internal]⟩
  · have moved : (a : Int) ≠ handler.previous_time_bucket_index := by
      rw [previous]
      exact_mod_cast same
    have old : (p : Int) ≠ -1 := by omega
    rw [if_pos moved]
    by_cases quiet : changed_machines bucket.machines before.machines = []
    · have updated : update_active_time_bucket tick.exchange_id schedule
          { handler with active_time_bucket_index := a } = some { handler with active_time_bucket_index := a } := by
        simp [update_active_time_bucket, previous, old, item_nat, at_a, at_p, quiet]
      rw [updated, quiet]
      exact ⟨rfl, rfl, by simp [stamped, internal]⟩
    · have updated : update_active_time_bucket tick.exchange_id schedule
          { handler with active_time_bucket_index := a } =
            some (send_machine_updates tick.exchange_id (changed_machines bucket.machines before.machines)
              { handler with active_time_bucket_index := a }) := by
        simp [update_active_time_bucket, previous, old, item_nat, at_a, at_p, quiet]
      rw [updated]
      exact ⟨rfl, rfl, internal_append (updates_published tick.exchange_id _ handler)⟩

/-- What has begun: nothing, or the machines of the first bucket were sent first
    and both indices are those of a bucket. -/
inductive Begun (schedule : Schedule) (machines : List Int) (handler : Handler) : Prop where
  | fresh (active : handler.active_time_bucket_index = -1) (previous : handler.previous_time_bucket_index = -1)
      (silent : internal handler = [])
  | running (a : ℕ) (bucket : TimeBucket) (here : schedule[a]? = some bucket)
      (active : handler.active_time_bucket_index = a) (previous : handler.previous_time_bucket_index = a)
      (first : ((internal handler).take machines.length).map Machine.machine_id = machines)

/-- The invariant of a day: its schedule was told what was heard. -/
structure Told (date : Date) (schedule : Schedule) (machines : List Int) (loop : Loop) : Prop where
  sound : AllSound loop.handler
  sent_first : loop.delivered ≤ (internal loop.handler).length
  shows : loop.handler.master_schedule date = some (told ((internal loop.handler).take loop.delivered) schedule)
  begun : Begun schedule machines loop.handler

/-- On a date, once its first bucket has started. -/
def Event.At (date_of : ℚ → Date) (date : Date) (opening : TimeBucket) : Event → Prop
  | .tick t => date_of t.now = date ∧ (opening.timestamp : ℚ) ≤ t.now
  | .deliver now _ => date_of now = date

/-- The rows of a day whose machines were all heard show the same. -/
theorem Told.level (day : DaySchedule schedule opening machines) {date : Date} {loop : Loop}
    (tells : Told date schedule machines loop) (heard : machines.length ≤ loop.delivered) {b b' : TimeBucket}
    (listed : b ∈ told ((internal loop.handler).take loop.delivered) schedule)
    (listed' : b' ∈ told ((internal loop.handler).take loop.delivered) schedule) : b.machines = b'.machines := by
  obtain ⟨b₀, member, rfl⟩ := List.mem_map.mp listed
  obtain ⟨b₀', member', rfl⟩ := List.mem_map.mp listed'
  refine shown_rows ((day.ordered b₀ member).trans (day.ordered b₀' member').symm) ?_
  rw [day.ordered b₀ member]
  intro id wanted
  cases tells.begun with
  | fresh active previous silent =>
    have room := tells.sent_first
    rw [silent] at room
    have none : machines = [] := List.eq_nil_of_length_eq_zero (by simp at room; omega)
    rw [none] at wanted
    cases wanted
  | running a bucket here active previous first =>
    rw [← first] at wanted
    refine List.map_subset _ ?_ wanted
    exact (List.take_prefix_take_left heard).subset

theorem Told.one_row (day : DaySchedule schedule opening machines) {date : Date} {loop : Loop}
    (tells : Told date schedule machines loop) (heard : machines.length ≤ loop.delivered) :
    ∃ row day', loop.handler.master_schedule date = some day' ∧ timestamps day' = timestamps schedule ∧
      ∀ bucket ∈ day', bucket.machines = row := by
  obtain ⟨first, opens⟩ : ∃ first, (told ((internal loop.handler).take loop.delivered) schedule)[0]? = some first :=
    ⟨_, (told_day day _).opens⟩
  refine ⟨first.machines, _, tells.shows, told_timestamps _ schedule, ?_⟩
  intro bucket member
  exact tells.level day heard member (List.mem_of_getElem? opens)

/-- An iteration leaves what was heard, and with it the schedule, as it was. -/
theorem Told.after_tick {date_of : ℚ → Date} {date : Date} {loop : Loop} (tells : Told date schedule machines loop)
    {tick : Tick} (begun : Begun schedule machines (monitor_active_time_bucket date_of tick loop.handler)) :
    Told date schedule machines (step date_of loop (.tick tick)).2 := by
  obtain ⟨sends, published, _⟩ := monitor_publishes date_of tick loop.handler
  have grown := internal_append published
  refine ⟨tells.sound.tick date_of tick, ?_, ?_, begun⟩
  · rw [step, grown, List.length_append]
    exact tells.sent_first.trans (Nat.le_add_right _ _)
  · rw [step, monitor_keeps_schedules, grown, List.take_append_of_le_length tells.sent_first]
    exact tells.shows

/-- The first iteration sends the first bucket, of which nothing was heard. -/
theorem first_begins (day : DaySchedule schedule opening machines) {date_of : ℚ → Date} {handler : Handler} {tick : Tick}
    (seen : handler.master_schedule (date_of tick.now) = some schedule) (started : (opening.timestamp : ℚ) ≤ tick.now)
    (active : handler.active_time_bucket_index = -1) (previous : handler.previous_time_bucket_index = -1)
    (silent : internal handler = []) :
    Begun schedule machines (monitor_active_time_bucket date_of tick handler) ∧
      (internal (monitor_active_time_bucket date_of tick handler)).length = machines.length := by
  obtain ⟨a, bucket, isActive, result⟩ := first_iteration day seen started active previous
  have sent : internal (monitor_active_time_bucket date_of tick handler) = stamped tick.exchange_id opening.machines := by
    rw [result]
    have first := updates_published tick.exchange_id opening.machines handler
    refine (internal_append first).trans ?_
    rw [silent, List.nil_append]
  have ids : (stamped tick.exchange_id opening.machines).map Machine.machine_id = machines := by
    rw [stamped_ids, day.ordered opening (List.mem_of_getElem? day.opens)]
  have lengths := congrArg List.length ids
  rw [List.length_map] at lengths
  refine ⟨.running a bucket isActive.here (by rw [result]; rfl) (by rw [result]) ?_, by rw [sent, lengths]⟩
  rw [sent, ← lengths, List.take_length, ids]

/-- Once all machines were heard, the rows compared show the same. -/
theorem Told.next_tick (day : DaySchedule schedule opening machines) {date_of : ℚ → Date} {loop : Loop} {tick : Tick}
    (tells : Told (date_of tick.now) schedule machines loop) (started : (opening.timestamp : ℚ) ≤ tick.now) {p : ℕ}
    {before : TimeBucket} (at_p : schedule[p]? = some before) (active : loop.handler.active_time_bucket_index = p)
    (previous : loop.handler.previous_time_bucket_index = p)
    (first : ((internal loop.handler).take machines.length).map Machine.machine_id = machines) :
    Begun schedule machines (monitor_active_time_bucket date_of tick loop.handler) ∧
      (machines.length ≤ loop.delivered →
        internal (monitor_active_time_bucket date_of tick loop.handler) = internal loop.handler) := by
  have day' := told_day day ((internal loop.handler).take loop.delivered)
  have at_p' : (told ((internal loop.handler).take loop.delivered) schedule)[p]? =
      some { before with machines := before.machines.map (shown ((internal loop.handler).take loop.delivered)) } := by
    simp [told, at_p]
  obtain ⟨a, bucket, at_a, active', previous', sent⟩ := next_sends day' tells.shows started at_p' active previous
  obtain ⟨bucket₀, here, _⟩ : ∃ bucket₀, schedule[a]? = some bucket₀ ∧ _ := by
    simpa [told] using at_a
  have long : machines.length ≤ (internal loop.handler).length := by
    have lengths := congrArg List.length first
    rw [List.length_map, List.length_take] at lengths
    omega
  constructor
  · refine .running a bucket₀ here active' previous' ?_
    rw [sent, List.take_append_of_le_length long]
    exact first
  · intro all
    have same := tells.level day all (List.mem_of_getElem? at_a) (List.mem_of_getElem? at_p')
    rw [sent, same, changed_none]
    simp [stamped]

theorem Told.tick (day : DaySchedule schedule opening machines) {date_of : ℚ → Date} {date : Date} {loop : Loop}
    (tells : Told date schedule machines loop) {tick : Tick} (on : date_of tick.now = date)
    (started : (opening.timestamp : ℚ) ≤ tick.now) :
    Told date schedule machines (step date_of loop (.tick tick)).2 ∧
      (machines.length ≤ loop.delivered →
        internal (step date_of loop (.tick tick)).2.handler = internal loop.handler) := by
  subst on
  cases tells.begun with
  | fresh active previous silent =>
    have none : loop.delivered = 0 := by simpa [silent] using tells.sent_first
    have seen := tells.shows
    rw [silent, List.take_nil, told_nothing] at seen
    obtain ⟨begun, length⟩ := first_begins day seen started active previous silent
    refine ⟨tells.after_tick begun, ?_⟩
    intro all
    have empty : machines.length = 0 := by omega
    rw [step, silent]
    exact List.eq_nil_of_length_eq_zero (length.trans empty)
  | running p before at_p active previous first =>
    obtain ⟨begun, quiet⟩ := tells.next_tick day started at_p active previous first
    exact ⟨tells.after_tick begun, quiet⟩

theorem Told.deliver (day : DaySchedule schedule opening machines) {date_of : ℚ → Date} {date : Date} {loop : Loop}
    (tells : Told date schedule machines loop) {now : ℚ} (forwarded : Bool) (on : date_of now = date) :
    Told date schedule machines (step date_of loop (.deliver now forwarded)).2 ∧
      internal (step date_of loop (.deliver now forwarded)).2.handler = internal loop.handler ∧
      loop.delivered ≤ (step date_of loop (.deliver now forwarded)).2.delivered := by
  subst on
  rcases deliver_cases date_of tells.sound now forwarded with ⟨_, idle⟩ | ⟨machine, next, result⟩
  · rw [idle]
    exact ⟨tells, rfl, le_rfl⟩
  · have one_more : (internal loop.handler).take (loop.delivered + 1) =
        (internal loop.handler).take loop.delivered ++ [machine] := by
      rw [List.take_add_one, next]
      rfl
    rw [result]
    refine ⟨⟨tells.sound.hearing (List.mem_of_getElem? next) _ forwarded, ?_, ?_, ?_⟩, ?_, ?_⟩
    · rw [internal_hearing]
      exact (List.getElem?_eq_some_iff.mp next).1
    · rw [hearing_same, tells.shows, Option.map_some, internal_hearing, one_more, stored_told day]
    · cases tells.begun with
      | fresh active previous silent => exact .fresh active previous ((internal_hearing ..).trans silent)
      | running a bucket here active previous first =>
        exact .running a bucket here active previous (by rw [internal_hearing]; exact first)
    · exact internal_hearing ..
    · exact Nat.le_succ _

theorem run_told (day : DaySchedule schedule opening machines) {date_of : ℚ → Date} {date : Date} {loop : Loop}
    (tells : Told date schedule machines loop) {events : List Event}
    (at_date : ∀ event ∈ events, event.At date_of date opening) :
    Told date schedule machines (Runs.run (step date_of) loop events).2 ∧
      (machines.length ≤ loop.delivered →
        internal (Runs.run (step date_of) loop events).2.handler = internal loop.handler ∧
        machines.length ≤ (Runs.run (step date_of) loop events).2.delivered) := by
  refine Runs.run_invariant_of (step date_of) (Event.At date_of date opening)
    (fun _ l => Told date schedule machines l ∧ (machines.length ≤ loop.delivered →
      internal l.handler = internal loop.handler ∧ machines.length ≤ l.delivered))
    ⟨tells, fun all => ⟨rfl, all⟩⟩ ?_ events at_date
  rintro _ l event allowed ⟨before, quiet⟩
  cases event with
  | tick tick =>
    obtain ⟨after, same⟩ := before.tick day allowed.1 allowed.2
    refine ⟨after, ?_⟩
    intro all
    obtain ⟨kept, heard⟩ := quiet all
    exact ⟨(same heard).trans kept, heard⟩
  | deliver now forwarded =>
    obtain ⟨after, same, grows⟩ := before.deliver day forwarded allowed
    refine ⟨after, ?_⟩
    intro all
    obtain ⟨kept, heard⟩ := quiet all
    exact ⟨same.trans kept, heard.trans grows⟩

/-- The handler ends up sending nothing: once it has heard as many of its own
    updates as there are machines, every bucket of the day shows one and the same
    row, and no iteration from then on publishes an update, whatever is scheduled
    for later. -/
theorem heard_day_goes_quiet (day : DaySchedule schedule opening machines) {date_of : ℚ → Date} {date : Date}
    {handler : Handler} (fresh : Fresh handler) (active : handler.active_time_bucket_index = -1)
    (previous : handler.previous_time_bucket_index = -1) (seen : handler.master_schedule date = some schedule)
    {earlier later : List Event} (at_date : ∀ event ∈ earlier ++ later, event.At date_of date opening)
    (heard : machines.length ≤ (Runs.run (step date_of) ⟨handler, 0⟩ earlier).2.delivered) :
    internal (Runs.run (step date_of) ⟨handler, 0⟩ (earlier ++ later)).2.handler =
        internal (Runs.run (step date_of) ⟨handler, 0⟩ earlier).2.handler ∧
      ∃ row day', (Runs.run (step date_of) ⟨handler, 0⟩ (earlier ++ later)).2.handler.master_schedule date = some day' ∧
        timestamps day' = timestamps schedule ∧ ∀ bucket ∈ day', bucket.machines = row := by
  have nothing : internal handler = [] := by simp [internal, fresh.silent]
  have starts : Told date schedule machines ⟨handler, 0⟩ :=
    ⟨⟨fresh.records, by rw [nothing]; simp⟩, Nat.zero_le _, by simp [told_nothing, seen], .fresh active previous nothing⟩
  obtain ⟨told_earlier, _⟩ := run_told day starts fun event member => at_date event (List.mem_append_left _ member)
  obtain ⟨told_later, quiet⟩ := run_told day told_earlier
    fun event member => at_date event (List.mem_append_right _ member)
  rw [Runs.run_append]
  obtain ⟨same, all⟩ := quiet heard
  exact ⟨same, told_later.one_row day all⟩

theorem reservedNext_fresh : Fresh freshHandler where
  silent := rfl
  records := by
    rintro date schedule ⟨⟩ bucket inside m listed
    simp only [reservedNext, List.mem_cons, List.not_mem_nil, or_false] at inside
    rcases inside with rfl | rfl <;>
    · simp only [List.mem_singleton] at listed
      subst listed
      exact (kept_iff .broker _).mpr ⟨trivial, fun _ stamp => ⟨0, List.mem_singleton.mp stamp⟩⟩

def firstHeard : List Event := [.tick (tickAt 10), .deliver 11 true]

theorem reservation_forwards_once :
    let loop := (Runs.run (step fun _ => ⟨1970, 1, 1⟩) ⟨freshHandler, 0⟩ firstHeard).2
    (forwards loop.handler).Sublist (((internal loop.handler).take loop.delivered).map addressed) ∧
      ((∀ event ∈ firstHeard, event.forwards = true) →
        forwards loop.handler = ((internal loop.handler).take loop.delivered).map addressed) :=
  updates_forwarded (fun _ => ⟨1970, 1, 1⟩) reservedNext_fresh firstHeard

/-- Machine 1 is reserved from 300 on, and is told at 310 that nothing changed. -/
theorem reservation_goes_quiet :
    internal (Runs.run (step fun _ => ⟨1970, 1, 1⟩) ⟨freshHandler, 0⟩ (firstHeard ++ [.tick (tickAt 310)])).2.handler =
        internal (Runs.run (step fun _ => ⟨1970, 1, 1⟩) ⟨freshHandler, 0⟩ firstHeard).2.handler ∧
      ∃ row day', (Runs.run (step fun _ => ⟨1970, 1, 1⟩) ⟨freshHandler, 0⟩
          (firstHeard ++ [.tick (tickAt 310)])).2.handler.master_schedule ⟨1970, 1, 1⟩ = some day' ∧
        timestamps day' = timestamps reservedNext ∧ ∀ bucket ∈ day', bucket.machines = row := by
  refine heard_day_goes_quiet reservedNext_day reservedNext_fresh rfl rfl rfl ?_ (by decide +kernel)
  simp [firstHeard, Event.At, tickAt, reservedNext]

end DispenserHub.ClosedLoop
