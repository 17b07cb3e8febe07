import DispenserHub.Receive

/-!
The MQTT client on the network: subscribes, lost and restored connections and
messages in any order. The table of callbacks outlives a connection and the
subscriptions do not, but the broker delivers only what is subscribed, so the
callbacks are called as by a client that forgets its table at a reconnection.
-/

namespace DispenserHub.Dispatch
open MqttClient
open Receive (Message Receiver Thread receive dispatch_of on_message_callbacks on_message_dispatched)

inductive Event (κ : Type) where
  | client (event : MqttClient.Event κ)
  | message (message : Message)

variable {σ κ : Type} (paho : Paho σ) (iscoroutinefunction : κ → Bool) (delivers : String → String → Bool)

/-- A topic filter without wildcards. -/
def Plain (filter : String) : Prop := '+' ∉ filter.toList ∧ '#' ∉ filter.toList

/-- What a broker takes a filter for: a plain one is the one topic it names. -/
def Documented : Prop := ∀ filter topic, Plain filter → (delivers filter topic = true ↔ filter = topic)

/-- The network reaches the client while its thread runs; a message comes over a
    connection, for one of its subscriptions. A subscribe is the program's own. -/
def step (thread : Thread σ κ) : Event κ → Option (Thread σ κ)
  | .client (.subscribe topic callback) =>
    some { thread with receiver.wrapper := thread.receiver.wrapper.subscribe paho topic callback }
  | .client event =>
    if thread.alive then
      (MqttClient.step paho thread.receiver.wrapper event).map fun wrapper => { thread with receiver.wrapper := wrapper }
    else none
  | .message message =>
    if thread.alive ∧ paho.connected thread.receiver.wrapper.client ∧
        ∃ filter ∈ paho.subscribed thread.receiver.wrapper.client, delivers filter message.topic then
      some (receive iscoroutinefunction thread message).2
    else none

/-- The callbacks asked for since the connection came up, and the calls made. -/
structure Ideal (κ : Type) where
  callbacks : String → Option κ
  dispatched : List (Receive.Dispatch κ)

def Ideal.step (ideal : Ideal κ) : Event κ → Ideal κ
  | .client (.subscribe topic callback) =>
    { ideal with callbacks := Function.update ideal.callbacks topic (some callback) }
  | .client .lose => ideal
  | .client .reconnect => { ideal with callbacks := fun _ => none }
  | .message message =>
    { ideal with dispatched := ideal.dispatched ++ (dispatch_of iscoroutinefunction ideal.callbacks message).toList }

def ideal (events : List (Event κ)) : Ideal κ := events.foldl (Ideal.step iscoroutinefunction) ⟨fun _ => none, []⟩

theorem ideal_concat (events : List (Event κ)) (event : Event κ) :
    ideal iscoroutinefunction (events ++ [event]) = (ideal iscoroutinefunction events).step iscoroutinefunction event := by
  simp [ideal]

/-- The filters of the run's subscribes are plain. -/
def PlainRun (events : List (Event κ)) : Prop :=
  ∀ topic callback, Event.client (.subscribe topic callback) ∈ events → Plain topic

/-- While connected, the subscribed topics are those of the ideal table, and the
    table of the wrapper agrees with it there. -/
structure Follows (thread : Thread σ κ) (ideal : Ideal κ) : Prop where
  dispatched : thread.receiver.dispatched = ideal.dispatched
  subscribed : paho.connected thread.receiver.wrapper.client = true → ∀ topic,
    (topic ∈ paho.subscribed thread.receiver.wrapper.client → Plain topic ∧
      thread.receiver.wrapper.callbacks topic = ideal.callbacks topic) ∧
    (topic ∉ paho.subscribed thread.receiver.wrapper.client → ideal.callbacks topic = none)

section
variable {paho} {iscoroutinefunction} {delivers}

theorem on_message_client (receiver : Receiver σ κ) (message : Message) :
    (receiver.on_message iscoroutinefunction message).2.wrapper.client = receiver.wrapper.client := by
  unfold Receiver.on_message
  split
  · rfl
  · simp only
    split
    · rfl
    · split <;> rfl

theorem receive_alive (iscoroutinefunction : κ → Bool) {thread : Thread σ κ} (alive : thread.alive = true) (message : Message) :
    (receive iscoroutinefunction thread message).2.receiver =
      (thread.receiver.on_message iscoroutinefunction message).2 := by
  simp [receive, alive]

/-- A message asks the table for its own topic. -/
theorem dispatch_of_congr {callbacks callbacks' : String → Option κ} {message : Message}
    (same : callbacks message.topic = callbacks' message.topic) :
    dispatch_of iscoroutinefunction callbacks message = dispatch_of iscoroutinefunction callbacks' message := by
  rw [dispatch_of, dispatch_of, same]

/-- What the network does to the connection leaves the calls made as they are. -/
theorem network_step {thread after : Thread σ κ} {event : MqttClient.Event κ}
    (network : ∀ topic callback, event ≠ .subscribe topic callback)
    (taken : step paho iscoroutinefunction delivers thread (.client event) = some after) :
    after.receiver.dispatched = thread.receiver.dispatched ∧
      MqttClient.step paho thread.receiver.wrapper event = some after.receiver.wrapper := by
  cases event with
  | subscribe topic callback => exact absurd rfl (network topic callback)
  | lose | reconnect =>
    simp only [step, Option.ite_none_right_eq_some, Option.map_eq_some_iff] at taken
    obtain ⟨_, wrapper, stepped, rfl⟩ := taken
    exact ⟨rfl, stepped⟩

theorem step_follows (documented : paho.Documented) (plain : Documented delivers) {thread after : Thread σ κ}
    {seen : Ideal κ} {event : Event κ}
    (plain_event : ∀ topic callback, event = .client (.subscribe topic callback) → Plain topic)
    (taken : step paho iscoroutinefunction delivers thread event = some after) (follows : Follows paho thread seen) :
    Follows paho after (seen.step iscoroutinefunction event) := by
  cases event with
  | client event =>
    cases event with
    | subscribe topic callback =>
      obtain rfl := Option.some.inj taken
      refine ⟨follows.dispatched, ?_⟩
      intro up other
      have linked : paho.connected thread.receiver.wrapper.client = true := by
        rw [← documented.subscribe_link topic]
        exact up
      obtain ⟨held, free⟩ := follows.subscribed linked other
      have effect : other ∈ paho.subscribed (paho.subscribe topic thread.receiver.wrapper.client) ↔ _ :=
        documented.subscribe_effect topic _ linked other
      show (other ∈ paho.subscribed (paho.subscribe topic thread.receiver.wrapper.client) → Plain other ∧
          Function.update thread.receiver.wrapper.callbacks topic (some callback) other =
            Function.update seen.callbacks topic (some callback) other) ∧
        (other ∉ paho.subscribed (paho.subscribe topic thread.receiver.wrapper.client) →
          Function.update seen.callbacks topic (some callback) other = none)
      rw [effect]
      by_cases same : other = topic
      · subst same
        simp [plain_event other callback rfl]
      · simpa [same] using ⟨held, free⟩
    | lose =>
      obtain ⟨dispatched, stepped⟩ := network_step (by simp) taken
      obtain ⟨_, _, event, _⟩ | ⟨_, client, _⟩ | ⟨event, _⟩ := step_cases paho stepped
      · cases event
      · refine ⟨dispatched.trans follows.dispatched, ?_⟩
        intro up
        rw [client, documented.lose_down] at up
        cases up
      · cases event
    | reconnect =>
      obtain ⟨dispatched, stepped⟩ := network_step (by simp) taken
      obtain ⟨_, _, event, _⟩ | ⟨event, _⟩ | ⟨_, down, client, _⟩ := step_cases paho stepped
      · cases event
      · cases event
      · refine ⟨dispatched.trans follows.dispatched, ?_⟩
        intro _ topic
        rw [client, documented.reconnect_clean _ down]
        exact ⟨fun member => absurd member List.not_mem_nil, fun _ => rfl⟩
  | message message =>
    simp only [step, Option.ite_none_right_eq_some, Option.some.injEq] at taken
    obtain ⟨⟨alive, linked, filter, asked, delivered⟩, rfl⟩ := taken
    obtain ⟨plain_filter, _⟩ := (follows.subscribed linked filter).1 asked
    obtain rfl := (plain filter message.topic plain_filter).mp delivered
    obtain ⟨_, table⟩ := (follows.subscribed linked message.topic).1 asked
    have here := receive_alive iscoroutinefunction alive message
    refine ⟨?_, ?_⟩
    · rw [here, on_message_dispatched, follows.dispatched, dispatch_of_congr table]
      rfl
    · intro _ topic
      rw [here, on_message_callbacks, on_message_client]
      exact follows.subscribed linked topic

/-- In every run of a client that connected, where the filters are plain, the
    callbacks are called as by the client that forgets its table: with each
    message that is text, in order, the one that was registered last for its
    topic since the connection came up. -/
theorem calls_since_connection (documented : paho.Documented) (plain : Documented delivers) (broker_host : String)
    (broker_port : ℕ) (client_id : String) (client : σ) {events : List (Event κ)} (filters : PlainRun events)
    {after : Thread σ κ}
    (ran : events.foldlM (step paho iscoroutinefunction delivers)
      ⟨true, (MQTTClient.new broker_host broker_port client_id client).connect paho, []⟩ = some after) :
    after.receiver.dispatched = (ideal iscoroutinefunction events).dispatched := by
  have start : PlainRun ([] : List (Event κ)) → Follows paho
      (⟨true, (MQTTClient.new broker_host broker_port client_id client).connect paho, []⟩ : Thread σ κ)
      (ideal iscoroutinefunction []) := by
    refine fun _ => ⟨rfl, ?_⟩
    intro _ topic
    simp [MQTTClient.connect, documented.connect_clean, ideal]
  have follows := Runs.foldlM_invariant (step paho iscoroutinefunction delivers)
    (fun events thread => PlainRun events → Follows paho thread (ideal iscoroutinefunction events)) start
    (fun earlier thread event next taken before filters => by
      rw [ideal_concat]
      refine step_follows documented plain (fun topic callback same => ?_) taken (before ?_)
      · exact filters topic callback (by simp [same])
      · exact fun topic callback member => filters topic callback (List.mem_append_left _ member)) ran
  exact (follows filters).dispatched

end

def proposals : String := "internal/manager/propose/session"

/-- The first callback is lost with its connection, and the second is called. -/
def registered_twice : List (Event ℕ) :=
  [.client (.subscribe proposals 1), .client .lose, .client .reconnect, .client (.subscribe proposals 2),
    .message ⟨proposals, ⟨#[0x31]⟩, .returns⟩]

theorem second_callback_called :
    ∃ after : Thread (Option (List String)) ℕ,
      registered_twice.foldlM (step cleanBroker (fun _ => false) (· == ·))
        ⟨true, (MQTTClient.new "localhost" 1883 "Manager" none).connect cleanBroker, []⟩ = some after ∧
      after.receiver.dispatched = (ideal (fun _ => false) registered_twice).dispatched := by
  refine ⟨_, rfl, calls_since_connection cleanBroker_documented (fun _ _ _ => beq_iff_eq) "localhost" 1883 "Manager" none ?_ rfl⟩
  intro topic callback member
  have plain : Plain proposals := by unfold Plain; decide
  simp only [registered_twice, List.mem_cons, Event.client.injEq, MqttClient.Event.subscribe.injEq, reduceCtorEq, false_or,
    List.not_mem_nil, or_false] at member
  rcases member with ⟨rfl, _⟩ | ⟨rfl, _⟩ <;> exact plain

example : (ideal (fun _ => false) registered_twice).dispatched.map Receive.Dispatch.callback = [2] := by decide

end DispenserHub.Dispatch
