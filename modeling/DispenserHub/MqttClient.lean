import DispenserHub.Runs
import Mathlib.Data.List.DropRight
import Mathlib.Logic.Function.Basic

/-!
`mqtt/mqtt_client.py`: a wrapper that keeps a callback for each topic, around a
client of paho, which reconnects by itself. The table of callbacks lives as long
as the wrapper, the subscriptions at the broker as long as a connection, and
nothing in the wrapper asks for them again: `_on_connect` writes to the log.
-/

namespace DispenserHub.MqttClient

/-- What the wrapper uses of `paho.mqtt.client` and of the broker behind it. -/
structure Paho (σ : Type) where
  connected : σ → Bool
  subscribed : σ → List String
  connect : String → ℕ → σ → σ
  subscribe : String → σ → σ
  lose : σ → σ
  reconnect : σ → σ

/-- A client with a clean session, the default: every connection begins without
    subscriptions, and a subscribe takes effect while there is one. -/
structure Paho.Documented {σ : Type} (paho : Paho σ) : Prop where
  connect_up : ∀ host port s, paho.connected (paho.connect host port s) = true
  connect_clean : ∀ host port s, paho.subscribed (paho.connect host port s) = []
  subscribe_link : ∀ topic s, paho.connected (paho.subscribe topic s) = paho.connected s
  subscribe_effect : ∀ topic s, paho.connected s = true → ∀ other,
    other ∈ paho.subscribed (paho.subscribe topic s) ↔ other = topic ∨ other ∈ paho.subscribed s
  lose_down : ∀ s, paho.connected (paho.lose s) = false
  reconnect_up : ∀ s, paho.connected (paho.reconnect s) = true
  reconnect_clean : ∀ s, paho.connected s = false → paho.subscribed (paho.reconnect s) = []

inductive Level where
  | info
  | warning
  | error
  deriving DecidableEq, Repr

/-- `handled` says that the handlers of the paho client are those of the
    wrapper; `κ` is the type of the callbacks. -/
structure MQTTClient (σ κ : Type) where
  broker_host : String
  broker_port : ℕ
  client_id : String
  client : σ
  handled : Bool
  callbacks : String → Option κ
  logged : List (Level × String)

section
variable {σ κ : Type}

/-- `__init__`, with the new client of paho. -/
def MQTTClient.new (broker_host : String) (broker_port : ℕ) (client_id : String) (client : σ) : MQTTClient σ κ where
  broker_host := broker_host
  broker_port := broker_port
  client_id := client_id
  client := client
  handled := false
  callbacks _ := none
  logged := []

def MQTTClient.log (self : MQTTClient σ κ) (level : Level) (text : String) : MQTTClient σ κ :=
  { self with logged := self.logged ++ [(level, text)] }

def MQTTClient.on_connect (self : MQTTClient σ κ) (rc : ℕ) : MQTTClient σ κ :=
  if rc = 0 then self.log .info "MQTT connected successfully."
  else self.log .error s!"MQTT connection failed. Return code: {rc}"

def MQTTClient.on_disconnect (self : MQTTClient σ κ) : MQTTClient σ κ := self.log .info "MQTT disconnected."

variable (paho : Paho σ)

/-- The thread that `loop_start` starts calls `on_connect` once the broker has
    taken the connection. -/
def MQTTClient.connect (self : MQTTClient σ κ) : MQTTClient σ κ :=
  let self := { self with handled := true }
  let self := self.log .info s!"Connecting to MQTT broker at {self.broker_host}:{self.broker_port}..."
  let self := { self with client := paho.connect self.broker_host self.broker_port self.client }
  self.on_connect 0

/-- What paho answers to the subscribe is not looked at. -/
def MQTTClient.subscribe (self : MQTTClient σ κ) (topic : String) (callback : κ) : MQTTClient σ κ :=
  let self := { self with client := paho.subscribe topic self.client }
  let self := { self with callbacks := Function.update self.callbacks topic (some callback) }
  self.log .info s!"Subscribed to topic: {topic}"

/-- What happens to a client: calls of `subscribe`, and what the network does. -/
inductive Event (κ : Type) where
  | subscribe (topic : String) (callback : κ)
  | lose
  | reconnect

/-- A connection is lost where there is one, and paho reconnects where there is
    none; either calls the handler that is set. -/
def step (self : MQTTClient σ κ) : Event κ → Option (MQTTClient σ κ)
  | .subscribe topic callback => some (self.subscribe paho topic callback)
  | .lose =>
    if paho.connected self.client then
      let lost := { self with client := paho.lose self.client }
      some (if lost.handled then lost.on_disconnect else lost)
    else none
  | .reconnect =>
    if paho.connected self.client then none
    else
      let back := { self with client := paho.reconnect self.client }
      some (if back.handled then back.on_connect 0 else back)

def run (self : MQTTClient σ κ) (events : List (Event κ)) : Option (MQTTClient σ κ) := events.foldlM (step paho) self

def Asked (topic : String) (events : List (Event κ)) : Prop := ∃ callback, .subscribe topic callback ∈ events

/-- The events since the last reconnection, all of them before the first. -/
def since_connection (events : List (Event κ)) : List (Event κ) :=
  events.rtakeWhile fun event => match event with
    | .reconnect => false
    | _ => true

@[simp] theorem since_subscribe (earlier : List (Event κ)) (topic : String) (callback : κ) :
    since_connection (earlier ++ [.subscribe topic callback]) =
      since_connection earlier ++ [.subscribe topic callback] := by
  simp [since_connection]

@[simp] theorem since_reconnect (earlier : List (Event κ)) : since_connection (earlier ++ [.reconnect]) = [] := by
  simp [since_connection]

theorem asked_subscribe (topic other : String) (callback : κ) (events : List (Event κ)) :
    Asked other (events ++ [.subscribe topic callback]) ↔ other = topic ∨ Asked other events := by
  simp only [Asked, List.mem_append, List.mem_singleton, Event.subscribe.injEq, exists_or]
  constructor
  · rintro (earlier | ⟨_, same, _⟩)
    · exact .inr earlier
    · exact .inl same
  · rintro (same | earlier)
    · exact .inr ⟨callback, same, rfl⟩
    · exact .inl earlier

theorem asked_other {event : Event κ} (other : ∀ topic callback, event ≠ .subscribe topic callback) (topic : String)
    (events : List (Event κ)) : Asked topic (events ++ [event]) ↔ Asked topic events := by
  simp only [Asked, List.mem_append, List.mem_singleton]
  refine exists_congr fun callback => or_iff_left ?_
  exact (other topic callback).symm

@[simp] theorem on_connect_client (self : MQTTClient σ κ) (rc : ℕ) : (self.on_connect rc).client = self.client := by
  unfold MQTTClient.on_connect
  split <;> rfl
@[simp] theorem on_connect_callbacks (self : MQTTClient σ κ) (rc : ℕ) :
    (self.on_connect rc).callbacks = self.callbacks := by
  unfold MQTTClient.on_connect
  split <;> rfl

/-- Each step in terms of the paho client and the callbacks. -/
theorem step_cases {self after : MQTTClient σ κ} {event : Event κ} (taken : step paho self event = some after) :
    (∃ topic callback, event = .subscribe topic callback ∧ after.client = paho.subscribe topic self.client ∧
      after.callbacks = Function.update self.callbacks topic (some callback)) ∨
    (event = .lose ∧ after.client = paho.lose self.client ∧ after.callbacks = self.callbacks) ∨
    (event = .reconnect ∧ paho.connected self.client = false ∧ after.client = paho.reconnect self.client ∧
      after.callbacks = self.callbacks) := by
  cases event with
  | subscribe topic callback =>
    obtain rfl := Option.some.inj taken
    exact .inl ⟨topic, callback, rfl, rfl, rfl⟩
  | lose =>
    by_cases up : paho.connected self.client = true
    · obtain rfl := Option.some.inj ((if_pos up).symm.trans taken)
      refine .inr (.inl ⟨rfl, ?_, ?_⟩) <;> cases self.handled <;> rfl
    · simp [step, up] at taken
  | reconnect =>
    by_cases up : paho.connected self.client = true
    · simp [step, up] at taken
    · obtain rfl := Option.some.inj ((if_neg up).symm.trans taken)
      refine .inr (.inr ⟨rfl, by simpa using up, ?_, ?_⟩) <;> cases self.handled <;> simp

/-- The broker holds what was asked for on the present connection, the table
    what was ever asked for. -/
structure Kept (events : List (Event κ)) (wrapper : MQTTClient σ κ) : Prop where
  live : paho.connected wrapper.client = true → ∀ topic,
    topic ∈ paho.subscribed wrapper.client ↔ Asked topic (since_connection events)
  registered : ∀ topic, (wrapper.callbacks topic).isSome ↔ Asked topic events

variable {paho}

theorem step_kept (documented : paho.Documented) (earlier : List (Event κ)) (self : MQTTClient σ κ) (event : Event κ)
    (after : MQTTClient σ κ) (taken : step paho self event = some after) (kept : Kept paho earlier self) :
    Kept paho (earlier ++ [event]) after := by
  obtain ⟨topic, callback, rfl, client, callbacks⟩ | ⟨rfl, client, callbacks⟩ | ⟨rfl, down, client, callbacks⟩ :=
    step_cases paho taken
  · refine ⟨?_, ?_⟩
    · intro up other
      rw [client, documented.subscribe_link] at up
      rw [client, documented.subscribe_effect topic _ up, kept.live up, since_subscribe, asked_subscribe]
    · intro other
      rw [callbacks, asked_subscribe, ← kept.registered]
      by_cases same : other = topic <;> simp [same]
  · refine ⟨?_, ?_⟩
    · intro up
      rw [client, documented.lose_down] at up
      cases up
    · intro other
      rw [callbacks, asked_other (by simp), kept.registered]
  · refine ⟨?_, ?_⟩
    · intro _ other
      rw [client, documented.reconnect_clean _ down, since_reconnect]
      simp [Asked]
    · intro other
      rw [callbacks, asked_other (by simp), kept.registered]

/-- Whenever the client is connected, the topics subscribed at the broker are
    those asked for since the connection came up, and the topics with a callback
    those asked for at all. -/
theorem subscribed_since_connection (documented : paho.Documented) (broker_host : String) (broker_port : ℕ)
    (client_id : String) (client : σ) {events : List (Event κ)} {self : MQTTClient σ κ}
    (ran : run paho ((MQTTClient.new broker_host broker_port client_id client).connect paho) events = some self)
    (up : paho.connected self.client = true) (topic : String) :
    (topic ∈ paho.subscribed self.client ↔ Asked topic (since_connection events)) ∧
      ((self.callbacks topic).isSome ↔ Asked topic events) := by
  have start : Kept paho [] ((MQTTClient.new broker_host broker_port client_id client : MQTTClient σ κ).connect paho) := by
    refine ⟨?_, ?_⟩
    · intro _ other
      simp [MQTTClient.connect, documented.connect_clean, Asked, since_connection]
    · intro other
      simp [MQTTClient.connect, MQTTClient.log, MQTTClient.new, Asked]
  have kept := Runs.foldlM_invariant (step paho) (Kept paho) start (step_kept documented) ran
  exact ⟨kept.live up topic, kept.registered topic⟩

end

/-- The connection, if there is one, as the topics subscribed on it. -/
def cleanBroker : Paho (Option (List String)) where
  connected := Option.isSome
  subscribed link := link.getD []
  connect _ _ _ := some []
  subscribe topic link := link.map (topic :: ·)
  lose _ := none
  reconnect link := some (link.getD [])

theorem cleanBroker_documented : cleanBroker.Documented where
  connect_up _ _ _ := rfl
  connect_clean _ _ _ := rfl
  subscribe_link topic link := by cases link <;> rfl
  subscribe_effect topic link up other := by
    obtain ⟨topics, rfl⟩ := Option.isSome_iff_exists.mp up
    simp [cleanBroker]
  lose_down _ := rfl
  reconnect_up _ := rfl
  reconnect_clean link down := by
    obtain rfl := Option.isNone_iff_eq_none.mp (by simpa [cleanBroker] using down)
    rfl

/-- The manager's client, just connected. -/
def manager : MQTTClient (Option (List String)) Unit :=
  (MQTTClient.new "localhost" 1883 "Manager" none).connect cleanBroker

def propose : Event Unit := .subscribe "internal/manager/propose/session" ()

def asked_again : List (Event Unit) := [propose, .lose, .reconnect, propose]

theorem subscribed_again :
    ∃ self, run cleanBroker manager asked_again = some self ∧ ∀ topic,
      (topic ∈ cleanBroker.subscribed self.client ↔ Asked topic (since_connection asked_again)) ∧
        ((self.callbacks topic).isSome ↔ Asked topic asked_again) :=
  ⟨_, rfl, subscribed_since_connection cleanBroker_documented "localhost" 1883 "Manager" none rfl rfl⟩

/-- The callback is still there after a reconnection, and the subscription is gone. -/
theorem subscription_dropped :
    ¬ ∀ (σ κ : Type) (paho : Paho σ), paho.Documented → ∀ (broker_host : String) (broker_port : ℕ) (client_id : String)
      (client : σ) (events : List (Event κ)) (self : MQTTClient σ κ),
      run paho ((MQTTClient.new broker_host broker_port client_id client).connect paho) events = some self →
      paho.connected self.client = true → ∀ topic, (self.callbacks topic).isSome →
      topic ∈ paho.subscribed self.client := by
  intro claim
  have kept := claim _ Unit cleanBroker cleanBroker_documented "localhost" 1883 "Manager" none
    [propose, .lose, .reconnect] _ rfl rfl "internal/manager/propose/session" rfl
  cases kept

end DispenserHub.MqttClient
