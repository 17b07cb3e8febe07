import DispenserHub.MqttClient

/-!
`_on_message` of `mqtt/mqtt_client.py`, and the thread of paho that calls it for
one message after the other until an exception leaves it. What a callback raises
is caught there; the payload is decoded before the `try`.
-/

namespace DispenserHub.Receive
open MqttClient

/-- What calling a callback does, or handing its coroutine to the event loop: it
    returns, or raises an exception with the text that `str` gives of it, unless
    that raises in turn. -/
inductive Outcome where
  | returns
  | raises (text : Option String)
  deriving DecidableEq, Repr

/-- A message of paho, and what its callback does this time if there is one. -/
structure Message where
  topic : String
  payload : ByteArray
  outcome : Outcome

/-- The exceptions that nothing in `_on_message` catches. -/
inductive Escape where
  | UnicodeDecodeError
  | from_str
  deriving DecidableEq, Repr

/-- A callback called with its arguments, in the event loop if it is a coroutine. -/
structure Dispatch (κ : Type) where
  callback : κ
  in_loop : Bool
  topic : String
  payload : String

structure Receiver (σ κ : Type) where
  wrapper : MQTTClient σ κ
  dispatched : List (Dispatch κ)

section
variable {σ κ : Type} (iscoroutinefunction : κ → Bool)

def Receiver.log (receiver : Receiver σ κ) (level : Level) (text : String) : Receiver σ κ :=
  { receiver with wrapper := receiver.wrapper.log level text }

def Receiver.dispatch (receiver : Receiver σ κ) (call : Dispatch κ) : Receiver σ κ :=
  { receiver with dispatched := receiver.dispatched ++ [call] }

def Receiver.on_message (receiver : Receiver σ κ) (message : Message) : Except Escape Unit × Receiver σ κ :=
  match String.fromUTF8? message.payload with
  | none => (.error .UnicodeDecodeError, receiver)
  | some payload =>
    let receiver := receiver.log .info s!"Received message on topic {message.topic}: {payload}"
    match receiver.wrapper.callbacks message.topic with
    | none => (.ok (), receiver.log .warning s!"No callback registered for topic: {message.topic}")
    | some callback =>
      let receiver := receiver.dispatch
        { callback, in_loop := iscoroutinefunction callback, topic := message.topic, payload }
      match message.outcome with
      | .returns => (.ok (), receiver)
      | .raises (some e) =>
        (.ok (), receiver.log .error s!"Error in MQTT callback for topic '{message.topic}': {e}")
      | .raises none => (.error .from_str, receiver)

/-- The thread that `loop_start` starts. -/
structure Thread (σ κ : Type) where
  alive : Bool
  receiver : Receiver σ κ

/-- A message is given to `_on_message` while the thread runs, and an exception
    leaving it ends the thread. -/
def receive (thread : Thread σ κ) (message : Message) : Option (Except Escape Unit) × Thread σ κ :=
  if thread.alive then
    let (result, receiver) := thread.receiver.on_message iscoroutinefunction message
    (some result, { alive := result.isOk, receiver })
  else (none, thread)

/-- The call a message on a registered topic asks for, if it is well formed. -/
def dispatch_of (callbacks : String → Option κ) (message : Message) : Option (Dispatch κ) := do
  let callback ← callbacks message.topic
  let payload ← String.fromUTF8? message.payload
  return { callback, in_loop := iscoroutinefunction callback, topic := message.topic, payload }

/-- The payload is text, and so is the exception of its callback. -/
def Harmless (callbacks : String → Option κ) (message : Message) : Prop :=
  message.payload.IsValidUTF8 ∧ (message.outcome = .raises none → callbacks message.topic = none)

theorem decoded_iff (payload : ByteArray) : (String.fromUTF8? payload).isSome ↔ payload.IsValidUTF8 := by
  unfold String.fromUTF8?
  by_cases valid : payload.IsValidUTF8 <;> simp [valid]

theorem on_message_callbacks (receiver : Receiver σ κ) (message : Message) :
    (receiver.on_message iscoroutinefunction message).2.wrapper.callbacks = receiver.wrapper.callbacks := by
  unfold Receiver.on_message
  split
  · rfl
  · simp only
    split
    · rfl
    · split <;> rfl

/-- Whatever its callback does, a well-formed message is dispatched. -/
theorem on_message_dispatched (receiver : Receiver σ κ) (message : Message) :
    (receiver.on_message iscoroutinefunction message).2.dispatched =
      receiver.dispatched ++ (dispatch_of iscoroutinefunction receiver.wrapper.callbacks message).toList := by
  unfold Receiver.on_message dispatch_of
  cases String.fromUTF8? message.payload with
  | none => cases receiver.wrapper.callbacks message.topic <;> simp
  | some payload =>
    simp only [Receiver.log, MQTTClient.log]
    cases receiver.wrapper.callbacks message.topic with
    | none => simp
    | some callback => cases message.outcome with
      | returns => simp [Receiver.dispatch]
      | raises text => cases text <;> simp [Receiver.dispatch]

theorem on_message_returns_iff (receiver : Receiver σ κ) (message : Message) :
    (receiver.on_message iscoroutinefunction message).1 = .ok () ↔ Harmless receiver.wrapper.callbacks message := by
  rw [Harmless, ← decoded_iff]
  unfold Receiver.on_message
  cases String.fromUTF8? message.payload with
  | none => simp
  | some payload =>
    simp only [Receiver.log, MQTTClient.log]
    cases receiver.wrapper.callbacks message.topic with
    | none => simp
    | some callback => cases message.outcome with
      | returns => simp
      | raises text => cases text <;> simp

/-- Every message is taken and the table of callbacks stays, so that each
    well-formed message on a registered topic is dispatched. -/
structure Unbroken (receiver : Receiver σ κ) (messages : List Message) : Prop where
  returns : ∀ answered ∈ (Runs.run (receive iscoroutinefunction) ⟨true, receiver⟩ messages).1,
    answered.2 = some (.ok ())
  callbacks : (Runs.run (receive iscoroutinefunction) ⟨true, receiver⟩ messages).2.receiver.wrapper.callbacks =
    receiver.wrapper.callbacks
  dispatched : (Runs.run (receive iscoroutinefunction) ⟨true, receiver⟩ messages).2.receiver.dispatched =
    receiver.dispatched ++ messages.filterMap (dispatch_of iscoroutinefunction receiver.wrapper.callbacks)

theorem receive_returned {receiver : Receiver σ κ} {message : Message}
    (returned : (receiver.on_message iscoroutinefunction message).1 = .ok ()) :
    receive iscoroutinefunction ⟨true, receiver⟩ message =
      (some (.ok ()), ⟨true, (receiver.on_message iscoroutinefunction message).2⟩) := by
  simp [receive, returned, Except.isOk, Except.toBool]

/-- An ended thread takes no message. -/
theorem run_ended (receiver : Receiver σ κ) (messages : List Message) :
    Runs.run (receive iscoroutinefunction) ⟨false, receiver⟩ messages =
      (messages.map fun message => (message, none), ⟨false, receiver⟩) := by
  induction messages with
  | nil => rfl
  | cons message rest ih => simp [Runs.run, receive, ih]

theorem unbroken_cons {receiver : Receiver σ κ} {message : Message}
    (returned : (receiver.on_message iscoroutinefunction message).1 = .ok ()) (rest : List Message) :
    Unbroken iscoroutinefunction receiver (message :: rest) ↔
      Unbroken iscoroutinefunction (receiver.on_message iscoroutinefunction message).2 rest := by
  have table := on_message_callbacks iscoroutinefunction receiver message
  have calls := on_message_dispatched iscoroutinefunction receiver message
  have run : Runs.run (receive iscoroutinefunction) ⟨true, receiver⟩ (message :: rest) =
      ((message, some (.ok ())) ::
        (Runs.run (receive iscoroutinefunction) ⟨true, (receiver.on_message iscoroutinefunction message).2⟩ rest).1,
      (Runs.run (receive iscoroutinefunction) ⟨true, (receiver.on_message iscoroutinefunction message).2⟩ rest).2) := by
    rw [Runs.run, receive_returned iscoroutinefunction returned]
  have asked : (receiver.on_message iscoroutinefunction message).2.dispatched ++
        rest.filterMap (dispatch_of iscoroutinefunction receiver.wrapper.callbacks) =
      receiver.dispatched ++
        (message :: rest).filterMap (dispatch_of iscoroutinefunction receiver.wrapper.callbacks) := by
    rw [calls, List.append_assoc, List.filterMap_cons]
    cases dispatch_of iscoroutinefunction receiver.wrapper.callbacks message <;> rfl
  constructor
  · rintro ⟨returns, callbacks, dispatched⟩
    rw [run] at returns callbacks dispatched
    refine ⟨fun answered member => returns answered (List.mem_cons_of_mem _ member), ?_, ?_⟩
    · rw [callbacks, table]
    · rw [dispatched, table, asked]
  · rintro ⟨returns, callbacks, dispatched⟩
    refine ⟨?_, ?_, ?_⟩
    · rw [run]
      exact List.forall_mem_cons.mpr ⟨rfl, returns⟩
    · rw [run, callbacks, table]
    · rw [run, dispatched, table, asked]

/-- Nothing breaks the receive loop just when every payload is text, and every
    exception of a callback. -/
theorem unbroken_iff (receiver : Receiver σ κ) (messages : List Message) :
    Unbroken iscoroutinefunction receiver messages ↔
      ∀ message ∈ messages, Harmless receiver.wrapper.callbacks message := by
  induction messages generalizing receiver with
  | nil => exact ⟨fun _ => nofun, fun _ => ⟨nofun, rfl, (List.append_nil _).symm⟩⟩
  | cons message rest ih =>
    rw [List.forall_mem_cons, ← on_message_returns_iff iscoroutinefunction]
    by_cases returned : (receiver.on_message iscoroutinefunction message).1 = .ok ()
    · rw [unbroken_cons iscoroutinefunction returned, ih, on_message_callbacks]
      exact (and_iff_right returned).symm
    · refine iff_of_false (fun unbroken => returned ?_) fun both => returned both.1
      have first := unbroken.returns _ List.mem_cons_self
      simpa [receive] using first

end

def kiosk : Receiver Unit Unit where
  wrapper := { (MQTTClient.new "localhost" 1883 "kiosk" () : MQTTClient Unit Unit) with callbacks := fun _ => some () }
  dispatched := []

/-- A byte that no text holds ends the thread: the message after it, on a
    registered topic, reaches no callback. -/
theorem invalid_byte_ends_thread :
    ¬ ∀ (receiver : Receiver Unit Unit) (messages : List Message), Unbroken (fun _ => false) receiver messages := by
  intro claim
  have calls := (claim kiosk [⟨"requests", ⟨#[0xff]⟩, .returns⟩, ⟨"requests", ⟨#[0x31]⟩, .returns⟩]).dispatched
  have invalid : String.fromUTF8? ⟨#[0xff]⟩ = none := by decide
  have valid : (String.fromUTF8? ⟨#[0x31]⟩).isSome := by decide
  have ended : receive (fun _ => false) ⟨true, kiosk⟩ ⟨"requests", ⟨#[0xff]⟩, .returns⟩ =
      (some (.error .UnicodeDecodeError), ⟨false, kiosk⟩) := by
    simp [receive, Receiver.on_message, invalid, Except.isOk, Except.toBool]
  obtain ⟨text, decoded⟩ := Option.isSome_iff_exists.mp valid
  rw [Runs.run, ended, run_ended] at calls
  simp [dispatch_of, kiosk, invalid, decoded] at calls

end DispenserHub.Receive
