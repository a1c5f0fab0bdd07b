import RwaControlPlane.Library.Runs
import RwaControlPlane.Outbox.Inbox

open checked rwa.storage

namespace rwa.outbox

/-- A delivery in flight. The snapshot is that of its current attempt, and what
the handler has returned in it is kept until the commit. -/
structure Delivery (ρ : Type) where
  id : Nat
  consumerName : String
  event : OutboxEvent
  attempt : Nat
  snapshot : Option (Tables ρ)
  handled : Option (Handled ρ)

/-- How a delivery has ended. -/
structure Outcome where
  id : Nat
  consumerName : String
  event : OutboxEvent
  answer : Except Failure Answer

def Outcome.key (outcome : Outcome) : String × String := (outcome.consumerName, outcome.event.id)

structure InboxState (ρ : Type) where
  tables : Tables ρ
  deliveries : List (Delivery ρ)
  outcomes : List Outcome

inductive Action (ρ : Type)
  /-- a business transaction that inserts an event commits -/
  | enqueueOutbox (input : OutboxInput)
  /-- a call of `consumeOutboxOnce` -/
  | deliver (id : Nat) (consumerName : String) (event : OutboxEvent)
  /-- the first statement of an attempt -/
  | read (id : Nat)
  /-- the handler returns or throws -/
  | handle (id : Nat) (outcome : Except Failure (Handled ρ))
  /-- the rest of an attempt -/
  | commit (id : Nat)
  /-- a statement of an attempt fails -/
  | fail (id : Nat) (failure : Failure)

namespace InboxState

variable {ρ : Type}

def empty : InboxState ρ := { tables := ⟨[], [], []⟩, deliveries := [], outcomes := [] }

variable (state : InboxState ρ)

def find (id : Nat) : Option (Delivery ρ) := state.deliveries.find? (·.id = id)

/-- Whether a delivery has had this id. -/
def Used (id : Nat) : Prop := id ∈ state.deliveries.map Delivery.id ∨ id ∈ state.outcomes.map Outcome.id

instance (id : Nat) : Decidable (state.Used id) := inferInstanceAs (Decidable (_ ∨ _))

/-- Replace a delivery in flight. -/
def put (delivery : Delivery ρ) : InboxState ρ :=
  { state with deliveries := state.deliveries.map fun row => if row.id = delivery.id then delivery else row }

/-- A delivery ends. -/
def finish (delivery : Delivery ρ) (answer : Except Failure Answer) : InboxState ρ :=
  { state with
    deliveries := state.deliveries.filter (·.id ≠ delivery.id)
    outcomes := state.outcomes ++
      [{ id := delivery.id, consumerName := delivery.consumerName, event := delivery.event, answer }] }

/-- The `catch` of `withSerializableTransaction`: an attempt that could not be
serialized is repeated, up to the third. -/
def attemptFailed (delivery : Delivery ρ) (failure : Failure) : InboxState ρ :=
  if failure.code ∉ ["40001", "40P01"] ∨ delivery.attempt = 3 then state.finish delivery (.error failure)
  else state.put { delivery with attempt := delivery.attempt + 1, snapshot := none, handled := none }

end InboxState

variable {ρ : Type} (platform : Platform)

/-- The handler is called when the event was not consumed in the snapshot. -/
def handlerReturns (state : InboxState ρ) (delivery : Delivery ρ) (snapshot : Tables ρ)
    (outcome : Except Failure (Handled ρ)) : InboxState ρ :=
  match checkEvent platform snapshot.consumptions delivery.consumerName delivery.event, outcome with
  | .ok none, .ok handled => state.put { delivery with handled := some handled }
  | .ok none, .error failure => state.attemptFailed delivery failure
  | _, _ => state

/-- An attempt ends, once its handler has returned or is not called. -/
def commitAttempt (state : InboxState ρ) (delivery : Delivery ρ) (snapshot : Tables ρ) : InboxState ρ :=
  match checkEvent platform snapshot.consumptions delivery.consumerName delivery.event with
  | .error failure => state.attemptFailed delivery failure
  | .ok (some answer) => state.finish delivery (.ok answer)
  | .ok none =>
    match delivery.handled with
    | none => state
    | some handled =>
      match recordConsumption platform snapshot state.tables delivery.id delivery.consumerName delivery.event handled
        with
      | .error failure => state.attemptFailed delivery failure
      | .ok (answer, tables) => { state.finish delivery (.ok answer) with tables }

/-- What an action does to the delivery it names. An action that is not enabled
changes nothing. -/
def advance (state : InboxState ρ) (delivery : Delivery ρ) (action : Action ρ) : InboxState ρ :=
  match action, delivery.snapshot with
  | .read _, none => state.put { delivery with snapshot := some state.tables }
  | .handle _ outcome, some snapshot =>
    if delivery.handled.isSome then state else handlerReturns platform state delivery snapshot outcome
  | .commit _, some snapshot => commitAttempt platform state delivery snapshot
  | .fail _ failure, _ => state.attemptFailed delivery failure
  | _, _ => state

/-- One step of the system. -/
def step (state : InboxState ρ) (action : Action ρ) : InboxState ρ :=
  match action with
  | .enqueueOutbox input =>
    match enqueueOutbox platform state.tables.events input with
    | .ok events => { state with tables := { state.tables with events } }
    | .error _ => state
  | .deliver id consumerName event =>
    if state.Used id then state
    else
      { state with
        deliveries := state.deliveries ++
          [{ id, consumerName, event, attempt := 1, snapshot := none, handled := none }] }
  | .read id | .handle id _ | .commit id | .fail id _ =>
    match state.find id with
    | some delivery => advance platform state delivery action
    | none => state

/-- State after a list of actions, from empty tables. -/
def run (actions : List (Action ρ)) : InboxState ρ := runs.run (step platform) .empty actions

end rwa.outbox
