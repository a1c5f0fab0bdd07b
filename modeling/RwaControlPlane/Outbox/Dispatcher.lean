import RwaControlPlane.Outbox.Order

open checked paging rwa.storage

namespace rwa.outbox.queue

structure OutboxDispatcher where
  workerId : String
  tenantId : Option String
  leaseMs : Nat
  maxAttempts : Nat
  baseDelayMs : Nat
  maxDelayMs : Nat
  workerId_ne : workerId ≠ ""
  leaseMs_pos : 0 < leaseMs
  maxAttempts_pos : 0 < maxAttempts
  baseDelayMs_pos : 0 < baseDelayMs
  maxDelayMs_pos : 0 < maxDelayMs

def assertPositiveInteger (value : Nat) (name : String) : Except Failure Unit :=
  throwIf (value = 0) ⟨"", name ++ " must be a positive integer"⟩

def retryDelayMs (attempt baseDelayMs maxDelayMs : Nat) : Except Failure Nat := do
  assertPositiveInteger attempt "attempt"
  assertPositiveInteger baseDelayMs "baseDelayMs"
  assertPositiveInteger maxDelayMs "maxDelayMs"
  pure (min maxDelayMs (baseDelayMs * 2 ^ min (attempt - 1) 30))

/-- What `dispatchBatch` returns. -/
structure DispatchResult where
  claimed : Nat
  published : Nat
  failed : Nat
  dead : Nat
deriving DecidableEq

/-- Where a batch is with its current event. -/
inductive Phase
  | publishing
  | published
  | caught (error : String)
deriving DecidableEq

/-- A call of `dispatchBatch` in progress, with its current event and the ones after
it. It remembers the events that it has claimed and those it has come to. -/
structure Batch where
  id : Nat
  dispatcher : OutboxDispatcher
  current : QueuedEvent
  rest : List QueuedEvent
  phase : Phase
  result : DispatchResult
  claimed : List String
  attempted : List String

/-- A call of `dispatchBatch` that has returned or thrown. An event is lost when the
settling of it was refused. -/
structure Ended where
  claimed : List String
  attempted : List String
  lost : Nat
  outcome : Except Failure DispatchResult

/-- An event that was dead-lettered, with the limit of the dispatcher that did it and
the number of publish attempts that had failed since its last replay. -/
structure DeadLetter where
  eventId : String
  maxAttempts : Nat
  failedAttempts : Nat

structure DispatchState where
  store : QueueState
  batches : List Batch
  ended : List Ended
  failures : List String
  deadLetters : List DeadLetter

inductive DispatchAction
  | store (action : Action)
  | dispatchBatch (id : Nat) (dispatcher : OutboxDispatcher) (limit : Nat) (locked returned : List String)
  | publishEnds (id : Nat) (error : Option String)
  | settle (id : Nat)

/-- The statements that only dispatchers send. -/
def Action.ofDispatcher : Action → Bool
  | .claimOutboxBatch .. | .markOutboxPublished .. | .markOutboxFailed .. => true
  | _ => false

namespace DispatchState

def empty : DispatchState := { store := .empty, batches := [], ended := [], failures := [], deadLetters := [] }

variable (state : DispatchState)

def find (id : Nat) : Option Batch := state.batches.find? (·.id = id)

def others (id : Nat) : List Batch := state.batches.filter (·.id ≠ id)

/-- Put a batch in the place of the one with its id. -/
def put (batch : Batch) : DispatchState := { state with batches := batch :: state.others batch.id }

def finish (batch : Batch) (lost : Nat) (outcome : Except Failure DispatchResult) : DispatchState :=
  { state with
    batches := state.others batch.id
    ended := state.ended ++ [{ claimed := batch.claimed, attempted := batch.attempted, lost, outcome }] }

/-- The next event of the loop, or the end of the call. -/
def advance (batch : Batch) (result : DispatchResult) : DispatchState :=
  match batch.rest with
  | [] => state.finish batch 0 (.ok result)
  | next :: rest =>
    state.put
      { batch with current := next, rest, phase := .publishing, result, attempted := batch.attempted ++ [next.id] }

end DispatchState

/-- An event is dead before and pending after. -/
def Replayed (before after : Tables) (id : String) : Prop :=
  (∃ row ∈ before.events, row.id = id ∧ row.status = .dead) ∧ ∃ row ∈ after.events, row.id = id ∧ row.status = .pending

instance (before after : Tables) (id : String) : Decidable (Replayed before after id) :=
  inferInstanceAs (Decidable (_ ∧ _))

variable (platform : Platform)

/-- Any other statement on the outbox. A replayed event starts anew. -/
def storeStep (state : DispatchState) (action : Action) : DispatchState :=
  let store := step platform state.store action
  { state with
    store
    failures := state.failures.filter fun id => ¬Replayed state.store.tables store.tables id }

/-- The call up to the claimed events, which come back in any order. -/
def startBatch (state : DispatchState) (id : Nat) (dispatcher : OutboxDispatcher) (limit : Nat)
    (locked returned : List String) : DispatchState :=
  let call : ClaimCall := ⟨dispatcher.workerId, dispatcher.tenantId, limit, dispatcher.leaseMs⟩
  if limit = 0 ∨ (state.find id).isSome ∨
    ¬returned.Perm (candidates state.store.tables state.store.now call locked) then
    state
  else
    let tables := claimOutboxBatch state.store.tables state.store.now call locked
    let claimed := { state with store := { state.store with tables } }
    let result : DispatchResult := ⟨returned.length, 0, 0, 0⟩
    match returned.filterMap fun id => tables.events.find? (·.id = id) with
    | [] => { claimed with ended := state.ended ++ [⟨returned, [], 0, .ok result⟩] }
    | current :: rest =>
      { claimed with
        batches := state.batches ++
          [{ id, dispatcher, current, rest, phase := .publishing, result, claimed := returned
             attempted := [current.id] }] }

/-- `publish` returns or throws. -/
def publishStep (state : DispatchState) (batch : Batch) (error : Option String) : DispatchState :=
  match batch.phase, error with
  | .publishing, none => state.put { batch with phase := .published }
  | .publishing, some message =>
    { state.put { batch with phase := .caught message } with failures := state.failures ++ [batch.current.id] }
  | _, _ => state

/-- The next statement of the loop on the current event. -/
def settleStep (state : DispatchState) (batch : Batch) : DispatchState :=
  match batch.phase with
  | .publishing => state
  | .published =>
    match markOutboxPublished state.store.tables state.store.now batch.current.id batch.dispatcher.workerId with
    | .error failure => state.put { batch with phase := .caught failure.message }
    | .ok tables =>
      DispatchState.advance { state with store := { state.store with tables } } batch
        { batch.result with published := batch.result.published + 1 }
  | .caught error =>
    let dead := decide (batch.dispatcher.maxAttempts ≤ batch.current.attempts)
    match retryDelayMs batch.current.attempts batch.dispatcher.baseDelayMs batch.dispatcher.maxDelayMs with
    | .error failure => state.finish batch 0 (.error failure)
    | .ok delay =>
      match markOutboxFailed state.store.tables state.store.now
          ⟨batch.current.id, batch.dispatcher.workerId, error, dead, delay⟩ with
      | .error failure => state.finish batch 1 (.error failure)
      | .ok tables =>
        let settled := { state with store := { state.store with tables } }
        if dead = true then
          DispatchState.advance
            { settled with
              deadLetters := state.deadLetters ++
                [⟨batch.current.id, batch.dispatcher.maxAttempts, state.failures.count batch.current.id⟩] }
            batch { batch.result with dead := batch.result.dead + 1 }
        else settled.advance batch { batch.result with failed := batch.result.failed + 1 }

/-- One step of the dispatchers and of what goes on beside them. -/
def dispatchStep (state : DispatchState) (action : DispatchAction) : DispatchState :=
  match action with
  | .store action => if action.ofDispatcher then state else storeStep platform state action
  | .dispatchBatch id dispatcher limit locked returned => startBatch state id dispatcher limit locked returned
  | .publishEnds id error =>
    match state.find id with
    | some batch => publishStep state batch error
    | none => state
  | .settle id =>
    match state.find id with
    | some batch => settleStep state batch
    | none => state

def dispatchRun (actions : List DispatchAction) : DispatchState := runs.run (dispatchStep platform) .empty actions

end rwa.outbox.queue
