import RwaControlPlane.Library.Paging
import RwaControlPlane.Library.Runs
import RwaControlPlane.Outbox.Inbox

open checked paging rwa.storage
open rwa.gate (uniqueViolation)

namespace rwa.outbox.queue

/-- `outbox_events_status_check` -/
inductive EventStatus
  | pending
  | claimed
  | published
  | failed
  | dead
deriving DecidableEq

/-- A row of `outbox_events` with the columns of its delivery. -/
structure QueuedEvent where
  event : OutboxEvent
  enqueueSequence : Int
  status : EventStatus
  attempts : Nat
  availableAt : Int
  claimedBy : Option String
  leaseExpiresAt : Option Int
  lastError : Option String
  replayCount : Nat

namespace QueuedEvent

def id (row : QueuedEvent) : String := row.event.id

/-- The events of an aggregate are delivered in the order of their sequence. -/
def aggregate (row : QueuedEvent) : String × String := (row.event.tenantId, row.event.aggregateId)

end QueuedEvent

inductive RequestStatus
  | pending
  | executed
  | rejected
deriving DecidableEq

/-- `dead_letter_replay_requests` -/
structure ReplayRequest where
  id : String
  eventId : String
  tenantId : String
  status : RequestStatus
  makerRef : String
  reason : String
  deadErrorSnapshot : Option String
  checkerRef : Option String

structure Tables where
  events : List QueuedEvent
  requests : List ReplayRequest

/-- Arguments of `claimOutboxBatch`. -/
structure ClaimCall where
  workerId : String
  tenantId : Option String
  limit : Nat
  leaseMs : Int

/-- Arguments of `markOutboxFailed`. -/
structure FailCall where
  id : String
  workerId : String
  error : String
  dead : Bool
  retryDelayMs : Int

variable (tables : Tables) (now : Int)

/-- An earlier event of the same aggregate is not published. -/
def HeldBack (row : QueuedEvent) : Prop :=
  ∃ earlier ∈ tables.events, earlier.aggregate = row.aggregate ∧ earlier.enqueueSequence < row.enqueueSequence ∧
    earlier.status ≠ .published

/-- The condition of the candidates of `claimOutboxBatch`. -/
def Claimable (tenantId : Option String) (row : QueuedEvent) : Prop :=
  (∀ tenant ∈ tenantId, row.event.tenantId = tenant) ∧
    (((row.status = .pending ∨ row.status = .failed) ∧ row.availableAt ≤ now) ∨
      (row.status = .claimed ∧ ∃ expiry ∈ row.leaseExpiresAt, expiry ≤ now)) ∧
    ¬HeldBack tables row

instance (row : QueuedEvent) : Decidable (HeldBack tables row) :=
  inferInstanceAs (Decidable (∃ earlier ∈ _, _))

instance (tenantId : Option String) (row : QueuedEvent) : Decidable (Claimable tables now tenantId row) :=
  inferInstanceAs (Decidable (_ ∧ _))

/-- The ids that a claim takes. Rows that another transaction has locked are
skipped. -/
def candidates (call : ClaimCall) (locked : List String) : List String :=
  let claimable := tables.events.filter fun row => Claimable tables now call.tenantId row ∧ row.id ∉ locked
  ((inOrder QueuedEvent.enqueueSequence claimable).take call.limit).map QueuedEvent.id

/-- `claimOutboxBatch` -/
def claimOutboxBatch (call : ClaimCall) (locked : List String) : Tables :=
  let claimed := candidates tables now call locked
  { tables with
    events := tables.events.map fun row =>
      if row.id ∈ claimed then
        { row with
          status := .claimed
          claimedBy := some call.workerId
          leaseExpiresAt := some (now + call.leaseMs)
          attempts := row.attempts + 1 }
      else row }

/-- A worker holds the lease of an event. -/
def Leased (workerId : String) (row : QueuedEvent) : Prop :=
  row.status = .claimed ∧ row.claimedBy = some workerId ∧ ∃ expiry ∈ row.leaseExpiresAt, now < expiry

instance (workerId : String) (row : QueuedEvent) : Decidable (Leased now workerId row) :=
  inferInstanceAs (Decidable (_ ∧ _ ∧ _))

/-- `markOutboxPublished` -/
def markOutboxPublished (id workerId : String) : Except Failure Tables := do
  throwIf (¬∃ row ∈ tables.events, row.id = id ∧ Leased now workerId row)
    ⟨"OUTBOX_CLAIM_MISMATCH", "outbox claim is missing or owned by another worker"⟩
  pure
    { tables with
      events := tables.events.map fun row =>
        if row.id = id ∧ Leased now workerId row then
          { row with status := .published, lastError := none, claimedBy := none, leaseExpiresAt := none }
        else row }

/-- `markOutboxFailed` -/
def markOutboxFailed (call : FailCall) : Except Failure Tables := do
  throwIf (¬∃ row ∈ tables.events, row.id = call.id ∧ Leased now call.workerId row)
    ⟨"OUTBOX_CLAIM_MISMATCH", "outbox claim is missing, expired or owned by another worker"⟩
  pure
    { tables with
      events := tables.events.map fun row =>
        if row.id = call.id ∧ Leased now call.workerId row then
          { row with
            status := if call.dead then .dead else .failed
            lastError := some (String.ofList (call.error.toList.take 2000))
            availableAt := if call.dead then row.availableAt else now + call.retryDelayMs
            claimedBy := none
            leaseExpiresAt := none }
        else row }

def invalidDeadLetterState (message : String) : Failure := ⟨"INVALID_DEAD_LETTER_STATE", message⟩

/-- `proposeDeadLetterReplay` -/
def proposeDeadLetterReplay (requestId eventId tenantId makerRef reason : String) : Except Failure Tables := do
  let invalid := invalidDeadLetterState "dead-letter replay requires a matching DEAD event"
  let event ← require (tables.events.find? (·.id = eventId)) invalid
  throwIf (event.status ≠ .dead ∨ event.event.tenantId ≠ tenantId) invalid
  throwIf (reason.length < 8) checkViolation
  throwIf (∃ row ∈ tables.requests, row.id = requestId ∨ (row.eventId = eventId ∧ row.status = .pending))
    uniqueViolation
  pure
    { tables with
      requests := tables.requests ++
        [{ eventId, tenantId, makerRef, reason, id := requestId, status := .pending
           deadErrorSnapshot := event.lastError, checkerRef := none }] }

/-- The end of a replay request. -/
def decideRequest (requests : List ReplayRequest) (requestId checkerRef : String) (status : RequestStatus) :
    List ReplayRequest :=
  requests.map fun row => if row.id = requestId then { row with status, checkerRef := some checkerRef } else row

/-- `decideDeadLetterReplay` -/
def decideDeadLetterReplay (requestId checkerRef decision : String) : Except Failure Tables := do
  throwIf (decision ∉ ["APPROVE", "REJECT"])
    ⟨"INVALID_APPROVAL_DECISION", "dead-letter replay decision must be APPROVE or REJECT"⟩
  let notPending := invalidDeadLetterState "dead-letter replay request is not pending"
  let request ← require (tables.requests.find? (·.id = requestId)) notPending
  throwIf (request.status ≠ .pending) notPending
  throwIf (request.makerRef = checkerRef)
    ⟨"MAKER_CHECKER_CONFLICT", "dead-letter replay maker and checker must differ"⟩
  if decision = "REJECT" then
    pure { tables with requests := decideRequest tables.requests requestId checkerRef .rejected }
  else
    let replayable := tables.events.any fun row => row.id = request.eventId ∧ row.status = .dead
    throwIf (replayable = false) (invalidDeadLetterState "dead-letter event is no longer replayable")
    pure
      { events := tables.events.map fun row =>
          if row.id = request.eventId ∧ row.status = .dead then
            { row with
              status := .pending
              attempts := 0
              availableAt := now
              claimedBy := none
              leaseExpiresAt := none
              lastError := none
              replayCount := row.replayCount + 1 }
          else row
        requests := decideRequest tables.requests requestId checkerRef .executed }

/-- A transaction that inserts events. -/
structure Writer where
  id : Nat
  inserted : List QueuedEvent

structure QueueState where
  tables : Tables
  nextSequence : Int
  now : Int
  writers : List Writer

inductive Action
  | begin (id : Nat)
  | enqueueOutbox (id : Nat) (input : OutboxInput) (availableAt : Option Int)
  | commit (id : Nat)
  | rollback (id : Nat)
  | tick (elapsed : Nat)
  | claimOutboxBatch (call : ClaimCall) (locked : List String)
  | markOutboxPublished (id workerId : String)
  | markOutboxFailed (call : FailCall)
  | proposeDeadLetterReplay (requestId eventId tenantId makerRef reason : String)
  | decideDeadLetterReplay (requestId checkerRef decision : String)

namespace QueueState

def empty : QueueState := { tables := ⟨[], []⟩, nextSequence := 1, now := 0, writers := [] }

variable (state : QueueState)

def find (id : Nat) : Option Writer := state.writers.find? (·.id = id)

def finish (id : Nat) : QueueState := { state with writers := state.writers.filter (·.id ≠ id) }

/-- A statement that fails changes nothing. -/
def apply (outcome : Except Failure Tables) : QueueState :=
  match outcome with
  | .ok tables => { state with tables }
  | .error _ => state

end QueueState

variable (platform : Platform)

/-- `enqueueOutbox` in a transaction. A failure ends the transaction. -/
def insertEvent (state : QueueState) (writer : Writer) (input : OutboxInput) (availableAt : Option Int) : QueueState :=
  match outboxRow platform input with
  | .error _ => state.finish writer.id
  | .ok event =>
    let drawn := { state with nextSequence := state.nextSequence + 1 }
    if ∃ row ∈ state.tables.events ++ writer.inserted, row.id = input.id then drawn.finish writer.id
    else
      { drawn with
        writers := state.writers.map fun row =>
          if row.id = writer.id then
            { row with
              inserted := row.inserted ++
                [{ event, enqueueSequence := state.nextSequence, status := .pending, attempts := 0
                   availableAt := availableAt.getD state.now, claimedBy := none, leaseExpiresAt := none
                   lastError := none, replayCount := 0 }] }
          else row }

/-- The end of a transaction. An id that another one has inserted since violates
the primary key. -/
def commitWriter (state : QueueState) (writer : Writer) : QueueState :=
  if ∃ row ∈ writer.inserted, ∃ other ∈ state.tables.events, other.id = row.id then state.finish writer.id
  else { state.finish writer.id with tables := { state.tables with events := state.tables.events ++ writer.inserted } }

/-- One step of the system. -/
def step (state : QueueState) (action : Action) : QueueState :=
  match action with
  | .begin id =>
    if (state.find id).isSome then state else { state with writers := state.writers ++ [{ id, inserted := [] }] }
  | .enqueueOutbox id input availableAt =>
    match state.find id with
    | some writer => insertEvent platform state writer input availableAt
    | none => state
  | .commit id =>
    match state.find id with
    | some writer => commitWriter state writer
    | none => state
  | .rollback id => state.finish id
  | .tick elapsed => { state with now := state.now + elapsed }
  | .claimOutboxBatch call locked => { state with tables := claimOutboxBatch state.tables state.now call locked }
  | .markOutboxPublished id workerId => state.apply (markOutboxPublished state.tables state.now id workerId)
  | .markOutboxFailed call => state.apply (markOutboxFailed state.tables state.now call)
  | .proposeDeadLetterReplay requestId eventId tenantId makerRef reason =>
    state.apply (proposeDeadLetterReplay state.tables requestId eventId tenantId makerRef reason)
  | .decideDeadLetterReplay requestId checkerRef decision =>
    state.apply (decideDeadLetterReplay state.tables state.now requestId checkerRef decision)

/-- State after a list of actions, from an empty outbox. -/
def run (actions : List Action) : QueueState := runs.run (step platform) .empty actions

end rwa.outbox.queue
