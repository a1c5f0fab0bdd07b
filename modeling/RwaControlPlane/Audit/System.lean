import RwaControlPlane.Audit.Checkpoints
import RwaControlPlane.Library.Runs

open checked js_value rwa.storage
open rwa.gate (uniqueViolation)

namespace rwa.audit

/-- What the callers of `recordAuditEvent` pass. -/
structure AuditInput where
  tenantId : String
  eventType : String
  aggregateType : String
  aggregateId : String
  metadata : JsValue

def auditChainLockKey (tenantId : String) : String := "rwa.audit-chain\u001f" ++ tenantId

def aggregateLockKey (event : AuditInput) : String :=
  event.tenantId ++ "\u001f" ++ event.aggregateType ++ "\u001f" ++ event.aggregateId

/-- A `createCheckpoint` call. -/
structure CheckpointCall where
  tenantId : String
  createdBy : String

/-- A transaction in flight: its snapshot, the audit events it has inserted and
its advisory locks. -/
structure Transaction where
  id : Nat
  snapshot : Tables
  inserted : List AuditEvent
  sharedLocks : List String
  exclusiveLocks : List String
  checkpoint : Option CheckpointCall

structure AuditState where
  tables : Tables
  nextSequenceId : Int
  transactions : List Transaction

namespace AuditState

def empty : AuditState := { tables := ⟨[], []⟩, nextSequenceId := 1, transactions := [] }

variable (state : AuditState)

def find (id : Nat) : Option Transaction := state.transactions.find? (·.id = id)

def others (id : Nat) : List Transaction := state.transactions.filter (·.id ≠ id)

/-- Drop a transaction that has ended. -/
def finish (id : Nat) : AuditState := { state with transactions := state.others id }

def update (id : Nat) (change : Transaction → Transaction) : AuditState :=
  { state with transactions := state.transactions.map fun row => if row.id = id then change row else row }

/-- A transaction can take a shared lock that no other one holds alone. -/
def SharedFree (id : Nat) (key : String) : Prop := ∀ row ∈ state.others id, key ∉ row.exclusiveLocks

/-- A transaction can take an exclusive lock that no other one holds. -/
def ExclusiveFree (id : Nat) (key : String) : Prop :=
  ∀ row ∈ state.others id, key ∉ row.exclusiveLocks ∧ key ∉ row.sharedLocks

instance (id : Nat) (key : String) : Decidable (state.SharedFree id key) :=
  inferInstanceAs (Decidable (∀ row ∈ _, _))

instance (id : Nat) (key : String) : Decidable (state.ExclusiveFree id key) :=
  inferInstanceAs (Decidable (∀ row ∈ _, _))

end AuditState

/-- The hash of the last event of an aggregate that a transaction sees. -/
def previousHash (events : List AuditEvent) (event : AuditInput) : Option String :=
  let rows := events.filter fun row => row.tenantId = event.tenantId ∧ row.aggregateType = event.aggregateType ∧
    row.aggregateId = event.aggregateId
  (rows.insertionSort fun later earlier => earlier.sequenceId ≤ later.sequenceId).head?.map AuditEvent.eventHash

/-- The row that `recordAuditEvent` inserts. -/
def auditRow (platform : Platform) (view : List AuditEvent) (sequenceId : Int) (event : AuditInput) :
    Except Failure AuditEvent := do
  let previousHash := previousHash view event
  let eventHash ← sha256Canonical platform (.object [("tenantId", .string event.tenantId),
    ("eventType", .string event.eventType), ("aggregateType", .string event.aggregateType),
    ("aggregateId", .string event.aggregateId), ("metadata", event.metadata),
    ("previousHash", (previousHash.map JsValue.string).getD .null)])
  let metadata ← jsonParameter platform event.metadata
  throwIf (¬IsHash eventHash) checkViolation
  pure
    { sequenceId, metadata, previousHash, eventHash, tenantId := event.tenantId, eventType := event.eventType
      aggregateType := event.aggregateType, aggregateId := event.aggregateId }

/-- Two rows that `audit_event_hash_unique` or `audit_chain_single_successor` does
not let stand beside each other. -/
def AuditEvent.Conflicts (row other : AuditEvent) : Prop :=
  row.eventHash = other.eventHash ∨
    (row.tenantId = other.tenantId ∧ row.aggregateType = other.aggregateType ∧
      row.aggregateId = other.aggregateId ∧ row.previousHash.getD "" = other.previousHash.getD "")

instance (row other : AuditEvent) : Decidable (row.Conflicts other) :=
  inferInstanceAs (Decidable (_ ∨ _))

/-- `{ ...anchor, recordedAt }` -/
def withRecordedAt (members : List (String × JsValue)) (recordedAt : String) : List (String × JsValue) :=
  if members.any (·.1 = "recordedAt") then
    members.map fun member => if member.1 = "recordedAt" then (member.1, .string recordedAt) else member
  else members ++ [("recordedAt", .string recordedAt)]

/-- A member of an object that holds a text with at least one character. -/
def hasText (members : List (String × JsValue)) (key : String) : Bool :=
  match (members.find? (·.1 = key)).map Prod.snd with
  | some (.string text) => text ≠ ""
  | _ => false

/-- The members of a value that is an object and no array. -/
def objectMembers : JsValue → Option (List (String × JsValue))
  | .object members => some members
  | _ => none

/-- `recordExternalAnchor`. An anchor is written once. -/
def recordExternalAnchor (platform : Platform) (tables : Tables) (now : Int) (tenantId : String)
    (checkpointNumber : Int) (anchor : JsValue) : Except Failure Tables := do
  throwIf (checkpointNumber ≤ 0 ∨ 9007199254740991 < checkpointNumber)
    ⟨"INVALID_CHECKPOINT_NUMBER", "checkpointNumber must be a positive integer"⟩
  let invalid : Failure := ⟨"INVALID_EXTERNAL_ANCHOR", "anchor requires a service and a reference"⟩
  let members ← require (objectMembers anchor) invalid
  throwIf (¬hasText members "service" ∨ ¬hasText members "reference") invalid
  let recorded ← rethrow typeError
    (stored platform.isoText (.object (withRecordedAt members (platform.isoText now))))
  let unavailable (row : AuditChainCheckpoint) : Bool :=
    row.tenantId = tenantId ∧ row.checkpointNumber = checkpointNumber ∧ row.externalAnchor.isNone
  throwIf (¬tables.checkpoints.any unavailable)
    ⟨"CHECKPOINT_ANCHOR_UNAVAILABLE", "checkpoint is unknown or already anchored"⟩
  pure
    { tables with
      checkpoints := tables.checkpoints.map fun row =>
        if unavailable row then { row with externalAnchor := recorded } else row }

inductive Action
  /-- the first statement of a transaction that writes audit events -/
  | begin (id : Nat)
  /-- `recordAuditEvent` takes the shared lock of the tenant -/
  | lockAuditChain (id : Nat) (tenantId : String)
  /-- the rest of `recordAuditEvent` -/
  | recordAuditEvent (id : Nat) (event : AuditInput)
  /-- `createCheckpoint` up to the start of its first statement -/
  | startCheckpoint (id : Nat) (tenantId : String) (createdBy : JsValue)
  /-- the first statement of `createCheckpoint` gets its lock -/
  | lockCheckpoint (id : Nat)
  /-- the rest of `createCheckpoint` -/
  | commitCheckpoint (id : Nat)
  | commit (id : Nat)
  | rollback (id : Nat)
  | recordExternalAnchor (now : Int) (tenantId : String) (checkpointNumber : Int) (anchor : JsValue)

/-- What the audit service runs on. `batch` is the number of rows of a page. -/
structure AuditService where
  platform : Platform
  batch : Nat
  paged : 0 < batch

variable (service : AuditService)

/-- A transaction starts, unless its id is in use. -/
def startTransaction (state : AuditState) (id : Nat) (checkpoint : Option CheckpointCall) : AuditState :=
  if (state.find id).isSome then state
  else
    { state with
      transactions := state.transactions ++
        [{ id, snapshot := state.tables, inserted := [], sharedLocks := [], exclusiveLocks := [], checkpoint }] }

/-- The insert of `recordAuditEvent`. A failure ends the transaction, and the
sequence id it has drawn is lost. Rows in flight are compared at the commit. -/
def insertEvent (state : AuditState) (transaction : Transaction) (event : AuditInput) : AuditState :=
  let key := aggregateLockKey event
  if auditChainLockKey event.tenantId ∉ transaction.sharedLocks ∨ ¬state.ExclusiveFree transaction.id key then state
  else
    match auditRow service.platform (transaction.snapshot.events ++ transaction.inserted) state.nextSequenceId event
      with
    | .error _ => state.finish transaction.id
    | .ok row =>
      if maxBigint < state.nextSequenceId then state.finish transaction.id
      else
        let drawn := { state with nextSequenceId := state.nextSequenceId + 1 }
        if ∃ other ∈ state.tables.events ++ transaction.inserted, row.Conflicts other then drawn.finish transaction.id
        else drawn.update transaction.id fun transaction =>
          { transaction with
            inserted := transaction.inserted ++ [row]
            exclusiveLocks := key :: transaction.exclusiveLocks }

/-- The end of a transaction that writes audit events. -/
def commitEvents (state : AuditState) (transaction : Transaction) : AuditState :=
  if ∃ row ∈ transaction.inserted, ∃ other ∈ state.tables.events, row.Conflicts other then state.finish transaction.id
  else
    { state.finish transaction.id with
      tables := { state.tables with events := state.tables.events ++ transaction.inserted } }

/-- `FOR UPDATE` on the last checkpoint fails where another transaction has changed
the row since the snapshot. A checkpoint can only get its anchor. -/
def Stale (state : AuditState) (transaction : Transaction) (call : CheckpointCall) : Prop :=
  ∃ last, lastCheckpoint transaction.snapshot.checkpoints call.tenantId = some last ∧ last.externalAnchor.isNone ∧
    ∃ row ∈ state.tables.checkpoints, row.tenantId = last.tenantId ∧
      row.checkpointNumber = last.checkpointNumber ∧ row.externalAnchor.isSome

instance (state : AuditState) (transaction : Transaction) (call : CheckpointCall) :
    Decidable (Stale state transaction call) :=
  match h : lastCheckpoint transaction.snapshot.checkpoints call.tenantId with
  | none => isFalse (by simp [Stale, h])
  | some last =>
    decidable_of_iff (last.externalAnchor.isNone ∧ ∃ row ∈ state.tables.checkpoints, row.tenantId = last.tenantId ∧
      row.checkpointNumber = last.checkpointNumber ∧ row.externalAnchor.isSome) (by simp [Stale, h])

/-- The tables after a `createCheckpoint` transaction, if it commits. -/
def checkpointed (state : AuditState) (transaction : Transaction) (call : CheckpointCall) : Except Failure Tables := do
  throwIf (Stale state transaction call) ⟨"40001", "could not serialize access due to concurrent update"⟩
  let row ← createCheckpoint service.platform service.batch transaction.snapshot call.tenantId call.createdBy
  insertCheckpoint state.tables row

/-- The end of `createCheckpoint`, once its first statement has the lock. -/
def commitCheckpoint (state : AuditState) (transaction : Transaction) (call : CheckpointCall) : AuditState :=
  if auditChainLockKey call.tenantId ∉ transaction.exclusiveLocks then state
  else
    match checkpointed service state transaction call with
    | .ok tables => { state.finish transaction.id with tables }
    | .error _ => state.finish transaction.id

/-- What an action does to the transaction it names. An action that is not
enabled changes nothing. -/
def advance (state : AuditState) (transaction : Transaction) (action : Action) : AuditState :=
  match action, transaction.checkpoint with
  | .lockAuditChain _ tenantId, none =>
    if state.SharedFree transaction.id (auditChainLockKey tenantId) then
      state.update transaction.id fun transaction =>
        { transaction with sharedLocks := auditChainLockKey tenantId :: transaction.sharedLocks }
    else state
  | .recordAuditEvent _ event, none => insertEvent service state transaction event
  | .commit _, none => commitEvents state transaction
  | .lockCheckpoint _, some call =>
    if state.ExclusiveFree transaction.id (auditChainLockKey call.tenantId) then
      state.update transaction.id fun transaction =>
        { transaction with exclusiveLocks := auditChainLockKey call.tenantId :: transaction.exclusiveLocks }
    else state
  | .commitCheckpoint _, some call => commitCheckpoint service state transaction call
  | .rollback _, _ => state.finish transaction.id
  | _, _ => state

/-- One step of the system. -/
def step (state : AuditState) (action : Action) : AuditState :=
  match action with
  | .begin id => startTransaction state id none
  | .startCheckpoint id tenantId createdBy =>
    match checkCreatedBy createdBy with
    | .ok createdBy => startTransaction state id (some ⟨tenantId, createdBy⟩)
    | .error _ => state
  | .recordExternalAnchor now tenantId checkpointNumber anchor =>
    match recordExternalAnchor service.platform state.tables now tenantId checkpointNumber anchor with
    | .ok tables => { state with tables }
    | .error _ => state
  | .lockAuditChain id _ | .recordAuditEvent id _ | .lockCheckpoint id | .commitCheckpoint id | .commit id
  | .rollback id =>
    match state.find id with
    | some transaction => advance service state transaction action
    | none => state

/-- State after a list of actions, from empty tables. -/
def run (actions : List Action) : AuditState := runs.run (step service) .empty actions

end rwa.audit
