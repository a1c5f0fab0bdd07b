import RwaControlPlane.Gate.Store
import RwaControlPlane.Library.KeyedRows
import RwaControlPlane.Library.Runs

open checked
open rwa.gate (TransactionType TransactionState SettlementRail FinalityStatus transitions confidentialTransitions
  uniqueViolation)

namespace rwa.storage

/-- `transaction_intents` -/
structure TransactionIntent where
  id : String
  tenantId : String
  productId : String
  idempotencyKey : String
  requestHash : String
  transactionType : TransactionType
  currentState : TransactionState
  ruleVersion : Nat
  navEvidenceId : Option String
  policySnapshotHash : String
  privatePayloadCiphertext : String
  settlementRail : SettlementRail
  originatingInstitutionId : Option String
deriving DecidableEq

/-- `transaction_state_history` -/
structure StateChange where
  transactionId : String
  fromState : Option TransactionState
  toState : TransactionState
  reasonCode : Option String
  actorRef : Option String
deriving DecidableEq

/-- `zk_settlements`, as far as the guards of a transaction's state read it. -/
structure ZkSettlement where
  transactionId : String
  finalityStatus : FinalityStatus
deriving DecidableEq

structure TransactionTables where
  intents : List TransactionIntent
  stateHistory : List StateChange
  zkSettlements : List ZkSettlement
deriving DecidableEq

namespace TransactionTables

def empty : TransactionTables := ⟨[], [], []⟩

def find (tables : TransactionTables) (transactionId : String) : Option TransactionIntent :=
  tables.intents.find? (·.id = transactionId)

/-- The transaction that has used an idempotency key. -/
def findKey (tables : TransactionTables) (tenantId idempotencyKey : String) : Option TransactionIntent :=
  tables.intents.find? fun row => row.tenantId = tenantId && row.idempotencyKey = idempotencyKey

/-- The recorded changes of a transaction, oldest first. -/
def historyOf (tables : TransactionTables) (transactionId : String) : List StateChange :=
  tables.stateHistory.filter (·.transactionId = transactionId)

/-- Insert a transaction under its idempotency key, or return the one that has
used the key with the same request. A new transaction is REQUESTED. -/
def createTransactionIntent (tables : TransactionTables) (intent : TransactionIntent) (actorRef : Option String) :
    Except Failure (Bool × TransactionIntent × TransactionTables) :=
  match tables.findKey intent.tenantId intent.idempotencyKey with
  | some existing => do
    throwIf (existing.requestHash ≠ intent.requestHash ∨
        existing.originatingInstitutionId ≠ intent.originatingInstitutionId)
      ⟨"IDEMPOTENCY_CONFLICT", "idempotency key reused for a different request"⟩
    pure (false, existing, tables)
  | none => do
    throwIf (intent.id ∈ tables.intents.map (·.id)) uniqueViolation
    let row := { intent with currentState := .requested }
    pure (true, row,
      { tables with
        intents := tables.intents ++ [row]
        stateHistory := tables.stateHistory ++ [⟨row.id, none, .requested, none, actorRef⟩] })

/-- The guard of the rail on a state change. -/
def railRefuses (rail : SettlementRail) (fromState toState : TransactionState) : Prop :=
  ((toState = .proofPending ∨ toState = .rootPending) ∧ rail ≠ .confidentialNote) ∨
    (rail = .confidentialNote ∧ toState ∉ confidentialTransitions fromState)

instance (rail : SettlementRail) (fromState toState : TransactionState) :
    Decidable (railRefuses rail fromState toState) :=
  inferInstanceAs (Decidable (_ ∨ _))

/-- Move a transaction to a state and record the change. -/
def transitionTransaction (tables : TransactionTables) (transactionId : String) (toState : TransactionState)
    (reasonCode actorRef : Option String) : Except Failure TransactionTables := do
  let intent ← require (tables.find transactionId) ⟨"UNKNOWN_TRANSACTION", "transaction not found"⟩
  throwIf (toState ∉ transitions intent.currentState)
    ⟨"INVALID_STATE_TRANSITION",
      "invalid transaction transition " ++ intent.currentState.text ++ " -> " ++ toState.text⟩
  throwIf (railRefuses intent.settlementRail intent.currentState toState)
    ⟨"23514", "invalid confidential transaction state transition"⟩
  pure
    { tables with
      intents := tables.intents.map fun row =>
        if row.id = transactionId then { row with currentState := toState } else row
      stateHistory :=
        tables.stateHistory ++ [⟨transactionId, some intent.currentState, toState, reasonCode, actorRef⟩] }

/-- A settlement starts behind a confidential transaction that awaits its
root. -/
def insertSettlement (tables : TransactionTables) (transactionId : String) : Except Failure TransactionTables := do
  throwIf (¬∃ row ∈ tables.intents, row.id = transactionId ∧ row.transactionType = .transfer ∧
      row.settlementRail = .confidentialNote ∧ row.currentState = .rootPending)
    ⟨"23514", "invalid confidential proof-registry boundary"⟩
  throwIf (transactionId ∈ tables.zkSettlements.map (·.transactionId)) uniqueViolation
  pure { tables with zkSettlements := tables.zkSettlements ++ [⟨transactionId, .rootPending⟩] }

/-- Make a settlement final, once. -/
def finalizeSettlement (tables : TransactionTables) (transactionId : String) : Except Failure TransactionTables := do
  throwIf (∃ row ∈ tables.zkSettlements, row.transactionId = transactionId ∧ row.finalityStatus ≠ .rootPending)
    ⟨"55000", "invalid ZK settlement lifecycle mutation"⟩
  pure
    { tables with
      zkSettlements := tables.zkSettlements.map fun row =>
        if row.transactionId = transactionId then { row with finalityStatus := .final } else row }

/-- Every settled confidential transaction has a final settlement. -/
def FinalityRecorded (tables : TransactionTables) : Prop :=
  ∀ intent ∈ tables.intents, intent.settlementRail = .confidentialNote → intent.currentState = .settled →
    ∃ settlement ∈ tables.zkSettlements, settlement.transactionId = intent.id ∧ settlement.finalityStatus = .final

instance (tables : TransactionTables) : Decidable tables.FinalityRecorded :=
  inferInstanceAs (Decidable (∀ intent ∈ tables.intents, intent.settlementRail = .confidentialNote →
    intent.currentState = .settled → _))

end TransactionTables

/-- What the services write to the transaction tables. -/
inductive Statement
  | createTransactionIntent (intent : TransactionIntent) (actorRef : Option String)
  | transitionTransaction (transactionId : String) (toState : TransactionState) (reasonCode actorRef : Option String)
  | insertSettlement (transactionId : String)
  | finalizeSettlement (transactionId : String)
deriving DecidableEq

def Statement.execute (tables : TransactionTables) : Statement → Except Failure TransactionTables
  | .createTransactionIntent intent actorRef =>
    (tables.createTransactionIntent intent actorRef).map fun created => created.2.2
  | .transitionTransaction transactionId toState reasonCode actorRef =>
    tables.transitionTransaction transactionId toState reasonCode actorRef
  | .insertSettlement transactionId => tables.insertSettlement transactionId
  | .finalizeSettlement transactionId => tables.finalizeSettlement transactionId

/-- Execute the statements of a transaction in order. -/
def execute (tables : TransactionTables) : List Statement → Except Failure TransactionTables
  | [] => .ok tables
  | statement :: rest => do
    let next ← statement.execute tables
    execute next rest

/-- A database transaction: its statements, then the constraint that is checked
at commit. A statement that a savepoint undoes is not among them. -/
def transaction (statements : List Statement) (tables : TransactionTables) :
    Except Failure (Unit × TransactionTables) := do
  let next ← execute tables statements
  throwIf (¬next.FinalityRecorded)
    ⟨"23514", "settled confidential transaction has no authoritative root finality"⟩
  pure ((), next)

/-- One transaction of any service, committed or rolled back as a whole. -/
def step (tables : TransactionTables) (statements : List Statement) : TransactionTables :=
  (commit tables (transaction statements)).2

end rwa.storage
