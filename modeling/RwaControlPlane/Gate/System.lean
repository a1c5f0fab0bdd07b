import RwaControlPlane.Gate.Governance
import RwaControlPlane.Library.Runs

open checked rwa.security rwa.merkle

namespace rwa.gate

variable {Proof : Type}

/-- The settlement gate with its governance service. -/
structure ZkSettlementGate (Proof : Type) where
  adapter : Groth16JoinSplitProofAdapter Proof
  governanceTenantId : String
  payloadHash : ParameterPayload → String
  poseidon3 : FieldElement → FieldElement → FieldElement → FieldElement
  maxConcurrentVerifications : Nat

def ZkSettlementGate.governance (gate : ZkSettlementGate Proof) : ZkGovernanceService Proof where
  tenantId := gate.governanceTenantId
  adapter := gate.adapter
  payloadHash := gate.payloadHash

/-- An accept call between its read and its transaction. It is being verified
until it holds a verification. -/
structure AcceptCall (Proof : Type) where
  request : AcceptRequest Proof
  expectedPublicInputs : JoinSplitPublicInputs FieldElement
  verification : Option Verification

/-- An accepted proof: everything that its acceptance writes. -/
structure Acceptance where
  receiptId : String
  transactionId : String
  tenantId : String
  productId : String
  inputs : JoinSplitPublicInputs FieldElement
  verification : Verification
deriving DecidableEq

/-- The acceptance that a call has recorded. -/
def Acceptance.of (request : AcceptRequest Proof) (expected : JoinSplitPublicInputs FieldElement)
    (metadata : AcceptanceMetadata) : Acceptance where
  receiptId := metadata.receiptId
  transactionId := request.transactionId
  tenantId := request.tenantId
  productId := metadata.productId
  inputs := expected
  verification := metadata.verification

/-- What a committed transaction did to the note tree of a context. -/
inductive Event
  | genesis (contextId : FieldElement)
  | accepted (acceptance : Acceptance)
  | finalized (contextId : FieldElement) (receiptId : String)
deriving DecidableEq

/-- The database, the accept calls in flight and the committed events in commit
order. The events are a record for the proofs; no operation reads them. -/
structure GateState (Proof : Type) where
  db : Database
  calls : List (AcceptCall Proof)
  history : List Event

/-- What a call returns. -/
inductive Response
  | authorized (publicInputsHash : String)
  | verifying
  | verified (verification : Verification)
  | accepted (metadata : AcceptanceMetadata)
  | proposed (proposal : FinalizationProposal)
  | cancelled (proposalId : String)
  | finalized (outcome : FinalizeOutcome)
  | parametersProposed (proposalId : String)
  | parametersDecided (decided : DecidedProposal)
  | done
deriving DecidableEq

/-- One step of the system: a database transaction of the gate or of its
governance, one phase of an accept call, or a write of another service. -/
inductive Action (Proof : Type)
  | authorize (request : AuthorizeRequest) (now : Int)
  | acceptRead (request : AcceptRequest Proof)
  | acceptVerify (index : Nat)
  | acceptRecord (index : Nat) (uuid : String) (now : Int)
  | acceptAbandon (index : Nat)
  | proposeFinalization (request : ProposeRequest) (uuid : String)
  | cancelFinalization (request : CancelRequest)
  | finalize (request : FinalizeRequest) (clockTimestamp : Int)
  | proposeParameters (tenantId : String) (request : ParameterRequest) (proposedBy uuid : String)
  | decideParameters (request : DecideRequest)
  | insertTransaction (transaction : TransactionIntent) (instruction : Option ExecutionInstruction)
  | transitionTransaction (transactionId : String) (toState : TransactionState)
  | writeReference (reference : ReferenceData)
  | retireContext (contextId : FieldElement)
  | revokeHistoricalRoot (contextId merkleRoot : FieldElement)

namespace GateState

/-- Commit a transaction, or leave the state as it was. -/
def transact {ρ : Type} (state : GateState Proof) (operation : Database → Except Failure (ρ × Database))
    (respond : ρ → Response) (events : ρ → List Event) : Except Failure Response × GateState Proof :=
  match operation state.db with
  | .ok (result, db) => (.ok (respond result), { state with db, history := state.history ++ events result })
  | .error failure => (.error failure, state)

/-- Number of accept calls that wait for the verifier. -/
def activeVerifications (state : GateState Proof) : Nat :=
  state.calls.countP (·.verification.isNone)

/-- Read the authorization and start the verification of an accept call. -/
def acceptRead (gate : ZkSettlementGate Proof) (state : GateState Proof) (request : AcceptRequest Proof) :
    Except Failure Response × GateState Proof :=
  match readAuthorization gate.adapter request state.db with
  | .error failure => (.error failure, state)
  | .ok expectedPublicInputs =>
    if gate.maxConcurrentVerifications ≤ state.activeVerifications then
      (.error ⟨"PROOF_VERIFIER_BUSY", "proof verifier concurrency limit reached"⟩, state)
    else
      (.ok .verifying,
        { state with calls := state.calls ++ [{ request, expectedPublicInputs, verification := none }] })

/-- Finish the verification of an accept call. A call whose proof is refused
ends. -/
def acceptVerify (gate : ZkSettlementGate Proof) (state : GateState Proof) (index : Nat) :
    Except Failure Response × GateState Proof :=
  match state.calls[index]?.filter (·.verification.isNone) with
  | none => (.ok .done, state)
  | some call =>
    match verifyJoinSplit gate.adapter call.request.proof call.request.publicSignals call.expectedPublicInputs with
    | .error failure => (.error failure, { state with calls := state.calls.eraseIdx index })
    | .ok verification =>
      (.ok (.verified verification),
        { state with calls := state.calls.set index { call with verification := some verification } })

/-- Record a verified accept call. The call ends whether it commits or not. -/
def acceptRecord (state : GateState Proof) (index : Nat) (uuid : String) (now : Int) :
    Except Failure Response × GateState Proof :=
  match state.calls[index]? with
  | none => (.ok .done, state)
  | some call =>
    match call.verification with
    | none => (.ok .done, state)
    | some verification =>
      { state with calls := state.calls.eraseIdx index }.transact
        (recordAcceptance call.request call.expectedPublicInputs verification uuid now) .accepted
        fun metadata => [.accepted (Acceptance.of call.request call.expectedPublicInputs metadata)]

/-- Finalize a transaction. A stale proposal is cancelled and reported. -/
def finalize (gate : ZkSettlementGate Proof) (state : GateState Proof) (request : FinalizeRequest)
    (clockTimestamp : Int) : Except Failure Response × GateState Proof :=
  match finalizeTransaction gate.poseidon3 request clockTimestamp state.db with
  | .error failure => (.error failure, state)
  | .ok (.stale _ _, db) =>
    (.error ⟨"STALE_ROOT_PUBLICATION",
      "the note tree advanced after this proposal; it was cancelled and must be re-proposed"⟩, { state with db })
  | .ok (.settled receiptId contextId merkleRoot treeSize, db) =>
    (.ok (.finalized (.settled receiptId contextId merkleRoot treeSize)),
      { state with db, history := state.history ++ [.finalized contextId receiptId] })

end GateState

/-- The genesis that a decision commits. -/
def genesisEvents (decided : DecidedProposal) : List Event :=
  match decided.status, decided.payload with
  | .approved, .productContext _ contextId _ _ _ => [.genesis contextId]
  | _, _ => []

/-- Confidential transactions reach ROOT_PENDING and SETTLED through the gate
only. -/
def gateOwned (rail : SettlementRail) (state : TransactionState) : Bool :=
  rail = .confidentialNote && (state = .rootPending || state = .settled)

def insertTransaction (transaction : TransactionIntent) (instruction : Option ExecutionInstruction)
    (db : Database) : Except Failure (Unit × Database) := do
  throwIf (gateOwned transaction.settlementRail transaction.currentState = true)
    ⟨"23514", "a confidential transaction is created before its proof"⟩
  throwIf (transaction.id ∈ db.transactions.map (·.id)) uniqueViolation
  throwIf (∃ row ∈ instruction, row.transactionId ∈ db.instructions.map (·.transactionId)) uniqueViolation
  pure ((),
    { db with
      transactions := db.transactions ++ [transaction]
      instructions := db.instructions ++ instruction.toList })

def otherTransition (transactionId : String) (toState : TransactionState) (db : Database) :
    Except Failure (Unit × Database) := do
  throwIf (∃ row ∈ db.transactions, row.id = transactionId ∧ gateOwned row.settlementRail toState = true)
    ⟨"23514", "only the gate settles confidential transactions"⟩
  let next ← db.transitionTransaction transactionId toState
  pure ((), next)

def retireContext (contextId : FieldElement) (db : Database) : Except Failure (Unit × Database) :=
  pure ((),
    { db with
      contexts := db.contexts.map fun row => if row.contextId = contextId then { row with retired := true } else row })

def revokeHistoricalRoot (contextId merkleRoot : FieldElement) (db : Database) : Except Failure (Unit × Database) :=
  pure ((),
    { db with
      roots := db.roots.map fun row =>
        if row.contextId = contextId ∧ row.merkleRoot = merkleRoot ∧ row.status = .historical then
          { row with status := .revoked }
        else row })

/-- The response and the next state of one step. -/
def respond (gate : ZkSettlementGate Proof) (state : GateState Proof) :
    Action Proof → Except Failure Response × GateState Proof
  | .authorize request now => state.transact (authorize gate.adapter request now) .authorized fun _ => []
  | .acceptRead request => state.acceptRead gate request
  | .acceptVerify index => state.acceptVerify gate index
  | .acceptRecord index uuid now => state.acceptRecord index uuid now
  | .acceptAbandon index => (.ok .done, { state with calls := state.calls.eraseIdx index })
  | .proposeFinalization request uuid =>
    state.transact (proposeFinalization gate.poseidon3 request uuid) .proposed fun _ => []
  | .cancelFinalization request => state.transact (cancelFinalization request) .cancelled fun _ => []
  | .finalize request clockTimestamp => state.finalize gate request clockTimestamp
  | .proposeParameters tenantId request proposedBy uuid =>
    state.transact (proposeParameters gate.governance tenantId request proposedBy uuid) .parametersProposed fun _ => []
  | .decideParameters request =>
    state.transact (decideParameters gate.governance gate.poseidon3 request) .parametersDecided
      genesisEvents
  | .insertTransaction transaction instruction =>
    state.transact (insertTransaction transaction instruction) (fun _ => .done) fun _ => []
  | .transitionTransaction transactionId toState =>
    state.transact (otherTransition transactionId toState) (fun _ => .done) fun _ => []
  | .writeReference reference => (.ok .done, { state with db := { state.db with reference } })
  | .retireContext contextId => state.transact (retireContext contextId) (fun _ => .done) fun _ => []
  | .revokeHistoricalRoot contextId merkleRoot =>
    state.transact (revokeHistoricalRoot contextId merkleRoot) (fun _ => .done) fun _ => []

def step (gate : ZkSettlementGate Proof) (state : GateState Proof) (action : Action Proof) : GateState Proof :=
  (respond gate state action).2

/-- The state before any call. -/
def GateState.start (db : Database) : GateState Proof where
  db := db
  calls := []
  history := []

/-- The state after a run of steps. -/
def run (gate : ZkSettlementGate Proof) (db : Database) (actions : List (Action Proof)) : GateState Proof :=
  runs.run (step gate) (GateState.start db) actions

end rwa.gate
