import RwaControlPlane.Callbacks.Applied
import RwaControlPlane.Durable.SettledValues
import RwaControlPlane.Library.Decimal
import RwaControlPlane.Security.EconomicCommitment

open checked js_value
open rwa.catalog (Institution SigningKey RoleAssignment lookup)
open rwa.durable (CommittedValue DurableWorkflowService SettledValues)
open rwa.security (EconomicCommitter economicMessage)
open rwa.storage (TransactionIntent IsHash)

namespace rwa.reconciliation

open rwa.callbacks

variable {mac : String → String → String}

/-- The workflow service and the callback service of a deployment, up to what changes
from call to call. -/
structure Services where
  workflow : DurableWorkflowService
  callbacks : CallbackService

/-- The tables with the committer that is in use. The products of the catalog stand
behind those of the workflow service. -/
structure State (mac : String → String → String) where
  committer : EconomicCommitter mac
  db : durable.Database
  institutions : List Institution
  roleAssignments : List RoleAssignment
  signingKeys : List SigningKey
  catalogProducts : List Product
  tables : Tables

namespace State

variable (state : State mac)

def initial (committer : EconomicCommitter mac) : State mac :=
  ⟨committer, durable.Database.empty, [], [], [], [], Tables.empty⟩

/-- What callbacks read of a transaction. -/
def intentRow (row : TransactionIntent) : gate.TransactionIntent where
  id := row.id
  tenantId := row.tenantId
  productId := row.productId
  transactionType := row.transactionType
  currentState := row.currentState
  requestHash := row.requestHash
  settlementRail := row.settlementRail
  originatingInstitutionId := row.originatingInstitutionId

def registry : Registry where
  institutions := state.institutions
  roleAssignments := state.roleAssignments
  signingKeys := state.signingKeys
  products := (state.db.products.map fun row => ⟨row.id, row.currency⟩) ++ state.catalogProducts
  transactions := state.db.transactions.intents.map intentRow
  commitments := state.db.commitments

end State

variable (services : Services)

/-- The workflow service of a tenant, with the committer that is in use. -/
def workflowService (committer : EconomicCommitter mac) (tenantId : String) : DurableWorkflowService :=
  { services.workflow with
    tenantId
    economicCommitter := some
      { version := committer.version, keyId := committer.keyId
        commit := fun transactionId productId field value =>
          committer.commit services.callbacks.platform.numberText
            ⟨tenantId, transactionId, productId, field, toString value⟩ committer.keyId } }

/-- The callback service of a tenant, with the committer that is in use. -/
def callbackService (committer : EconomicCommitter mac) (tenantId : String) : CallbackService :=
  { services.callbacks with
    tenantId
    matchesCommitment := some (committer.matches services.callbacks.platform.numberText) }

/-- Insert a transaction of the confidential rail, or update it. -/
def recordConfidential (row : TransactionIntent) (db : durable.Database) : durable.Database :=
  if row.settlementRail = .registered then db
  else
    let intents := db.transactions.intents
    let intents :=
      if row.id ∈ intents.map (·.id) then
        intents.map fun stored => if stored.id = row.id ∧ stored.settlementRail ≠ .registered then row else stored
      else intents ++ [row]
    { db with transactions := { db.transactions with intents } }

/-- A call of the workflow service, a posted callback, a deployment with another
committer, and what other services write. -/
inductive Action (mac : String → String → String)
  | workflow (tenantId : String) (action : durable.Action)
  | receive (tenantId : String) (now : Int) (clock : Nat → Int) (posted : PostedCallback)
  | deploy (committer : EconomicCommitter mac)
  | changeRegistry (institutions : List Institution) (roleAssignments : List RoleAssignment)
      (signingKeys : List SigningKey) (catalogProducts : List Product)
  | recordConfidential (row : TransactionIntent)

/-- `receive` of a tenant's callback service. -/
def received (state : State mac) (tenantId : String) (now : Int) (clock : Nat → Int) (posted : PostedCallback) :
    Except Failure Received :=
  receive (callbackService services state.committer tenantId) state.registry now clock state.tables posted

def step (state : State mac) : Action mac → State mac
  | .workflow tenantId action =>
    { state with db := durable.step (workflowService services state.committer tenantId) state.db action }
  | .receive tenantId now clock posted =>
    match received services state tenantId now clock posted with
    | .ok received => { state with tables := received.tables }
    | .error _ => state
  | .deploy committer => { state with committer }
  | .changeRegistry institutions roleAssignments signingKeys catalogProducts =>
    { state with institutions, roleAssignments, signingKeys, catalogProducts }
  | .recordConfidential row => { state with db := recordConfidential row state.db }

/-- The state after some actions, from an empty database on. -/
def run (committer : EconomicCommitter mac) (actions : List (Action mac)) : State mac :=
  runs.run (step services) (State.initial committer) actions

section Statement

variable (state : State mac)

/-- The number that the text of a member of `details` denotes. -/
def numberOf (callback : Callback) (field : String) : Int :=
  decimal.value (stringOf services.callbacks.platform.numberText services.callbacks.dateText
    ((lookup callback.payload.details field).getD .undefined))

/-- A callback states the asset or the currency of its product. -/
def StatesAsset (callback : Callback) : Prop :=
  match callback.stream.channel with
  | .register =>
    lookup callback.payload.details "assetCode" = some (.string ("UNIT:" ++ callback.stream.productId))
  | .cash => ∃ product, state.registry.products.find? (·.id = callback.stream.productId) = some product ∧
    lookup callback.payload.details "currency" = some (.string product.currency)
  | .custody => False

/-- A callback states the units, or the amount and the fee, that were settled. -/
def StatesValues (callback : Callback) (values : SettledValues) : Prop :=
  match callback.stream.channel with
  | .register => numberOf services callback "units" = values.units
  | .cash => numberOf services callback "amountMinor" = values.cashAmount ∧
    numberOf services callback "feeMinor" = values.feeAmount
  | .custody => False

/-- A callback agrees with a transaction: in tenant and product, in the asset or the
currency, and in the values that were settled. What a confidential transfer moves stands
in no batch, so no callback agrees with one. -/
def Agrees (callback : Callback) (transaction : TransactionIntent) : Prop :=
  callback.stream.tenantId = transaction.tenantId ∧ callback.stream.productId = transaction.productId ∧
    StatesAsset state callback ∧
    ∃ values, state.db.settledValues transaction.id = some values ∧ StatesValues services callback values

/-- The verdict that a confirmation records is exact. A callback about a settled
transaction is matched exactly if it agrees with the transaction. What is not matched is
a mismatch, and its incident is open. -/
def VerdictExact (tables : Tables) (callback : Callback) (row : Confirmation) : Prop :=
  ∀ transaction ∈ state.db.transactions.intents, transaction.id = callback.payload.subjectRef →
    callback.stream.channel ≠ .custody → transaction.currentState = .settled →
    row.callbackId = callback.callbackId ∧ row.transactionId = some transaction.id ∧
      (row.reconciliation = .fullyMatched ↔ Agrees services state callback transaction) ∧
      (row.reconciliation ≠ .fullyMatched → ∃ reason, row.reconciliation = .mismatch reason ∧
        ∃ incident ∈ tables.incidents, incident.callbackId = callback.callbackId ∧ incident.reasonCode = reason)

/-- What the commitments to a settled transaction are made to. -/
def settledContexts (transaction : TransactionIntent) (values : SettledValues) : List CommitmentContext :=
  [("units", values.units), ("cashAmountMinor", values.cashAmount), ("feeAmountMinor", values.feeAmount)].map
    fun (field, value) => ⟨transaction.tenantId, transaction.id, transaction.productId, field, toString value⟩

/-- What the amounts of a callback are compared in. -/
def statedContexts (callback : Callback) : List CommitmentContext :=
  [("units", "units"), ("cashAmountMinor", "amountMinor"), ("feeAmountMinor", "feeMinor")].map fun (field, member) =>
    { field, tenantId := callback.stream.tenantId, transactionId := callback.payload.subjectRef
      productId := callback.stream.productId
      value := stringOf services.callbacks.platform.numberText services.callbacks.dateText
        ((lookup callback.payload.details member).getD .undefined) }

/-- What is compared for some callbacks: their amounts, and what was settled. -/
def comparedContexts (applied : List Callback) : List CommitmentContext :=
  (state.db.transactions.intents.flatMap fun transaction =>
    ((state.db.settledValues transaction.id).map (settledContexts transaction)).getD []) ++
  applied.flatMap (statedContexts services)

/-- The texts whose MACs are compared for some callbacks. -/
def comparedMessages (applied : List Callback) : Set String :=
  {message | ∃ context ∈ comparedContexts services state applied,
    economicMessage services.callbacks.platform.numberText context = .ok message}

end Statement

section Invariant

/-- A text is the MAC, under a key, of what commits to a value. -/
def Made (mac : String → String → String) (committed : CommittedValue) (keyId text : String) : Prop :=
  ∃ message, economicMessage services.callbacks.platform.numberText
      ⟨committed.tenantId, committed.transactionId, committed.productId, committed.field, toString committed.value⟩ =
        .ok message ∧
    text = mac keyId message

private theorem workflowService_makes {committer : EconomicCommitter mac} {tenantId : String} :
    (workflowService services committer tenantId).Makes (Made services mac) := by
  rintro _ hcommitter transactionId productId field value text h
  obtain rfl := Option.mem_some_iff.mp hcommitter
  exact committer.commit_eq_ok h

private theorem recordConfidential_committed {made : CommittedValue → String → String → Prop} {db : durable.Database}
    (h : db.Committed made) {row : TransactionIntent} : (recordConfidential row db).Committed made := by
  unfold recordConfidential
  split
  · exact h
  · next hrail =>
    dsimp only
    split
    · -- an update keeps the ids and the rows of the registered rail
      have hids : (db.transactions.intents.map fun stored =>
            if stored.id = row.id ∧ stored.settlementRail ≠ .registered then row else stored).map (·.id) =
          db.transactions.intents.map (·.id) := by
        rw [List.map_map]
        refine List.map_congr_left fun stored _ => ?_
        dsimp only [Function.comp_apply]
        split
        · next hupdated => exact hupdated.1.symm
        · rfl
      refine ⟨hids ▸ h.ids, fun batch hbatch id hid => hids ▸ h.ledger batch hbatch id hid,
        fun batch hbatch id hid => ?_, fun commitment hcommitment => ?_, ?_⟩
      · obtain ⟨stored, hstored, hsame, hregistered⟩ := h.register batch hbatch id hid
        exact ⟨stored, List.mem_map.mpr ⟨stored, hstored, if_neg fun hupdated => hupdated.2 hregistered⟩, hsame,
          hregistered⟩
      · obtain ⟨stored, hstored, hid, hregistered⟩ := h.commitments commitment hcommitment
        exact ⟨stored, List.mem_map.mpr ⟨stored, hstored, if_neg fun hupdated => hupdated.2 hregistered⟩,
          hid, hregistered⟩
      · intro other hother hregistered hsettled
        obtain ⟨stored, hstored, rfl⟩ := List.mem_map.mp hother
        split at hregistered
        · exact absurd hregistered hrail
        · next hkept =>
          rw [if_neg hkept] at hsettled ⊢
          exact h.settled stored hstored hregistered hsettled
    · next hfresh =>
      have hids : (db.transactions.intents ++ [row]).map (·.id) = db.transactions.intents.map (·.id) ++ [row.id] := by
        rw [List.map_append]
        rfl
      refine ⟨keyed_rows.nodup_concat h.ids hfresh, ?_, ?_, ?_, ?_⟩
      · exact fun batch hbatch id hid => hids ▸ List.mem_append_left _ (h.ledger batch hbatch id hid)
      · intro batch hbatch id hid
        obtain ⟨stored, hstored, hsame, hregistered⟩ := h.register batch hbatch id hid
        exact ⟨stored, List.mem_append_left _ hstored, hsame, hregistered⟩
      · intro commitment hcommitment
        obtain ⟨stored, hstored, hid, hregistered⟩ := h.commitments commitment hcommitment
        exact ⟨stored, List.mem_append_left _ hstored, hid, hregistered⟩
      · intro other hother hregistered hsettled
        rcases List.mem_append.mp hother with hold | hnew
        · exact h.settled other hold hregistered hsettled
        · obtain rfl := List.mem_singleton.mp hnew
          exact absurd hregistered hrail

/-- What holds of every reachable state: settled transactions are committed to, and
the details of received callbacks were checked. -/
structure Consistent (state : State mac) : Prop where
  committed : state.db.Committed (Made services mac)
  checked : state.tables.Checked services.callbacks

theorem step_consistent {state : State mac} (h : Consistent services state) (action : Action mac) :
    Consistent services (step services state action) := by
  cases action with
  | workflow tenantId action =>
    exact ⟨durable.step_committed (workflowService_makes services) h.committed action, h.checked⟩
  | receive tenantId now clock posted =>
    simp only [step]
    split
    · next received hreceived => exact ⟨h.committed, (receive_receives hreceived).checked h.checked⟩
    · exact h
  | deploy committer => exact ⟨h.committed, h.checked⟩
  | changeRegistry => exact ⟨h.committed, h.checked⟩
  | recordConfidential row => exact ⟨recordConfidential_committed h.committed, h.checked⟩

theorem run_consistent {committer : EconomicCommitter mac} {actions : List (Action mac)} :
    Consistent services (run services committer actions) := by
  have hinitial : Consistent services (State.initial committer) :=
    ⟨durable.empty_committed _, fun _ hrow => absurd hrow List.not_mem_nil⟩
  exact runs.run_invariant hinitial (fun _ action h => step_consistent services h action) actions

end Invariant

end rwa.reconciliation
