import RwaControlPlane.Gate.Effects

open checked keyed_rows rwa.security rwa.merkle

namespace rwa.gate

variable {Proof : Type}

/-- The root of the empty tree that opens a context. -/
def genesisRoot (poseidon3 : FieldElement → FieldElement → FieldElement → FieldElement) (contextId : FieldElement)
    (sourceReference : String) : MerkleRoot where
  contextId := contextId
  merkleRoot := noteRoot poseidon3 []
  treeSize := 0
  frontier := some (noteTree poseidon3 []).frontier
  status := .current
  expiresAt := none
  sourceReference := sourceReference

/-- No context and no root has used a context id. -/
def Database.Unused (db : Database) (contextId : FieldElement) : Prop :=
  contextId ∉ db.contexts.map (·.contextId) ∧ contextId ∉ db.roots.map (·.contextId)

def setRetired (contextId : FieldElement) (row : ProductContext) : ProductContext :=
  if row.contextId = contextId then { row with retired := true } else row

def setRevoked (contextId merkleRoot : FieldElement) (row : MerkleRoot) : MerkleRoot :=
  if row.contextId = contextId ∧ row.merkleRoot = merkleRoot ∧ row.status = .historical then
    { row with status := .revoked }
  else row

/-- Proposals keep their ids apart, and a decided proposal stays as it is. -/
structure ProposalsKept (before after : List FinalizationProposal) : Prop where
  ids : (before.map FinalizationProposal.id).Nodup → (after.map FinalizationProposal.id).Nodup
  decided : ∀ row ∈ before, row.status ≠ .pending → row ∈ after

theorem ProposalsKept.refl (rows : List FinalizationProposal) : ProposalsKept rows rows :=
  ⟨id, fun _ hrow _ => hrow⟩

/-- Deciding a pending proposal keeps the others. -/
theorem updateFinalization_kept {db : Database} {proposalId : String}
    {change : FinalizationProposal → FinalizationProposal} (hchange : ∀ row, (change row).id = row.id) :
    ProposalsKept db.finalizations (db.updateFinalization proposalId change).finalizations := by
  constructor
  case ids =>
    intro hids
    have hsame : (db.updateFinalization proposalId change).finalizations.map FinalizationProposal.id =
        db.finalizations.map FinalizationProposal.id := by
      simp only [Database.updateFinalization, List.map_map]
      refine List.map_congr_left fun row _ => ?_
      simp only [Function.comp_apply]
      split
      · exact hchange row
      · rfl
    rwa [hsame]
  case decided =>
    intro row hrow hdecided
    exact List.mem_map.mpr ⟨row, hrow, if_neg fun hselected => hdecided hselected.2⟩

theorem cancelProposal_kept {db : Database} {proposalId cancelledBy reason : String} :
    ProposalsKept db.finalizations (cancelProposal db proposalId cancelledBy reason).finalizations :=
  updateFinalization_kept fun _ => rfl

/-- A withdrawn proposal was pending, and its row is then CANCELLED. -/
theorem cancelProposal_cancelled {db : Database} {transactionId tenantId cancelledBy reason : String}
    {proposal : FinalizationProposal} (hpending : db.pendingFinalization transactionId tenantId = some proposal) :
    proposal ∈ db.finalizations ∧ proposal.status = .pending ∧
      ∃ row ∈ (cancelProposal db proposal.id cancelledBy reason).finalizations,
        row.id = proposal.id ∧ row.status = .cancelled := by
  obtain ⟨hmem, hselected⟩ := mem_of_single_filter hpending
  simp only [Bool.and_eq_true, decide_eq_true_eq] at hselected
  exact ⟨hmem, hselected.2, _, List.mem_map.mpr ⟨proposal, hmem, if_pos ⟨rfl, hselected.2⟩⟩, rfl, rfl⟩

/-- Everything that one step can do to the database, with the events it
commits. -/
inductive Commit (gate : ZkSettlementGate Proof) (calls : List (AcceptCall Proof)) :
    Database → Database → List Event → Prop
  | idle {db : Database} : Commit gate calls db db []
  | authorize {db : Database} (row : Authorization)
    (hfresh : row.transactionId ∉ db.authorizations.map (·.transactionId))
      (hpending : row.proofReceiptId = none) :
      Commit gate calls db { db with authorizations := db.authorizations ++ [row] } []
  | record {db : Database} (acceptance : Acceptance) (call : AcceptCall Proof) (hcall : call ∈ calls)
      (htransaction : acceptance.transactionId = call.request.transactionId)
      (htenant : acceptance.tenantId = call.request.tenantId)
      (hinputs : acceptance.inputs = call.expectedPublicInputs)
      (hverification : call.verification = some acceptance.verification) (hadmits : db.Admits acceptance) :
      Commit gate calls db (db.record acceptance) [.accepted acceptance]
  | propose {db : Database} (finalizations : List FinalizationProposal)
      (hkept : ProposalsKept db.finalizations finalizations) :
      Commit gate calls db { db with finalizations } []
  | publish {db : Database} (publication : Publication) (hpublishes : db.Publishes gate.poseidon3 publication) :
      Commit gate calls db (db.publish publication) [.finalized publication.contextId publication.receiptId]
  | genesis {db : Database} (context : ProductContext) (sourceReference : String)
      (parameterProposals : List ParameterProposal) (hunused : db.Unused context.contextId) :
      Commit gate calls db
        { db with
          contexts := db.contexts ++ [context]
          roots := db.roots ++ [genesisRoot gate.poseidon3 context.contextId sourceReference]
          parameterProposals }
        [.genesis context.contextId]
  | configure {db : Database} (reference : ReferenceData) (parameterProposals : List ParameterProposal) :
      Commit gate calls db { db with reference, parameterProposals } []
  | insertTransaction {db : Database} (transaction : TransactionIntent) (instructions : List ExecutionInstruction)
      (howned : gateOwned transaction.settlementRail transaction.currentState = false)
      (hfresh : transaction.id ∉ db.transactions.map (·.id)) :
      Commit gate calls db
        { db with
          transactions := db.transactions ++ [transaction]
          instructions := db.instructions ++ instructions } []
  | transition {db : Database} (transactionId : String) (toState : TransactionState)
      (howned : ∀ row ∈ db.transactions, row.id = transactionId →
        row.settlementRail = .confidentialNote → row.currentState ≠ .rootPending ∧ row.currentState ≠ .settled ∧
          toState ≠ .rootPending ∧ toState ≠ .settled) :
      Commit gate calls db (db.setState transactionId toState) []
  | retireContext {db : Database} (contextId : FieldElement) :
      Commit gate calls db { db with contexts := db.contexts.map (setRetired contextId) } []
  | revokeRoot {db : Database} (contextId merkleRoot : FieldElement) :
      Commit gate calls db { db with roots := db.roots.map (setRevoked contextId merkleRoot) } []

section Inversions

variable {db next : Database}

theorem authorize_ok {adapter : Groth16JoinSplitProofAdapter Proof} {request : AuthorizeRequest} {now : Int}
    {hash : String} (h : authorize adapter request now db = .ok (hash, next)) :
    ∃ row : Authorization, row.transactionId ∉ db.authorizations.map (·.transactionId) ∧ row.proofReceiptId = none ∧
      next = { db with authorizations := db.authorizations ++ [row] } := by
  simp only [authorize, bind_eq_ok_iff, throwIf_eq_ok_iff, exists_unit, require_eq_ok_iff, rethrow_eq_ok_iff,
    Prod.exists, pure_eq_ok_iff, Prod.mk.injEq] at h
  obtain ⟨_, normalized, _, _, transaction, product, _, _, _, _, _, _, context, _, instruction, _, _, _, _, _,
    inserted, hinserted, _, rfl⟩ := h
  simp only [Database.insertAuthorization, bind_eq_ok_iff, throwIf_eq_ok_iff, exists_unit, pure_eq_ok_iff] at hinserted
  exact ⟨_, hinserted.1, rfl, hinserted.2.2.symm⟩

theorem proposeFinalization_ok {poseidon3 : FieldElement → FieldElement → FieldElement → FieldElement}
    {request : ProposeRequest} {uuid : String} {proposal : FinalizationProposal}
    (h : proposeFinalization poseidon3 request uuid db = .ok (proposal, next)) :
    ∃ finalizations, ProposalsKept db.finalizations finalizations ∧ next = { db with finalizations } := by
  simp only [proposeFinalization, bind_eq_ok_iff, throwIf_eq_ok_iff, exists_unit, require_eq_ok_iff,
    rethrow_eq_ok_iff, Prod.exists, pure_eq_ok_iff, Prod.mk.injEq] at h
  obtain ⟨_, root, _, _, _, _, size, _, transaction, product, _, settlement, _, _, _, extension, _, _,
    inserted, hinserted, _, rfl⟩ := h
  simp only [Database.insertFinalization, bind_eq_ok_iff, throwIf_eq_ok_iff, exists_unit, pure_eq_ok_iff] at hinserted
  exact ⟨_, ⟨fun hids => nodup_concat hids hinserted.2.1, fun row hrow _ => List.mem_append_left _ hrow⟩,
    hinserted.2.2.2.symm⟩

theorem cancelFinalization_ok {request : CancelRequest} {proposalId : String}
    (h : cancelFinalization request db = .ok (proposalId, next)) :
    ∃ transactionId proposal, db.pendingFinalization transactionId request.tenantId = some proposal ∧
      proposalId = proposal.id ∧ next = cancelProposal db proposal.id request.cancelledBy request.reason := by
  simp only [cancelFinalization, bind_eq_ok_iff, require_eq_ok_iff, exists_unit, Prod.exists, pure_eq_ok_iff,
    Prod.mk.injEq] at h
  obtain ⟨_, _, _, transaction, product, _, proposal, hpending, hid, hnext⟩ := h
  exact ⟨transaction.id, proposal, hpending, hid.symm, hnext.symm⟩

private theorem proposeParameters_ok {service : ZkGovernanceService Proof} {tenantId proposedBy uuid id : String}
    {request : ParameterRequest}
    (h : proposeParameters service tenantId request proposedBy uuid db = .ok (id, next)) :
    ∃ parameterProposals, next = { db with parameterProposals } := by
  simp only [proposeParameters, bind_eq_ok_iff, throwIf_eq_ok_iff, exists_unit, pure_eq_ok_iff, Prod.mk.injEq] at h
  obtain ⟨_, _, payload, _, _, _, _, _, rfl⟩ := h
  exact ⟨_, rfl⟩

private theorem noteRoot_nil {poseidon3 : FieldElement → FieldElement → FieldElement → FieldElement} :
    merkleZeros poseidon3 merkleTreeDepth = noteRoot poseidon3 [] := by
  have h := congrArg MerkleTreeState.root (@noteTree_nil poseidon3)
  simpa [noteTree, emptyMerkleTreeState] using h.symm

/-- A decision changes the proposals and, when it approves a payload, opens a
context or registers a circuit. -/
private theorem decideParameters_ok {gate : ZkSettlementGate Proof} {calls : List (AcceptCall Proof)}
    {request : DecideRequest} {decided : DecidedProposal}
    (h : decideParameters gate.governance gate.poseidon3 request db = .ok (decided, next)) :
    Commit gate calls db next (genesisEvents decided) := by
  simp only [decideParameters, bind_eq_ok_iff, throwIf_eq_ok_iff, exists_unit, require_eq_ok_iff,
    pure_eq_ok_iff, Prod.mk.injEq] at h
  obtain ⟨_, _, _, _, proposal, _, _, _, applied, happlied, rfl, rfl⟩ := h
  cases hdecision : request.decision with
  | reject =>
    simp only [hdecision, applyDecision, pure_eq_ok_iff] at happlied
    subst happlied
    exact .configure _ _
  | approve =>
    simp only [hdecision, applyDecision, bind_eq_ok_iff, exists_unit] at happlied
    obtain ⟨_, havailable, hpayload⟩ := happlied
    cases hkind : proposal.payload with
    | circuitActivation circuitId circuitVersion verificationKeyHash artifactManifestHash order =>
      simp only [hkind, applyPayload, pure_eq_ok_iff] at hpayload
      subst hpayload
      exact .configure _ _
    | productContext productId contextId assetType circuitId circuitVersion =>
      simp only [hkind, assertAvailable, bind_eq_ok_iff, throwIf_eq_ok_iff, exists_unit] at havailable
      simp only [hkind, applyPayload, bind_eq_ok_iff] at hpayload
      obtain ⟨inserted, hinserted, hroot⟩ := hpayload
      simp only [Database.insertContext, bind_eq_ok_iff, throwIf_eq_ok_iff, exists_unit, pure_eq_ok_iff] at hinserted
      obtain ⟨_, _, _, rfl⟩ := hinserted
      simp only [Database.insertRoot, bind_eq_ok_iff, throwIf_eq_ok_iff, exists_unit, pure_eq_ok_iff] at hroot
      obtain ⟨_, _, _, rfl⟩ := hroot
      simp only [noteRoot_nil, ← noteTree_nil]
      refine .genesis _ _ _ ?_
      simpa [Database.Unused] using havailable.2.2.2

theorem insertTransaction_ok {transaction : TransactionIntent} {instruction : Option ExecutionInstruction}
    {done : Unit} (h : insertTransaction transaction instruction db = .ok (done, next)) :
    gateOwned transaction.settlementRail transaction.currentState = false ∧
      transaction.id ∉ db.transactions.map (·.id) ∧
      next =
        { db with
          transactions := db.transactions ++ [transaction]
          instructions := db.instructions ++ instruction.toList } := by
  simp only [insertTransaction, bind_eq_ok_iff, throwIf_eq_ok_iff, exists_unit, pure_eq_ok_iff, Prod.mk.injEq,
    Bool.not_eq_true] at h
  exact ⟨h.1, h.2.1, h.2.2.2.2.symm⟩

/-- Another service neither moves a confidential transaction into a state of
the gate nor out of one. -/
private theorem otherTransition_ok {transactionId : String} {toState : TransactionState} {done : Unit}
    (hids : (db.transactions.map (·.id)).Nodup)
    (h : otherTransition transactionId toState db = .ok (done, next)) :
    (∀ row ∈ db.transactions, row.id = transactionId → row.settlementRail = .confidentialNote →
      row.currentState ≠ .rootPending ∧ row.currentState ≠ .settled ∧ toState ≠ .rootPending ∧ toState ≠ .settled) ∧
      next = db.setState transactionId toState := by
  simp only [otherTransition, bind_eq_ok_iff, throwIf_eq_ok_iff, exists_unit, pure_eq_ok_iff, Prod.mk.injEq] at h
  obtain ⟨howned, moved, hmoved, _, rfl⟩ := h
  refine ⟨fun row hrow hid hrail => ?_, transitionTransaction_ok hmoved⟩
  have htarget : toState ≠ .rootPending ∧ toState ≠ .settled := by
    by_contra htarget
    refine howned ⟨row, hrow, hid, ?_⟩
    simp only [gateOwned, hrail, Bool.and_eq_true, Bool.or_eq_true, decide_eq_true_eq, true_and]
    by_contra hneither
    exact htarget (not_or.mp hneither)
  simp only [Database.transitionTransaction, bind_eq_ok_iff, throwIf_eq_ok_iff, exists_unit, require_eq_ok_iff,
    not_not] at hmoved
  obtain ⟨found, hfound, hallowed, _⟩ := hmoved
  have hfoundId : found.id = transactionId := by simpa using List.find?_some hfound
  have hfoundRow : found = row :=
    List.inj_on_of_nodup_map hids (List.mem_of_find?_eq_some hfound) hrow (hfoundId.trans hid.symm)
  subst hfoundRow
  refine ⟨?_, ?_, htarget⟩
  · intro hstate
    rw [hstate] at hallowed
    exact htarget.2 (by simpa [transitions] using hallowed)
  · intro hstate
    rw [hstate] at hallowed
    simp [transitions] at hallowed

end Inversions

/-- A transaction of the state either commits or changes nothing. -/
private theorem transact_commits {ρ : Type} {gate : ZkSettlementGate Proof} {state : GateState Proof}
    {calls : List (AcceptCall Proof)} {operation : Database → Except Failure (ρ × Database)}
    {answer : ρ → Response} {events : ρ → List Event}
    (h : ∀ result next, operation state.db = .ok (result, next) → Commit gate calls state.db next (events result)) :
    ∃ committed, Commit gate calls state.db (state.transact operation answer events).2.db committed ∧
      (state.transact operation answer events).2.history = state.history ++ committed := by
  cases hresult : operation state.db with
  | error failure =>
    refine ⟨[], ?_, ?_⟩
    · simpa [GateState.transact, hresult] using Commit.idle
    · simp [GateState.transact, hresult]
  | ok outcome =>
    refine ⟨events outcome.1, ?_, ?_⟩
    · simpa [GateState.transact, hresult] using h outcome.1 outcome.2 hresult
    · simp [GateState.transact, hresult]

/-- Every step commits one of the listed changes and appends its events. -/
theorem step_commits (gate : ZkSettlementGate Proof) (state : GateState Proof) (action : Action Proof)
    (hids : (state.db.transactions.map (·.id)).Nodup) :
    ∃ committed, Commit gate state.calls state.db (step gate state action).db committed ∧
      (step gate state action).history = state.history ++ committed := by
  cases action with
  | authorize request now =>
    refine transact_commits fun hash next h => ?_
    obtain ⟨row, hfresh, hpending, rfl⟩ := authorize_ok h
    exact .authorize row hfresh hpending
  | acceptRead request =>
    refine ⟨[], ?_, ?_⟩ <;> simp only [step, respond, GateState.acceptRead] <;> split
    · exact .idle
    · split <;> exact .idle
    · simp
    · split <;> simp
  | acceptVerify index =>
    refine ⟨[], ?_, ?_⟩ <;> simp only [step, respond, GateState.acceptVerify] <;> split
    · exact .idle
    · split <;> exact .idle
    · simp
    · split <;> simp
  | acceptRecord index uuid now =>
    simp only [step, respond, GateState.acceptRecord]
    split
    · exact ⟨[], .idle, by simp⟩
    · next call hcall =>
      split
      · exact ⟨[], .idle, by simp⟩
      · next verification hverification =>
        apply @transact_commits _ _ _ { state with calls := state.calls.eraseIdx index }
        intro metadata next h
        obtain ⟨hverified, hadmits, rfl⟩ := recordAcceptance_ok h
        exact .record _ call (List.mem_of_getElem? hcall) rfl rfl rfl (by rw [hverification, ← hverified]; rfl) hadmits
  | acceptAbandon index => exact ⟨[], .idle, by simp [step, respond]⟩
  | proposeFinalization request uuid =>
    refine transact_commits fun proposal next h => ?_
    obtain ⟨finalizations, hkept, rfl⟩ := proposeFinalization_ok h
    exact .propose finalizations hkept
  | cancelFinalization request =>
    refine transact_commits fun proposalId next h => ?_
    obtain ⟨_, proposal, _, _, rfl⟩ := cancelFinalization_ok h
    exact .propose _ cancelProposal_kept
  | finalize request clockTimestamp =>
    simp only [step, respond, GateState.finalize]
    split
    · exact ⟨[], .idle, by simp⟩
    · next h =>
      obtain ⟨proposal, expected, cancelledBy, reason, _, _, rfl⟩ | ⟨publication, houtcome, _⟩ :=
        finalizeTransaction_ok h
      · exact ⟨[], .propose _ cancelProposal_kept, by simp⟩
      · cases houtcome
    · next h =>
      obtain ⟨_, _, _, _, _, houtcome, _⟩ | ⟨publication, houtcome, _, hpublishes, rfl⟩ := finalizeTransaction_ok h
      · cases houtcome
      · cases houtcome
        exact ⟨_, .publish publication hpublishes, rfl⟩
  | proposeParameters tenantId request proposedBy uuid =>
    refine transact_commits fun id next h => ?_
    obtain ⟨parameterProposals, rfl⟩ := proposeParameters_ok h
    exact .configure _ _
  | decideParameters request => exact transact_commits fun decided next h => decideParameters_ok h
  | insertTransaction transaction instruction =>
    refine transact_commits fun done next h => ?_
    obtain ⟨howned, hfresh, rfl⟩ := insertTransaction_ok h
    exact .insertTransaction transaction _ howned hfresh
  | transitionTransaction transactionId toState =>
    refine transact_commits fun done next h => ?_
    obtain ⟨howned, rfl⟩ := otherTransition_ok hids h
    exact .transition transactionId toState howned
  | writeReference reference => exact ⟨[], .configure _ _, by simp [step, respond]⟩
  | retireContext contextId =>
    refine transact_commits fun done next h => ?_
    simp only [retireContext, pure_eq_ok_iff, Prod.mk.injEq] at h
    obtain ⟨_, rfl⟩ := h
    exact .retireContext contextId
  | revokeHistoricalRoot contextId merkleRoot =>
    refine transact_commits fun done next h => ?_
    simp only [revokeHistoricalRoot, pure_eq_ok_iff, Prod.mk.injEq] at h
    obtain ⟨_, rfl⟩ := h
    exact .revokeRoot contextId merkleRoot

end rwa.gate
