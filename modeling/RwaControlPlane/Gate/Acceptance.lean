import RwaControlPlane.Gate.Reachable

open checked keyed_rows rwa.security rwa.merkle

namespace rwa.gate

variable {Proof : Type}

namespace Database

/-- The proof receipts of a transaction. -/
def receiptsOf (db : Database) (transactionId : String) : List ProofReceipt :=
  db.receipts.filter fun row => row.transactionId = transactionId

/-- The nullifiers that the proofs of a transaction spent. -/
def nullifiersOf (db : Database) (transactionId : String) : List SpentNullifier :=
  db.nullifiers.filter fun row => row.proofReceiptId ∈ (db.receiptsOf transactionId).map ProofReceipt.id

/-- The output commitments that the proofs of a transaction recorded. -/
def commitmentsOf (db : Database) (transactionId : String) : List OutputCommitment :=
  db.outputs.filter fun row => row.proofReceiptId ∈ (db.receiptsOf transactionId).map ProofReceipt.id

end Database

section Rows

variable {adapter : Groth16JoinSplitProofAdapter Proof} {db : Database} {accepted : List Acceptance}

theorem Records.receiptsOf_of_mem (h : Records adapter db accepted) {acceptance : Acceptance}
    (hmem : acceptance ∈ accepted) : db.receiptsOf acceptance.transactionId = [acceptance.receipt] := by
  rw [Database.receiptsOf, h.receipts, List.map_eq_flatMap]
  exact filter_flatMap_of_mem h.transactionIds hmem (by simp [Acceptance.receipt])

theorem Records.receiptsOf_of_absent (h : Records adapter db accepted) {transactionId : String}
    (habsent : transactionId ∉ accepted.map Acceptance.transactionId) : db.receiptsOf transactionId = [] := by
  rw [Database.receiptsOf, h.receipts, List.map_eq_flatMap]
  exact filter_flatMap_of_absent habsent (by simp [Acceptance.receipt])

theorem Acceptance.proofReceiptId_of_mem_nullifiers {acceptance : Acceptance} {row : SpentNullifier}
    (h : row ∈ acceptance.nullifiers) : row.proofReceiptId = acceptance.receiptId := by
  simp only [Acceptance.nullifiers, List.mem_cons, List.not_mem_nil, or_false] at h
  rcases h with rfl | rfl <;> rfl

theorem Acceptance.proofReceiptId_of_mem_outputs {acceptance : Acceptance} {row : OutputCommitment}
    (h : row ∈ acceptance.outputs) : row.proofReceiptId = acceptance.receiptId := by
  simp only [Acceptance.outputs, List.mem_cons, List.not_mem_nil, or_false] at h
  rcases h with rfl | rfl <;> rfl

theorem Records.nullifiersOf_of_mem (h : Records adapter db accepted) {acceptance : Acceptance}
    (hmem : acceptance ∈ accepted) : db.nullifiersOf acceptance.transactionId = acceptance.nullifiers := by
  rw [Database.nullifiersOf, h.nullifiers, h.receiptsOf_of_mem hmem]
  refine filter_flatMap_of_mem h.receiptIds hmem fun other _ row hrow => ?_
  simp [Acceptance.proofReceiptId_of_mem_nullifiers hrow, Acceptance.receipt]

theorem Records.commitmentsOf_of_mem (h : Records adapter db accepted) {acceptance : Acceptance}
    (hmem : acceptance ∈ accepted) : db.commitmentsOf acceptance.transactionId = acceptance.outputs := by
  rw [Database.commitmentsOf, h.outputs, h.receiptsOf_of_mem hmem]
  refine filter_flatMap_of_mem h.receiptIds hmem fun other _ row hrow => ?_
  simp [Acceptance.proofReceiptId_of_mem_outputs hrow, Acceptance.receipt]

end Rows

/-- A transaction has the rows of exactly one verified proof: one verified
authorization, the receipt that it names, two nullifiers and two outputs. The
verified signals are, position by position, the frozen inputs, and the values
that the server owns are those of its context and instruction. -/
structure Database.AcceptedOnce (adapter : Groth16JoinSplitProofAdapter Proof) (db : Database)
    (transaction : TransactionIntent) (authorization : Authorization) (receipt : ProofReceipt) : Prop where
  authorizations : db.authorizations.filter (fun row => row.transactionId = transaction.id) = [authorization]
  tenant : authorization.tenantId = transaction.tenantId
  verified : authorization.status = .verified
  receipts : db.receiptsOf transaction.id = [receipt]
  named : authorization.proofReceiptId = some receipt.id
  nullifiers : db.nullifiersOf transaction.id =
    [{ contextId := receipt.contextId, nullifier := authorization.publicInputs.inputNullifier0,
       proofReceiptId := receipt.id },
     { contextId := receipt.contextId, nullifier := authorization.publicInputs.inputNullifier1,
       proofReceiptId := receipt.id }]
  distinct : authorization.publicInputs.inputNullifier0 ≠ authorization.publicInputs.inputNullifier1
  outputs : db.commitmentsOf transaction.id =
    [{ proofReceiptId := receipt.id, outputIndex := 0, contextId := receipt.contextId,
       commitmentX := authorization.publicInputs.outputCommitmentX0,
       commitmentY := authorization.publicInputs.outputCommitmentY0 },
     { proofReceiptId := receipt.id, outputIndex := 1, contextId := receipt.contextId,
       commitmentX := authorization.publicInputs.outputCommitmentX1,
       commitmentY := authorization.publicInputs.outputCommitmentY1 }]
  signals : ∃ package publicSignals,
    adapter.verify publicSignals package = .ok true ∧
    publicSignals = joinSplitPublicSignalOrder.map (fun signal => toText (authorization.publicInputs.get signal)) ∧
    publicSignals.length = 13 ∧
    receipt.proofHash = adapter.proofHash package ∧
    receipt.publicSignalsHash = adapter.sha256 (canonicalizeTexts publicSignals)
  serverContext : ∃ context ∈ db.contexts, context.productId = transaction.productId ∧
    context.contextId = authorization.publicInputs.contextId ∧
    context.assetType = authorization.publicInputs.assetType
  serverInstruction : ∃ instruction ∈ db.instructions, instruction.transactionId = transaction.id ∧
    instruction.fee = authorization.publicInputs.fee ∧
    instruction.recipient = authorization.publicInputs.recipient ∧
    instruction.relayer = authorization.publicInputs.relayer
  settlement : ∃ settlement ∈ db.settlements, settlement.transactionId = transaction.id ∧
    settlement.proofReceiptId = receipt.id

/-- No proof row belongs to a transaction. -/
structure Database.NotAccepted (db : Database) (transactionId : String) : Prop where
  receipts : db.receiptsOf transactionId = []
  nullifiers : db.nullifiersOf transactionId = []
  outputs : db.commitmentsOf transactionId = []
  settlements : ∀ row ∈ db.settlements, row.transactionId ≠ transactionId
  pending : ∀ row ∈ db.authorizations, row.transactionId = transactionId → row.status = .pending

namespace Records

variable {adapter : Groth16JoinSplitProofAdapter Proof} {db : Database} {accepted : List Acceptance}

/-- The two nullifiers of an accepted proof differ, since the index holds both. -/
private theorem nullifiers_ne (h : Records adapter db accepted) {acceptance : Acceptance}
    (hmem : acceptance ∈ accepted) : acceptance.inputs.inputNullifier0 ≠ acceptance.inputs.inputNullifier1 := by
  have hsublist : acceptance.nullifiers.Sublist db.nullifiers := by
    rw [← h.nullifiersOf_of_mem hmem]
    exact List.filter_sublist
  have hnodup := h.nullifierKeys.sublist (hsublist.map nullifierKey)
  intro heq
  simp [Acceptance.nullifiers, nullifierKey, heq] at hnodup

/-- A confidential transaction behind an acceptance has all its rows. -/
private theorem acceptedOnce (h : Records adapter db accepted) {transaction : TransactionIntent}
    (htransaction : transaction ∈ db.transactions) {acceptance : Acceptance} (hmem : acceptance ∈ accepted)
    (hid : acceptance.transactionId = transaction.id) :
    ∃ authorization, db.AcceptedOnce adapter transaction authorization acceptance.receipt := by
  obtain ⟨row, hrow, hrowId, hrowTenant, hinputs, hreceipt⟩ := h.authorization acceptance hmem
  obtain ⟨stored, hstored, hstoredId, hstoredTenant, hstoredProduct, _⟩ := h.transaction acceptance hmem
  obtain rfl : stored = transaction :=
    List.inj_on_of_nodup_map h.transactionRows hstored htransaction (hstoredId.trans hid)
  obtain ⟨package, publicSignals, hverified⟩ := h.verified acceptance hmem
  obtain ⟨used, hused, hsignals, haccepts, hverification⟩ := verifyJoinSplit_eq_ok hverified
  refine ⟨row, ?_⟩
  constructor
  case authorizations =>
    have hfilter := filter_key_of_mem h.authorizationRows hrow
    rwa [hrowId, hid] at hfilter
  case tenant => rw [hrowTenant, hstoredTenant]
  case verified => simp [Authorization.status, hreceipt]
  case receipts => rw [← hid, h.receiptsOf_of_mem hmem]
  case named => exact hreceipt
  case nullifiers => rw [← hid, h.nullifiersOf_of_mem hmem, hinputs]; rfl
  case distinct => rw [hinputs]; exact h.nullifiers_ne hmem
  case outputs => rw [← hid, h.commitmentsOf_of_mem hmem, hinputs]; rfl
  case signals =>
    have hlist : acceptance.inputs.toList.map toText =
        joinSplitPublicSignalOrder.map fun signal => toText (row.publicInputs.get signal) := by
      rw [hinputs, JoinSplitPublicInputs.toList, List.map_map]; rfl
    rw [hlist] at haccepts
    refine ⟨used, _, haccepts, rfl, by simp [joinSplitPublicSignalOrder], ?_, ?_⟩
    · simp [Acceptance.receipt, hverification]
    · rw [← hlist, Acceptance.receipt, hverification]; rfl
  case serverContext =>
    obtain ⟨context, hcontext, hproduct, _, _, hcontextId, hasset⟩ := h.context acceptance hmem
    rw [hinputs, hstoredProduct]
    exact ⟨context, hcontext, hproduct, hcontextId, hasset⟩
  case serverInstruction =>
    obtain ⟨instruction, hinstruction, hinstructionId, hfee, hrecipient, hrelayer⟩ := h.instruction acceptance hmem
    rw [hinputs, hstoredId]
    exact ⟨instruction, hinstruction, hinstructionId, hfee, hrecipient, hrelayer⟩
  case settlement =>
    have hopened : acceptance.settlement ∈ db.settlements.map Settlement.opened := by
      rw [h.settlements]
      exact List.mem_map_of_mem hmem
    obtain ⟨settlement, hsettlement, heq⟩ := List.mem_map.mp hopened
    exact ⟨settlement, hsettlement, (congrArg Settlement.transactionId heq).trans hid,
      congrArg Settlement.proofReceiptId heq⟩

/-- A transaction behind no acceptance has none of the rows. -/
private theorem notAccepted (h : Records adapter db accepted) {transactionId : String}
    (habsent : transactionId ∉ accepted.map Acceptance.transactionId) : db.NotAccepted transactionId := by
  have hreceipts := h.receiptsOf_of_absent habsent
  constructor
  case receipts => exact hreceipts
  case nullifiers => simp [Database.nullifiersOf, hreceipts]
  case outputs => simp [Database.commitmentsOf, hreceipts]
  case settlements =>
    intro row hrow hid
    obtain ⟨acceptance, hmem, heq⟩ := h.settlement_of_mem hrow
    have hsame : acceptance.transactionId = row.transactionId := (congrArg Settlement.transactionId heq).symm
    exact habsent (List.mem_map.mpr ⟨acceptance, hmem, hsame.trans hid⟩)
  case pending =>
    intro row hrow hid
    by_contra hverified
    refine habsent (hid ▸ h.consumed row hrow fun hnone => hverified ?_)
    simp [Authorization.status, hnone]

end Records

/-- The phases of an accept call. -/
def Action.IsAccept : Action Proof → Prop
  | .acceptRead _ | .acceptVerify _ | .acceptRecord _ _ _ => True
  | _ => False

/-- A transaction that fails leaves the state as it was. -/
theorem GateState.transact_error {ρ : Type} {state : GateState Proof}
    {operation : Database → Except Failure (ρ × Database)} {answer : ρ → Response} {events : ρ → List Event}
    {failure : Failure} (h : (state.transact operation answer events).1 = .error failure) :
    (state.transact operation answer events).2 = state := by
  unfold GateState.transact at h ⊢
  split at h
  · cases h
  · rfl

/-- An accept call that fails, in whichever phase, leaves all tables as they
were. -/
theorem accept_error {gate : ZkSettlementGate Proof} {state : GateState Proof} {action : Action Proof}
    (haccept : action.IsAccept) {failure : Failure} (h : (respond gate state action).1 = .error failure) :
    (respond gate state action).2.db = state.db := by
  cases action with
  | acceptRead request =>
    simp only [respond, GateState.acceptRead]
    split
    · rfl
    · split <;> rfl
  | acceptVerify index =>
    simp only [respond, GateState.acceptVerify]
    split
    · rfl
    · split <;> rfl
  | acceptRecord index uuid now =>
    simp only [respond, GateState.acceptRecord] at h ⊢
    split at h
    · rfl
    · split at h
      · rfl
      · rw [GateState.transact_error h]
  | _ => exact haccept.elim

/-- From a database without accepted proofs, every reachable state has for each
confidential transaction behind the gate all rows of exactly one verified proof,
and for every other transaction none. Frozen inputs never change, and an accept
that fails changes no table. -/
theorem acceptance_atomic (gate : ZkSettlementGate Proof) (db : Database) (hfresh : db.Fresh)
    (actions : List (Action Proof)) :
    (∀ transaction ∈ (run gate db actions).db.transactions, transaction.settlementRail = .confidentialNote →
      (transaction.currentState = .rootPending ∨ transaction.currentState = .settled) →
      ∃ authorization receipt, (run gate db actions).db.AcceptedOnce gate.adapter transaction authorization receipt) ∧
    (∀ transaction ∈ (run gate db actions).db.transactions, transaction.settlementRail = .confidentialNote →
      ¬(transaction.currentState = .rootPending ∨ transaction.currentState = .settled) →
      (run gate db actions).db.NotAccepted transaction.id) ∧
    (∀ more, ∀ frozen ∈ (run gate db actions).db.authorizations,
      ∀ later ∈ (run gate db (actions ++ more)).db.authorizations,
        later.transactionId = frozen.transactionId → later.publicInputs = frozen.publicInputs) ∧
    ∀ action failure, action.IsAccept → (respond gate (run gate db actions) action).1 = .error failure →
      (respond gate (run gate db actions) action).2.db = (run gate db actions).db := by
  have hsound := run_sound (hfresh.records gate.adapter) actions
  have hrecords := hsound.records
  refine ⟨?_, ?_, ?_, ?_⟩
  · intro transaction htransaction hrail hstate
    obtain ⟨acceptance, hmem, hid⟩ :=
      List.mem_map.mp ((hrecords.recorded transaction htransaction hrail).mp hstate)
    obtain ⟨authorization, honce⟩ := hrecords.acceptedOnce htransaction hmem hid
    exact ⟨authorization, _, honce⟩
  · intro transaction htransaction hrail hstate
    exact hrecords.notAccepted fun hmem => hstate ((hrecords.recorded transaction htransaction hrail).mpr hmem)
  · intro more frozen hfrozen later hlater hid
    have hlaterSound := run_sound (hfresh.records gate.adapter) (actions ++ more)
    have hkept := run_frozen hsound more frozen hfrozen
    rw [run, runs.run_append] at hlater hlaterSound
    obtain ⟨kept, hkept, hkeptId, _, hinputs⟩ := hkept
    obtain rfl : later = kept :=
      List.inj_on_of_nodup_map hlaterSound.records.authorizationRows hlater hkept (hid.trans hkeptId.symm)
    exact hinputs
  · exact fun action failure haccept herror => accept_error haccept herror

/-- Public inputs as a caller submits them. -/
def submitted (inputs : JoinSplitPublicInputs FieldElement) : JoinSplitPublicInputs String where
  merkleRoot := toText inputs.merkleRoot
  contextId := toText inputs.contextId
  assetType := toText inputs.assetType
  fee := toText inputs.fee
  recipient := toText inputs.recipient
  relayer := toText inputs.relayer
  transactionHash := toText inputs.transactionHash
  inputNullifier0 := toText inputs.inputNullifier0
  inputNullifier1 := toText inputs.inputNullifier1
  outputCommitmentX0 := toText inputs.outputCommitmentX0
  outputCommitmentX1 := toText inputs.outputCommitmentX1
  outputCommitmentY0 := toText inputs.outputCommitmentY0
  outputCommitmentY1 := toText inputs.outputCommitmentY1

def sampleGate (poseidon3 : FieldElement → FieldElement → FieldElement → FieldElement)
    (inputs : JoinSplitPublicInputs FieldElement) : ZkSettlementGate Unit where
  adapter :=
    { circuitId := "confidential_ledger"
      circuitVersion := "v3"
      verificationKeyHash := "key"
      manifestHash := "manifest"
      verify := fun publicSignals _ => .ok (decide (publicSignals = inputs.toList.map toText))
      sha256 := id
      proofHash := fun _ => "proof" }
  governanceTenantId := "tenant"
  payloadHash := fun _ => "payload"
  poseidon3 := poseidon3
  maxConcurrentVerifications := 2

/-- A transfer that awaits its proof, in the context of the inputs. -/
def sampleDatabase (inputs : JoinSplitPublicInputs FieldElement) (contexts : List ProductContext)
    (roots : List MerkleRoot) : Database where
  reference :=
    { products := [⟨"product", .active, ⟨some ["retail"], some ["SG"]⟩⟩]
      circuits := [⟨"confidential_ledger", "v3", "key", "manifest", joinSplitPublicSignalOrder, .active⟩]
      credentials :=
        [⟨"credential:sender", "product", "sender", "retail", "SG", 0, 100, .active⟩,
          ⟨"credential:recipient", "product", "recipient", "retail", "SG", 0, 100, .active⟩]
      ownerKeys := [⟨"product", inputs.recipient, "recipient", "credential:recipient", .active⟩]
      ledgerAccounts := [⟨"product", "tenant"⟩] }
  transactions := [⟨"tx", "tenant", "product", .transfer, .proofPending, "request", .confidentialNote, none⟩]
  contexts := contexts
  instructions :=
    [⟨"tx", "tenant", "request", inputs.fee, inputs.recipient, inputs.relayer, "operator", 100, "sender",
      "credential:sender", "recipient", "credential:recipient"⟩]
  authorizations := []
  roots := roots
  receipts := []
  nullifiers := []
  outputs := []
  settlements := []
  finalizations := []
  parameterProposals := []

def sampleContext (inputs : JoinSplitPublicInputs FieldElement) : ProductContext :=
  ⟨"product", "confidential_ledger", "v3", inputs.contextId, inputs.assetType, false⟩

/-- Authorize and accept the transfer. -/
def sampleAcceptance (inputs : JoinSplitPublicInputs FieldElement) : List (Action Unit) :=
  [.authorize ⟨"tx", "tenant", submitted inputs, none⟩ 50,
    .acceptRead ⟨"tx", "tenant", some (), inputs.toList.map toText, none⟩,
    .acceptVerify 0,
    .acceptRecord 0 "uuid" 50]

theorem sampleDatabase_fresh (inputs : JoinSplitPublicInputs FieldElement) (contexts : List ProductContext)
    (roots : List MerkleRoot) : (sampleDatabase inputs contexts roots).Fresh where
  receipts := rfl
  nullifiers := rfl
  outputs := rfl
  settlements := rfl
  finalizations := rfl
  transactionRows := by simp [sampleDatabase]
  authorizationRows := List.nodup_nil
  recorded := by simp [sampleDatabase, TransactionState.Recorded]
  pending := by simp [sampleDatabase]

/-- A hash that is good enough to evaluate examples. -/
def samplePoseidon3 (first second third : FieldElement) : FieldElement := first + 2 * second + 3 * third

/-- The inputs of a transfer against a known root. -/
def sampleInputs (merkleRoot : FieldElement) : JoinSplitPublicInputs FieldElement :=
  ⟨merkleRoot, 1, 7, 3, 22, 0, 5, 100, 101, 200, 201, 300, 301⟩

def sampleState : GateState Unit :=
  run (sampleGate samplePoseidon3 (sampleInputs 17))
    (sampleDatabase (sampleInputs 17) [sampleContext (sampleInputs 17)] [⟨1, 17, 4, none, .historical, none, "import"⟩])
    (sampleAcceptance (sampleInputs 17))

theorem acceptance_atomic_sample :
    ∃ transaction ∈ sampleState.db.transactions, transaction.currentState = .rootPending ∧
      ∃ authorization receipt,
        sampleState.db.AcceptedOnce (sampleGate samplePoseidon3 (sampleInputs 17)).adapter transaction authorization
          receipt := by
  have hsettled : ∃ transaction ∈ sampleState.db.transactions, transaction.currentState = .rootPending ∧
      transaction.settlementRail = .confidentialNote := by
    decide +kernel
  obtain ⟨transaction, htransaction, hstate, hrail⟩ := hsettled
  refine ⟨transaction, htransaction, hstate, ?_⟩
  exact (acceptance_atomic _ _ (sampleDatabase_fresh _ _ _) _).1 transaction htransaction hrail (Or.inl hstate)

end rwa.gate
