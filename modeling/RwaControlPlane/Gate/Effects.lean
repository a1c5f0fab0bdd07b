import RwaControlPlane.Gate.System
import RwaControlPlane.Library.KeyedRows

open checked keyed_rows rwa.security rwa.merkle

namespace rwa.gate

variable {Proof : Type}

namespace Acceptance

def contextId (acceptance : Acceptance) : FieldElement := acceptance.inputs.contextId

def receipt (acceptance : Acceptance) : ProofReceipt where
  id := acceptance.receiptId
  transactionId := acceptance.transactionId
  tenantId := acceptance.tenantId
  circuitId := acceptance.verification.circuitId
  circuitVersion := acceptance.verification.circuitVersion
  contextId := acceptance.inputs.contextId
  merkleRoot := acceptance.inputs.merkleRoot
  verificationKeyHash := acceptance.verification.verificationKeyHash
  proofHash := acceptance.verification.proofHash
  publicSignalsHash := acceptance.verification.publicSignalsHash

def nullifiers (acceptance : Acceptance) : List SpentNullifier :=
  [{ contextId := acceptance.inputs.contextId, nullifier := acceptance.inputs.inputNullifier0,
     proofReceiptId := acceptance.receiptId },
   { contextId := acceptance.inputs.contextId, nullifier := acceptance.inputs.inputNullifier1,
     proofReceiptId := acceptance.receiptId }]

def outputs (acceptance : Acceptance) : List OutputCommitment :=
  [{ proofReceiptId := acceptance.receiptId, outputIndex := 0, contextId := acceptance.inputs.contextId,
     commitmentX := acceptance.inputs.outputCommitmentX0, commitmentY := acceptance.inputs.outputCommitmentY0 },
   { proofReceiptId := acceptance.receiptId, outputIndex := 1, contextId := acceptance.inputs.contextId,
     commitmentX := acceptance.inputs.outputCommitmentX1, commitmentY := acceptance.inputs.outputCommitmentY1 }]

/-- The settlement while it awaits its root. -/
def settlement (acceptance : Acceptance) : Settlement where
  transactionId := acceptance.transactionId
  proofReceiptId := acceptance.receiptId
  tenantId := acceptance.tenantId
  productId := acceptance.productId
  contextId := acceptance.inputs.contextId
  merkleRoot := acceptance.inputs.merkleRoot
  finality := none

end Acceptance

def nullifierKey (row : SpentNullifier) : FieldElement × FieldElement := (row.contextId, row.nullifier)

def outputKey (row : OutputCommitment) : FieldElement × FieldElement × FieldElement :=
  (row.contextId, row.commitmentX, row.commitmentY)

namespace Database

def setState (db : Database) (transactionId : String) (toState : TransactionState) : Database :=
  { db with
    transactions := db.transactions.map fun row =>
      if row.id = transactionId then { row with currentState := toState } else row }

/-- All rows of one acceptance. -/
def record (db : Database) (acceptance : Acceptance) : Database :=
  { db.setState acceptance.transactionId .rootPending with
    authorizations := db.authorizations.map fun row =>
      if row.transactionId = acceptance.transactionId then { row with proofReceiptId := some acceptance.receiptId }
      else row
    receipts := db.receipts ++ [acceptance.receipt]
    nullifiers := db.nullifiers ++ acceptance.nullifiers
    outputs := db.outputs ++ acceptance.outputs
    settlements := db.settlements ++ [acceptance.settlement] }

/-- The database lets an acceptance in: its transaction, authorization, context,
instruction and root are in place, and none of its keys is taken. -/
structure Admits (db : Database) (acceptance : Acceptance) : Prop where
  transaction : ∃ row ∈ db.transactions, row.id = acceptance.transactionId ∧ row.tenantId = acceptance.tenantId ∧
    row.productId = acceptance.productId ∧ row.currentState = .proofPending ∧ row.settlementRail = .confidentialNote
  context : ∃ row ∈ db.contexts, row.productId = acceptance.productId ∧
    row.circuitId = acceptance.verification.circuitId ∧ row.circuitVersion = acceptance.verification.circuitVersion ∧
    row.contextId = acceptance.inputs.contextId ∧ row.assetType = acceptance.inputs.assetType
  instruction : ∃ row ∈ db.instructions, row.transactionId = acceptance.transactionId ∧
    row.fee = acceptance.inputs.fee ∧ row.recipient = acceptance.inputs.recipient ∧
    row.relayer = acceptance.inputs.relayer
  authorization : ∃ row ∈ db.authorizations, row.transactionId = acceptance.transactionId ∧
    row.tenantId = acceptance.tenantId ∧ row.proofReceiptId = none
  root : ∃ row ∈ db.roots, row.contextId = acceptance.inputs.contextId ∧ row.merkleRoot = acceptance.inputs.merkleRoot
  receipt_id : acceptance.receiptId ∉ db.receipts.map (·.id)
  receipt_transaction : acceptance.transactionId ∉ db.receipts.map (·.transactionId)
  nullifiers : (db.nullifiers.map nullifierKey).Nodup →
    ((db.nullifiers ++ acceptance.nullifiers).map nullifierKey).Nodup
  outputs : (db.outputs.map outputKey).Nodup → ((db.outputs ++ acceptance.outputs).map outputKey).Nodup

end Database

private theorem pending_iff {row : Authorization} : row.status = .pending ↔ row.proofReceiptId = none := by
  cases h : row.proofReceiptId <;> simp [Authorization.status, h]

private theorem findTransaction_eq_some {db : Database} {transactionId : String} {found : TransactionIntent × Product}
    (h : db.findTransaction transactionId = some found) :
    found.1 ∈ db.transactions ∧ found.1.id = transactionId := by
  simp only [Database.findTransaction, bind, Option.bind_eq_some_iff] at h
  obtain ⟨transaction, htransaction, product, _, hfound⟩ := h
  obtain rfl := Option.some.inj hfound
  exact ⟨List.mem_of_find?_eq_some htransaction, by simpa using List.find?_some htransaction⟩

private theorem spendNullifier_ok {db next : Database} {contextId nullifier : FieldElement} {receiptId : String}
    (h : spendNullifier db contextId nullifier receiptId = .ok next) :
    (contextId, nullifier) ∉ db.nullifiers.map nullifierKey ∧
      next = { db with nullifiers := db.nullifiers ++ [{ contextId, nullifier, proofReceiptId := receiptId }] } := by
  simp only [spendNullifier, rethrow_eq_ok_iff, Database.insertNullifier, bind_eq_ok_iff, throwIf_eq_ok_iff,
    exists_unit, pure_eq_ok_iff] at h
  exact ⟨h.1, h.2.symm⟩

private theorem insertOutput_ok {db next : Database} {row : OutputCommitment} (h : db.insertOutput row = .ok next) :
    outputKey row ∉ db.outputs.map outputKey ∧ next = { db with outputs := db.outputs ++ [row] } := by
  simp only [Database.insertOutput, bind_eq_ok_iff, throwIf_eq_ok_iff, exists_unit, pure_eq_ok_iff] at h
  exact ⟨h.2.2.1, h.2.2.2.symm⟩

private theorem insertReceipt_ok {db next : Database} {row : ProofReceipt} (h : db.insertReceipt row = .ok next) :
    row.id ∉ db.receipts.map (·.id) ∧ row.transactionId ∉ db.receipts.map (·.transactionId) ∧
      next = { db with receipts := db.receipts ++ [row] } := by
  simp only [Database.insertReceipt, bind_eq_ok_iff, throwIf_eq_ok_iff, exists_unit, pure_eq_ok_iff] at h
  exact ⟨h.1, h.2.1, h.2.2.symm⟩

private theorem verifyAuthorization_ok {db next : Database} {transactionId receiptId : String}
    (h : db.verifyAuthorization transactionId receiptId = .ok next) :
    next =
      { db with
        authorizations := db.authorizations.map fun row =>
          if row.transactionId = transactionId then { row with proofReceiptId := some receiptId } else row } := by
  simp only [Database.verifyAuthorization, bind_eq_ok_iff, throwIf_eq_ok_iff, exists_unit, pure_eq_ok_iff] at h
  exact h.2.2.symm

theorem transitionTransaction_ok {db next : Database} {transactionId : String} {toState : TransactionState}
    (h : db.transitionTransaction transactionId toState = .ok next) : next = db.setState transactionId toState := by
  simp only [Database.transitionTransaction, bind_eq_ok_iff, throwIf_eq_ok_iff, exists_unit, pure_eq_ok_iff] at h
  obtain ⟨_, _, _, _, _, rfl⟩ := h
  rfl

private theorem insertSettlement_ok {db next : Database} {row : Settlement} (h : db.insertSettlement row = .ok next) :
    next = { db with settlements := db.settlements ++ [row] } := by
  simp only [Database.insertSettlement, bind_eq_ok_iff, throwIf_eq_ok_iff, exists_unit, pure_eq_ok_iff] at h
  exact h.2.2.2.2.symm

/-- A committed acceptance was admitted and wrote exactly its rows. -/
theorem recordAcceptance_ok {request : AcceptRequest Proof} {expected : JoinSplitPublicInputs FieldElement}
    {verification : Verification} {uuid : String} {now : Int} {db next : Database} {metadata : AcceptanceMetadata}
    (h : recordAcceptance request expected verification uuid now db = .ok (metadata, next)) :
    metadata.verification = verification ∧ db.Admits (Acceptance.of request expected metadata) ∧
      next = db.record (Acceptance.of request expected metadata) := by
  simp only [recordAcceptance, bind_eq_ok_iff, throwIf_eq_ok_iff, exists_unit, require_eq_ok_iff,
    Prod.exists, not_not] at h
  obtain ⟨transaction, product, htransaction, hstate, _, hrail, _, context, hcontext, instruction, hinstruction, _,
    _, hauthorization, hroot, db1, h1, db2, h2, db3, h3, db4, h4, db5, h5, db6, h6, db7, h7, db8, h8, hresult⟩ := h
  obtain ⟨hfound, htenant⟩ := Option.filter_eq_some_iff.mp htransaction
  obtain ⟨hmem, hid⟩ := findTransaction_eq_some hfound
  obtain ⟨hreceiptId, hreceiptTransaction, rfl⟩ := insertReceipt_ok h1
  obtain ⟨hnullifier0, rfl⟩ := spendNullifier_ok h2
  obtain ⟨hnullifier1, rfl⟩ := spendNullifier_ok h3
  obtain ⟨houtput0, rfl⟩ := insertOutput_ok h4
  obtain ⟨houtput1, rfl⟩ := insertOutput_ok h5
  obtain rfl := verifyAuthorization_ok h6
  obtain rfl := transitionTransaction_ok h7
  obtain rfl := insertSettlement_ok h8
  simp only [pure_eq_ok_iff, Prod.mk.injEq] at hresult
  obtain ⟨rfl, rfl⟩ := hresult
  refine ⟨rfl, ?_, ?_⟩
  · constructor
    case transaction => exact ⟨transaction, hmem, hid, by simpa [Acceptance.of] using htenant, rfl, hstate, hrail⟩
    case context =>
      obtain ⟨hcontextMem, hcontextProps⟩ := mem_of_single_filter hcontext
      simp only [Bool.and_eq_true, decide_eq_true_eq] at hcontextProps
      obtain ⟨⟨⟨⟨⟨⟨hproduct, hcircuit⟩, hversion⟩, hcontextId⟩, hasset⟩, _⟩, _⟩ := hcontextProps
      exact ⟨context, hcontextMem, hproduct, hcircuit, hversion, hcontextId, hasset⟩
    case instruction =>
      obtain ⟨hinstructionFound, hinstructionProps⟩ := Option.filter_eq_some_iff.mp hinstruction
      simp only [Bool.and_eq_true, decide_eq_true_eq] at hinstructionProps
      obtain ⟨⟨⟨⟨_, hfee⟩, hrecipient⟩, hrelayer⟩, _⟩ := hinstructionProps
      exact ⟨instruction, List.mem_of_find?_eq_some hinstructionFound,
        by simpa [Acceptance.of] using List.find?_some hinstructionFound, hfee, hrecipient, hrelayer⟩
    case authorization =>
      obtain ⟨row, hrow, hrowTenant, hpending⟩ := hauthorization
      exact ⟨row, List.mem_of_find?_eq_some hrow, by simpa [Acceptance.of] using List.find?_some hrow, hrowTenant,
        pending_iff.mp hpending⟩
    case root =>
      simp only [assertAcceptedRoot, throwIf_eq_ok_iff, not_not] at hroot
      obtain ⟨root, hrootFound, _, _⟩ := hroot
      have hkey := List.find?_some hrootFound
      simp only [Bool.and_eq_true, decide_eq_true_eq] at hkey
      exact ⟨root, List.mem_of_find?_eq_some hrootFound, hkey.1, hkey.2⟩
    case receipt_id => exact hreceiptId
    case receipt_transaction => exact hreceiptTransaction
    case nullifiers => exact nodup_append_pair hnullifier0 hnullifier1
    case outputs => exact nodup_append_pair houtput0 houtput1
  · simp only [Database.record, Database.setState, Acceptance.receipt, Acceptance.nullifiers, Acceptance.outputs,
      Acceptance.settlement, Acceptance.of, List.append_assoc, List.singleton_append]
    rfl

/-- The publication of the outputs of one transaction. -/
structure Publication where
  transactionId : String
  receiptId : String
  contextId : FieldElement
  proposalId : String
  extension : TreeExtension
  finality : Finality
  expiresAt : Int

/-- The CURRENT root that a publication inserts. -/
def Publication.root (publication : Publication) : MerkleRoot where
  contextId := publication.contextId
  merkleRoot := publication.finality.outputMerkleRoot
  treeSize := publication.finality.outputTreeSize
  frontier := some publication.extension.next.frontier
  status := .current
  expiresAt := none
  sourceReference := publication.finality.rootSourceReference

namespace Database

/-- All writes of one publication. -/
def publish (db : Database) (publication : Publication) : Database :=
  { db.setState publication.transactionId .settled with
    roots := (db.supersedeRoots publication.contextId publication.expiresAt).roots ++ [publication.root]
    finalizations :=
      (db.updateFinalization publication.proposalId fun row =>
        { row with status := .approved, approvedBy := some publication.finality.finalizedBy }).finalizations
    settlements := db.settlements.map fun row =>
      if row.transactionId = publication.transactionId then { row with finality := some publication.finality }
      else row }

/-- The database lets a publication in: its settlement is ROOT_PENDING, its
pending proposal was made against the CURRENT root, and the server recomputed
the extension that it publishes. -/
structure Publishes (poseidon3 : FieldElement → FieldElement → FieldElement → FieldElement) (db : Database)
    (publication : Publication) : Prop where
  settlement : ∃ row ∈ db.settlements, row.transactionId = publication.transactionId ∧
    row.proofReceiptId = publication.receiptId ∧ row.contextId = publication.contextId ∧ row.finality = none
  unsettled : ∀ row ∈ db.settlements, row.transactionId = publication.transactionId → row.finality = none
  transaction : ∃ row ∈ db.transactions, row.id = publication.transactionId ∧ row.currentState = .rootPending ∧
    row.settlementRail = .confidentialNote
  proposal : ∃ row ∈ db.finalizations, row.id = publication.proposalId ∧
    row.transactionId = publication.transactionId ∧ row.status = .pending ∧
    row.baseMerkleRoot = publication.extension.base.root ∧ row.baseTreeSize = publication.extension.base.treeSize
  extension : verifiedTreeExtension poseidon3 db publication.contextId publication.receiptId =
    .ok publication.extension
  root : publication.extension.next.root = toText publication.finality.outputMerkleRoot
  treeSize : publication.extension.next.treeSize = publication.finality.outputTreeSize

end Database

theorem verifiedTreeExtension_ok {poseidon3 : FieldElement → FieldElement → FieldElement → FieldElement}
    {db : Database} {contextId : FieldElement} {receiptId : String} {extension : TreeExtension}
    (h : verifiedTreeExtension poseidon3 db contextId receiptId = .ok extension) :
    db.currentTree contextId = some extension.base ∧
      (db.outputsOf receiptId contextId).map (·.outputIndex) = [0, 1] ∧
      appendMerkleLeaves poseidon3 extension.base.treeSize extension.base.frontier
        (some (toText extension.base.root)) ((outputLeaves poseidon3 (db.outputsOf receiptId contextId)).map toText) =
          .ok extension.next := by
  simp only [verifiedTreeExtension, bind_eq_ok_iff, require_eq_ok_iff, throwIf_eq_ok_iff, exists_unit,
    rethrow_eq_ok_iff, pure_eq_ok_iff, not_not] at h
  obtain ⟨base, hbase, hindices, next, hnext, rfl⟩ := h
  exact ⟨hbase, hindices, hnext⟩

private theorem insertRoot_ok {db next : Database} {row : MerkleRoot} (h : db.insertRoot row = .ok next) :
    next = { db with roots := db.roots ++ [row] } := by
  simp only [Database.insertRoot, bind_eq_ok_iff, throwIf_eq_ok_iff, exists_unit, pure_eq_ok_iff] at h
  exact h.2.2.2.symm

private theorem finalizeSettlement_ok {db next : Database} {transactionId : String} {finality : Finality}
    (h : db.finalizeSettlement transactionId finality = .ok next) :
    (∀ row ∈ db.settlements, row.transactionId = transactionId → row.finality = none) ∧
      next =
        { db with
          settlements := db.settlements.map fun row =>
            if row.transactionId = transactionId then { row with finality := some finality } else row } := by
  simp only [Database.finalizeSettlement, bind_eq_ok_iff, throwIf_eq_ok_iff, exists_unit, pure_eq_ok_iff] at h
  refine ⟨fun row hrow hid => ?_, h.2.symm⟩
  cases hfinality : row.finality with
  | none => rfl
  | some finality => exact absurd ⟨row, hrow, hid, by simp [Settlement.finalityStatus, hfinality]⟩ h.1

/-- A finalization transaction either cancels a proposal or publishes outputs. -/
theorem finalizeTransaction_ok {poseidon3 : FieldElement → FieldElement → FieldElement → FieldElement}
    {request : FinalizeRequest} {clockTimestamp : Int} {db next : Database} {outcome : FinalizeOutcome}
    (h : finalizeTransaction poseidon3 request clockTimestamp db = .ok (outcome, next)) :
    (∃ proposal expected cancelledBy reason,
      db.pendingFinalization request.transactionId request.tenantId = some proposal ∧
      outcome = .stale proposal.id expected ∧ next = cancelProposal db proposal.id cancelledBy reason) ∨
    ∃ publication : Publication,
      outcome = .settled publication.receiptId publication.contextId publication.finality.outputMerkleRoot
        publication.finality.outputTreeSize ∧
      publication.transactionId = request.transactionId ∧
      db.Publishes poseidon3 publication ∧ next = db.publish publication := by
  simp only [finalizeTransaction, bind_eq_ok_iff, throwIf_eq_ok_iff, exists_unit, require_eq_ok_iff, Prod.exists,
    not_or, not_not] at h
  obtain ⟨_, _, transaction, product, htransaction, settlement, hsettlement, proposal, hproposal,
    ⟨hstate, hrail, _⟩, _, _, extension, hextension, hbranch⟩ := h
  obtain ⟨hfound, _⟩ := Option.filter_eq_some_iff.mp htransaction
  obtain ⟨hmem, hid⟩ := findTransaction_eq_some hfound
  obtain ⟨hproposalMem, hproposalProps⟩ := mem_of_single_filter hproposal
  simp only [Bool.and_eq_true, decide_eq_true_eq] at hproposalProps
  split at hbranch
  · next hstale =>
    simp only [pure_eq_ok_iff, Prod.mk.injEq] at hbranch
    exact Or.inl ⟨proposal, _, _, _, hproposal, hbranch.1.symm, hbranch.2.symm⟩
  · next hfresh =>
    simp only [bind_eq_ok_iff, throwIf_eq_ok_iff, exists_unit, pure_eq_ok_iff, Prod.mk.injEq, not_or,
      not_not] at hbranch hfresh
    obtain ⟨⟨hroot, hsize⟩, db1, h1, db2, h2, db3, h3, houtcome, rfl⟩ := hbranch
    obtain rfl := insertRoot_ok h1
    obtain ⟨hunsettled, rfl⟩ := finalizeSettlement_ok h2
    obtain rfl := transitionTransaction_ok h3
    have hsettlementMem := List.mem_of_find?_eq_some hsettlement
    have hsettlementId : settlement.transactionId = request.transactionId := by
      simpa using List.find?_some hsettlement
    refine Or.inr
      ⟨{ transactionId := request.transactionId, receiptId := settlement.proofReceiptId,
         contextId := settlement.contextId, proposalId := proposal.id, extension,
         finality :=
          { outputMerkleRoot := proposal.outputMerkleRoot, outputTreeSize := proposal.outputTreeSize,
            rootSourceReference := proposal.rootSourceReference, executionReference := proposal.executionReference,
            finalizedBy := request.finalizedBy },
         expiresAt := clockTimestamp + 3600000 }, houtcome.symm, rfl, ?_, rfl⟩
    constructor
    case settlement =>
      exact ⟨settlement, hsettlementMem, hsettlementId, rfl, rfl, hunsettled settlement hsettlementMem hsettlementId⟩
    case unsettled => exact hunsettled
    case transaction => exact ⟨transaction, hmem, hid, hstate, hrail⟩
    case proposal =>
      exact ⟨proposal, hproposalMem, rfl, hproposalProps.1.1, hproposalProps.2, hfresh.1.symm, hfresh.2.symm⟩
    case extension => exact hextension
    case root => exact hroot
    case treeSize => exact hsize

end rwa.gate
