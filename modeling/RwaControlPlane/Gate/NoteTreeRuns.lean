import RwaControlPlane.Gate.NoteTreeChain

open checked keyed_rows rwa.security rwa.merkle

namespace rwa.gate

variable {Proof : Type} {gate : ZkSettlementGate Proof}
  {poseidon3 : FieldElement → FieldElement → FieldElement → FieldElement}

/-- The chain of a context holds in every state of a run that starts with it. -/
theorem NoteTreeChain.run {before : List Acceptance} {contextId : FieldElement} {base : List FieldElement}
    {state : GateState Proof} (hsound : Sound gate before state)
    (hchain : NoteTreeChain gate.poseidon3 contextId base (before ++ acceptances state.history) state.db state.history)
    (actions : List (Action Proof)) :
    NoteTreeChain gate.poseidon3 contextId base
      (before ++ acceptances (runs.run (step gate) state actions).history)
      (runs.run (step gate) state actions).db (runs.run (step gate) state actions).history := by
  induction actions generalizing state with
  | nil => exact hchain
  | cons action actions ih =>
    apply ih (hsound.step action)
    obtain ⟨events, hcommit, hhistory⟩ := hsound.commits action
    rw [hhistory, acceptances_append, ← List.append_assoc]
    exact hchain.commit hsound.records hcommit

section Opening

variable {db next : Database} {calls : List (AcceptCall Proof)} {events history : List Event} {contextId : FieldElement}

/-- A context id is unused until a genesis opens it. -/
def OpenedByGenesis (contextId : FieldElement) (db : Database) (history : List Event) : Prop :=
  db.Unused contextId ∨
    (.genesis contextId ∈ history ∧ contextId ∈ db.roots.map MerkleRoot.contextId)

private theorem contextIds_retire {retired : FieldElement} :
    (db.contexts.map (setRetired retired)).map ProductContext.contextId =
      db.contexts.map ProductContext.contextId := by
  rw [List.map_map]
  refine List.map_congr_left fun row _ => ?_
  simp only [Function.comp_apply, setRetired]
  split <;> rfl

private theorem contextIds_revoke {revoked merkleRoot : FieldElement} :
    (db.roots.map (setRevoked revoked merkleRoot)).map MerkleRoot.contextId =
      db.roots.map MerkleRoot.contextId := by
  rw [List.map_map]
  refine List.map_congr_left fun row _ => ?_
  simp only [Function.comp_apply, setRevoked]
  split <;> rfl

private theorem OpenedByGenesis.commit (h : OpenedByGenesis contextId db history)
    (hcommit : Commit gate calls db next events) : OpenedByGenesis contextId next (history ++ events) := by
  rcases h with hunused | ⟨hgenesis, hopened⟩
  · cases hcommit with
    | publish publication hpublishes =>
      have hbase := NoteTreeChain.opened_of_currentTree (verifiedTreeExtension_ok hpublishes.extension).1
      refine Or.inl ⟨hunused.1, ?_⟩
      rw [NoteTreeChain.mem_publish_roots]
      rintro (hopened | rfl)
      · exact hunused.2 hopened
      · exact hunused.2 hbase
    | genesis context sourceReference parameterProposals hfresh =>
      by_cases hcontext : context.contextId = contextId
      · exact Or.inr ⟨by simp [hcontext], by simp [genesisRoot, hcontext]⟩
      · refine Or.inl ⟨?_, ?_⟩
        · simpa [Ne.symm hcontext] using hunused.1
        · simpa [genesisRoot, Ne.symm hcontext] using hunused.2
    | retireContext retired =>
      refine Or.inl ⟨?_, hunused.2⟩
      rw [contextIds_retire]
      exact hunused.1
    | revokeRoot revoked merkleRoot =>
      refine Or.inl ⟨hunused.1, ?_⟩
      rw [contextIds_revoke]
      exact hunused.2
    | _ => exact Or.inl hunused
  · refine Or.inr ⟨List.mem_append_left _ hgenesis, ?_⟩
    cases hcommit with
    | publish publication hpublishes => exact NoteTreeChain.mem_publish_roots.mpr (Or.inl hopened)
    | genesis context sourceReference parameterProposals hfresh =>
      rw [List.map_append]
      exact List.mem_append_left _ hopened
    | revokeRoot revoked merkleRoot =>
      rw [contextIds_revoke]
      exact hopened
    | _ => exact hopened

private theorem OpenedByGenesis.run {before : List Acceptance} {state : GateState Proof}
    (hsound : Sound gate before state) (h : OpenedByGenesis contextId state.db state.history)
    (actions : List (Action Proof)) :
    OpenedByGenesis contextId (runs.run (step gate) state actions).db (runs.run (step gate) state actions).history := by
  induction actions generalizing state with
  | nil => exact h
  | cons action actions ih =>
    apply ih (hsound.step action)
    obtain ⟨events, hcommit, hhistory⟩ := hsound.commits action
    rw [hhistory]
    exact h.commit hcommit

end Opening

section Proposals

variable {db next : Database} {calls : List (AcceptCall Proof)} {events : List Event}

/-- Every change adds proposals or decides pending ones. -/
theorem Commit.proposalsKept (h : Commit gate calls db next events) :
    ProposalsKept db.finalizations next.finalizations := by
  cases h with
  | propose finalizations hkept => exact hkept
  | publish publication hpublishes => exact updateFinalization_kept fun _ => rfl
  | _ => exact ProposalsKept.refl _

theorem proposalsKept_run {before : List Acceptance} {state : GateState Proof} (hsound : Sound gate before state)
    (actions : List (Action Proof)) :
    ProposalsKept state.db.finalizations (runs.run (step gate) state actions).db.finalizations := by
  induction actions generalizing state with
  | nil => exact ProposalsKept.refl _
  | cons action actions ih =>
    obtain ⟨events, hcommit, _⟩ := hsound.commits action
    have hfirst := hcommit.proposalsKept
    have hrest := ih (hsound.step action)
    exact ⟨fun hids => hrest.ids (hfirst.ids hids),
      fun row hrow hdecided => hrest.decided row (hfirst.decided row hrow hdecided) hdecided⟩

/-- The stored tree of a context changes only when the context is opened, or
when a publication extends the CURRENT tree that its pending proposal names. -/
theorem Commit.currentTree_ne (h : Commit gate calls db next events) {contextId : FieldElement}
    (hne : next.currentTree contextId ≠ db.currentTree contextId) :
    (db.Unused contextId ∧ events = [.genesis contextId]) ∨
      ∃ publication, db.Publishes gate.poseidon3 publication ∧ publication.contextId = contextId ∧
        next = db.publish publication := by
  cases h with
  | publish publication hpublishes =>
    by_cases hcontext : publication.contextId = contextId
    · exact Or.inr ⟨publication, hpublishes, hcontext, rfl⟩
    · exact absurd (currentTree_congr (currentRows_publish_other hcontext)) hne
  | genesis context sourceReference parameterProposals hunused =>
    by_cases hcontext : context.contextId = contextId
    · subst hcontext
      exact Or.inl ⟨hunused, rfl⟩
    · exact absurd (currentTree_congr (currentRows_insert_other hcontext)) hne
  | revokeRoot revoked merkleRoot => exact absurd (currentTree_congr currentRows_revoke) hne
  | _ => exact absurd rfl hne

end Proposals

/-- A step withdraws a proposal: a call cancels it, or finalization finds that it was
made against a superseded base. -/
inductive Withdraws (gate : ZkSettlementGate Proof) (db : Database) : Action Proof → String → Prop
  | call {request : CancelRequest} {proposalId : String} {next : Database}
      (cancels : cancelFinalization request db = .ok (proposalId, next)) :
      Withdraws gate db (.cancelFinalization request) proposalId
  | stale {request : FinalizeRequest} {clockTimestamp : Int} {proposalId : String} {expected : TreeExtension}
      {next : Database}
      (stale : finalizeTransaction gate.poseidon3 request clockTimestamp db = .ok (.stale proposalId expected, next)) :
      Withdraws gate db (.finalize request clockTimestamp) proposalId

/-- A withdrawn proposal was pending and is CANCELLED, and no root changes. -/
private theorem Withdraws.cancelled {state : GateState Proof} {action : Action Proof} {proposalId : String}
    (h : Withdraws gate state.db action proposalId) :
    (∃ proposal ∈ state.db.finalizations, proposal.id = proposalId ∧ proposal.status = .pending) ∧
      (∃ proposal ∈ (step gate state action).db.finalizations,
        proposal.id = proposalId ∧ proposal.status = .cancelled) ∧
      (step gate state action).db.roots = state.db.roots := by
  cases h with
  | @call request _ next hcancels =>
    obtain ⟨transactionId, proposal, hpending, rfl, rfl⟩ := cancelFinalization_ok hcancels
    have hstep : (step gate state (.cancelFinalization request)).db =
        cancelProposal state.db proposal.id request.cancelledBy request.reason := by
      simp only [step, respond, GateState.transact, hcancels]
    obtain ⟨hmem, hstatus, hcancelled⟩ := cancelProposal_cancelled hpending
    rw [hstep]
    exact ⟨⟨proposal, hmem, rfl, hstatus⟩, hcancelled, rfl⟩
  | @stale request clockTimestamp _ expected next hstale =>
    have hstep : (step gate state (.finalize request clockTimestamp)).db = next := by
      simp only [step, respond, GateState.finalize, hstale]
    obtain ⟨proposal, _, cancelledBy, reason, hpending, houtcome, hnext⟩ | ⟨_, houtcome, _⟩ :=
      finalizeTransaction_ok hstale
    · cases houtcome
      obtain ⟨hmem, hstatus, hcancelled⟩ := cancelProposal_cancelled hpending
      rw [hstep, hnext]
      exact ⟨⟨proposal, hmem, rfl, hstatus⟩, hcancelled, rfl⟩
    · cases houtcome

/-- The tree of a context is the tree of its FINAL settlements in the given
order: the one CURRENT root stores what appending each settlement's pair of
outputs, index 0 before index 1, to the empty tree gives. -/
structure Database.TreeOfFinalSettlements
    (poseidon3 : FieldElement → FieldElement → FieldElement → FieldElement) (db : Database)
    (contextId : FieldElement) (order : List String) : Prop where
  once : order.Nodup
  final : ∀ row ∈ db.settlements, row.contextId = contextId →
    (row.finalityStatus = .final ↔ row.proofReceiptId ∈ order)
  settled : ∀ receiptId ∈ order, ∃ row ∈ db.settlements, row.proofReceiptId = receiptId ∧
    row.contextId = contextId ∧ row.finalityStatus = .final
  pairs : ∀ receiptId ∈ order, (db.outputsOf receiptId contextId).map (·.outputIndex) = [0, 1]
  current : ∃ row tree, currentRows db.roots contextId = [row] ∧
    appendBatches poseidon3 (emptyMerkleTreeState poseidon3)
      (order.map fun receiptId => (true, outputLeaves poseidon3 (db.outputsOf receiptId contextId))) = .ok tree ∧
    row.treeSize = tree.treeSize ∧ row.frontier = some tree.frontier ∧ toText row.merkleRoot = tree.root
  size : ∀ row ∈ currentRows db.roots contextId, row.treeSize =
    2 * (db.settlements.filter fun row => row.contextId = contextId && row.finalityStatus = .final).length

theorem Settlement.final_iff {row : Settlement} : row.finalityStatus = .final ↔ row.finality ≠ none := by
  cases h : row.finality with
  | none => simp [Settlement.finalityStatus, h]
  | some finality => simp [Settlement.finalityStatus, h]

section Tree

variable {adapter : Groth16JoinSplitProofAdapter Proof} {db : Database} {accepted : List Acceptance}
  {history : List Event} {contextId : FieldElement}

/-- Settlements are known by their receipts. -/
private theorem Records.settlementReceipts (h : Records adapter db accepted) :
    (db.settlements.map Settlement.proofReceiptId).Nodup := by
  have hsame : db.settlements.map Settlement.proofReceiptId = accepted.map Acceptance.receiptId := by
    have hopened := congrArg (List.map Settlement.proofReceiptId) h.settlements
    rwa [List.map_map, List.map_map] at hopened
  rw [hsame]
  exact h.receiptIds

/-- The leaves of one accepted proof are a pair. -/
private theorem length_outputLeaves (h : Records adapter db accepted) {acceptance : Acceptance}
    (hmem : acceptance ∈ accepted) :
    (outputLeaves poseidon3 (db.outputsOf acceptance.receiptId acceptance.inputs.contextId)).length = 2 := by
  rw [h.outputsOf_of_mem hmem]
  rfl

private theorem length_publishedLeaves (hrecords : Records adapter db accepted) {order : List String}
    (hrecorded : ∀ receiptId ∈ order, ∃ acceptance ∈ accepted, acceptance.receiptId = receiptId ∧
      acceptance.inputs.contextId = contextId) :
    (db.publishedLeaves poseidon3 contextId order).length = 2 * order.length := by
  induction order with
  | nil => rfl
  | cons receiptId order ih =>
    obtain ⟨acceptance, hmem, rfl, rfl⟩ := hrecorded receiptId List.mem_cons_self
    have hhead := @length_outputLeaves _ poseidon3 _ _ _ hrecords _ hmem
    have htail := ih fun other hother => hrecorded other (List.mem_cons_of_mem _ hother)
    rw [Database.publishedLeaves, List.flatMap_cons, List.length_append, List.length_cons, hhead]
    rw [Database.publishedLeaves] at htail
    omega

/-- The chain of an opened context that started empty, read off its tables. -/
theorem NoteTreeChain.treeOfFinalSettlements (h : NoteTreeChain poseidon3 contextId [] accepted db history)
    (hrecords : Records adapter db accepted) (hopened : contextId ∈ db.roots.map MerkleRoot.contextId) :
    db.TreeOfFinalSettlements poseidon3 contextId (finalizedReceipts contextId history) := by
  have htree := h.tree hopened
  rw [List.nil_append] at htree
  obtain ⟨row, hrow, hroot, hsize, hfrontier⟩ := htree.current
  have hfinal : ∀ row ∈ db.settlements, row.contextId = contextId →
      (row.finalityStatus = .final ↔ row.proofReceiptId ∈ finalizedReceipts contextId history) := by
    intro settlement hsettlement hcontext
    rw [Settlement.final_iff]
    exact h.final settlement hsettlement hcontext
  have hsettled : ∀ receiptId ∈ finalizedReceipts contextId history, ∃ row ∈ db.settlements,
      row.proofReceiptId = receiptId ∧ row.contextId = contextId ∧ row.finalityStatus = .final := by
    intro receiptId hmem
    obtain ⟨acceptance, hacceptance, hreceipt, hcontext⟩ := h.recorded receiptId hmem
    have hopenedRow : acceptance.settlement ∈ db.settlements.map Settlement.opened := by
      rw [hrecords.settlements]
      exact List.mem_map_of_mem hacceptance
    obtain ⟨settlement, hsettlement, heq⟩ := List.mem_map.mp hopenedRow
    have hsettlementReceipt : settlement.proofReceiptId = receiptId :=
      (congrArg Settlement.proofReceiptId heq).trans hreceipt
    have hsettlementContext : settlement.contextId = contextId :=
      (congrArg Settlement.contextId heq).trans hcontext
    exact ⟨settlement, hsettlement, hsettlementReceipt, hsettlementContext,
      (hfinal settlement hsettlement hsettlementContext).mpr (hsettlementReceipt ▸ hmem)⟩
  have hflatten : (((finalizedReceipts contextId history).map fun receiptId =>
      (true, outputLeaves poseidon3 (db.outputsOf receiptId contextId))).map Prod.snd).flatten =
        db.publishedLeaves poseidon3 contextId (finalizedReceipts contextId history) := by
    rw [List.map_map, Database.publishedLeaves, List.flatMap_def]
    rfl
  have happend := @appendBatches_noteTree poseidon3
    ((finalizedReceipts contextId history).map fun receiptId =>
      (true, outputLeaves poseidon3 (db.outputsOf receiptId contextId))) []
  rw [hflatten, List.nil_append, noteTree_nil] at happend
  constructor
  case once => exact h.distinct
  case final => exact hfinal
  case settled => exact hsettled
  case pairs =>
    intro receiptId hmem
    obtain ⟨acceptance, hacceptance, rfl, rfl⟩ := h.recorded receiptId hmem
    rw [hrecords.outputsOf_of_mem hacceptance]
    rfl
  case current =>
    refine ⟨row, _, hrow, happend ?_ ?_, hsize, hfrontier, congrArg toText hroot⟩
    · intro batch hbatch
      obtain ⟨receiptId, hmem, rfl⟩ := List.mem_map.mp hbatch
      obtain ⟨acceptance, hacceptance, rfl, rfl⟩ := h.recorded receiptId hmem
      exact List.ne_nil_of_length_pos (by rw [length_outputLeaves hrecords hacceptance]; decide)
    · simpa using htree.room
  case size =>
    intro current hcurrent
    rw [hrow, List.mem_singleton] at hcurrent
    rw [hcurrent, hsize, length_publishedLeaves hrecords h.recorded]
    congr 1
    have hperm : (finalizedReceipts contextId history).Perm
        ((db.settlements.filter fun row => row.contextId = contextId && row.finalityStatus = .final).map
          Settlement.proofReceiptId) := by
      rw [List.perm_ext_iff_of_nodup h.distinct
        (hrecords.settlementReceipts.sublist (List.filter_sublist.map _))]
      intro receiptId
      simp only [List.mem_map, List.mem_filter, Bool.and_eq_true, decide_eq_true_eq]
      constructor
      · intro hmem
        obtain ⟨settlement, hsettlement, hreceipt, hcontext, hstatus⟩ := hsettled receiptId hmem
        exact ⟨settlement, ⟨hsettlement, hcontext, hstatus⟩, hreceipt⟩
      · rintro ⟨settlement, ⟨hsettlement, hcontext, hstatus⟩, rfl⟩
        exact (hfinal settlement hsettlement hcontext).mp hstatus
    rw [hperm.length_eq, List.length_map]

end Tree

/-- The chain of a context that no row has used yet. -/
theorem NoteTreeChain.start {db : Database} (hfresh : db.Fresh) {contextId : FieldElement}
    (hunused : db.Unused contextId) : NoteTreeChain poseidon3 contextId [] [] db [] where
  tree := fun hopened => absurd hopened hunused.2
  unopened := fun _ => rfl
  distinct := List.nodup_nil
  recorded := by simp
  final := by simp [hfresh.settlements]
  genesis := by simp
  spentUnder := by simp

/-- From the approval of a context on, in every reachable state: the context had
exactly one genesis, and its tree is that of its FINAL settlements in the order
in which they were finalized. A step changes the tree only by the genesis or by
settling a pending proposal that was made against the CURRENT tree. A proposal that
is withdrawn, by a call or because its base was superseded, is CANCELLED and changes
no root, and a proposal that was decided stays as it is. -/
theorem noteTree_chain (gate : ZkSettlementGate Proof) (db : Database) (hfresh : db.Fresh)
    (contextId : FieldElement) (hunused : db.Unused contextId) (actions : List (Action Proof))
    (happroved : contextId ∈ (run gate db actions).db.contexts.map ProductContext.contextId) :
    (run gate db actions).history.count (.genesis contextId) = 1 ∧
    (run gate db actions).db.TreeOfFinalSettlements gate.poseidon3 contextId
      (finalizedReceipts contextId (run gate db actions).history) ∧
    (∀ action,
      (step gate (run gate db actions) action).db.currentTree contextId ≠
        (run gate db actions).db.currentTree contextId →
      ∃ base, (run gate db actions).db.currentTree contextId = some base ∧
        ∃ proposal ∈ (run gate db actions).db.finalizations, proposal.status = .pending ∧
          proposal.baseMerkleRoot = base.root ∧ proposal.baseTreeSize = base.treeSize ∧
          ∃ approved ∈ (step gate (run gate db actions) action).db.finalizations,
            approved.id = proposal.id ∧ approved.status = .approved) ∧
    (∀ action proposalId, Withdraws gate (run gate db actions).db action proposalId →
      (∃ proposal ∈ (run gate db actions).db.finalizations, proposal.id = proposalId ∧ proposal.status = .pending) ∧
      (∃ proposal ∈ (step gate (run gate db actions) action).db.finalizations,
        proposal.id = proposalId ∧ proposal.status = .cancelled) ∧
      (step gate (run gate db actions) action).db.roots = (run gate db actions).db.roots) ∧
    ((run gate db actions).db.finalizations.map FinalizationProposal.id).Nodup ∧
    ∀ more, ∀ proposal ∈ (run gate db actions).db.finalizations, proposal.status ≠ .pending →
      proposal ∈ (run gate db (actions ++ more)).db.finalizations := by
  have hstart := Sound.start (hfresh.records gate.adapter)
  have hsound := run_sound (hfresh.records gate.adapter) actions
  have hchain := NoteTreeChain.run hstart (NoteTreeChain.start hfresh hunused) actions
  have hopening := OpenedByGenesis.run hstart (Or.inl hunused) actions
  rcases hopening with hstillUnused | ⟨hgenesis, hopened⟩
  · exact absurd happroved hstillUnused.1
  refine ⟨?_, hchain.treeOfFinalSettlements hsound.records hopened, ?_,
    fun _ _ hwithdraws => hwithdraws.cancelled, ?_, ?_⟩
  · have hatLeast := List.count_pos_iff.mpr hgenesis
    have hatMost := hchain.genesis.1
    exact Nat.le_antisymm hatMost hatLeast
  · intro action hne
    obtain ⟨events, hcommit, _⟩ := hsound.commits action
    rcases hcommit.currentTree_ne hne with ⟨hagain, _⟩ | ⟨publication, hpublishes, hcontext, hnext⟩
    · exact absurd hopened hagain.2
    · obtain ⟨hbase, _, _⟩ := verifiedTreeExtension_ok hpublishes.extension
      obtain ⟨proposal, hproposal, hid, _, hpending, hbaseRoot, hbaseSize⟩ := hpublishes.proposal
      refine ⟨publication.extension.base, hcontext ▸ hbase, proposal, hproposal, hpending, hbaseRoot, hbaseSize, ?_⟩
      rw [hnext]
      exact ⟨_, List.mem_map.mpr ⟨proposal, hproposal, if_pos ⟨hid, hpending⟩⟩, rfl, rfl⟩
  · have hkept := proposalsKept_run hstart actions
    apply hkept.ids
    simp [GateState.start, hfresh.finalizations]
  · intro more proposal hproposal hdecided
    have hkept := proposalsKept_run hsound more
    rw [run, runs.run_append]
    exact hkept.decided proposal hproposal hdecided

/-- The inputs of a transfer against the root of the empty tree. -/
def firstInputs : JoinSplitPublicInputs FieldElement := sampleInputs (merkleZeros samplePoseidon3 merkleTreeDepth)

/-- A context is approved, a transfer is accepted under its empty tree and its
outputs are published. -/
def samplePublication : List (Action Unit) :=
  [.proposeParameters "tenant" (.productContext ⟨"product", "1", "7"⟩) "maker" "context",
    .decideParameters ⟨"tenant", "zk-parameters:context", .approve, "launch", "checker"⟩] ++
  sampleAcceptance firstInputs ++
  [.proposeFinalization
      { transactionId := "tx"
        tenantId := "tenant"
        outputMerkleRoot := toText (buildTree samplePoseidon3
          [merkleLeaf samplePoseidon3 200 300, merkleLeaf samplePoseidon3 201 301] merkleTreeDepth).root
        outputTreeSize := some 2
        rootSourceReference := "block 1"
        executionReference := "batch 1"
        proposedBy := "maker" } "proposal",
    .finalize ⟨"tx", "tenant", "checker"⟩ 60]

theorem noteTree_chain_sample :
    (run (sampleGate samplePoseidon3 firstInputs) (sampleDatabase firstInputs [] [])
      samplePublication).db.TreeOfFinalSettlements samplePoseidon3 1 ["zk-proof:tx:uuid"] := by
  have hreceipts : finalizedReceipts 1
      (run (sampleGate samplePoseidon3 firstInputs) (sampleDatabase firstInputs [] []) samplePublication).history =
        ["zk-proof:tx:uuid"] := by
    decide +kernel
  have hchain := noteTree_chain (sampleGate samplePoseidon3 firstInputs) (sampleDatabase firstInputs [] [])
    (sampleDatabase_fresh _ _ _) 1 (by simp [Database.Unused, sampleDatabase]) samplePublication (by decide +kernel)
  rw [hreceipts] at hchain
  exact hchain.2.1

end rwa.gate
