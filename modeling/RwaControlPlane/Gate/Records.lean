import RwaControlPlane.Gate.Commit

open checked keyed_rows rwa.security rwa.merkle

namespace rwa.gate

variable {Proof : Type}

/-- The acceptance that an event commits. -/
def Event.acceptance? : Event → Option Acceptance
  | .accepted acceptance => some acceptance
  | _ => none

/-- The accepted proofs of a history. -/
def acceptances (history : List Event) : List Acceptance :=
  history.filterMap Event.acceptance?

@[simp] theorem acceptances_append {history events : List Event} :
    acceptances (history ++ events) = acceptances history ++ acceptances events :=
  List.filterMap_append

@[simp] theorem acceptances_nil : acceptances [] = [] := rfl

@[simp] theorem acceptances_accepted {acceptance : Acceptance} :
    acceptances [.accepted acceptance] = [acceptance] := rfl

@[simp] theorem acceptances_finalized {contextId : FieldElement} {receiptId : String} :
    acceptances [.finalized contextId receiptId] = [] := rfl

@[simp] theorem acceptances_genesis {contextId : FieldElement} : acceptances [.genesis contextId] = [] := rfl

theorem mem_acceptances {history : List Event} {acceptance : Acceptance} :
    acceptance ∈ acceptances history ↔ .accepted acceptance ∈ history := by
  simp only [acceptances, List.mem_filterMap]
  constructor
  · rintro ⟨event, hevent, heq⟩
    cases event with
    | accepted other => exact Option.some.inj heq ▸ hevent
    | genesis => cases heq
    | finalized => cases heq
  · exact fun h => ⟨_, h, rfl⟩

/-- The verifier accepted a package for the frozen inputs and returned this
verification. -/
def Verified (adapter : Groth16JoinSplitProofAdapter Proof) (inputs : JoinSplitPublicInputs FieldElement)
    (verification : Verification) : Prop :=
  ∃ package publicSignals, verifyJoinSplit adapter (some package) publicSignals inputs = .ok verification

/-- A settlement without its finality columns. -/
def Settlement.opened (row : Settlement) : Settlement := { row with finality := none }

@[simp] theorem Acceptance.opened_settlement {acceptance : Acceptance} :
    acceptance.settlement.opened = acceptance.settlement := rfl

/-- The states behind a recorded acceptance. -/
def TransactionState.Recorded (state : TransactionState) : Prop := state = .rootPending ∨ state = .settled

/-- The tables hold exactly the rows of the accepted proofs: every row belongs
to an acceptance, and every acceptance has its rows, the verified authorization
whose frozen inputs it used, and the server-owned rows that it was checked
against. -/
structure Records (adapter : Groth16JoinSplitProofAdapter Proof) (db : Database) (accepted : List Acceptance) :
    Prop where
  receipts : db.receipts = accepted.map Acceptance.receipt
  nullifiers : db.nullifiers = accepted.flatMap Acceptance.nullifiers
  outputs : db.outputs = accepted.flatMap Acceptance.outputs
  settlements : db.settlements.map Settlement.opened = accepted.map Acceptance.settlement
  receiptIds : (accepted.map Acceptance.receiptId).Nodup
  transactionIds : (accepted.map Acceptance.transactionId).Nodup
  nullifierKeys : (db.nullifiers.map nullifierKey).Nodup
  outputKeys : (db.outputs.map outputKey).Nodup
  transactionRows : (db.transactions.map TransactionIntent.id).Nodup
  authorizationRows : (db.authorizations.map Authorization.transactionId).Nodup
  recorded : ∀ row ∈ db.transactions, row.settlementRail = .confidentialNote →
    (row.currentState.Recorded ↔ row.id ∈ accepted.map Acceptance.transactionId)
  transaction : ∀ acceptance ∈ accepted, ∃ row ∈ db.transactions, row.id = acceptance.transactionId ∧
    row.tenantId = acceptance.tenantId ∧ row.productId = acceptance.productId ∧
    row.settlementRail = .confidentialNote
  authorization : ∀ acceptance ∈ accepted, ∃ row ∈ db.authorizations,
    row.transactionId = acceptance.transactionId ∧ row.tenantId = acceptance.tenantId ∧
    row.publicInputs = acceptance.inputs ∧ row.proofReceiptId = some acceptance.receiptId
  consumed : ∀ row ∈ db.authorizations, row.proofReceiptId ≠ none →
    row.transactionId ∈ accepted.map Acceptance.transactionId
  context : ∀ acceptance ∈ accepted, ∃ row ∈ db.contexts, row.productId = acceptance.productId ∧
    row.circuitId = acceptance.verification.circuitId ∧
    row.circuitVersion = acceptance.verification.circuitVersion ∧
    row.contextId = acceptance.inputs.contextId ∧ row.assetType = acceptance.inputs.assetType
  instruction : ∀ acceptance ∈ accepted, ∃ row ∈ db.instructions, row.transactionId = acceptance.transactionId ∧
    row.fee = acceptance.inputs.fee ∧ row.recipient = acceptance.inputs.recipient ∧
    row.relayer = acceptance.inputs.relayer
  root : ∀ acceptance ∈ accepted, ∃ row ∈ db.roots, row.contextId = acceptance.inputs.contextId ∧
    row.merkleRoot = acceptance.inputs.merkleRoot
  verified : ∀ acceptance ∈ accepted, Verified adapter acceptance.inputs acceptance.verification

/-- An accept call in flight was read from an authorization that is still in
place, and its verification is one that the verifier returned. -/
def CallsSound (adapter : Groth16JoinSplitProofAdapter Proof) (db : Database) (calls : List (AcceptCall Proof)) :
    Prop :=
  ∀ call ∈ calls,
    (∃ row ∈ db.authorizations, row.transactionId = call.request.transactionId ∧
      row.tenantId = call.request.tenantId ∧ row.publicInputs = call.expectedPublicInputs) ∧
    ∀ verification, call.verification = some verification →
      Verified adapter call.expectedPublicInputs verification

section Rows

variable {db : Database} {transactionId : String} {toState : TransactionState}

theorem map_id_setState : (db.setState transactionId toState).transactions.map TransactionIntent.id =
    db.transactions.map TransactionIntent.id := by
  simp only [Database.setState, List.map_map]
  refine List.map_congr_left fun row _ => ?_
  simp only [Function.comp_apply]
  split <;> rfl

theorem mem_setState {row : TransactionIntent} (h : row ∈ (db.setState transactionId toState).transactions) :
    ∃ old ∈ db.transactions, old.id = row.id ∧ old.settlementRail = row.settlementRail ∧
      (old.id = transactionId ∧ row.currentState = toState ∨
        old.id ≠ transactionId ∧ row.currentState = old.currentState) := by
  simp only [Database.setState, List.mem_map] at h
  obtain ⟨old, hold, rfl⟩ := h
  refine ⟨old, hold, ?_⟩
  split
  · next hid => exact ⟨rfl, rfl, Or.inl ⟨hid, rfl⟩⟩
  · next hid => exact ⟨rfl, rfl, Or.inr ⟨hid, rfl⟩⟩

/-- A transaction keeps everything but its state. -/
private theorem transaction_setState {acceptance : Acceptance}
    (h : ∃ row ∈ db.transactions, row.id = acceptance.transactionId ∧ row.tenantId = acceptance.tenantId ∧
      row.productId = acceptance.productId ∧ row.settlementRail = .confidentialNote) :
    ∃ row ∈ (db.setState transactionId toState).transactions, row.id = acceptance.transactionId ∧
      row.tenantId = acceptance.tenantId ∧ row.productId = acceptance.productId ∧
      row.settlementRail = .confidentialNote :=
  exists_mem_map _ h fun row hrow => by split <;> exact hrow

end Rows

namespace Records

variable {gate : ZkSettlementGate Proof} {adapter : Groth16JoinSplitProofAdapter Proof} {db : Database}
  {accepted : List Acceptance}

/-- The settlement of an acceptance is the only one of its transaction. -/
theorem settlement_of_mem (h : Records adapter db accepted) {row : Settlement} (hrow : row ∈ db.settlements) :
    ∃ acceptance ∈ accepted, row.opened = acceptance.settlement := by
  have hopened : row.opened ∈ db.settlements.map Settlement.opened := List.mem_map_of_mem hrow
  rw [h.settlements, List.mem_map] at hopened
  obtain ⟨acceptance, hmem, heq⟩ := hopened
  exact ⟨acceptance, hmem, heq.symm⟩

/-- An acceptance is known by its transaction. -/
theorem eq_of_transactionId (h : Records adapter db accepted) {first second : Acceptance} (hfirst : first ∈ accepted)
    (hsecond : second ∈ accepted) (heq : first.transactionId = second.transactionId) : first = second :=
  List.inj_on_of_nodup_map h.transactionIds hfirst hsecond heq

/-- An acceptance is known by its receipt. -/
theorem eq_of_receiptId (h : Records adapter db accepted) {first second : Acceptance} (hfirst : first ∈ accepted)
    (hsecond : second ∈ accepted) (heq : first.receiptId = second.receiptId) : first = second :=
  List.inj_on_of_nodup_map h.receiptIds hfirst hsecond heq

private theorem authorize (h : Records adapter db accepted) {row : Authorization}
    (hfresh : row.transactionId ∉ db.authorizations.map Authorization.transactionId)
    (hpending : row.proofReceiptId = none) :
    Records adapter { db with authorizations := db.authorizations ++ [row] } accepted :=
  { h with
    authorizationRows := by
      simpa [List.nodup_append] using ⟨h.authorizationRows, fun other hother heq =>
        hfresh (heq ▸ List.mem_map_of_mem hother)⟩
    authorization := fun acceptance hacceptance => exists_mem_append (h.authorization acceptance hacceptance)
    consumed := by
      intro other hother hproof
      rw [List.mem_append, List.mem_singleton] at hother
      rcases hother with hold | rfl
      · exact h.consumed other hold hproof
      · exact absurd hpending hproof }

/-- The transaction of an admitted proof has not been accepted before. -/
private theorem transactionId_fresh (h : Records adapter db accepted) {acceptance : Acceptance}
    (hadmits : db.Admits acceptance) : acceptance.transactionId ∉ accepted.map Acceptance.transactionId := by
  have hfresh := hadmits.receipt_transaction
  rw [h.receipts, List.map_map] at hfresh
  exact hfresh

private theorem receiptId_fresh (h : Records adapter db accepted) {acceptance : Acceptance}
    (hadmits : db.Admits acceptance) : acceptance.receiptId ∉ accepted.map Acceptance.receiptId := by
  have hfresh := hadmits.receipt_id
  rw [h.receipts, List.map_map] at hfresh
  exact hfresh

/-- The authorizations after an acceptance has named its receipt. -/
private theorem authorizationRows_record {acceptance : Acceptance} :
    (db.record acceptance).authorizations.map Authorization.transactionId =
      db.authorizations.map Authorization.transactionId := by
  simp only [Database.record, List.map_map]
  refine List.map_congr_left fun row _ => ?_
  simp only [Function.comp_apply]
  split <;> rfl

/-- Recording an admitted acceptance appends it to the accepted proofs. -/
private theorem record (h : Records adapter db accepted) {acceptance : Acceptance} (hadmits : db.Admits acceptance)
    (hfrozen : ∃ row ∈ db.authorizations, row.transactionId = acceptance.transactionId ∧
      row.tenantId = acceptance.tenantId ∧ row.publicInputs = acceptance.inputs)
    (hverified : Verified adapter acceptance.inputs acceptance.verification) :
    Records adapter (db.record acceptance) (accepted ++ [acceptance]) := by
  have htransaction := h.transactionId_fresh hadmits
  constructor
  case receipts => simp [Database.record, h.receipts]
  case nullifiers => simp [Database.record, h.nullifiers]
  case outputs => simp [Database.record, h.outputs]
  case settlements => simp [Database.record, h.settlements]
  case receiptIds => exact nodup_concat h.receiptIds (h.receiptId_fresh hadmits)
  case transactionIds => exact nodup_concat h.transactionIds htransaction
  case nullifierKeys => exact hadmits.nullifiers h.nullifierKeys
  case outputKeys => exact hadmits.outputs h.outputKeys
  case transactionRows => exact map_id_setState.symm ▸ h.transactionRows
  case authorizationRows => exact authorizationRows_record.symm ▸ h.authorizationRows
  case recorded =>
    intro row hrow hrail
    obtain ⟨old, hold, hid, holdRail, ⟨htarget, hstate⟩ | ⟨hother, hstate⟩⟩ := mem_setState hrow
    · simp [hstate, ← hid, htarget, TransactionState.Recorded]
    · rw [hstate, h.recorded old hold (holdRail.trans hrail), hid, List.map_append, List.mem_append]
      have hne : row.id ≠ acceptance.transactionId := hid ▸ hother
      simp [hne]
  case transaction =>
    intro other hother
    refine transaction_setState ?_
    rcases List.mem_append.mp hother with hold | hnew
    · exact h.transaction other hold
    · obtain rfl := List.mem_singleton.mp hnew
      obtain ⟨row, hrow, hid, htenant, hproduct, _, hrail⟩ := hadmits.transaction
      exact ⟨row, hrow, hid, htenant, hproduct, hrail⟩
  case authorization =>
    intro other hother
    rcases List.mem_append.mp hother with hold | hnew
    · obtain ⟨row, hrow, hid, hrest⟩ := h.authorization other hold
      have hne : row.transactionId ≠ acceptance.transactionId := by
        intro heq
        exact htransaction (heq ▸ hid ▸ List.mem_map_of_mem hold)
      refine ⟨row, List.mem_map.mpr ⟨row, hrow, by rw [if_neg hne]⟩, hid, hrest⟩
    · obtain rfl := List.mem_singleton.mp hnew
      obtain ⟨row, hrow, hid, htenant, hinputs⟩ := hfrozen
      refine ⟨_, List.mem_map.mpr ⟨row, hrow, rfl⟩, ?_⟩
      rw [if_pos hid]
      exact ⟨hid, htenant, hinputs, rfl⟩
  case consumed =>
    intro row hrow hproof
    simp only [Database.record, List.mem_map] at hrow
    obtain ⟨old, hold, rfl⟩ := hrow
    rw [List.map_append, List.mem_append]
    by_cases hid : old.transactionId = acceptance.transactionId
    · right
      simp [hid]
    · rw [if_neg hid] at hproof ⊢
      exact Or.inl (h.consumed old hold hproof)
  case context => exact List.forall_mem_append.mpr ⟨h.context, List.forall_mem_singleton.mpr hadmits.context⟩
  case instruction =>
    exact List.forall_mem_append.mpr ⟨h.instruction, List.forall_mem_singleton.mpr hadmits.instruction⟩
  case root => exact List.forall_mem_append.mpr ⟨h.root, List.forall_mem_singleton.mpr hadmits.root⟩
  case verified => exact List.forall_mem_append.mpr ⟨h.verified, List.forall_mem_singleton.mpr hverified⟩

/-- A publication settles a transaction that was recorded before. -/
private theorem publish (h : Records adapter db accepted) {publication : Publication}
    {poseidon3 : FieldElement → FieldElement → FieldElement → FieldElement}
    (hpublishes : db.Publishes poseidon3 publication) : Records adapter (db.publish publication) accepted :=
  { h with
    settlements := by
      rw [← h.settlements, Database.publish, List.map_map]
      refine List.map_congr_left fun row _ => ?_
      simp only [Function.comp_apply]
      split <;> rfl
    transactionRows := map_id_setState.symm ▸ h.transactionRows
    recorded := by
      intro row hrow hrail
      obtain ⟨old, hold, hid, holdRail, ⟨htarget, hstate⟩ | ⟨_, hstate⟩⟩ := mem_setState hrow
      · obtain ⟨pending, hpending, hpendingId, hpendingState, _⟩ := hpublishes.transaction
        obtain rfl : old = pending :=
          List.inj_on_of_nodup_map h.transactionRows hold hpending (htarget.trans hpendingId.symm)
        have haccepted := (h.recorded old hold (holdRail.trans hrail)).mp (Or.inl hpendingState)
        exact iff_of_true (Or.inr hstate) (hid ▸ haccepted)
      · rw [hstate, h.recorded old hold (holdRail.trans hrail), hid]
    transaction := fun acceptance hacceptance => transaction_setState (h.transaction acceptance hacceptance)
    root := by
      intro acceptance hacceptance
      refine exists_mem_append (exists_mem_map _ (h.root acceptance hacceptance) fun row hrow => ?_)
      split <;> exact hrow }

private theorem insertTransaction (h : Records adapter db accepted) {transaction : TransactionIntent}
    {instructions : List ExecutionInstruction}
    (howned : gateOwned transaction.settlementRail transaction.currentState = false)
    (hfresh : transaction.id ∉ db.transactions.map TransactionIntent.id) :
    Records adapter
      { db with
        transactions := db.transactions ++ [transaction]
        instructions := db.instructions ++ instructions } accepted :=
  { h with
    transactionRows := nodup_concat h.transactionRows hfresh
    recorded := by
      intro row hrow hrail
      rcases List.mem_append.mp hrow with hold | hnew
      · exact h.recorded row hold hrail
      · obtain rfl := List.mem_singleton.mp hnew
        refine iff_of_false ?_ ?_
        · simpa [gateOwned, hrail, TransactionState.Recorded] using howned
        · rw [List.mem_map]
          rintro ⟨acceptance, hacceptance, hid⟩
          obtain ⟨other, hother, hotherId, _⟩ := h.transaction acceptance hacceptance
          exact hfresh (List.mem_map.mpr ⟨other, hother, hotherId.trans hid⟩)
    transaction := fun acceptance hacceptance => exists_mem_append (h.transaction acceptance hacceptance)
    instruction := fun acceptance hacceptance => exists_mem_append (h.instruction acceptance hacceptance) }

private theorem transition (h : Records adapter db accepted) {transactionId : String} {toState : TransactionState}
    (howned : ∀ row ∈ db.transactions, row.id = transactionId →
      row.settlementRail = .confidentialNote → row.currentState ≠ .rootPending ∧ row.currentState ≠ .settled ∧
        toState ≠ .rootPending ∧ toState ≠ .settled) :
    Records adapter (db.setState transactionId toState) accepted :=
  { h with
    transactionRows := map_id_setState.symm ▸ h.transactionRows
    recorded := by
      intro row hrow hrail
      obtain ⟨old, hold, hid, holdRail, ⟨htarget, hstate⟩ | ⟨_, hstate⟩⟩ := mem_setState hrow
      · obtain ⟨hpending, hsettled, htoPending, htoSettled⟩ := howned old hold htarget (holdRail.trans hrail)
        rw [← hid, ← h.recorded old hold (holdRail.trans hrail), hstate]
        exact iff_of_false (not_or.mpr ⟨htoPending, htoSettled⟩) (not_or.mpr ⟨hpending, hsettled⟩)
      · rw [hstate, h.recorded old hold (holdRail.trans hrail), hid]
    transaction := fun acceptance hacceptance => transaction_setState (h.transaction acceptance hacceptance) }

/-- Every change keeps the tables the record of the accepted proofs. -/
theorem commit (h : Records gate.adapter db accepted) {calls : List (AcceptCall Proof)}
    (hcalls : CallsSound gate.adapter db calls) {next : Database} {events : List Event}
    (hcommit : Commit gate calls db next events) : Records gate.adapter next (accepted ++ acceptances events) := by
  cases hcommit with
  | idle => simpa using h
  | authorize row hfresh hpending => simpa using h.authorize hfresh hpending
  | record acceptance call hcall htransaction htenant hinputs hverification hadmits =>
    obtain ⟨hrow, hverified⟩ := hcalls call hcall
    refine h.record hadmits ?_ ?_
    · rwa [htransaction, htenant, hinputs]
    · rw [hinputs]
      exact hverified _ hverification
  | propose finalizations => simpa using { h with }
  | publish publication hpublishes => simpa using h.publish hpublishes
  | genesis context sourceReference parameterProposals hunused =>
    rw [acceptances_genesis, List.append_nil]
    exact
      { h with
        context := fun acceptance hacceptance => exists_mem_append (h.context acceptance hacceptance)
        root := fun acceptance hacceptance => exists_mem_append (h.root acceptance hacceptance) }
  | configure reference parameterProposals => simpa using { h with }
  | insertTransaction transaction instructions howned hfresh => simpa using h.insertTransaction howned hfresh
  | transition transactionId toState howned => simpa using h.transition howned
  | retireContext contextId =>
    rw [acceptances_nil, List.append_nil]
    refine { h with context := fun acceptance hacceptance => exists_mem_map _ (h.context acceptance hacceptance) ?_ }
    intro row hrow
    unfold setRetired
    split <;> exact hrow
  | revokeRoot contextId merkleRoot =>
    rw [acceptances_nil, List.append_nil]
    refine { h with root := fun acceptance hacceptance => exists_mem_map _ (h.root acceptance hacceptance) ?_ }
    intro row hrow
    unfold setRevoked
    split <;> exact hrow

end Records

end rwa.gate
