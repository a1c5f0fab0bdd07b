import RwaControlPlane.Durable.HoldingLimit

open checked keyed_rows
open rwa.gate (TransactionType TransactionState)
open rwa.control_plane (toBigInt)
open rwa.storage (TransactionIntent StateChange)

namespace rwa.durable

variable {service : DurableWorkflowService} {db next : Database} {now : Int}

/-- The entries of a transaction. -/
def transactionEntries (batches : List Batch) (transactionId : String) : List Entry :=
  (batches.filter (·.transactionId = some transactionId)).flatMap (·.entries)

/-- What a transaction was settled at. -/
structure SettledValues where
  units : Int
  cashAmount : Int
  feeAmount : Int
deriving DecidableEq

/-- The second entry of the register credits the units. In the ledger the payer comes
first and the payee second, and what the payer pays beside is the fee. -/
def valuesOf : List Entry → List Entry → Option SettledValues
  | [_, credited], payer :: payee :: _ =>
    some
      { units := credited.signedDelta, cashAmount := payee.signedDelta
        feeAmount := -payer.signedDelta - payee.signedDelta }
  | _, _ => none

/-- The values that a transaction was settled at. -/
def Database.settledValues (db : Database) (transactionId : String) : Option SettledValues :=
  valuesOf (transactionEntries db.registerBatches transactionId) (transactionEntries db.ledgerBatches transactionId)

section Entries

variable {batches : List Batch} {batch : Batch} {transactionId : String}

theorem transactionEntries_append_of_other {more : List Batch}
    (h : ∀ batch ∈ more, batch.transactionId ≠ some transactionId) :
    transactionEntries (batches ++ more) transactionId = transactionEntries batches transactionId := by
  have hnone : more.filter (fun batch => decide (batch.transactionId = some transactionId)) = [] := by
    rw [List.filter_eq_nil_iff]
    exact fun batch hbatch => by simpa using h batch hbatch
  rw [transactionEntries, List.filter_append, hnone, List.append_nil]
  rfl

/-- The first batch of a transaction holds its entries. -/
theorem transactionEntries_concat_of_first (h : ∀ other ∈ batches, other.transactionId ≠ some transactionId)
    (hbatch : batch.transactionId = some transactionId) :
    transactionEntries (batches ++ [batch]) transactionId = batch.entries := by
  have hnone : batches.filter (fun batch => decide (batch.transactionId = some transactionId)) = [] := by
    rw [List.filter_eq_nil_iff]
    exact fun other hother => by simpa using h other hother
  rw [transactionEntries, List.filter_append, hnone, List.nil_append, List.filter_cons_of_pos (by simpa using hbatch)]
  simp

end Entries

section Plans

variable {product : Product} {request : Request} {units navPrice : Int} {plan : SettlementPlan} {fee : Int}

/-- The fee of a request, which only a transfer has. -/
def feeOf (type : TransactionType) (request : Request) : Except Failure Int :=
  if type = .transfer then toBigInt ((request.get "fee").getD "0") else pure 0

/-- The commitment to a transaction is to the values of its plan. -/
theorem economicCommitment_ok {committer : EconomicCommitter} {type : TransactionType} {transactionId : String}
    {commitment : EconomicCommitment}
    (h : economicCommitment committer type transactionId product request plan = .ok commitment) :
    ∃ fee, feeOf type request = .ok fee ∧ commitment.transactionId = transactionId ∧
      commitment.keyId = committer.keyId ∧
      committer.commit transactionId product.id "units" plan.units = .ok commitment.unitsCommitment ∧
      committer.commit transactionId product.id "cashAmountMinor" plan.cashAmount =
        .ok commitment.cashAmountCommitment ∧
      committer.commit transactionId product.id "feeAmountMinor" fee = .ok commitment.feeAmountCommitment := by
  have hfeeOf : economicCommitment committer type transactionId product request plan = (do
      let feeAmount ← feeOf type request
      let unitsCommitment ← committer.commit transactionId product.id "units" plan.units
      let cashAmountCommitment ← committer.commit transactionId product.id "cashAmountMinor" plan.cashAmount
      let feeAmountCommitment ← committer.commit transactionId product.id "feeAmountMinor" feeAmount
      pure
        { transactionId, commitmentVersion := committer.version, keyId := committer.keyId
          assetCode := unitAssetOf product.id, currency := product.currency
          unitsCommitment, cashAmountCommitment, feeAmountCommitment }) := by
    unfold economicCommitment feeOf
    split <;> rfl
  rw [hfeeOf] at h
  simp only [bind_eq_ok_iff, pure_eq_ok_iff] at h
  obtain ⟨fee, hfee, units, hunits, cash, hcash, feeText, hfeeText, rfl⟩ := h
  exact ⟨fee, hfee, rfl, rfl, hunits, hcash, hfeeText⟩

/-- The entries of a plan hold its values. -/
theorem plan_values {type : TransactionType}
    (h : durable.plan service db type product request units navPrice now = .ok plan)
    (hfee : feeOf type request = .ok fee) :
    valuesOf plan.registerEntries plan.ledgerEntries = some ⟨plan.units, plan.cashAmount, fee⟩ := by
  cases type with
  | subscribe =>
    obtain rfl := Except.ok.inj hfee
    simp only [durable.plan, planSubscribe, bind_eq_ok_iff, pure_eq_ok_iff] at h
    obtain ⟨_, -, cashAmount, -, _, -, _, -, rfl⟩ := h
    simp [valuesOf, unitEntries]
  | transfer =>
    simp only [durable.plan, planTransfer, bind_eq_ok_iff, pure_eq_ok_iff] at h
    obtain ⟨_, -, _, -, _, -, _, -, price, -, other, hother, _, -, _, -, _, -, _, -, rfl⟩ := h
    obtain rfl : other = fee := Except.ok.inj (hother.symm.trans hfee)
    simp only [valuesOf, unitEntries, List.cons_append]
    congr 2
    omega
  | redeem =>
    obtain rfl := Except.ok.inj hfee
    simp only [durable.plan, planRedeem, bind_eq_ok_iff, pure_eq_ok_iff] at h
    obtain ⟨_, -, _, -, _, -, rfl⟩ := h
    simp [valuesOf, unitEntries]

end Plans

/-- A value of a transaction, with its field. -/
structure CommittedValue where
  tenantId : String
  transactionId : String
  productId : String
  field : String
  value : Int

section Commitments

variable (made : CommittedValue → String → String → Prop)

/-- The committer of a service makes its commitments under the key that it names. -/
def DurableWorkflowService.Makes (service : DurableWorkflowService) : Prop :=
  ∀ committer ∈ service.economicCommitter, ∀ transactionId productId field value text,
    committer.commit transactionId productId field value = .ok text →
      made ⟨service.tenantId, transactionId, productId, field, value⟩ committer.keyId text

/-- A row commits a transaction to its values. -/
structure CommitsTo (row : TransactionIntent) (values : SettledValues) (commitment : EconomicCommitment) : Prop where
  ofTransaction : commitment.transactionId = row.id
  units : made ⟨row.tenantId, row.id, row.productId, "units", values.units⟩ commitment.keyId
    commitment.unitsCommitment
  cashAmount : made ⟨row.tenantId, row.id, row.productId, "cashAmountMinor", values.cashAmount⟩ commitment.keyId
    commitment.cashAmountCommitment
  feeAmount : made ⟨row.tenantId, row.id, row.productId, "feeAmountMinor", values.feeAmount⟩ commitment.keyId
    commitment.feeAmountCommitment

/-- Ledger batches belong to known transactions, and register batches and commitments to
those of the registered rail. A transaction of that rail that is settled has values, and is committed to
them. -/
structure Database.Committed (db : Database) : Prop where
  ids : (db.transactions.intents.map (·.id)).Nodup
  ledger : ∀ batch ∈ db.ledgerBatches, ∀ id ∈ batch.transactionId, id ∈ db.transactions.intents.map (·.id)
  register : ∀ batch ∈ db.registerBatches, ∀ id ∈ batch.transactionId, ∃ row ∈ db.transactions.intents,
    row.id = id ∧ row.settlementRail = .registered
  commitments : ∀ commitment ∈ db.commitments, ∃ row ∈ db.transactions.intents,
    row.id = commitment.transactionId ∧ row.settlementRail = .registered
  settled : ∀ row ∈ db.transactions.intents, row.settlementRail = .registered → row.currentState = .settled →
    ∃ values commitment, db.settledValues row.id = some values ∧
      db.commitments.find? (·.transactionId = row.id) = some commitment ∧ CommitsTo made row values commitment

theorem empty_committed : Database.empty.Committed made :=
  ⟨List.nodup_nil, by simp [Database.empty], by simp [Database.empty], by simp [Database.empty],
    by simp [Database.empty, storage.TransactionTables.empty]⟩

variable {made}

/-- A transaction of the confidential rail has no batches that say what it was settled
at. -/
theorem Database.Committed.settledValues_confidential (h : db.Committed made) {row : TransactionIntent}
    (hrow : row ∈ db.transactions.intents) (hrail : row.settlementRail ≠ .registered) :
    db.settledValues row.id = none := by
  have hnone : db.registerBatches.filter (fun batch => decide (batch.transactionId = some row.id)) = [] := by
    rw [List.filter_eq_nil_iff]
    intro batch hbatch hsame
    obtain ⟨stored, hstored, hid, hregistered⟩ := h.register batch hbatch row.id (of_decide_eq_true hsame)
    obtain rfl := List.inj_on_of_nodup_map h.ids hstored hrow hid
    exact hrail hregistered
  rw [Database.settledValues, transactionEntries, hnone]
  rfl

theorem CommitsTo.withState {row : TransactionIntent} {values : SettledValues} {commitment : EconomicCommitment}
    (h : CommitsTo made row values commitment) {currentState : TransactionState} :
    CommitsTo made { row with currentState } values commitment :=
  ⟨h.ofTransaction, h.units, h.cashAmount, h.feeAmount⟩

/-- The commitments of a settlement are to the values of its plan. -/
private theorem commitmentAdded_values (hmakes : service.Makes made) {type : TransactionType} {request : Request}
    {product : Product} {nav : Evidence} {plan : SettlementPlan} {intent : TransactionIntent}
    {commitments : List EconomicCommitment} (hchecked : Checked service db type request now product nav plan)
    (hintended : Intended service type request product nav intent)
    (h : CommitmentAdded service type request product plan intent.id db.commitments commitments) :
    ∃ values commitment, valuesOf plan.registerEntries plan.ledgerEntries = some values ∧
      commitments = db.commitments ++ [commitment] ∧ CommitsTo made intent values commitment := by
  obtain ⟨committer, commitment, hcommitter, hcommitment, rfl⟩ := h
  obtain ⟨fee, hfee, hid, hkey, hunits, hcash, hfeeText⟩ := economicCommitment_ok hcommitment
  obtain ⟨_, _, -, -, -, hplan⟩ := hchecked.planned
  have hmade := hmakes committer hcommitter intent.id product.id
  rw [← hintended.tenant, ← hkey] at hmade
  refine ⟨_, commitment, plan_values hplan hfee, rfl, hid, ?_, ?_, ?_⟩ <;> rw [hintended.ofProduct]
  · exact hmade _ _ _ hunits
  · exact hmade _ _ _ hcash
  · exact hmade _ _ _ hfeeText

section Kept

/-- What leaves transactions and commitments as they are, and opens balances at
most. -/
theorem Database.Committed.of_opened (h : db.Committed made)
    (hintents : next.transactions.intents = db.transactions.intents)
    (hcommitments : next.commitments = db.commitments) (hregister : next.registerBatches = db.registerBatches)
    (hledger : ∃ opened, next.ledgerBatches = db.ledgerBatches ++ opened ∧
      ∀ batch ∈ opened, batch.transactionId = none) :
    next.Committed made := by
  obtain ⟨opened, hopened, hnone⟩ := hledger
  refine ⟨?_, ?_, ?_, ?_, ?_⟩
  · rw [hintents]
    exact h.ids
  · rw [hopened, hintents]
    refine List.forall_mem_append.mpr ⟨h.ledger, fun batch hbatch id hid => ?_⟩
    rw [hnone batch hbatch] at hid
    cases hid
  · rw [hregister, hintents]
    exact h.register
  · rw [hcommitments, hintents]
    exact h.commitments
  · rw [hintents]
    intro row hrow hrail hstate
    obtain ⟨values, commitment, hvalues, hfound, hcommits⟩ := h.settled row hrow hrail hstate
    refine ⟨values, commitment, ?_, by rw [hcommitments]; exact hfound, hcommits⟩
    rw [Database.settledValues, hregister, hopened, transactionEntries_append_of_other]
    · exact hvalues
    · intro batch hbatch
      rw [hnone batch hbatch]
      exact nofun

/-- A state that is not the settled one. -/
theorem Database.Committed.moved (h : db.Committed made) {transactionId : String} {change : StateChange}
    (hstate : change.toState ≠ .settled) :
    (db.moved transactionId change).Committed made := by
  have hids : (db.moved transactionId change).transactions.intents.map (·.id) = db.transactions.intents.map (·.id) := by
    rw [Database.moved, storage.moved_ids]
  refine ⟨?_, ?_, ?_, ?_, ?_⟩
  · rw [hids]
    exact h.ids
  · rw [hids]
    exact h.ledger
  · intro batch hbatch id hbatchId
    obtain ⟨row, hrow, hid, hrail⟩ := h.register batch hbatch id hbatchId
    refine ⟨_, List.mem_map_of_mem hrow, ?_⟩
    split <;> exact ⟨hid, hrail⟩
  · intro commitment hcommitment
    obtain ⟨row, hrow, hid, hrail⟩ := h.commitments commitment hcommitment
    refine ⟨_, List.mem_map_of_mem hrow, ?_⟩
    split <;> exact ⟨hid, hrail⟩
  · intro row hrow hrail hsettled
    obtain ⟨stored, hstored, rfl⟩ := List.mem_map.mp hrow
    split at hrail
    · next hmoved =>
      rw [if_pos hmoved] at hsettled
      exact absurd hsettled hstate
    · next hkept =>
      rw [if_neg hkept] at hsettled ⊢
      exact h.settled stored hstored hrail hsettled

/-- The invariant reads neither cases nor approvals. -/
theorem Database.Committed.updateCase (h : db.Committed made) {caseId : String} 
    {change : ExceptionCase → ExceptionCase} : (db.updateCase caseId change).Committed made :=
  ⟨h.ids, h.ledger, h.register, h.commitments, h.settled⟩

theorem Database.Committed.record (h : db.Committed made) {approvals : List ApprovalRecord} :
    ({ db with approvals } : Database).Committed made :=
  ⟨h.ids, h.ledger, h.register, h.commitments, h.settled⟩

/-- One more transaction that is committed to, in a state that is not the settled one
or with its batches. -/
private theorem Database.Committed.create (h : db.Committed made) {row : TransactionIntent}
    {values : SettledValues} {commitment : EconomicCommitment}
    (hcreated : Created db.transactions row next.transactions) (hrail : row.settlementRail = .registered)
    (hcommitments : next.commitments = db.commitments ++ [commitment]) (hcommits : CommitsTo made row values commitment)
    {ledger register : List Batch} (hledger : next.ledgerBatches = db.ledgerBatches ++ ledger)
    (hregister : next.registerBatches = db.registerBatches ++ register)
    (hbatches : ∀ batch ∈ ledger ++ register, batch.transactionId = some row.id)
    (hvalues : row.currentState = .settled → next.settledValues row.id = some values) : next.Committed made := by
  have hids : next.transactions.intents.map (·.id) = db.transactions.intents.map (·.id) ++ [row.id] := by
    rw [hcreated.intents, List.map_append]
    rfl
  refine ⟨hcreated.nodup h.ids, ?_, ?_, ?_, ?_⟩
  · rw [hledger, hids]
    refine List.forall_mem_append.mpr
      ⟨fun batch hbatch id hid => List.mem_append_left _ (h.ledger batch hbatch id hid), fun batch hbatch id hid => ?_⟩
    rw [hbatches batch (List.mem_append_left _ hbatch)] at hid
    obtain rfl := Option.mem_some_iff.mp hid
    simp
  · rw [hregister, hcreated.intents]
    refine List.forall_mem_append.mpr ⟨fun batch hbatch id hid => ?_, fun batch hbatch id hid => ?_⟩
    · obtain ⟨stored, hstored, hsame, hregistered⟩ := h.register batch hbatch id hid
      exact ⟨stored, List.mem_append_left _ hstored, hsame, hregistered⟩
    · rw [hbatches batch (List.mem_append_right _ hbatch)] at hid
      obtain rfl := Option.mem_some_iff.mp hid
      exact ⟨row, by simp, rfl, hrail⟩
  · rw [hcommitments, hcreated.intents]
    refine List.forall_mem_append.mpr ⟨fun other hother => ?_, ?_⟩
    · obtain ⟨stored, hstored, hid, hregistered⟩ := h.commitments other hother
      exact ⟨stored, List.mem_append_left _ hstored, hid, hregistered⟩
    · intro other hother
      obtain rfl := List.mem_singleton.mp hother
      exact ⟨row, by simp, hcommits.ofTransaction.symm, hrail⟩
  · rw [hcreated.intents]
    intro stored hstored hstoredRail hstate
    rcases List.mem_append.mp hstored with hold | hnew
    · -- what is new belongs to another transaction
      have hne : row.id ≠ stored.id := fun heq => hcreated.fresh (heq ▸ List.mem_map_of_mem hold)
      obtain ⟨kept, found, hkept, hfound, hto⟩ := h.settled stored hold hstoredRail hstate
      refine ⟨kept, found, ?_, ?_, hto⟩
      · have hother : ∀ batch ∈ ledger ++ register, batch.transactionId ≠ some stored.id := by
          intro batch hbatch heq
          rw [hbatches batch hbatch] at heq
          exact hne (Option.some.inj heq)
        rw [Database.settledValues, hregister, hledger,
          transactionEntries_append_of_other fun batch hbatch => hother batch (List.mem_append_right _ hbatch),
          transactionEntries_append_of_other fun batch hbatch => hother batch (List.mem_append_left _ hbatch)]
        exact hkept
      · rw [hcommitments, List.find?_append, hfound, Option.some_or]
    · obtain rfl := List.mem_singleton.mp hnew
      refine ⟨values, commitment, hvalues hstate, ?_, hcommits⟩
      have habsent : db.commitments.find? (fun other => decide (other.transactionId = stored.id)) = none := by
        rw [List.find?_eq_none]
        intro other hother heq
        obtain ⟨known, hknownRow, hid, -⟩ := h.commitments other hother
        have hsame : other.transactionId = stored.id := by simpa using heq
        exact hcreated.fresh (hsame ▸ hid ▸ List.mem_map_of_mem hknownRow)
      rw [hcommitments, List.find?_append, habsent, Option.none_or]
      simp [hcommits.ofTransaction]

theorem SettlementEnds.committed {type : TransactionType} {request : Request} {registerFailure : Bool}
    {receipt : Receipt} (hmakes : service.Makes made)
    (h : SettlementEnds service db type request registerFailure now receipt next) (hdb : db.Committed made) :
    next.Committed made := by
  cases h with
  | replayed => exact hdb
  | failed failure unused checked intended created newReceipt newCase committed =>
    obtain ⟨values, commitment, -, hadded, hcommits⟩ := commitmentAdded_values hmakes checked intended committed
    exact hdb.create created intended.rail hadded hcommits.withState (List.append_nil _).symm (List.append_nil _).symm
      (by simp) nofun
  | posted success unused checked intended created newReceipt ledger register committed =>
    obtain ⟨values, commitment, hvalues, hadded, hcommits⟩ := commitmentAdded_values hmakes checked intended committed
    refine hdb.create created intended.rail hadded hcommits.withState rfl rfl (by simp) fun _ => ?_
    have hledger : ∀ batch ∈ db.ledgerBatches, batch.transactionId ≠ some _ := fun batch hbatch heq =>
      created.fresh (hdb.ledger batch hbatch _ heq)
    have hregister : ∀ batch ∈ db.registerBatches, batch.transactionId ≠ some _ := fun batch hbatch heq => by
      obtain ⟨stored, hstored, hid, -⟩ := hdb.register batch hbatch _ heq
      exact created.fresh (List.mem_map.mpr ⟨stored, hstored, hid⟩)
    rw [Database.settledValues, transactionEntries_concat_of_first hregister rfl,
      transactionEntries_concat_of_first hledger rfl]
    exact hvalues

theorem step_committed (hmakes : service.Makes made) (h : db.Committed made) (action : Action) :
    (step service db action).Committed made := by
  obtain ⟨now, call⟩ := action
  unfold step
  obtain ⟨failure, hfailed⟩ | ⟨reply, next, hok, hends⟩ := @respond_cases service db h.ids ⟨now, call⟩
  · rw [hfailed]
    exact h
  · rw [hok]
    cases hends with
    | bootstrapped loaded =>
      have hloaded := bootstrap_loaded loaded
      exact h.of_opened (by rw [hloaded.transactions]) hloaded.commitments hloaded.registerBatches hloaded.ledgerBatches
    | statusSet => exact ⟨h.ids, h.ledger, h.register, h.commitments, h.settled⟩
    | restricted => exact ⟨h.ids, h.ledger, h.register, h.commitments, h.settled⟩
    | settled ends => exact ends.committed hmakes h
    | proposed => exact h.record.updateCase.moved (by simp)
    | approved ends =>
      cases ends with
      | rejected => exact (h.record.moved (by simp)).updateCase
      | cancelled => exact (h.record.moved (by simp)).updateCase
      | blocked => exact (h.record.moved (by simp)).updateCase
      | retried _ _ _ _ _ settlement => exact ((settlement.committed hmakes h.record).moved (by simp)).updateCase

end Kept

end Commitments

end rwa.durable
