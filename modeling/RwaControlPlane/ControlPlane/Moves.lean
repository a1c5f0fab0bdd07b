import RwaControlPlane.ControlPlane.Effects

open attempt js_map js_value

namespace rwa.control_plane

/-- The case that a failed registration opens. -/
def TransferCommand.exceptionCase (command : TransferCommand) (time : String) (plan : TransferPlan) :
    ExceptionCase where
  id := caseIdOf command.id
  productId := command.productId
  transactionId := command.id
  status := .opened
  failureStage := .registerPending
  reasonCode := "REGISTER_TIMEOUT"
  assignedRole := "operations"
  openedAt := time
  resolvedAt := none
  replacementTransactionId := none
  checkedBy := none
  proposal := none
  retryPayload :=
    { productId := command.productId
      sellerId := command.sellerId
      sellerCredentialId := command.sellerCredentialId
      buyerId := command.buyerId
      buyerCredentialId := command.buyerCredentialId
      units := toString plan.units
      pricePerUnit := toString plan.price
      fee := toString plan.fee
      expiresAt := command.expiresAt }

/-- The movements of a subscription. -/
def Tables.subscribed (command : SubscribeCommand) (plan : SubscribePlan) (time : String) (tables : Tables) : Tables :=
  tables.addCash (balanceKey command.investorId plan.product.rules.currency) (-plan.amount)
    |>.addCash (balanceKey plan.product.issuerId plan.product.rules.currency) plan.amount
    |>.setCashSettlement ⟨command.id, command.productId, .confirmed, time⟩
    |>.addAssetBalance (balanceKey command.investorId command.productId) plan.units
    |>.addLegalRegister (balanceKey command.investorId command.productId) plan.units

/-- The movements of a transfer. -/
def Tables.transferred (command : TransferCommand) (plan : TransferPlan) (time : String) (tables : Tables) : Tables :=
  tables.addCash (balanceKey command.buyerId plan.product.rules.currency) (-(plan.consideration + plan.fee))
    |>.addCash (balanceKey command.sellerId plan.product.rules.currency) plan.consideration
    |>.addCash (balanceKey plan.product.issuerId plan.product.rules.currency) plan.fee
    |>.setCashSettlement ⟨command.id, command.productId, .confirmed, time⟩
    |>.addAssetBalance (balanceKey command.sellerId command.productId) (-plan.units)
    |>.addAssetBalance (balanceKey command.buyerId command.productId) plan.units
    |>.addLegalRegister (balanceKey command.sellerId command.productId) (-plan.units)
    |>.addLegalRegister (balanceKey command.buyerId command.productId) plan.units

/-- The movements of a redemption. -/
def Tables.redeemed (command : RedeemCommand) (plan : RedeemPlan) (time : String) (tables : Tables) : Tables :=
  tables.addAssetBalance (balanceKey command.investorId command.productId) (-plan.units)
    |>.addLegalRegister (balanceKey command.investorId command.productId) (-plan.units)
    |>.addCash (balanceKey plan.product.issuerId plan.product.rules.currency) (-plan.cashAmount)
    |>.addCash (balanceKey command.investorId plan.product.rules.currency) plan.cashAmount
    |>.setCashSettlement ⟨command.id, command.productId, .confirmed, time⟩

/-- The reservation of a failed transfer is released. -/
def Tables.released (command : TransferCommand) (time : String) (tables : Tables) : Tables :=
  tables.setCashSettlement ⟨command.id, command.productId, .released, time⟩

/-- Tables that differ at most in balances and cash settlements. -/
structure Tables.SameRecords (first second : Tables) : Prop where
  products : first.products = second.products
  credentials : first.credentials = second.credentials
  evidence : first.evidence = second.evidence
  transactions : first.transactions = second.transactions
  exceptionCases : first.exceptionCases = second.exceptionCases
  idempotency : first.idempotency = second.idempotency

section Kept

variable {tables : Tables} {time : String}

theorem subscribed_records {command : SubscribeCommand} {plan : SubscribePlan} :
    tables.SameRecords (tables.subscribed command plan time) := by
  constructor <;> simp [Tables.subscribed]

theorem transferred_records {command : TransferCommand} {plan : TransferPlan} :
    tables.SameRecords (tables.transferred command plan time) := by
  constructor <;> simp [Tables.transferred]

theorem redeemed_records {command : RedeemCommand} {plan : RedeemPlan} :
    tables.SameRecords (tables.redeemed command plan time) := by
  constructor <;> simp [Tables.redeemed]

theorem released_records {command : TransferCommand} : tables.SameRecords (tables.released command time) :=
  ⟨rfl, rfl, rfl, rfl, rfl, rfl⟩

end Kept

variable {platform : Platform} {plane final : ControlPlane}

section Writes

variable {α : Type}

theorem transition_bind {lifecycle : List Transition} {state : TransactionState} {id productId : String}
    {type : TransactionType} {next : List Transition → Step α} {time : Int} (htime : plane.clock = time) :
    (transition platform lifecycle state id type productId >>= next) plane =
      next (lifecycle ++ [⟨state, platform.isoText time⟩])
        (plane.log platform (.transactionStateChanged id productId type state)) := by
  subst htime
  rfl

theorem record_bind {event : Event} {next : Unit → Step α} :
    (record platform event >>= next) plane = next () (plane.log platform event) := rfl

theorem now_bind {next : Int → Step α} : (now >>= next) plane = next plane.clock plane := rfl

theorem randomHex_bind {next : String → Step α} :
    (randomHex platform >>= next) plane =
      next (platform.randomHex plane.randomCalls) { plane with randomCalls := plane.randomCalls + 1 } := rfl

theorem debitCash_bind {key : String} {amount balance : Int} {next : Unit → Step α}
    (h : plane.cashBalances.get key = some balance) :
    (debitCash key amount >>= next) plane = next () (plane.onTables (Tables.addCash key (-amount))) := by
  have hrun : debitCash key amount plane = (.ok (), plane.onTables (Tables.addCash key (-amount))) := by
    simp only [debitCash, read_bind, h, ControlPlane.onTables, Tables.addCash, add, balanceOf, Option.getD_some,
      ← Int.sub_eq_add_neg]
    rfl
  exact bind_of_ok hrun

theorem creditCash_bind {key : String} {amount : Int} {next : Unit → Step α} :
    (creditCash key amount >>= next) plane = next () (plane.onTables (Tables.addCash key amount)) := rfl

theorem confirmSandboxCash_bind {id productId : String} {next : Unit → Step α} {time : Int}
    (htime : plane.clock = time) :
    (confirmSandboxCash platform id productId >>= next) plane =
      next () ((plane.onTables (Tables.setCashSettlement
        ⟨id, productId, .confirmed, platform.isoText time⟩)).log platform (.cashConfirmed id productId)) := by
  subst htime
  rfl

theorem releaseCash_bind {id productId time : String} {next : Unit → Step α} :
    ((modify fun plane : ControlPlane => { plane with
        cashSettlements := plane.cashSettlements.set id ⟨id, productId, .released, time⟩ }) >>= next) plane =
      next () (plane.onTables (Tables.setCashSettlement ⟨id, productId, .released, time⟩)) := rfl

theorem addAssetBalance_bind {accountId productId : String} {delta : Int} {next : Unit → Step α}
    (h : 0 ≤ balanceOf plane.assetBalances (balanceKey accountId productId) + delta) :
    (addAsset .assetBalances accountId productId delta >>= next) plane =
      next () (plane.onTables (Tables.addAssetBalance (balanceKey accountId productId) delta)) := by
  have hrun : addAsset .assetBalances accountId productId delta plane =
      (.ok (), plane.onTables (Tables.addAssetBalance (balanceKey accountId productId) delta)) := by
    simp only [addAsset, read_bind, Tables.units]
    rw [bind_of_ok (ensure_of h)]
    rfl
  exact bind_of_ok hrun

theorem addLegalRegister_bind {accountId productId : String} {delta : Int} {next : Unit → Step α}
    (h : 0 ≤ balanceOf plane.legalRegister (balanceKey accountId productId) + delta) :
    (addAsset .legalRegister accountId productId delta >>= next) plane =
      next () (plane.onTables (Tables.addLegalRegister (balanceKey accountId productId) delta)) := by
  have hrun : addAsset .legalRegister accountId productId delta plane =
      (.ok (), plane.onTables (Tables.addLegalRegister (balanceKey accountId productId) delta)) := by
    simp only [addAsset, read_bind, Tables.units]
    rw [bind_of_ok (ensure_of h)]
    rfl
  exact bind_of_ok hrun

end Writes

/-- A checked subscription makes its movements and goes on to finish. The cash
entry exists, and the units do not make a balance negative in either map. -/
theorem settleSubscribe_moves {command : SubscribeCommand} {plan : SubscribePlan} {lifecycle : List Transition}
    {balance time : Int} (htime : plane.clock = time)
    (hcash : plane.cashBalances.get (balanceKey command.investorId plan.product.rules.currency) = some balance)
    (hassets : 0 ≤ balanceOf plane.assetBalances (balanceKey command.investorId command.productId) + plan.units)
    (hlegal : 0 ≤ balanceOf plane.legalRegister (balanceKey command.investorId command.productId) + plan.units) :
    ∃ moved lifecycle', moved.toTables = plane.toTables.subscribed command plan (platform.isoText time) ∧
      moved.credits = plane.credits ∧ moved.clock = time ∧
      settleSubscribe platform command plan lifecycle plane =
        finish platform plan.product plan.nav (command.data plan) (.subscriptionSettled command.id command.productId)
          lifecycle' moved := by
  unfold settleSubscribe
  rw [transition_bind (by simpa using htime), transition_bind (by simpa using htime),
    debitCash_bind (by simpa using hcash), creditCash_bind, confirmSandboxCash_bind (by simpa using htime),
    transition_bind (by simpa using htime), addAssetBalance_bind (by simpa using hassets),
    addLegalRegister_bind (by simpa using hlegal)]
  refine ⟨_, _, ?tables, ?credits, ?clock, rfl⟩
  case tables => simp only [toTables_log, toTables_onTables, Tables.subscribed]
  case clock => simpa using htime
  case credits => simp [Event.credit?]

/-- A checked transfer makes its movements and goes on to finish. -/
theorem settleTransfer_moves {command : TransferCommand} {plan : TransferPlan} {lifecycle : List Transition}
    {balance time : Int} (htime : plane.clock = time)
    (hcash : plane.cashBalances.get (balanceKey command.buyerId plan.product.rules.currency) = some balance)
    (hseller : 0 ≤ balanceOf plane.assetBalances (balanceKey command.sellerId command.productId) + -plan.units)
    (hbuyer : 0 ≤ balanceOf
      (add plane.assetBalances (balanceKey command.sellerId command.productId) (-plan.units))
      (balanceKey command.buyerId command.productId) + plan.units)
    (hsame : plane.legalRegister = plane.assetBalances) :
    ∃ moved lifecycle', moved.toTables = plane.toTables.transferred command plan (platform.isoText time) ∧
      moved.credits = plane.credits ∧ moved.clock = time ∧
      settleTransfer platform command plan lifecycle plane =
        finish platform plan.product plan.nav (command.data plan .standard)
          (.transferSettled command.id command.productId) lifecycle' moved := by
  unfold settleTransfer
  rw [transition_bind (by simpa using htime), transition_bind (by simpa using htime),
    debitCash_bind (by simpa using hcash), creditCash_bind, creditCash_bind,
    confirmSandboxCash_bind (by simpa using htime), transition_bind (by simpa using htime),
    addAssetBalance_bind (by simpa using hseller), addAssetBalance_bind (by simpa using hbuyer),
    addLegalRegister_bind (by simpa [hsame] using hseller), addLegalRegister_bind (by simpa [hsame] using hbuyer)]
  refine ⟨_, _, ?tables, ?credits, ?clock, rfl⟩
  case tables => simp only [toTables_log, toTables_onTables, Tables.transferred]
  case clock => simpa using htime
  case credits => simp [Event.credit?]

/-- A checked redemption makes its movements and goes on to finish. -/
theorem settleRedeem_moves {command : RedeemCommand} {plan : RedeemPlan} {lifecycle : List Transition}
    {balance time : Int} (htime : plane.clock = time)
    (hcash : plane.cashBalances.get (balanceKey plan.product.issuerId plan.product.rules.currency) = some balance)
    (hassets : 0 ≤ balanceOf plane.assetBalances (balanceKey command.investorId command.productId) + -plan.units)
    (hlegal : 0 ≤ balanceOf plane.legalRegister (balanceKey command.investorId command.productId) + -plan.units) :
    ∃ moved lifecycle', moved.toTables = plane.toTables.redeemed command plan (platform.isoText time) ∧
      moved.credits = plane.credits ∧ moved.clock = time ∧
      settleRedeem platform command plan lifecycle plane =
        finish platform plan.product plan.nav (command.data plan)
          (.redemptionSettled command.id command.productId plan.mode) lifecycle' moved := by
  unfold settleRedeem
  rw [transition_bind (by simpa using htime), transition_bind (by simpa using htime),
    addAssetBalance_bind (by simpa using hassets), addLegalRegister_bind (by simpa using hlegal),
    debitCash_bind (by simpa using hcash), creditCash_bind, confirmSandboxCash_bind (by simpa using htime),
    transition_bind (by simpa using htime)]
  refine ⟨_, _, ?tables, ?credits, ?clock, rfl⟩
  case tables => simp only [toTables_log, toTables_onTables, Tables.redeemed]
  case clock => simpa using htime
  case credits => simp [Event.credit?]

/-- A failed registration releases the reservation before its policy is hashed. -/
theorem openException_moves {command : TransferCommand} {plan : TransferPlan} {lifecycle : List Transition} {time : Int}
    (htime : plane.clock = time) :
    ∃ released lifecycle', released.books =
        plane.books.withTables (plane.toTables.released command (platform.isoText time)) ∧
      openException platform command plan lifecycle plane =
        (policySnapshot platform plan.product plan.nav >>= fun policy => do
          let transaction ← storeExceptionTransaction platform (command.data plan .exceptionReview policy) lifecycle'
          modify (·.onTables (Tables.setCase (command.exceptionCase (platform.isoText time) plan)))
          record platform (.exceptionOpened command.productId command.id "REGISTER_TIMEOUT")
          let receipt ← publicReceipt platform transaction
          return { receipt with
            exceptionCaseId := some (caseIdOf command.id)
            reasonCode := some "REGISTER_TIMEOUT" }) released := by
  unfold openException
  rw [transition_bind (by simpa using htime), transition_bind (by simpa using htime),
    transition_bind (by simpa using htime), now_bind, releaseCash_bind, record_bind, transition_bind
      (by simpa using htime)]
  subst htime
  refine ⟨_, _, ?books, rfl⟩
  rw [books_log rfl, books_log rfl]
  refine books_eq rfl ?_ rfl
  simp [Event.credit?]

/-- Storing a settled transaction under a new id succeeds. -/
theorem completeTransaction_run {data : TransactionData} {lifecycle : List Transition}
    (hfresh : plane.transactions.get data.id = none) :
    ∃ commitment reached,
      completeTransaction platform data lifecycle plane =
        (.ok (data.transaction .settled (some (platform.isoText plane.clock))
          (lifecycle ++ [⟨.settled, platform.isoText plane.clock⟩]) commitment), reached) ∧
      reached.toTables = plane.toTables.setTransaction (data.transaction .settled (some (platform.isoText plane.clock))
        (lifecycle ++ [⟨.settled, platform.isoText plane.clock⟩]) commitment) ∧
      reached.credits = plane.credits ∧ reached.clock = plane.clock := by
  obtain ⟨commitment, hcommitment⟩ := @commitmentText_run platform data (platform.randomHex plane.randomCalls)
  have hnew : assertNewTransaction data.id plane = (.ok (), plane) :=
    assertNewTransaction_eq_ok_iff.mpr ⟨hfresh, rfl⟩
  refine ⟨commitment, ?reached, ?run, ?tables, ?credits, ?clock⟩
  case run =>
    unfold completeTransaction
    rw [bind_of_ok hnew, randomHex_bind, now_bind]
    rw [bind_of_ok (lift_of_ok hcommitment), transition_bind rfl]
    exact rfl
  case tables => rfl
  case clock => rfl
  case credits => exact credits_log.trans (List.append_nil plane.credits)

/-- A settlement that is being finished fails at its policy snapshot, and then
writes nothing more, or stores its transaction. -/
theorem finish_cases {found : Product} {nav : StoredEvidence} {data : PolicySnapshot → TransactionData} {id : String}
    {event : Event} {lifecycle : List Transition} (hcredit : event.credit? = none)
    (hid : ∀ policy, (data policy).id = id) (hfresh : plane.transactions.get id = none) :
    (found.rules.canonicalizes = false ∧
      ∃ failure, finish platform found nav data event lifecycle plane = (.error failure, plane)) ∨
    (found.rules.canonicalizes = true ∧
      ∃ policy settledAt lifecycle' commitment receipt reached,
        finish platform found nav data event lifecycle plane = (.ok receipt, reached) ∧
        policy.navEvidenceId = nav.id ∧
        reached.toTables = plane.toTables.setTransaction
          ((data policy).transaction .settled (some settledAt) lifecycle' commitment) ∧
        reached.credits = plane.credits ∧ reached.clock = plane.clock ∧
        receipt.transactionId = id ∧ receipt.state = .settled ∧ receipt.type = (data policy).type) := by
  rcases @policySnapshot_run platform plane found nav with ⟨hextra, failure, hfails⟩ | ⟨hextra, policy, hpolicy, hnav⟩
  · exact Or.inl ⟨hextra, failure, bind_of_error hfails⟩
  · right
    have hfreshData : plane.transactions.get (data policy).id = none := by rwa [hid]
    obtain ⟨commitment, reached, hrun, htables, hcredits, hclock⟩ :=
      @completeTransaction_run platform plane (data policy) lifecycle hfreshData
    set transaction := (data policy).transaction .settled (some (platform.isoText plane.clock))
      (lifecycle ++ [⟨.settled, platform.isoText plane.clock⟩]) commitment with htransaction
    have hstored : (reached.log platform event).transactions.get transaction.id = some transaction := by
      simp [htables]
    obtain ⟨receipt, hreceipt, hreceiptId, hreceiptState, hreceiptType⟩ := @publicReceipt_run platform _ _ hstored
    refine ⟨hextra, policy, platform.isoText plane.clock, lifecycle ++ [⟨.settled, platform.isoText plane.clock⟩],
      commitment, receipt, reached.log platform event, ?_, hnav, ?_, ?_, ?_, ?_, ?_, ?_⟩
    · unfold finish
      rw [bind_of_ok hpolicy, bind_of_ok hrun, record_bind, hreceipt]
    · simpa using htables
    · simp [hcredit, hcredits]
    · simpa using hclock
    · exact hreceiptId.trans (hid policy)
    · exact hreceiptState
    · exact hreceiptType

end rwa.control_plane
