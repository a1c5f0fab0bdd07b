import RwaControlPlane.Durable.Accounts
import RwaControlPlane.Storage.StateHistory

open checked keyed_rows
open rwa.gate (TransactionType TransactionState)
open rwa.storage (TransactionIntent TransactionTables StateChange)
open rwa.control_plane (SettlementMode Decision CaseStatus)

namespace rwa.durable

variable {service : DurableWorkflowService} {db next : Database} {type : TransactionType} {product : Product}
  {request : Request} {now : Int}

section Plans

/-- What the checks on a credential establish. -/
structure Credential.Accepted (db : Database) (product : Product) (subjectRef : Option String) (additionalUnits : Int)
    (allowRestrictedExit : Bool) (now : Int) (credential : Credential) : Prop where
  stored : credential ∈ db.credentials
  ofProduct : credential.productId = product.id
  ofSubject : subjectRef = some credential.subjectRef
  inTime : credential.validFrom ≤ now ∧ now < credential.validUntil
  unrestricted : credential.status = .active ∨ (allowRestrictedExit = true ∧ credential.status = .restrictedExit)
  investorClass : credential.investorClass ∈ product.rules.allowedInvestorClasses
  jurisdiction : credential.jurisdiction ∈ product.rules.allowedJurisdictions
  limit : 0 < additionalUnits → additionalUnits + accountBalance db.registerBatches
    (registerAccountId product.id credential.subjectRef (unitAssetOf product.id) .investor) ≤ credential.maxUnits

theorem assertCredential_ok {subjectRef credentialId : Option String} {additionalUnits : Int}
    {allowRestrictedExit : Bool} {credential : Credential}
    (h : assertCredential db product subjectRef credentialId additionalUnits allowRestrictedExit now = .ok credential) :
    credential.Accepted db product subjectRef additionalUnits allowRestrictedExit now := by
  simp only [assertCredential, bind_eq_ok_iff, require_eq_ok_iff, throwIf_eq_ok_iff, exists_unit, pure_eq_ok_iff,
    not_not] at h
  obtain ⟨found, hfound, hsubject, htime, hstatus, hclass, hjurisdiction, hlimit, rfl⟩ := h
  have hselected := List.find?_some hfound
  simp only [Bool.and_eq_true, decide_eq_true_eq] at hselected
  exact
    { stored := List.mem_of_find?_eq_some hfound
      ofProduct := hselected.2
      ofSubject := hsubject.symm
      inTime := htime
      unrestricted := hstatus
      investorClass := hclass
      jurisdiction := hjurisdiction
      limit := fun hunits => not_lt.mp fun hexceeded => hlimit ⟨hunits, hexceeded⟩ }

theorem positive_ok {value : Option String} {field : String} {amount : Int} (h : positive value field = .ok amount) :
    toInteger value = .ok amount ∧ 0 < amount := by
  simp only [positive, bind_eq_ok_iff, throwIf_eq_ok_iff, exists_unit, pure_eq_ok_iff, not_le] at h
  obtain ⟨parsed, hparsed, hpositive, rfl⟩ := h
  exact ⟨hparsed, hpositive⟩

/-- What a plan posts: units that move from one account to another, in the ledger
and in the register alike, and cash. No investor or issuer is overdrawn, and an
investor who gains units has a credential for the new holding. -/
structure SettlementPlan.Moves (db : Database) (product : Product) (plan : SettlementPlan) (source : String)
    (sourceType : AccountType) (target : String) (targetType : AccountType) (cash : List Entry) : Prop where
  positive : 0 < plan.units
  ledger : plan.ledgerEntries = cash ++
    unitEntries ledgerAccountId product.id source sourceType target targetType plan.units
  register : plan.registerEntries =
    unitEntries registerAccountId product.id source sourceType target targetType plan.units
  currency : ∀ entry ∈ cash, entry.assetCode = product.rules.currency
  covered : ∀ entry ∈ plan.ledgerEntries, entry.signedDelta < 0 →
    0 ≤ accountBalance db.ledgerBatches entry.accountId + entry.signedDelta ∨
      ∃ productId ownerRef assetCode, entry.accountId = ledgerAccountId productId ownerRef assetCode .treasury
  limit : targetType = .investor → ∃ credential ∈ db.credentials, credential.productId = product.id ∧
    credential.subjectRef = target ∧ plan.units + accountBalance db.registerBatches
      (registerAccountId product.id target (unitAssetOf product.id) .investor) ≤ credential.maxUnits

theorem Credential.Accepted.text {subjectKey : String} {additionalUnits : Int} {allowRestrictedExit : Bool}
    {credential : Credential}
    (h : credential.Accepted db product (request.get subjectKey) additionalUnits allowRestrictedExit now) :
    request.text subjectKey = credential.subjectRef := by
  rw [Request.text, h.ofSubject, Option.getD_some]

/-- An investor who gains units has a credential for the new holding. -/
private theorem Credential.Accepted.holding {subjectKey : String} {units : Int} {allowRestrictedExit : Bool}
    {credential : Credential}
    (h : credential.Accepted db product (request.get subjectKey) units allowRestrictedExit now) (hunits : 0 < units) :
    ∃ credential ∈ db.credentials, credential.productId = product.id ∧ credential.subjectRef = request.text subjectKey ∧
      units + accountBalance db.registerBatches (registerAccountId product.id (request.text subjectKey)
        (unitAssetOf product.id) .investor) ≤ credential.maxUnits := by
  rw [h.text]
  exact ⟨credential, h.stored, h.ofProduct, rfl, h.limit hunits⟩

variable {units navPrice : Int} {plan : SettlementPlan}

theorem planSubscribe_moves (hunits : 0 < units) (h : planSubscribe db product request units navPrice now = .ok plan) :
    plan.units = units ∧
      ∃ cash, plan.Moves db product "TREASURY" .treasury (request.text "investorId") .investor cash := by
  simp only [planSubscribe, bind_eq_ok_iff, throwIf_eq_ok_iff, exists_unit, pure_eq_ok_iff, not_not, not_lt] at h
  obtain ⟨credential, hcredential, cashAmount, hamount, -, hcash, rfl⟩ := h
  have haccepted := assertCredential_ok hcredential
  refine ⟨rfl, _, hunits, rfl, rfl, ?_, ?_, fun _ => haccepted.holding hunits⟩
  · simp
  · have hpositive := (positive_ok hamount).2
    simp only [unitEntries, List.cons_append, List.nil_append, List.forall_mem_cons]
    exact ⟨fun _ => Or.inl (by omega), fun hneg => absurd hneg (by omega), fun _ => Or.inr ⟨_, _, _, rfl⟩,
      fun hneg => absurd hneg (by omega), by simp⟩

theorem planTransfer_moves (hunits : 0 < units)
    (h : planTransfer service db product request units navPrice now = .ok plan) :
    plan.units = units ∧ request.get "sellerId" ≠ request.get "buyerId" ∧
      ∃ cash, plan.Moves db product (request.text "sellerId") .investor (request.text "buyerId") .investor cash := by
  simp only [planTransfer, bind_eq_ok_iff, throwIf_eq_ok_iff, exists_unit, pure_eq_ok_iff, not_not, not_lt] at h
  obtain ⟨-, hdiffer, seller, -, credential, hcredential, price, hprice, fee, -, hfee, -, hasset, hcash, rfl⟩ := h
  have haccepted := assertCredential_ok hcredential
  refine ⟨rfl, hdiffer, _, hunits, rfl, rfl, ?_, ?_, fun _ => haccepted.holding hunits⟩
  · by_cases hfree : fee = 0 <;> simp [hfree]
  · have hpositive := Int.mul_pos hunits (positive_ok hprice).2
    intro entry hentry
    simp only [unitEntries, List.mem_append, List.mem_cons, List.not_mem_nil, or_false] at hentry
    obtain ((rfl | rfl) | hfeeEntry) | rfl | rfl := hentry
    · exact fun _ => Or.inl (by dsimp only; omega)
    · exact fun hneg => absurd hneg (by dsimp only; omega)
    · by_cases hfree : fee = 0
      · rw [if_pos hfree] at hfeeEntry
        cases hfeeEntry
      · rw [if_neg hfree, List.mem_singleton] at hfeeEntry
        subst hfeeEntry
        exact fun hneg => absurd hneg (by dsimp only; omega)
    · exact fun _ => Or.inl (by dsimp only; omega)
    · exact fun hneg => absurd hneg (by dsimp only; omega)

theorem planRedeem_moves (hunits : 0 < units) (hprice : 0 < navPrice)
    (h : planRedeem db product request units navPrice now = .ok plan) :
    plan.units = units ∧
      ∃ cash, plan.Moves db product (request.text "investorId") .investor "TREASURY" .treasury cash := by
  simp only [planRedeem, bind_eq_ok_iff, throwIf_eq_ok_iff, exists_unit, pure_eq_ok_iff, not_lt] at h
  obtain ⟨credential, -, hasset, hcash, rfl⟩ := h
  refine ⟨rfl, _, hunits, rfl, rfl, ?_, ?_, fun htreasury => by cases htreasury⟩
  · simp
  · have hpositive := Int.mul_pos hunits hprice
    intro entry hentry
    simp only [unitEntries, List.mem_append, List.mem_cons, List.not_mem_nil, or_false] at hentry
    obtain (rfl | rfl) | rfl | rfl := hentry
    · exact fun _ => Or.inl (by dsimp only; omega)
    · exact fun hneg => absurd hneg (by dsimp only; omega)
    · exact fun _ => Or.inl (by dsimp only; omega)
    · exact fun hneg => absurd hneg (by dsimp only; omega)

end Plans

section Settlement

variable {nav : Evidence} {plan : SettlementPlan} {intent : TransactionIntent} {registerFailure : Bool}
  {receipt : Receipt}

/-- What the checks of a settlement establish. -/
structure Checked (service : DurableWorkflowService) (db : Database) (type : TransactionType) (request : Request)
    (now : Int) (product : Product) (nav : Evidence) (settlement : SettlementPlan) : Prop where
  stored : product ∈ db.products
  requested : request.get "productId" = some product.id
  active : product.status = .active
  current : db.currentNav product.id now = some nav
  currency : nav.payload.currency = some product.currency
  planned : ∃ units navPrice, 0 < units ∧ toInteger (request.get "units") = .ok units ∧
    toInteger nav.payload.navPerUnit = .ok navPrice ∧
    durable.plan service db type product request units navPrice now = .ok settlement

theorem checkSettlement_ok (h : checkSettlement service db type request now = .ok (product, nav, plan)) :
    Checked service db type request now product nav plan := by
  simp only [checkSettlement, bind_eq_ok_iff, require_eq_ok_iff, throwIf_eq_ok_iff, exists_unit, pure_eq_ok_iff,
    not_not, Prod.mk.injEq] at h
  obtain ⟨found, hfound, evidence, hcurrent, hcurrency, units, hunits, navPrice, hprice, _, hplan, rfl, rfl, rfl⟩ := h
  have hselected := List.find?_some hfound
  simp only [Bool.and_eq_true, decide_eq_true_eq] at hselected
  exact
    { stored := List.mem_of_find?_eq_some hfound
      requested := hselected.1.symm
      active := hselected.2
      current := hcurrent
      currency := hcurrency
      planned := ⟨units, navPrice, (positive_ok hunits).2, (positive_ok hunits).1, hprice, hplan⟩ }

/-- A plan that was checked moves units, for a NAV with a positive price. -/
theorem Checked.moves (h : Checked service db type request now product nav plan)
    (hprice : ∀ price, toInteger nav.payload.navPerUnit = .ok price → 0 < price) :
    ∃ source sourceType target targetType cash, plan.Moves db product source sourceType target targetType cash := by
  obtain ⟨units, navPrice, hunits, -, hnav, hplan⟩ := h.planned
  cases type with
  | subscribe => exact ⟨_, _, _, _, (planSubscribe_moves hunits hplan).2⟩
  | transfer => exact ⟨_, _, _, _, (planTransfer_moves hunits hplan).2.2⟩
  | redeem => exact ⟨_, _, _, _, (planRedeem_moves hunits (hprice navPrice hnav) hplan).2⟩

/-- The row of a new transaction. -/
structure Intended (service : DurableWorkflowService) (type : TransactionType) (request : Request) (product : Product)
    (nav : Evidence) (intent : TransactionIntent) : Prop where
  id : request.get "id" = some intent.id
  key : request.get "idempotencyKey" = some intent.idempotencyKey
  tenant : intent.tenantId = service.tenantId
  ofProduct : intent.productId = product.id
  hash : intent.requestHash = requestHash service request
  ofType : intent.transactionType = type
  state : intent.currentState = .requested
  evidence : intent.navEvidenceId = some nav.id
  rail : intent.settlementRail = .registered
  payload : service.encrypt request ⟨service.tenantId, intent.id, product.id, type⟩ =
    .ok intent.privatePayloadCiphertext

theorem newIntent_ok (h : newIntent service db type request product nav = .ok intent) :
    Intended service type request product nav intent := by
  simp only [newIntent, bind_eq_ok_iff, require_eq_ok_iff, pure_eq_ok_iff] at h
  obtain ⟨_, _, id, hid, key, hkey, ciphertext, hciphertext, rfl⟩ := h
  exact ⟨hid, hkey, rfl, rfl, rfl, rfl, rfl, rfl, rfl, hciphertext⟩

/-- Tables with one more transaction. -/
structure Created (old : TransactionTables) (row : TransactionIntent) (tables : TransactionTables) : Prop where
  fresh : row.id ∉ old.intents.map (·.id)
  intents : tables.intents = old.intents ++ [row]
  settlements : tables.zkSettlements = old.zkSettlements

variable {old tables tables' : TransactionTables} {row : TransactionIntent}

theorem Created.transition (h : Created old row tables) {toState : TransactionState}
    {reasonCode actorRef : Option String}
    (hok : tables.transitionTransaction row.id toState reasonCode actorRef = .ok tables') :
    Created old { row with currentState := toState } tables' := by
  obtain ⟨_, _, _, _, _, rfl⟩ := storage.transitionTransaction_ok hok
  refine ⟨h.fresh, ?_, h.settlements⟩
  have hold : old.intents.map
      (fun other => if other.id = row.id then { other with currentState := toState } else other) = old.intents := by
    refine (List.map_congr_left fun other hother => ?_).trans (List.map_id _)
    have hne : other.id ≠ row.id := fun heq => h.fresh (heq ▸ List.mem_map_of_mem hother)
    rw [if_neg hne]
    rfl
  simp only [TransactionTables.moved, h.intents, List.map_append, hold, List.map_cons, List.map_nil, if_true]

theorem Created.through {states : List TransactionState} {actorRef : String} :
    ∀ {row : TransactionIntent} {db : Database}, Created old row db.transactions →
      db.transitionThrough row.id actorRef states = .ok next →
      ∃ transactions, next = { db with transactions } ∧
        Created old { row with currentState := states.getLastD row.currentState } transactions := by
  induction states with
  | nil =>
    intro row db h hok
    obtain rfl := pure_eq_ok_iff.mp hok
    exact ⟨db.transactions, rfl, h⟩
  | cons toState rest ih =>
    intro row db h hok
    obtain ⟨tables, hfirst, hrest⟩ := bind_eq_ok_iff.mp hok
    obtain ⟨transactions, rfl, hcreated⟩ := @ih { row with currentState := toState } { db with transactions := tables }
      (h.transition hfirst) hrest
    refine ⟨transactions, rfl, ?_⟩
    rwa [List.getLastD_cons]

/-- The receipt of a transfer whose registration failed. -/
def failedReceipt (transactionId : String) (type : TransactionType) (product : Product) (nav : Evidence) : Receipt :=
  { transactionId, productId := product.id, type, state := .requiresReview, settledAt := none
    navEvidenceId := nav.id, ruleVersion := product.ruleVersion, settlementMode := .exceptionReview
    lifecycle := [.requested, .policyChecked, .cashReserved, .requiresReview]
    proofSystem := "SANDBOX_NO_ZK_PROOF", exceptionCaseId := some (exceptionCaseId transactionId)
    reasonCode := some "REGISTER_TIMEOUT" }

def settledReceipt (service : DurableWorkflowService) (transactionId : String) (type : TransactionType)
    (product : Product) (nav : Evidence) (plan : SettlementPlan) (now : Int) : Receipt :=
  { transactionId, productId := product.id, type, state := .settled, settledAt := some (service.isoText now)
    navEvidenceId := nav.id, ruleVersion := product.ruleVersion, settlementMode := plan.settlementMode
    lifecycle := [.requested, .policyChecked, .cashReserved, .registerPending, .settled]
    proofSystem := "SANDBOX_NO_ZK_PROOF", exceptionCaseId := none, reasonCode := none }

/-- The case of a transfer whose registration failed. -/
def openedCase (transactionId productId : String) : ExceptionCase :=
  { id := exceptionCaseId transactionId, transactionId, productId, status := .opened
    failureStage := .registerPending, reasonCode := "REGISTER_TIMEOUT", approvalRound := 0
    replacementTransactionId := none }

/-- The commitment to the values of a new transaction is added. -/
def CommitmentAdded (service : DurableWorkflowService) (type : TransactionType) (request : Request)
    (product : Product) (plan : SettlementPlan) (transactionId : String) (before after : List EconomicCommitment) :
    Prop :=
  ∃ committer commitment, service.economicCommitter = some committer ∧
    economicCommitment committer type transactionId product request plan = .ok commitment ∧
    after = before ++ [commitment]

/-- How a settlement call ends that does not fail. -/
inductive SettlementEnds (service : DurableWorkflowService) (db : Database) (type : TransactionType)
    (request : Request) (registerFailure : Bool) (now : Int) : Receipt → Database → Prop
  | replayed {existing : TransactionIntent} {receipt : Receipt}
      (used : db.replay service request = some existing) (same : existing.requestHash = requestHash service request)
      (answered : db.receiptOf existing.id = some receipt) :
      SettlementEnds service db type request registerFailure now receipt db
  | failed {product : Product} {nav : Evidence} {plan : SettlementPlan} {intent : TransactionIntent}
      {transactions : TransactionTables} {commitments : List EconomicCommitment}
      {cashConfirmations : List CashConfirmation}
      (failure : registerFailure = true) (unused : db.replay service request = none)
      (checked : Checked service db type request now product nav plan)
      (intended : Intended service type request product nav intent)
      (created : Created db.transactions { intent with currentState := .requiresReview } transactions)
      (newReceipt : intent.id ∉ db.receipts.map (·.transactionId))
      (newCase : exceptionCaseId intent.id ∉ db.exceptionCases.map (·.id))
      (committed : CommitmentAdded service type request product plan intent.id db.commitments commitments) :
      SettlementEnds service db type request registerFailure now (failedReceipt intent.id type product nav)
        { db with
          transactions, commitments, cashConfirmations
          exceptionCases := db.exceptionCases ++ [openedCase intent.id product.id]
          receipts := db.receipts ++ [failedReceipt intent.id type product nav] }
  | posted {product : Product} {nav : Evidence} {plan : SettlementPlan} {intent : TransactionIntent}
      {transactions : TransactionTables} {commitments : List EconomicCommitment}
      {cashConfirmations : List CashConfirmation}
      (success : registerFailure = false) (unused : db.replay service request = none)
      (checked : Checked service db type request now product nav plan)
      (intended : Intended service type request product nav intent)
      (created : Created db.transactions { intent with currentState := .settled } transactions)
      (newReceipt : intent.id ∉ db.receipts.map (·.transactionId))
      (ledger : Postable db.ledgerAccounts plan.ledgerEntries)
      (register : Postable db.registerAccounts plan.registerEntries)
      (committed : CommitmentAdded service type request product plan intent.id db.commitments commitments) :
      SettlementEnds service db type request registerFailure now
        (settledReceipt service intent.id type product nav plan now)
        { db with
          transactions, commitments, cashConfirmations
          ledgerBatches := db.ledgerBatches ++ [⟨"ledger:" ++ intent.id, some intent.id, plan.ledgerEntries⟩]
          registerBatches := db.registerBatches ++ [⟨"register:" ++ intent.id, some intent.id, plan.registerEntries⟩]
          receipts := db.receipts ++ [settledReceipt service intent.id type product nav plan now] }

private theorem insertCashConfirmation_ok {row : CashConfirmation} (h : db.insertCashConfirmation row = .ok next) :
    next = { db with cashConfirmations := db.cashConfirmations ++ [row] } := by
  simp only [Database.insertCashConfirmation, bind_eq_ok_iff, throwIf_eq_ok_iff, exists_unit, pure_eq_ok_iff] at h
  exact h.2.symm

private theorem storeReceipt_ok {receipt : Receipt} (h : db.storeReceipt receipt = .ok next) :
    receipt.transactionId ∉ db.receipts.map (·.transactionId) ∧
      next = { db with receipts := db.receipts ++ [receipt] } := by
  simp only [Database.storeReceipt, bind_eq_ok_iff, throwIf_eq_ok_iff, exists_unit, pure_eq_ok_iff] at h
  exact ⟨h.1, h.2.symm⟩

private theorem insertExceptionCase_ok {row : ExceptionCase} (h : db.insertExceptionCase row = .ok next) :
    row.id ∉ db.exceptionCases.map (·.id) ∧ next = { db with exceptionCases := db.exceptionCases ++ [row] } := by
  simp only [Database.insertExceptionCase, bind_eq_ok_iff, throwIf_eq_ok_iff, exists_unit, pure_eq_ok_iff] at h
  exact ⟨h.1, h.2.2.symm⟩

/-- One more state of a transaction that was just created. -/
private theorem Created.transitionTransaction (h : Created old row tables) (htables : db.transactions = tables)
    {transactionId : String} (hid : row.id = transactionId) {toState : TransactionState} {reasonCode : Option String}
    {actorRef : String} (hok : db.transitionTransaction transactionId toState reasonCode actorRef = .ok next) :
    ∃ transactions, next = { db with transactions } ∧
    Created old { row with currentState := toState } transactions := by
  subst htables hid
  obtain ⟨transactions, htransition, hnext⟩ := bind_eq_ok_iff.mp hok
  obtain rfl := pure_eq_ok_iff.mp hnext
  exact ⟨transactions, rfl, h.transition htransition⟩

private theorem openException_ok (h : openException db row.id type product nav = .ok (receipt, next))
    (hcreated : Created old row db.transactions) :
    receipt = failedReceipt row.id type product nav ∧ row.id ∉ db.receipts.map (·.transactionId) ∧
      exceptionCaseId row.id ∉ db.exceptionCases.map (·.id) ∧ ∃ transactions cashConfirmations,
        Created old { row with currentState := .requiresReview } transactions ∧
        next = { db with
          transactions, cashConfirmations
          exceptionCases := db.exceptionCases ++ [openedCase row.id product.id]
          receipts := db.receipts ++ [failedReceipt row.id type product nav] } := by
  unfold openException at h
  obtain ⟨reserved, hreserved, h⟩ := bind_eq_ok_iff.mp h
  obtain ⟨provider, -, h⟩ := bind_eq_ok_iff.mp h
  obtain ⟨released, hreleased, h⟩ := bind_eq_ok_iff.mp h
  obtain ⟨review, hreview, h⟩ := bind_eq_ok_iff.mp h
  obtain ⟨opened, hopened, h⟩ := bind_eq_ok_iff.mp h
  obtain ⟨final, hfinal, h⟩ := bind_eq_ok_iff.mp h
  obtain ⟨rfl, rfl⟩ := Prod.mk.inj (pure_eq_ok_iff.mp h)
  obtain ⟨transactions, rfl, hcreated⟩ := hcreated.through hreserved
  obtain rfl := insertCashConfirmation_ok hreleased
  obtain ⟨transactions, rfl, hcreated⟩ := hcreated.transitionTransaction rfl rfl hreview
  obtain ⟨hcase, rfl⟩ := insertExceptionCase_ok hopened
  obtain ⟨hreceipt, rfl⟩ := storeReceipt_ok hfinal
  exact ⟨rfl, hreceipt, hcase, transactions, _, hcreated, rfl⟩

private theorem postSettlement_ok (h : postSettlement service db row.id type product nav plan now = .ok (receipt, next))
    (hcreated : Created old row db.transactions) :
    receipt = settledReceipt service row.id type product nav plan now ∧ row.id ∉ db.receipts.map (·.transactionId) ∧
      Postable db.ledgerAccounts plan.ledgerEntries ∧ Postable db.registerAccounts plan.registerEntries ∧
      ∃ transactions cashConfirmations, Created old { row with currentState := .settled } transactions ∧
        next = { db with
          transactions, cashConfirmations
          ledgerBatches := db.ledgerBatches ++ [⟨"ledger:" ++ row.id, some row.id, plan.ledgerEntries⟩]
          registerBatches := db.registerBatches ++ [⟨"register:" ++ row.id, some row.id, plan.registerEntries⟩]
          receipts := db.receipts ++ [settledReceipt service row.id type product nav plan now] } := by
  unfold postSettlement at h
  obtain ⟨pending, hpending, h⟩ := bind_eq_ok_iff.mp h
  obtain ⟨posted, hposted, h⟩ := bind_eq_ok_iff.mp h
  obtain ⟨registered, hregistered, h⟩ := bind_eq_ok_iff.mp h
  obtain ⟨provider, -, h⟩ := bind_eq_ok_iff.mp h
  obtain ⟨confirmed, hconfirmed, h⟩ := bind_eq_ok_iff.mp h
  obtain ⟨settled, hsettled, h⟩ := bind_eq_ok_iff.mp h
  obtain ⟨final, hfinal, h⟩ := bind_eq_ok_iff.mp h
  obtain ⟨rfl, rfl⟩ := Prod.mk.inj (pure_eq_ok_iff.mp h)
  obtain ⟨transactions, rfl, hcreated⟩ := hcreated.through hpending
  obtain ⟨hledger, -, rfl⟩ := appendLedgerBatch_ok hposted
  obtain ⟨hregister, rfl⟩ := appendRegisterBatch_ok hregistered
  obtain rfl := insertCashConfirmation_ok hconfirmed
  obtain ⟨transactions, rfl, hcreated⟩ := hcreated.transitionTransaction rfl rfl hsettled
  obtain ⟨hreceipt, rfl⟩ := storeReceipt_ok hfinal
  exact ⟨rfl, hreceipt, hledger, hregister, transactions, _, hcreated, rfl⟩

/-- A settlement call that does not fail is answered from an earlier one, opens an
exception case, or posts its plan. -/
theorem settleInTransaction_ok
    (h : settleInTransaction service type request registerFailure now db = .ok (receipt, next)) :
    SettlementEnds service db type request registerFailure now receipt next := by
  unfold settleInTransaction at h
  split at h
  · next existing hexisting =>
    simp only [bind_eq_ok_iff, throwIf_eq_ok_iff, require_eq_ok_iff, exists_unit, pure_eq_ok_iff, Prod.mk.injEq,
      not_not] at h
    obtain ⟨hsame, _, hreceipt, rfl, rfl⟩ := h
    exact .replayed hexisting hsame hreceipt
  · next hunused =>
    obtain ⟨⟨product, nav, plan⟩, hchecked, h⟩ := bind_eq_ok_iff.mp h
    obtain ⟨intent, hintent, h⟩ := bind_eq_ok_iff.mp h
    obtain ⟨⟨created, row, tables⟩, hcreate, h⟩ := bind_eq_ok_iff.mp h
    have hintended := newIntent_ok hintent
    obtain ⟨-, -, hused, -⟩ | ⟨rfl, rfl, -, hfresh, rfl⟩ := storage.createTransactionIntent_ok hcreate
    · -- the key was free when the call began
      rw [Database.replay, hintended.key, Option.bind_some, ← hintended.tenant, hused] at hunused
      cases hunused
    have hrow : { intent with currentState := .requested } = intent := by rw [← hintended.state]
    rw [hrow] at h
    have hnew : Created db.transactions intent { db.transactions with
        intents := db.transactions.intents ++ [intent]
        stateHistory := db.transactions.stateHistory ++ [⟨intent.id, none, .requested, none, some sandboxWorkflow⟩] } :=
      ⟨hfresh, rfl, rfl⟩
    simp only [reduceCtorEq, if_false] at h
    obtain ⟨committer, hcommitter, h⟩ := bind_eq_ok_iff.mp h
    obtain ⟨commitment, hcommitment, h⟩ := bind_eq_ok_iff.mp h
    obtain ⟨committed, hcommitted, h⟩ := bind_eq_ok_iff.mp h
    simp only [Database.insertCommitment, bind_eq_ok_iff, throwIf_eq_ok_iff, exists_unit, pure_eq_ok_iff] at hcommitted
    obtain ⟨-, -, rfl⟩ := hcommitted
    have hadded : CommitmentAdded service type request product plan intent.id db.commitments
        (db.commitments ++ [commitment]) := ⟨committer, commitment, require_eq_ok_iff.mp hcommitter, hcommitment, rfl⟩
    split at h
    · next hfailure =>
      obtain ⟨rfl, hreceipt, hcase, transactions, cashConfirmations, hcreated, rfl⟩ := openException_ok h hnew
      exact .failed hfailure hunused (checkSettlement_ok hchecked) hintended hcreated hreceipt hcase
        hadded
    · next hsuccess =>
      obtain ⟨rfl, hreceipt, hledger, hregister, transactions, cashConfirmations, hcreated, rfl⟩ :=
        postSettlement_ok h hnew
      exact .posted (Bool.eq_false_iff.mpr hsuccess) hunused (checkSettlement_ok hchecked) hintended hcreated hreceipt
        hledger hregister hadded

end Settlement

end rwa.durable
