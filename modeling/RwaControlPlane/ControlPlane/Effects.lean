import RwaControlPlane.ControlPlane.Reads

open attempt js_map js_value

namespace rwa.control_plane

/-- The cash credit that an event records: account, currency and amount. -/
def Event.credit? : Event → Option (String × String × String)
  | .cashCredited accountId currency amount => some (accountId, currency, amount)
  | _ => none

/-- The cash credits of the log. -/
def ControlPlane.credits (plane : ControlPlane) : List (String × String × String) :=
  plane.events.filterMap fun logged => logged.event.credit?

/-- The maps, the cash credits and the time: everything that a log entry without
a credit leaves as it is. -/
structure Books extends Tables where
  credits : List (String × String × String)
  clock : Int

def ControlPlane.books (plane : ControlPlane) : Books := ⟨plane.toTables, plane.credits, plane.clock⟩

def Books.withTables (books : Books) (tables : Tables) : Books := ⟨tables, books.credits, books.clock⟩

def ControlPlane.log (plane : ControlPlane) (platform : Platform) (event : Event) : ControlPlane :=
  { plane with events := plane.events ++ [⟨plane.events.length + 1, platform.isoText plane.clock, event⟩] }

/-- Change the maps. -/
def ControlPlane.onTables (plane : ControlPlane) (change : Tables → Tables) : ControlPlane :=
  { plane with toTables := change plane.toTables }

/-- Balances after an amount was added to one of them. -/
def add (balances : JsMap String Int) (key : String) (delta : Int) : JsMap String Int :=
  balances.set key (balanceOf balances key + delta)

def Tables.addCash (key : String) (delta : Int) (tables : Tables) : Tables :=
  { tables with cashBalances := add tables.cashBalances key delta }

def Tables.addAssetBalance (key : String) (delta : Int) (tables : Tables) : Tables :=
  { tables with assetBalances := add tables.assetBalances key delta }

def Tables.addLegalRegister (key : String) (delta : Int) (tables : Tables) : Tables :=
  { tables with legalRegister := add tables.legalRegister key delta }

def Tables.setCashSettlement (settlement : CashSettlement) (tables : Tables) : Tables :=
  { tables with cashSettlements := tables.cashSettlements.set settlement.transactionId settlement }

def Tables.setTransaction (transaction : Transaction) (tables : Tables) : Tables :=
  { tables with transactions := tables.transactions.set transaction.id transaction }

def Tables.setCase (exceptionCase : ExceptionCase) (tables : Tables) : Tables :=
  { tables with exceptionCases := tables.exceptionCases.set exceptionCase.id exceptionCase }

variable {platform : Platform} {plane final : ControlPlane}

section Books

@[simp] theorem toTables_log {event : Event} : (plane.log platform event).toTables = plane.toTables := rfl

@[simp] theorem clock_log {event : Event} : (plane.log platform event).clock = plane.clock := rfl

@[simp] theorem toTables_onTables {change : Tables → Tables} :
    (plane.onTables change).toTables = change plane.toTables := rfl

@[simp] theorem clock_onTables {change : Tables → Tables} : (plane.onTables change).clock = plane.clock := rfl

@[simp] theorem credits_onTables {change : Tables → Tables} : (plane.onTables change).credits = plane.credits := rfl

@[simp] theorem credits_log {event : Event} :
    (plane.log platform event).credits = plane.credits ++ event.credit?.toList := by
  rw [ControlPlane.credits, ControlPlane.log, List.filterMap_append]
  cases h : event.credit? <;> simp [ControlPlane.credits, h]

/-- An entry without a credit changes only the log. -/
theorem books_log {event : Event} (h : event.credit? = none) : (plane.log platform event).books = plane.books := by
  simp [ControlPlane.books, h]

theorem books_eq {tables : Tables} (htables : final.toTables = tables) (hcredits : final.credits = plane.credits)
    (hclock : final.clock = plane.clock) : final.books = plane.books.withTables tables := by
  simp [ControlPlane.books, Books.withTables, htables, hcredits, hclock]

theorem books_onTables {change : Tables → Tables} :
    (plane.onTables change).books = plane.books.withTables (change plane.toTables) := rfl

theorem toTables_of_books {tables : Tables} (h : final.books = plane.books.withTables tables) :
    final.toTables = tables :=
  congrArg Books.toTables h

theorem record_run {event : Event} : record platform event plane = (.ok (), plane.log platform event) := rfl

theorem transition_run {lifecycle : List Transition} {state : TransactionState} {id productId : String}
    {type : TransactionType} :
    transition platform lifecycle state id type productId plane =
      (.ok (lifecycle ++ [⟨state, platform.isoText plane.clock⟩]),
        plane.log platform (.transactionStateChanged id productId type state)) := rfl

theorem rejected_run {id productId : String} {type : TransactionType} {failure : Failure} :
    ∃ reason, rejected platform id productId type failure plane =
      (.ok (), plane.log platform (.transactionRejected id productId type reason)) := ⟨_, rfl⟩

end Books

section Fields

variable {tables : Tables} {key : String} {delta : Int} {settlement : CashSettlement} {transaction : Transaction}
  {exceptionCase : ExceptionCase}

@[simp] theorem addCash_institutions : (tables.addCash key delta).institutions = tables.institutions := rfl
@[simp] theorem addCash_products : (tables.addCash key delta).products = tables.products := rfl
@[simp] theorem addCash_credentials : (tables.addCash key delta).credentials = tables.credentials := rfl
@[simp] theorem addCash_evidence : (tables.addCash key delta).evidence = tables.evidence := rfl
@[simp] theorem addCash_transactions : (tables.addCash key delta).transactions = tables.transactions := rfl
@[simp] theorem addCash_cashSettlements :
    (tables.addCash key delta).cashSettlements = tables.cashSettlements := rfl
@[simp] theorem addCash_exceptionCases : (tables.addCash key delta).exceptionCases = tables.exceptionCases := rfl
@[simp] theorem addCash_idempotency : (tables.addCash key delta).idempotency = tables.idempotency := rfl
@[simp] theorem addCash_cashBalances :
    (tables.addCash key delta).cashBalances = add tables.cashBalances key delta := rfl
@[simp] theorem addCash_assetBalances : (tables.addCash key delta).assetBalances = tables.assetBalances := rfl
@[simp] theorem addCash_legalRegister : (tables.addCash key delta).legalRegister = tables.legalRegister := rfl

@[simp] theorem addAssetBalance_institutions :
    (tables.addAssetBalance key delta).institutions = tables.institutions := rfl
@[simp] theorem addAssetBalance_products : (tables.addAssetBalance key delta).products = tables.products := rfl
@[simp] theorem addAssetBalance_credentials :
    (tables.addAssetBalance key delta).credentials = tables.credentials := rfl
@[simp] theorem addAssetBalance_evidence : (tables.addAssetBalance key delta).evidence = tables.evidence := rfl
@[simp] theorem addAssetBalance_transactions :
    (tables.addAssetBalance key delta).transactions = tables.transactions := rfl
@[simp] theorem addAssetBalance_cashSettlements :
    (tables.addAssetBalance key delta).cashSettlements = tables.cashSettlements := rfl
@[simp] theorem addAssetBalance_exceptionCases :
    (tables.addAssetBalance key delta).exceptionCases = tables.exceptionCases := rfl
@[simp] theorem addAssetBalance_idempotency :
    (tables.addAssetBalance key delta).idempotency = tables.idempotency := rfl
@[simp] theorem addAssetBalance_cashBalances :
    (tables.addAssetBalance key delta).cashBalances = tables.cashBalances := rfl
@[simp] theorem addAssetBalance_assetBalances :
    (tables.addAssetBalance key delta).assetBalances = add tables.assetBalances key delta := rfl
@[simp] theorem addAssetBalance_legalRegister :
    (tables.addAssetBalance key delta).legalRegister = tables.legalRegister := rfl

@[simp] theorem addLegalRegister_institutions :
    (tables.addLegalRegister key delta).institutions = tables.institutions := rfl
@[simp] theorem addLegalRegister_products : (tables.addLegalRegister key delta).products = tables.products := rfl
@[simp] theorem addLegalRegister_credentials :
    (tables.addLegalRegister key delta).credentials = tables.credentials := rfl
@[simp] theorem addLegalRegister_evidence : (tables.addLegalRegister key delta).evidence = tables.evidence := rfl
@[simp] theorem addLegalRegister_transactions :
    (tables.addLegalRegister key delta).transactions = tables.transactions := rfl
@[simp] theorem addLegalRegister_cashSettlements :
    (tables.addLegalRegister key delta).cashSettlements = tables.cashSettlements := rfl
@[simp] theorem addLegalRegister_exceptionCases :
    (tables.addLegalRegister key delta).exceptionCases = tables.exceptionCases := rfl
@[simp] theorem addLegalRegister_idempotency :
    (tables.addLegalRegister key delta).idempotency = tables.idempotency := rfl
@[simp] theorem addLegalRegister_cashBalances :
    (tables.addLegalRegister key delta).cashBalances = tables.cashBalances := rfl
@[simp] theorem addLegalRegister_assetBalances :
    (tables.addLegalRegister key delta).assetBalances = tables.assetBalances := rfl
@[simp] theorem addLegalRegister_legalRegister :
    (tables.addLegalRegister key delta).legalRegister = add tables.legalRegister key delta := rfl

@[simp] theorem setCashSettlement_institutions :
    (tables.setCashSettlement settlement).institutions = tables.institutions := rfl
@[simp] theorem setCashSettlement_products :
    (tables.setCashSettlement settlement).products = tables.products := rfl
@[simp] theorem setCashSettlement_credentials :
    (tables.setCashSettlement settlement).credentials = tables.credentials := rfl
@[simp] theorem setCashSettlement_evidence :
    (tables.setCashSettlement settlement).evidence = tables.evidence := rfl
@[simp] theorem setCashSettlement_transactions :
    (tables.setCashSettlement settlement).transactions = tables.transactions := rfl
@[simp] theorem setCashSettlement_cashSettlements :
    (tables.setCashSettlement settlement).cashSettlements = tables.cashSettlements.set settlement.transactionId
    settlement := rfl
@[simp] theorem setCashSettlement_exceptionCases :
    (tables.setCashSettlement settlement).exceptionCases = tables.exceptionCases := rfl
@[simp] theorem setCashSettlement_idempotency :
    (tables.setCashSettlement settlement).idempotency = tables.idempotency := rfl
@[simp] theorem setCashSettlement_cashBalances :
    (tables.setCashSettlement settlement).cashBalances = tables.cashBalances := rfl
@[simp] theorem setCashSettlement_assetBalances :
    (tables.setCashSettlement settlement).assetBalances = tables.assetBalances := rfl
@[simp] theorem setCashSettlement_legalRegister :
    (tables.setCashSettlement settlement).legalRegister = tables.legalRegister := rfl

@[simp] theorem setTransaction_institutions :
    (tables.setTransaction transaction).institutions = tables.institutions := rfl
@[simp] theorem setTransaction_products : (tables.setTransaction transaction).products = tables.products := rfl
@[simp] theorem setTransaction_credentials :
    (tables.setTransaction transaction).credentials = tables.credentials := rfl
@[simp] theorem setTransaction_evidence : (tables.setTransaction transaction).evidence = tables.evidence := rfl
@[simp] theorem setTransaction_transactions :
    (tables.setTransaction transaction).transactions = tables.transactions.set transaction.id transaction := rfl
@[simp] theorem setTransaction_cashSettlements :
    (tables.setTransaction transaction).cashSettlements = tables.cashSettlements := rfl
@[simp] theorem setTransaction_exceptionCases :
    (tables.setTransaction transaction).exceptionCases = tables.exceptionCases := rfl
@[simp] theorem setTransaction_idempotency :
    (tables.setTransaction transaction).idempotency = tables.idempotency := rfl
@[simp] theorem setTransaction_cashBalances :
    (tables.setTransaction transaction).cashBalances = tables.cashBalances := rfl
@[simp] theorem setTransaction_assetBalances :
    (tables.setTransaction transaction).assetBalances = tables.assetBalances := rfl
@[simp] theorem setTransaction_legalRegister :
    (tables.setTransaction transaction).legalRegister = tables.legalRegister := rfl

@[simp] theorem setCase_institutions : (tables.setCase exceptionCase).institutions = tables.institutions := rfl
@[simp] theorem setCase_products : (tables.setCase exceptionCase).products = tables.products := rfl
@[simp] theorem setCase_credentials : (tables.setCase exceptionCase).credentials = tables.credentials := rfl
@[simp] theorem setCase_evidence : (tables.setCase exceptionCase).evidence = tables.evidence := rfl
@[simp] theorem setCase_transactions : (tables.setCase exceptionCase).transactions = tables.transactions := rfl
@[simp] theorem setCase_cashSettlements :
    (tables.setCase exceptionCase).cashSettlements = tables.cashSettlements := rfl
@[simp] theorem setCase_exceptionCases :
    (tables.setCase exceptionCase).exceptionCases = tables.exceptionCases.set exceptionCase.id exceptionCase := rfl
@[simp] theorem setCase_idempotency : (tables.setCase exceptionCase).idempotency = tables.idempotency := rfl
@[simp] theorem setCase_cashBalances : (tables.setCase exceptionCase).cashBalances = tables.cashBalances := rfl
@[simp] theorem setCase_assetBalances : (tables.setCase exceptionCase).assetBalances = tables.assetBalances := rfl
@[simp] theorem setCase_legalRegister : (tables.setCase exceptionCase).legalRegister = tables.legalRegister := rfl

end Fields

section Hashes

/-- An object without BigInt has a hash. -/
theorem sha256Canonical_object {members : List (String × JsValue)} (h : hasBigIntMembers members = false) :
    ∃ hash, sha256Canonical platform (.object members) = .ok hash := by
  obtain ⟨text, htext⟩ := @canonicalize_object_eq_some platform.numberText members h
  exact ⟨platform.sha256 text, by rw [sha256Canonical, htext]⟩

theorem sha256Canonical_bigint {members : List (String × JsValue)} (h : hasBigIntMembers members = true) :
    ∃ failure, sha256Canonical platform (.object members) = .error failure := by
  have hfails := @canonicalize_isOk platform.numberText (.object members)
  rw [hasBigInt, h] at hfails
  unfold sha256Canonical
  cases hrun : canonicalize platform.numberText (.object members) with
  | error message => exact ⟨_, rfl⟩
  | ok text => simp [hrun, Except.isOk, Except.toBool] at hfails

private theorem hasBigInt_rules {rules : FiniteRules} : hasBigInt rules.value = hasBigIntMembers rules.extra := by
  have hclasses : hasBigIntItems (rules.allowedInvestorClasses.map JsValue.string) = false :=
    hasBigIntItems_of_forall (by simp [hasBigInt])
  have hjurisdictions : hasBigIntItems (rules.allowedJurisdictions.map JsValue.string) = false :=
    hasBigIntItems_of_forall (by simp [hasBigInt])
  rw [FiniteRules.value, hasBigInt, hasBigIntMembers_append]
  simp [hasBigIntMembers, hasBigInt, hclasses, hjurisdictions]

/-- A policy snapshot has a hash exactly when its rules can be canonicalized. -/
private theorem policySnapshotHash_cases {found : Product} {nav : StoredEvidence} :
    (found.rules.canonicalizes = false ∧ ∃ failure, policySnapshotHash platform found nav = .error failure) ∨
      found.rules.canonicalizes = true ∧ ∃ hash, policySnapshotHash platform found nav = .ok hash := by
  cases hcycle : found.rules.cycle with
  | some message =>
    exact Or.inl ⟨by simp [ProductRules.canonicalizes, hcycle], _, by rw [policySnapshotHash, hcycle]⟩
  | none =>
    have hsame : found.rules.canonicalizes = !hasBigIntMembers found.rules.extra := by
      rw [ProductRules.canonicalizes, hcycle, Option.isNone_none, Bool.true_and]
    have hmembers : hasBigIntMembers [("ruleVersion", .number found.ruleVersion), ("rules", found.rules.value),
        ("navEvidenceId", .string nav.id), ("navEffectiveAt", .string nav.effectiveAt),
        ("navExpiresAt", .string nav.expiresAt), ("navSchemaVersion", .string nav.schemaVersion)] =
          hasBigIntMembers found.rules.extra := by
      simp [hasBigIntMembers, hasBigInt, @hasBigInt_rules found.rules.toFiniteRules]
    rw [hsame, policySnapshotHash, hcycle]
    cases hextra : hasBigIntMembers found.rules.extra with
    | true => exact Or.inl ⟨rfl, sha256Canonical_bigint (hmembers.trans hextra)⟩
    | false => exact Or.inr ⟨rfl, sha256Canonical_object (hmembers.trans hextra)⟩

/-- The policy snapshot fails exactly for rules that cannot be canonicalized. -/
theorem policySnapshot_run {found : Product} {nav : StoredEvidence} :
    (found.rules.canonicalizes = false ∧
      ∃ failure, policySnapshot platform found nav plane = (.error failure, plane)) ∨
    (found.rules.canonicalizes = true ∧
      ∃ policy, policySnapshot platform found nav plane = (.ok policy, plane) ∧ policy.navEvidenceId = nav.id) := by
  obtain ⟨hfails, failure, hfailure⟩ | ⟨hholds, hash, hhash⟩ := @policySnapshotHash_cases platform found nav
  · exact Or.inl ⟨hfails, failure, by rw [policySnapshot, hfailure]; rfl⟩
  · exact Or.inr ⟨hholds, _, by rw [policySnapshot, hhash]; rfl, rfl⟩

private theorem hasBigInt_privateBody {data : TransactionData} : hasBigInt data.privateBody = false := by
  unfold TransactionData.privateBody
  cases data.sellerId <;> cases data.buyerId <;> cases data.pricePerUnit <;> cases data.fee <;> cases data.expiresAt <;>
    rfl

theorem commitmentText_run {data : TransactionData} {salt : String} :
    ∃ commitment, commitmentText platform data.privateBody salt = .ok commitment := by
  obtain ⟨text, htext⟩ := (@canonicalize_eq_ok_iff platform.numberText _).mpr (@hasBigInt_privateBody data)
  exact ⟨_, by rw [commitmentText, htext]⟩

private theorem hasBigInt_immutableCore {transaction : Transaction} {cashControl : Option CashSettlement} :
    hasBigInt (immutableCore transaction cashControl) = false := by
  have hlifecycle : hasBigIntItems ((transaction.lifecycle.filter fun item => item.state ∈ creationStates).map
      fun item => .object [("state", .string item.state.text), ("at", .string item.time)]) = false := by
    apply hasBigIntItems_of_forall
    intro item hitem
    obtain ⟨_, _, rfl⟩ := List.mem_map.mp hitem
    rfl
  cases cashControl with
  | none => simp [immutableCore, hasBigInt, hasBigIntMembers, hlifecycle]
  | some cash => simp [immutableCore, hasBigInt, hasBigIntMembers, hlifecycle]

/-- The receipt of a stored transaction. -/
theorem publicReceipt_run {transaction : Transaction} (h : plane.transactions.get transaction.id = some transaction) :
    ∃ receipt, publicReceipt platform transaction plane = (.ok receipt, plane) ∧
      receipt.transactionId = transaction.id ∧ receipt.state = transaction.state ∧ receipt.type = transaction.type := by
  have hcore := @hasBigInt_immutableCore transaction (plane.cashSettlements.get transaction.id)
  have hobject : ∃ members, immutableCore transaction (plane.cashSettlements.get transaction.id) = .object members :=
    ⟨_, rfl⟩
  obtain ⟨members, hmembers⟩ := hobject
  rw [hmembers, hasBigInt] at hcore
  obtain ⟨hash, hhash⟩ := @sha256Canonical_object platform _ hcore
  rw [← hmembers] at hhash
  have hpackage : evidencePackageHash platform transaction.id plane = (.ok hash, plane) := by
    simp only [evidencePackageHash, read_bind, h]
    exact congrArg (fun outcome => (outcome, plane)) hhash
  refine ⟨_, bind_of_ok hpackage, rfl, rfl, rfl⟩

end Hashes

end rwa.control_plane
