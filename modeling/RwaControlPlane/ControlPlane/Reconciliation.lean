import RwaControlPlane.ControlPlane.History
import RwaControlPlane.Library.Decimal

open attempt js_map js_value

namespace rwa.control_plane

/-- `key.endsWith(":" + productId)` -/
def EndsWith (key productId : String) : Prop := (":" ++ productId).toList <:+ key.toList

instance {key productId : String} : Decidable (EndsWith key productId) :=
  inferInstanceAs (Decidable (_ <:+ _))

def totalForProduct (ledger : JsMap String Int) (productId : String) : Int :=
  ledger.total fun key units => if EndsWith key productId then units else 0

inductive OverallStatus
  | reconciliationException | attentionRequired | sandboxControlled
deriving DecidableEq

structure ReconciliationReport where
  productId : String
  confidentialAssetUnits : String
  legalRegisterUnits : String
  assetRegisterMatched : Bool
  cashExpectedCount : Nat
  cashConfirmedCount : Nat
  cashControlMode : String
  cashConfirmed : Bool
  openExceptionCount : Nat
  matched : Bool
  overallStatus : OverallStatus
  checkedAt : String
deriving DecidableEq

def CaseStatus.isResolved : CaseStatus → Bool
  | .resolvedRetried | .resolvedCancelled => true
  | .opened | .pendingApproval => false

def Tables.settledOf (tables : Tables) (productId : String) : List Transaction :=
  tables.transactions.values.filter fun item => item.productId = productId ∧ item.state = .settled

def reconcile (platform : Platform) (productId : String) : Step ReconciliationReport := do
  let _ ← product productId
  let tables ← read (·.toTables)
  let asset := totalForProduct tables.assetBalances productId
  let register := totalForProduct tables.legalRegister productId
  let settledTransactions := tables.settledOf productId
  let confirmedCashSettlements := settledTransactions.filter fun item =>
    (tables.cashSettlements.get item.id).any (·.state = .confirmed)
  let openExceptionCount := (tables.exceptionCases.values.filter fun item =>
    item.productId = productId ∧ item.status.isResolved = false).length
  let assetRegisterMatched := decide (asset = register)
  let cashConfirmed := decide (confirmedCashSettlements.length = settledTransactions.length)
  let accountingControlsMatched := assetRegisterMatched && cashConfirmed
  let time ← now
  return {
    productId
    confidentialAssetUnits := toString asset
    legalRegisterUnits := toString register
    assetRegisterMatched
    cashExpectedCount := settledTransactions.length
    cashConfirmedCount := confirmedCashSettlements.length
    cashControlMode := "SANDBOX_JOURNAL_NOT_BANK_RECEIPT"
    cashConfirmed
    openExceptionCount
    matched := accountingControlsMatched
    overallStatus :=
      if accountingControlsMatched = false then .reconciliationException
      else if 0 < openExceptionCount then .attentionRequired
      else .sandboxControlled
    checkedAt := platform.isoText time }

/-- Units of a settled transaction of a product that a holder received, less those
that the holder gave. -/
def Transaction.unitsOf (holder productId : String) (transaction : Transaction) : Int :=
  if transaction.productId = productId ∧ transaction.state = .settled then
    (if transaction.buyerId = some holder then transaction.units else 0) -
      (if transaction.sellerId = some holder then transaction.units else 0)
  else 0

/-- Units of a product that a holder has by its own settled transactions. -/
def Tables.unitsOf (holder productId : String) (tables : Tables) : Int :=
  tables.transactions.total fun _ transaction => transaction.unitsOf holder productId

/-- Net units of the settled transactions of a product. -/
def Tables.netUnits (productId : String) (tables : Tables) : Int :=
  tables.settledUnits .subscribe productId - tables.settledUnits .redeem productId

/-- What `reconcile` reports for a product is the net units of its settled
transactions, and the balance of every holder is what its own settled transactions of
the product add up to. -/
def ReconcilesExactly (platform : Platform) (plane : ControlPlane) : Prop :=
  ∀ productId report reached, reconcile platform productId plane = (.ok report, reached) →
    report.confidentialAssetUnits = toString (plane.netUnits productId) ∧
    report.legalRegisterUnits = toString (plane.netUnits productId) ∧
    ∀ holder, balanceOf plane.assetBalances (balanceKey holder productId) = plane.unitsOf holder productId

/-- The holders whose balances a command changes. -/
def Command.holders : Command → List String
  | .subscribe command => [command.investorId]
  | .transfer command => [command.sellerId, command.buyerId]
  | .redeem command => [command.investorId]
  | .simulateRegisterFailure _ => []

/-- A command that changes balances has a policy with a hash, and no key that it
changes ends with the id of another product. -/
def Command.Separated (command : Command) (passed : Passed) (tables : Tables) : Prop :=
  ∀ holder ∈ command.holders, passed.product.rules.canonicalizes = true ∧
    ∀ other, tables.products.has other = true → other ≠ command.productId →
      ¬EndsWith (balanceKey holder command.productId) other

/-- Balances and products are told apart: a product that is created finds no units
under a key that ends with its id, and the settlement that a call makes, if its checks
pass, is separated. -/
def Separated (platform : Platform) (plane : ControlPlane) (action : Action) : Prop :=
  (∀ command product, action.call = .createProduct command →
    (respond platform plane action).1 = .ok (.created product) →
      ∀ key units, plane.assetBalances.get key = some units → EndsWith key command.id → units = 0) ∧
  ∀ command state passed, action.call.settlement platform (plane.atTime action.now) = some (command, state) →
    command.Settles platform state passed → command.Separated passed plane.toTables

variable {platform : Platform} {plane final : ControlPlane}

section Keys

variable {holder other productId asset key : String} {ledger : JsMap String Int} {delta : Int}

theorem endsWith_iff : EndsWith key productId ↔ ∃ holder, key = balanceKey holder productId := by
  have hkey : ∀ holder, (balanceKey holder productId).toList = holder.toList ++ (":" ++ productId).toList := by
    intro holder
    rw [show balanceKey holder productId = holder ++ (":" ++ productId) from String.append_assoc ..,
      String.toList_append]
  constructor
  · rintro ⟨front, hfront⟩
    refine ⟨String.ofList front, String.toList_injective ?_⟩
    rw [hkey, String.toList_ofList, hfront]
  · rintro ⟨holder, rfl⟩
    exact ⟨holder.toList, (hkey holder).symm⟩

theorem totalForProduct_add : totalForProduct (add ledger key delta) productId =
    totalForProduct ledger productId + if EndsWith key productId then delta else 0 := by
  unfold totalForProduct add balanceOf
  rw [total_set]
  by_cases hends : EndsWith key productId
  · cases ledger.get key <;> simp [hends]
    omega
  · cases ledger.get key <;> simp [hends]

/-- A total over balances that are zero is zero. -/
theorem totalForProduct_eq_zero (h : ∀ key units, ledger.get key = some units → EndsWith key productId → units = 0) :
    totalForProduct ledger productId = 0 := by
  rw [totalForProduct, JsMap.total]
  refine List.sum_eq_zero fun units hmem => ?_
  obtain ⟨⟨key, amount⟩, hentry, rfl⟩ := List.mem_map.mp hmem
  dsimp only
  split
  · next hends => exact h key amount (mem_entries.mp hentry) hends
  · rfl

/-- Texts of integers can be told apart. -/
theorem toString_int_injective {first second : Int} (h : toString first = toString second) : first = second := by
  -- no natural number starts with a sign
  have hsign : ∀ number other : Nat, number.repr ≠ "-" ++ other.repr := by
    intro number other heq
    have hmem : '-' ∈ number.repr.toList := by
      rw [heq, String.toList_append]
      exact List.mem_append_left _ (by decide)
    rw [Nat.toList_repr] at hmem
    exact absurd (Nat.isDigit_of_mem_toDigits (by decide) (by decide) hmem) (by decide)
  rw [Int.toString_eq_repr, Int.toString_eq_repr, Int.repr_eq_if, Int.repr_eq_if] at h
  split at h
  · split at h
    · have := decimal.repr_injective h
      omega
    · exact absurd h (hsign _ _)
  · split at h
    · exact absurd h.symm (hsign _ _)
    · have hlist := congrArg String.toList h
      rw [String.toList_append, String.toList_append] at hlist
      have := decimal.repr_injective (String.toList_injective (List.append_cancel_left hlist))
      omega

end Keys

/-- The totals and the balances of all products are those of the settled
transactions. -/
structure Tables.Exact (tables : Tables) : Prop where
  totals : ∀ productId, tables.products.has productId = true →
    totalForProduct tables.assetBalances productId = tables.netUnits productId
  holdings : ∀ productId, tables.products.has productId = true → ∀ holder,
    balanceOf tables.assetBalances (balanceKey holder productId) = tables.unitsOf holder productId

section Report

variable {productId : String}

theorem reconcile_known {found : Product} (h : plane.products.get productId = some found) :
    ∃ report, reconcile platform productId plane = (.ok report, plane) ∧
      report.confidentialAssetUnits = toString (totalForProduct plane.assetBalances productId) ∧
      report.legalRegisterUnits = toString (totalForProduct plane.legalRegister productId) := by
  have hproduct : product productId plane = (.ok found, plane) := by
    rw [product, read_bind, h]
    rfl
  refine ⟨_, bind_of_ok hproduct, rfl, rfl⟩

theorem reconcile_unknown (h : plane.products.get productId = none) :
    ∃ failure, reconcile platform productId plane = (.error failure, plane) := by
  have hproduct : product productId plane = (.error ⟨"UNKNOWN_PRODUCT", "product not found"⟩, plane) := by
    rw [product, read_bind, h]
    rfl
  exact ⟨_, bind_of_error hproduct⟩

theorem reconcilesExactly_iff (hsound : plane.toTables.Sound) :
    ReconcilesExactly platform plane ↔ plane.toTables.Exact := by
  constructor
  · intro hexact
    have hreport : ∀ productId, plane.products.has productId = true →
        toString (totalForProduct plane.assetBalances productId) = toString (plane.netUnits productId) ∧
        ∀ holder, balanceOf plane.assetBalances (balanceKey holder productId) = plane.unitsOf holder productId := by
      intro productId hknown
      obtain ⟨found, hfound⟩ := Option.isSome_iff_exists.mp hknown
      obtain ⟨report, hrun, hasset, -⟩ := @reconcile_known platform plane productId found hfound
      obtain ⟨hunits, -, hholdings⟩ := hexact productId report plane hrun
      exact ⟨hasset.symm.trans hunits, hholdings⟩
    exact ⟨fun productId hknown => toString_int_injective (hreport productId hknown).1,
      fun productId hknown => (hreport productId hknown).2⟩
  · intro hexact productId report reached hrun
    cases hfound : plane.products.get productId with
    | none =>
      obtain ⟨failure, hfails⟩ := @reconcile_unknown platform plane productId hfound
      rw [hfails] at hrun
      cases hrun
    | some found =>
      have hknown : plane.products.has productId = true := Option.isSome_iff_exists.mpr ⟨found, hfound⟩
      obtain ⟨known, hknownRun, hasset, hregister⟩ := @reconcile_known platform plane productId found hfound
      rw [hknownRun] at hrun
      obtain ⟨hreport, rfl⟩ := Prod.mk.inj hrun
      obtain rfl := Except.ok.inj hreport
      rw [hasset, hregister, hsound.mirrored, hexact.totals productId hknown]
      exact ⟨rfl, rfl, hexact.holdings productId hknown⟩

end Report

/-- Tables with the same balances and units, and with the same products. -/
structure Tables.SameUnits (first second : Tables) : Prop where
  balances : first.assetBalances = second.assetBalances
  products : ∀ productId, first.products.has productId = second.products.has productId
  net : ∀ productId, first.netUnits productId = second.netUnits productId
  units : ∀ holder productId, first.unitsOf holder productId = second.unitsOf holder productId

theorem Tables.SameUnits.exact_iff {first second : Tables} (h : first.SameUnits second) :
    first.Exact ↔ second.Exact := by
  constructor
  · intro hexact
    refine ⟨fun productId hknown => ?_, fun productId hknown holder => ?_⟩
    · rw [← h.balances, ← h.net]
      exact hexact.totals productId ((h.products productId).trans hknown)
    · rw [← h.balances, ← h.units]
      exact hexact.holdings productId ((h.products productId).trans hknown) holder
  · intro hexact
    refine ⟨fun productId hknown => ?_, fun productId hknown holder => ?_⟩
    · rw [h.balances, h.net]
      exact hexact.totals productId ((h.products productId).symm.trans hknown)
    · rw [h.balances, h.units]
      exact hexact.holdings productId ((h.products productId).symm.trans hknown) holder

/-- What every run keeps: transactions are of known products, and the transaction of
an exception case is not settled. -/
structure Tables.Traceable (tables : Tables) : Prop where
  sound : tables.Sound
  known : ∀ id transaction, tables.transactions.get id = some transaction →
    tables.products.has transaction.productId = true
  reviewed : ∀ id exceptionCase, tables.exceptionCases.get id = some exceptionCase →
    ∀ transaction, tables.transactions.get exceptionCase.transactionId = some transaction →
      transaction.state ≠ .settled

section Transactions

variable {tables : Tables} {holder productId : String}

/-- A new transaction adds its units, if it settled. -/
theorem unitsOf_new {transaction : Transaction} (h : tables.transactions.get transaction.id = none) :
    (tables.setTransaction transaction).unitsOf holder productId =
      tables.unitsOf holder productId + transaction.unitsOf holder productId := by
  rw [Tables.unitsOf, setTransaction_transactions, total_set, h]
  simp [Tables.unitsOf]

/-- A transaction that is not settled, and does not become so, has no units. -/
theorem sameUnits_inState (hsound : tables.Sound) {id : String} {original : Transaction}
    (horiginal : tables.transactions.get id = some original) (hopen : original.state ≠ .settled)
    {state : TransactionState} (hstate : state ≠ .settled) {lifecycle : List Transition} :
    (tables.setTransaction (original.inState state lifecycle)).SameUnits tables := by
  have hid := hsound.transactions id original horiginal
  have hget : tables.transactions.get (original.inState state lifecycle).id = some original := by
    rw [← horiginal, ← hid]
    rfl
  constructor
  case balances => rfl
  case products => exact fun _ => rfl
  case net =>
    intro productId
    rw [Tables.netUnits, Tables.netUnits, Tables.settledUnits, Tables.settledUnits,
      setTransaction_transactions, total_set, total_set, hget]
    simp [Tables.settledUnits, Transaction.settledUnits, Transaction.inState, hopen, hstate]
  case units =>
    intro holder productId
    rw [Tables.unitsOf, setTransaction_transactions, total_set, hget]
    simp [Tables.unitsOf, Transaction.unitsOf, Transaction.inState, hopen, hstate]

/-- A known transaction keeps what holds of every run when its state changes, but
not to settled. -/
theorem traceable_inState (h : tables.Traceable) {id : String} {original : Transaction}
    (horiginal : tables.transactions.get id = some original) {state : TransactionState} (hstate : state ≠ .settled)
    {lifecycle : List Transition} : (tables.setTransaction (original.inState state lifecycle)).Traceable := by
  refine ⟨setTransaction_sound h.sound horiginal, ?_, ?_⟩
  · intro other transaction hget
    rw [setTransaction_transactions, get_set] at hget
    split at hget
    · obtain rfl := Option.some.inj hget
      exact h.known id original horiginal
    · exact h.known other transaction hget
  · intro caseId exceptionCase hcase transaction hget
    rw [setTransaction_transactions, get_set] at hget
    split at hget
    · obtain rfl := Option.some.inj hget
      exact hstate
    · exact h.reviewed caseId exceptionCase hcase transaction hget

/-- A case may change, but not to another transaction. -/
theorem traceable_setCase (h : tables.Traceable) {exceptionCase changed : ExceptionCase}
    (hsound : (tables.setCase changed).Sound) (hcase : tables.exceptionCases.get exceptionCase.id = some exceptionCase)
    (htransaction : changed.transactionId = exceptionCase.transactionId) : (tables.setCase changed).Traceable := by
  refine ⟨hsound, h.known, ?_⟩
  intro caseId stored hget transaction htransactionGet
  rw [setCase_exceptionCases, get_set] at hget
  split at hget
  · obtain rfl := Option.some.inj hget
    exact h.reviewed _ _ hcase transaction (htransaction ▸ htransactionGet)
  · exact h.reviewed caseId stored hget transaction htransactionGet

end Transactions

/-- What a settlement changes: the holders of its command get or give units, and the
stored transaction says so. -/
structure Command.Moves (plane : ControlPlane) (command : Command) (passed : Passed) (product : String)
    (deltas : List (String × Int)) : Prop where
  ofProduct : command.productId = product
  holders : deltas.map Prod.fst = command.holders
  distinct : command.holders.Nodup
  nonzero : ∀ delta ∈ deltas, delta.2 ≠ 0
  balances : ∀ key, balanceOf (passed.moved plane.toTables).assetBalances key = balanceOf plane.assetBalances key +
    (deltas.map fun delta => if balanceKey delta.1 product = key then delta.2 else 0).sum
  totals : ∀ productId, totalForProduct (passed.moved plane.toTables).assetBalances productId =
    totalForProduct plane.assetBalances productId +
      (deltas.map fun delta => if EndsWith (balanceKey delta.1 product) productId then delta.2 else 0).sum
  net : ∀ policy settledAt lifecycle commitment productId,
    ((passed.data policy).transaction passed.state settledAt lifecycle commitment).settledUnits .subscribe productId -
        ((passed.data policy).transaction passed.state settledAt lifecycle commitment).settledUnits .redeem productId =
      (deltas.map fun delta => if product = productId then delta.2 else 0).sum
  units : ∀ policy settledAt lifecycle commitment productId holder,
    ((passed.data policy).transaction passed.state settledAt lifecycle commitment).unitsOf holder productId =
      (deltas.map fun delta => if product = productId ∧ delta.1 = holder then delta.2 else 0).sum

/-- Every settlement changes balances so. -/
theorem Command.Settles.moves {command : Command} {passed : Passed} (h : command.Settles platform plane passed) :
    ∃ deltas, command.Moves plane passed command.productId deltas := by
  suffices hmoves : ∃ product deltas, command.Moves plane passed product deltas by
    obtain ⟨product, deltas, hmoves⟩ := hmoves
    obtain rfl := hmoves.ofProduct
    exact ⟨deltas, hmoves⟩
  cases command with
  | subscribe command =>
    obtain ⟨plan, hchecked, rfl⟩ := settles_subscribe h
    have hunits := hchecked.positive
    refine ⟨command.productId, [(command.investorId, plan.units)], rfl, rfl, List.nodup_singleton _, ?_, ?_, ?_, ?_, ?_⟩
    · simp only [List.mem_singleton, forall_eq]
      omega
    · intro key
      simp only [SubscribeCommand.passed, Tables.subscribed, addLegalRegister_assetBalances,
        addAssetBalance_assetBalances, setCashSettlement_assetBalances, addCash_assetBalances]
      rw [balanceOf_add]
      simp [eq_comm]
    · intro productId
      simp only [SubscribeCommand.passed, Tables.subscribed, addLegalRegister_assetBalances,
        addAssetBalance_assetBalances, setCashSettlement_assetBalances, addCash_assetBalances]
      rw [totalForProduct_add]
      simp
    · intro policy settledAt lifecycle commitment productId
      simp [Transaction.settledUnits, TransactionData.transaction, SubscribeCommand.passed, SubscribeCommand.data]
    · intro policy settledAt lifecycle commitment productId holder
      simp [Transaction.unitsOf, TransactionData.transaction, SubscribeCommand.passed, SubscribeCommand.data, ite_and]
  | transfer command =>
    obtain ⟨plan, hchecked, rfl⟩ := settles_transfer h
    have hunits := hchecked.positive.1
    refine ⟨command.productId, [(command.sellerId, -plan.units), (command.buyerId, plan.units)], rfl, rfl, ?_, ?_,
      ?_, ?_, ?_, ?_⟩
    · simpa [Command.holders] using hchecked.parties
    · simp only [List.forall_mem_cons, List.not_mem_nil, false_implies, implies_true, and_true]
      omega
    · intro key
      simp only [TransferCommand.passed, Tables.transferred, addLegalRegister_assetBalances,
        addAssetBalance_assetBalances, setCashSettlement_assetBalances, addCash_assetBalances]
      rw [balanceOf_add, balanceOf_add]
      simp [eq_comm]
      omega
    · intro productId
      simp only [TransferCommand.passed, Tables.transferred, addLegalRegister_assetBalances,
        addAssetBalance_assetBalances, setCashSettlement_assetBalances, addCash_assetBalances]
      rw [totalForProduct_add, totalForProduct_add]
      simp
      omega
    · intro policy settledAt lifecycle commitment productId
      simp [Transaction.settledUnits, TransactionData.transaction, TransferCommand.passed, TransferCommand.data]
      split <;> omega
    · intro policy settledAt lifecycle commitment productId holder
      by_cases hproduct : command.productId = productId
      · by_cases hseller : command.sellerId = holder
        · simp [Transaction.unitsOf, TransactionData.transaction, TransferCommand.passed,
            TransferCommand.data, hproduct, hseller]
          omega
        · simp [Transaction.unitsOf, TransactionData.transaction, TransferCommand.passed,
            TransferCommand.data, hproduct, hseller]
      · simp [Transaction.unitsOf, TransactionData.transaction, TransferCommand.passed, TransferCommand.data, hproduct]
  | redeem command =>
    obtain ⟨plan, hchecked, rfl⟩ := settles_redeem h
    have hunits := hchecked.positive
    refine ⟨command.productId, [(command.investorId, -plan.units)], rfl, rfl, List.nodup_singleton _, ?_,
      ?_, ?_, ?_, ?_⟩
    · simp only [List.mem_singleton, forall_eq]
      omega
    · intro key
      simp only [RedeemCommand.passed, Tables.redeemed, setCashSettlement_assetBalances, addCash_assetBalances,
        addLegalRegister_assetBalances, addAssetBalance_assetBalances]
      rw [balanceOf_add]
      simp [eq_comm]
    · intro productId
      simp only [RedeemCommand.passed, Tables.redeemed, setCashSettlement_assetBalances, addCash_assetBalances,
        addLegalRegister_assetBalances, addAssetBalance_assetBalances]
      rw [totalForProduct_add]
      simp
    · intro policy settledAt lifecycle commitment productId
      simp [Transaction.settledUnits, TransactionData.transaction, RedeemCommand.passed, RedeemCommand.data]
      split <;> omega
    · intro policy settledAt lifecycle commitment productId holder
      by_cases hproduct : command.productId = productId
      · by_cases hseller : command.investorId = holder
        · simp [Transaction.unitsOf, TransactionData.transaction, RedeemCommand.passed, RedeemCommand.data, hproduct,
            hseller]
        · simp [Transaction.unitsOf, TransactionData.transaction, RedeemCommand.passed, RedeemCommand.data, hproduct,
            hseller]
      · simp [Transaction.unitsOf, TransactionData.transaction, RedeemCommand.passed, RedeemCommand.data, hproduct]
  | simulateRegisterFailure command =>
    obtain ⟨plan, hchecked, rfl⟩ := settles_failure h
    refine ⟨command.productId, [], rfl, rfl, List.nodup_nil, List.forall_mem_nil _, ?_, ?_, ?_, ?_⟩
    · exact fun key => (Int.add_zero _).symm
    · exact fun productId => (Int.add_zero _).symm
    · intro policy settledAt lifecycle commitment productId
      simp [Transaction.settledUnits, TransactionData.transaction, TransferCommand.failed, TransferCommand.data]
    · intro policy settledAt lifecycle commitment productId holder
      simp [Transaction.unitsOf, TransactionData.transaction, TransferCommand.failed, TransferCommand.data]

section Settlements

variable {command : Command} {passed : Passed} {deltas : List (String × Int)} {tables : Tables}

/-- What a holder gets under a key is what is summed up for the key. -/
private theorem sum_deltas_of_mem {holder product : String} {units : Int} (hdistinct : (deltas.map Prod.fst).Nodup)
    (hmem : (holder, units) ∈ deltas) :
    (deltas.map fun delta => if balanceKey delta.1 product = balanceKey holder product then delta.2 else 0).sum =
      units := by
  induction deltas with
  | nil => cases hmem
  | cons delta rest ih =>
    rw [List.map_cons, List.nodup_cons] at hdistinct
    rw [List.map_cons, List.sum_cons]
    obtain rfl | hrest := List.mem_cons.mp hmem
    · rw [if_pos rfl, List.sum_eq_zero, Int.add_zero]
      intro value hvalue
      obtain ⟨other, hother, rfl⟩ := List.mem_map.mp hvalue
      refine if_neg fun hkey => hdistinct.1 ?_
      have hfirst := List.mem_map_of_mem (f := Prod.fst) hother
      rwa [balanceKey_left hkey] at hfirst
    · rw [ih hdistinct.2 hrest, if_neg, Int.zero_add]
      intro hkey
      refine hdistinct.1 ?_
      rw [balanceKey_left hkey]
      exact List.mem_map_of_mem hrest

/-- A sum over changes none of which counts. -/
private theorem sum_deltas_eq_zero {counts : String × Int → Prop} [DecidablePred counts]
    (h : ∀ delta ∈ deltas, ¬counts delta) : (deltas.map fun delta => if counts delta then delta.2 else 0).sum = 0 := by
  refine List.sum_eq_zero fun value hvalue => ?_
  obtain ⟨delta, hdelta, rfl⟩ := List.mem_map.mp hvalue
  exact if_neg (h delta hdelta)

/-- A settlement that is stored keeps totals and balances exact when its keys do not
end with the id of another product, and only then. -/
theorem Command.Moves.exact_iff (h : command.Moves plane passed command.productId deltas)
    (hexact : plane.toTables.Exact) (hbalances : tables.assetBalances = (passed.moved plane.toTables).assetBalances)
    (hproducts : ∀ productId, tables.products.has productId = plane.products.has productId)
    (hnet : ∀ productId, tables.netUnits productId = plane.netUnits productId +
      (deltas.map fun delta => if command.productId = productId then delta.2 else 0).sum)
    (hunits : ∀ productId holder, tables.unitsOf holder productId = plane.unitsOf holder productId +
      (deltas.map fun delta => if command.productId = productId ∧ delta.1 = holder then delta.2 else 0).sum) :
    tables.Exact ↔ ∀ holder ∈ command.holders, ∀ other, plane.products.has other = true → other ≠ command.productId →
      ¬EndsWith (balanceKey holder command.productId) other := by
  constructor
  · intro hnext holder hholder other hother hdiffers hends
    obtain ⟨clash, hclash⟩ := endsWith_iff.mp hends
    rw [← h.holders] at hholder
    obtain ⟨⟨_, units⟩, hdelta, rfl⟩ := List.mem_map.mp hholder
    -- the other product has a holder whose balance changes without a transaction
    have hbalance := hnext.holdings other ((hproducts other).trans hother) clash
    rw [hbalances, h.balances, hunits, hexact.holdings other hother clash, ← hclash,
      sum_deltas_of_mem (h.holders ▸ h.distinct) hdelta,
      sum_deltas_eq_zero fun delta _ hcounts => hdiffers hcounts.1.symm] at hbalance
    have hnonzero := h.nonzero _ hdelta
    dsimp only at hnonzero
    omega
  · intro hseparated
    have hends : ∀ productId, plane.products.has productId = true → ∀ delta ∈ deltas,
        (EndsWith (balanceKey delta.1 command.productId) productId ↔ command.productId = productId) := by
      intro productId hproduct delta hdelta
      constructor
      · intro hkey
        by_contra hdiffers
        have hholder : delta.1 ∈ command.holders := h.holders ▸ List.mem_map_of_mem hdelta
        exact hseparated _ hholder productId hproduct (fun heq => hdiffers heq.symm) hkey
      · rintro rfl
        exact endsWith_iff.mpr ⟨_, rfl⟩
    constructor
    · intro productId hproduct
      rw [hproducts] at hproduct
      rw [hbalances, h.totals, hnet, hexact.totals productId hproduct]
      refine congrArg (plane.netUnits productId + ·) (congrArg List.sum (List.map_congr_left fun delta hdelta => ?_))
      simp only [hends productId hproduct delta hdelta]
    · intro productId hproduct holder
      rw [hproducts] at hproduct
      rw [hbalances, h.balances, hunits, hexact.holdings productId hproduct]
      refine congrArg (plane.unitsOf holder productId + ·)
        (congrArg List.sum (List.map_congr_left fun delta hdelta => ?_))
      have hsame : balanceKey delta.1 command.productId = balanceKey holder productId ↔
          command.productId = productId ∧ delta.1 = holder := by
        constructor
        · intro hkey
          obtain rfl := (hends productId hproduct delta hdelta).mp (endsWith_iff.mpr ⟨holder, hkey⟩)
          exact ⟨rfl, balanceKey_left hkey⟩
        · rintro ⟨rfl, rfl⟩
          rfl
      simp only [hsame]

/-- A settlement that is not stored keeps balances exact only if it changes none. -/
theorem Command.Moves.holders_of_exact (h : command.Moves plane passed command.productId deltas)
    (hexact : plane.toTables.Exact) (hknown : plane.products.has command.productId = true)
    (hbalances : tables.assetBalances = (passed.moved plane.toTables).assetBalances)
    (hproducts : tables.products = plane.products) (htransactions : tables.transactions = plane.transactions)
    (hnext : tables.Exact) : command.holders = [] := by
  rw [← h.holders, List.map_eq_nil_iff, List.eq_nil_iff_forall_not_mem]
  rintro ⟨holder, units⟩ hdelta
  have hbalance := hnext.holdings command.productId (hproducts ▸ hknown) holder
  have hunits : tables.unitsOf holder command.productId = plane.unitsOf holder command.productId := by
    rw [Tables.unitsOf, htransactions]
    rfl
  rw [hbalances, h.balances, hunits, hexact.holdings _ hknown,
    sum_deltas_of_mem (h.holders ▸ h.distinct) hdelta] at hbalance
  have hnonzero := h.nonzero _ hdelta
  dsimp only at hnonzero
  omega

end Settlements

section Outcomes

variable {command : Command} {outcome : Except Failure Receipt}

/-- Where the stored transaction of a settlement is found, and where the others are. -/
private theorem executed_transactions {passed : Passed} (h : command.Settles platform plane passed)
    {policy : PolicySnapshot} {settledAt : Option String} {lifecycle : List Transition} {commitment : String} :
    ∀ id transaction,
      ((passed.moved plane.toTables).setTransaction
        ((passed.data policy).transaction passed.state settledAt lifecycle commitment)).transactions.get id =
          some transaction →
      id = command.id ∧ transaction = (passed.data policy).transaction passed.state settledAt lifecycle commitment ∨
        id ≠ command.id ∧ plane.transactions.get id = some transaction := by
  intro id transaction hget
  have hid : ((passed.data policy).transaction passed.state settledAt lifecycle commitment).id = command.id :=
    h.fresh_id.2 policy
  rw [setTransaction_transactions, ← (h.moved_records plane.toTables).transactions, get_set, hid] at hget
  split at hget
  · next hsame => exact Or.inl ⟨hsame, (Option.some.inj hget).symm⟩
  · next hdiffers => exact Or.inr ⟨hdiffers, hget⟩

private theorem data_productId {passed : Passed} (h : command.Settles platform plane passed) (policy : PolicySnapshot) :
    (passed.data policy).productId = command.productId := by
  cases command with
  | subscribe command =>
    obtain ⟨plan, _, rfl⟩ := settles_subscribe h
    rfl
  | transfer command =>
    obtain ⟨plan, _, rfl⟩ := settles_transfer h
    rfl
  | redeem command =>
    obtain ⟨plan, _, rfl⟩ := settles_redeem h
    rfl
  | simulateRegisterFailure command =>
    obtain ⟨plan, _, rfl⟩ := settles_failure h
    rfl

theorem Command.Outcome.traceable (h : command.Outcome platform plane outcome final)
    (htraceable : plane.toTables.Traceable) : final.toTables.Traceable := by
  have hsound := h.sound htraceable.sound
  cases h with
  | refused _ _ kept =>
    rw [show final.toTables = plane.toTables from congrArg Books.toTables kept]
    exact htraceable
  | replayed => exact htraceable
  | conflict => exact htraceable
  | @broken passed _ _ settles _ moved =>
    have hrecords := settles.moved_records plane.toTables
    rw [toTables_of_books moved] at hsound ⊢
    refine ⟨hsound, ?_, ?_⟩
    · rw [← hrecords.transactions, ← hrecords.products]
      exact htraceable.known
    · rw [← hrecords.transactions, ← hrecords.exceptionCases]
      exact htraceable.reviewed
  | @executed passed policy settledAt lifecycle commitment fingerprint receipt _ settles _ _ _ stored =>
    have hrecords := settles.moved_records plane.toTables
    have htransactions :=
      @executed_transactions platform plane command passed settles policy settledAt lifecycle commitment
    rw [toTables_of_books stored] at hsound ⊢
    refine ⟨hsound, ?_, ?_⟩
    · intro id transaction hget
      rw [setIdempotency_transactions, openCase_transactions] at hget
      rw [setIdempotency_products, openCase_products, setTransaction_products, ← hrecords.products]
      obtain ⟨-, rfl⟩ | ⟨-, hold⟩ := htransactions id transaction hget
      · have hproduct : ((passed.data policy).transaction passed.state settledAt lifecycle commitment).productId =
            command.productId := data_productId settles policy
        rw [hproduct]
        exact Option.isSome_iff_exists.mpr ⟨_, settles.product⟩
      · exact htraceable.known id transaction hold
    · intro caseId exceptionCase hcase transaction hget
      rw [setIdempotency_transactions, openCase_transactions] at hget
      rw [setIdempotency_exceptionCases] at hcase
      have hold : plane.exceptionCases.get caseId = some exceptionCase → transaction.state ≠ .settled := by
        intro hstored
        obtain ⟨-, original, horiginal, -⟩ := htraceable.sound.cases caseId exceptionCase hstored
        obtain ⟨hid, -⟩ | ⟨-, hfound⟩ := htransactions _ transaction hget
        · rw [hid, settles.fresh_id.1] at horiginal
          cases horiginal
        · exact htraceable.reviewed caseId exceptionCase hstored transaction hfound
      obtain ⟨hopened, _⟩ | ⟨terms, plan, rfl, _, hopened⟩ := settles.opened
      · rw [hopened, Tables.openCase, setTransaction_exceptionCases, ← hrecords.exceptionCases] at hcase
        exact hold hcase
      · rw [hopened, Tables.openCase, setCase_exceptionCases, setTransaction_exceptionCases, ← hrecords.exceptionCases,
          get_set] at hcase
        split at hcase
        · obtain rfl := Option.some.inj hcase
          obtain ⟨-, rfl⟩ | ⟨hdiffers, -⟩ := htransactions _ transaction hget
          · obtain ⟨failed, _, rfl⟩ := settles_failure settles
            exact TransactionState.noConfusion
          · exact absurd rfl hdiffers
        · exact hold hcase

/-- However a settlement ends, totals and balances stay exact exactly when it is
separated, if its checks pass. -/
theorem Command.Outcome.exact_iff (h : command.Outcome platform plane outcome final)
    (hexact : plane.toTables.Exact) :
    final.toTables.Exact ↔
      ∀ passed, command.Settles platform plane passed → command.Separated passed plane.toTables := by
  cases h with
  | refused _ refused kept =>
    rw [show final.toTables = plane.toTables from congrArg Books.toTables kept]
    exact iff_of_true hexact fun passed settles => absurd settles (refused passed)
  | @replayed previous _ found _ =>
    refine iff_of_true hexact fun passed settles => ?_
    rw [settles.fresh] at found
    cases found
  | @conflict previous _ found _ =>
    refine iff_of_true hexact fun passed settles => ?_
    rw [settles.fresh] at found
    cases found
  | @broken passed _ _ settles unhashed moved =>
    have hrecords := settles.moved_records plane.toTables
    have hknown : plane.products.has command.productId = true := Option.isSome_iff_exists.mpr ⟨_, settles.product⟩
    obtain ⟨deltas, hmoves⟩ := settles.moves
    rw [toTables_of_books moved]
    constructor
    · intro hnext other hother holder hholder
      rw [hmoves.holders_of_exact hexact hknown rfl hrecords.products.symm hrecords.transactions.symm hnext] at hholder
      cases hholder
    · intro hseparated
      -- a command that changes balances has a policy with a hash
      have hnone : command.holders = [] := by
        rw [List.eq_nil_iff_forall_not_mem]
        intro holder hholder
        rw [(hseparated passed settles holder hholder).1] at unhashed
        cases unhashed
      have hdeltas : deltas = [] := List.map_eq_nil_iff.mp (hmoves.holders.trans hnone)
      subst hdeltas
      refine (hmoves.exact_iff hexact rfl (fun _ => ?_) (fun _ => ?_) fun _ _ => ?_).mpr ?_
      · rw [← hrecords.products]
      · rw [Tables.netUnits, Tables.settledUnits, Tables.settledUnits, ← hrecords.transactions]
        exact (Int.add_zero _).symm
      · rw [Tables.unitsOf, ← hrecords.transactions]
        exact (Int.add_zero _).symm
      · rw [hnone]
        intro holder hholder
        cases hholder
  | @executed passed policy settledAt lifecycle commitment fingerprint receipt _ settles hashed _ _ stored =>
    have hrecords := settles.moved_records plane.toTables
    obtain ⟨deltas, hmoves⟩ := settles.moves
    have hfresh : (passed.moved plane.toTables).transactions.get
        ((passed.data policy).transaction passed.state settledAt lifecycle commitment).id = none := by
      rw [← hrecords.transactions]
      exact (congrArg _ (settles.fresh_id.2 policy)).trans settles.fresh_id.1
    rw [toTables_of_books stored]
    refine (hmoves.exact_iff hexact ?_ (fun _ => ?_) (fun productId => ?_) fun productId holder => ?_).trans ?_
    · rw [setIdempotency_assetBalances, openCase_assetBalances, setTransaction_assetBalances]
    · rw [setIdempotency_products, openCase_products, setTransaction_products, ← hrecords.products]
    · have hnew := fun type => @settledUnits_new _ _ type productId hfresh
      have hold : ∀ type, (passed.moved plane.toTables).settledUnits type productId =
          plane.settledUnits type productId := by
        intro type
        rw [Tables.settledUnits, ← hrecords.transactions]
        rfl
      have hnet := hmoves.net policy settledAt lifecycle commitment productId
      rw [Tables.netUnits, Tables.settledUnits, Tables.settledUnits, setIdempotency_transactions, openCase_transactions,
        ← Tables.settledUnits, ← Tables.settledUnits, hnew, hnew, hold, hold, Tables.netUnits]
      omega
    · have hold : (passed.moved plane.toTables).unitsOf holder productId = plane.unitsOf holder productId := by
        rw [Tables.unitsOf, ← hrecords.transactions]
        rfl
      rw [Tables.unitsOf, setIdempotency_transactions, openCase_transactions, ← Tables.unitsOf,
        unitsOf_new hfresh, hold, hmoves.units]
    · constructor
      · intro hseparated other hother holder hholder
        obtain rfl := settles.unique hother
        exact ⟨hashed, hseparated holder hholder⟩
      · intro hseparated holder hholder
        exact (hseparated passed settles holder hholder).2

variable {caseId checkerId : String} {resolved : Except Failure Resolved} {books : Books}

/-- A case and its transaction change together, and the transaction does not settle. -/
private theorem resolution_units {tables : Tables} (hsound : tables.Sound) {id : String} {original : Transaction}
    (horiginal : tables.transactions.get id = some original) (hopen : original.state ≠ .settled)
    {state : TransactionState} (hstate : state ≠ .settled) {lifecycle : List Transition} {changed : ExceptionCase} :
    ((tables.setTransaction (original.inState state lifecycle)).setCase changed).SameUnits tables :=
  have hsame := @sameUnits_inState tables hsound id original horiginal hopen state hstate lifecycle
  ⟨hsame.balances, hsame.products, hsame.net, hsame.units⟩

theorem ApprovalEnds.traceable (h : ApprovalEnds platform plane caseId checkerId resolved books)
    (htraceable : plane.toTables.Traceable) : books.toTables.Traceable := by
  have hsound := h.sound htraceable.sound
  cases h with
  | refused => exact htraceable
  | @cancelled exceptionCase _ original approvable =>
    obtain ⟨hid, -⟩ := htraceable.sound.cases _ _ approvable.found
    refine @traceable_setCase _ (traceable_inState htraceable approvable.stored TransactionState.noConfusion)
      exceptionCase _ hsound ?_ rfl
    rw [hid]
    exact approvable.found
  | @retry exceptionCase proposal original reviewed settled lifecycle transferred _ _ approvable _ _ review _
    transfer ends =>
    obtain ⟨hid, -⟩ := htraceable.sound.cases _ _ approvable.found
    have hopen := htraceable.reviewed _ _ approvable.found _ approvable.stored
    have hreviewed : reviewed.toTables.Traceable := by
      rw [toTables_of_books review]
      exact traceable_inState htraceable approvable.stored hopen
    have hsettled := transfer.traceable hreviewed
    have hstored : settled.transactions.get exceptionCase.transactionId =
        some (original.inState original.state lifecycle) := by
      apply transfer.keeps_transaction
      rw [toTables_of_books review, ← htraceable.sound.transactions _ _ approvable.stored]
      exact get_inState
    have hcase : settled.exceptionCases.get exceptionCase.id = some exceptionCase := by
      rw [transfer.keeps_cases Operation.noConfusion, toTables_of_books review, hid]
      exact approvable.found
    cases ends with
    | blocked =>
      exact traceable_setCase (@traceable_inState settled.toTables hsettled _ _ hstored .requiresReview
        TransactionState.noConfusion _) hsound hcase rfl
    | retried =>
      exact traceable_setCase (@traceable_inState settled.toTables hsettled _ _ hstored .replaced
        TransactionState.noConfusion _) hsound hcase rfl

/-- However an approval ends, totals and balances stay exact exactly when the transfer
that it retries is separated. -/
theorem ApprovalEnds.exact_iff (h : ApprovalEnds platform plane caseId checkerId resolved books)
    (htraceable : plane.toTables.Traceable) (hexact : plane.toTables.Exact) :
    books.toTables.Exact ↔ ∀ command state passed,
      (Call.approveExceptionResolution caseId checkerId).settlement platform plane = some (command, state) →
        command.Settles platform state passed → command.Separated passed plane.toTables := by
  cases h with
  | refused refused =>
    refine iff_of_true hexact fun command state passed hsettlement => ?_
    obtain ⟨exceptionCase, proposal, original, happrovable, -⟩ := settlement_approve_iff.mp hsettlement
    exact absurd happrovable (refused _ _ _)
  | @cancelled exceptionCase proposal original approvable cancel =>
    have hopen := htraceable.reviewed _ _ approvable.found _ approvable.stored
    refine iff_of_true ((resolution_units htraceable.sound approvable.stored hopen
      TransactionState.noConfusion).exact_iff.mpr hexact) fun command state passed hsettlement => ?_
    obtain ⟨_, _, _, hother, hretry, -⟩ := settlement_approve_iff.mp hsettlement
    obtain ⟨-, rfl, -⟩ := approvable.unique hother
    exact absurd cancel hretry
  | @retry exceptionCase proposal original reviewed settled lifecycle transferred _ _ approvable retry start review _
      transfer ends =>
    have hopen := htraceable.reviewed _ _ approvable.found _ approvable.stored
    have hreviewedTables := toTables_of_books review
    have hreviewed : reviewed.toTables.Exact := by
      rw [hreviewedTables]
      exact (sameUnits_inState htraceable.sound approvable.stored hopen hopen).exact_iff.mpr hexact
    have hstored : settled.transactions.get exceptionCase.transactionId =
        some (original.inState original.state lifecycle) := by
      apply transfer.keeps_transaction
      rw [hreviewedTables, ← htraceable.sound.transactions _ _ approvable.stored]
      exact get_inState
    have hsettledSound : settled.toTables.Sound := by
      refine transfer.sound ?_
      rw [hreviewedTables]
      exact setTransaction_sound htraceable.sound approvable.stored
    have hbooks : books.toTables.Exact ↔ settled.toTables.Exact := by
      cases ends with
      | blocked =>
        exact (@resolution_units settled.toTables hsettledSound _ _ hstored hopen .requiresReview
          TransactionState.noConfusion _ _).exact_iff
      | retried =>
        exact (@resolution_units settled.toTables hsettledSound _ _ hstored hopen .replaced
          TransactionState.noConfusion _ _).exact_iff
    rw [hbooks, transfer.exact_iff hreviewed]
    have hseparated : ∀ passed, (exceptionCase.retry proposal).Separated passed reviewed.toTables ↔
        (exceptionCase.retry proposal).Separated passed plane.toTables := by
      intro passed
      rw [hreviewedTables]
      rfl
    constructor
    · intro hall command state passed hsettlement hsettles
      obtain ⟨_, _, _, hother, -, rfl, rfl⟩ := settlement_approve_iff.mp hsettlement
      obtain ⟨rfl, rfl, rfl⟩ := approvable.unique hother
      rw [← start] at hsettles
      exact (hseparated passed).mp (hall passed hsettles)
    · intro hall passed hsettles
      refine (hseparated passed).mpr (hall _ reviewed passed ?_ hsettles)
      exact settlement_approve_iff.mpr ⟨_, _, _, approvable, retry, rfl, start⟩

end Outcomes

section Calls

/-- A product that is not known has no transactions. -/
private theorem units_unknown {tables : Tables} (htraceable : tables.Traceable) {productId : String}
    (hunknown : tables.products.get productId = none) :
    tables.netUnits productId = 0 ∧ ∀ holder, tables.unitsOf holder productId = 0 := by
  have hother : ∀ entry ∈ tables.transactions.entries, entry.2.productId ≠ productId := by
    rintro ⟨id, transaction⟩ hentry rfl
    have hknown := htraceable.known id transaction (mem_entries.mp hentry)
    rw [JsMap.has, hunknown] at hknown
    cases hknown
  have hsum : ∀ weight : String → Transaction → Int,
      (∀ id transaction, transaction.productId ≠ productId → weight id transaction = 0) →
        tables.transactions.total weight = 0 := by
    intro weight hweight
    refine List.sum_eq_zero fun value hvalue => ?_
    obtain ⟨entry, hentry, rfl⟩ := List.mem_map.mp hvalue
    exact hweight _ _ (hother entry hentry)
  refine ⟨?_, fun holder => hsum _ fun _ transaction hne => if_neg fun h => hne h.1⟩
  have hsettled : ∀ type, tables.settledUnits type productId = 0 :=
    fun type => hsum _ fun _ transaction hne => if_neg fun h => hne h.2.1
  rw [Tables.netUnits, hsettled, hsettled]
  rfl

/-- A product can be created exactly when no units are held under a key that ends with
its id. -/
private theorem created_exact_iff {tables : Tables} (htraceable : tables.Traceable)
    (hexact : tables.Exact) {id : String} {found : Product} (hfresh : tables.products.get id = none) :
    Tables.Exact { tables with products := tables.products.set id found } ↔
      ∀ key units, tables.assetBalances.get key = some units → EndsWith key id → units = 0 := by
  obtain ⟨hnet, hunits⟩ := units_unknown htraceable hfresh
  have hhas : ∀ productId, (tables.products.set id found).has productId = true ↔
      productId = id ∨ tables.products.has productId = true := by
    intro productId
    rw [JsMap.has, get_set]
    split
    · next hid => exact iff_of_true rfl (Or.inl hid)
    · next hid => exact ⟨Or.inr, fun h => h.resolve_left hid⟩
  constructor
  · intro hnext key units hget hends
    obtain ⟨holder, rfl⟩ := endsWith_iff.mp hends
    have hbalance := hnext.holdings id ((hhas id).mpr (Or.inl rfl)) holder
    change balanceOf tables.assetBalances _ = tables.unitsOf holder id at hbalance
    rwa [balanceOf, hget, Option.getD_some, hunits] at hbalance
  · intro hzero
    refine ⟨fun productId hproduct => ?_, fun productId hproduct holder => ?_⟩
    · change totalForProduct tables.assetBalances productId = tables.netUnits productId
      obtain rfl | hknown := (hhas productId).mp hproduct
      · rw [hnet]
        exact totalForProduct_eq_zero hzero
      · exact hexact.totals productId hknown
    · change balanceOf tables.assetBalances _ = tables.unitsOf holder productId
      obtain rfl | hknown := (hhas productId).mp hproduct
      · rw [hunits, balanceOf]
        cases hget : tables.assetBalances.get (balanceKey holder productId) with
        | none => rfl
        | some units => exact hzero _ _ hget (endsWith_iff.mpr ⟨holder, rfl⟩)
      · exact hexact.holdings productId hknown holder

/-- The status of a product does not matter for units. -/
private theorem status_units {tables : Tables} (hsound : tables.Sound) {productId : String} {found changed : Product}
    (hfound : tables.products.get productId = some found) :
    Tables.SameUnits { tables with products := tables.products.set found.id changed } tables := by
  refine ⟨rfl, fun other => ?_, fun _ => rfl, fun _ _ => rfl⟩
  rw [hsound.products _ _ hfound, JsMap.has, JsMap.has, get_set]
  split
  · next hother =>
    rw [hother, hfound]
    rfl
  · rfl

theorem CallEnds.traceable {call : Call} {outcome : Except Failure Reply} {books : Books}
    (h : CallEnds platform plane call outcome books) (htraceable : plane.toTables.Traceable) :
    books.toTables.Traceable := by
  have hsound := h.sound htraceable.sound
  cases h with
  | refused => exact htraceable
  | registered | credential | revoked | evidence | credited => exact ⟨hsound, htraceable.known, htraceable.reviewed⟩
  | @created command =>
    refine ⟨hsound, fun id transaction hget => ?_, htraceable.reviewed⟩
    have hknown := htraceable.known id transaction hget
    change (plane.products.set command.id _).has _ = true
    rw [JsMap.has, get_set]
    split
    · rfl
    · exact hknown
  | activated found =>
    refine ⟨hsound, fun id transaction hget => ?_, htraceable.reviewed⟩
    exact ((status_units htraceable.sound found).products _).trans (htraceable.known id transaction hget)
  | paused found =>
    refine ⟨hsound, fun id transaction hget => ?_, htraceable.reviewed⟩
    exact ((status_units htraceable.sound found).products _).trans (htraceable.known id transaction hget)
  | settled ends => exact ends.traceable htraceable
  | @proposed _ _ _ _ exceptionCase _ proposable =>
    obtain ⟨hid, -⟩ := htraceable.sound.cases _ _ proposable.found
    refine @traceable_setCase _ (traceable_inState htraceable proposable.stored TransactionState.noConfusion)
      exceptionCase _ hsound ?_ rfl
    rw [hid]
    exact proposable.found
  | approved ends => exact ends.traceable htraceable

/-- However a call ends, totals and balances stay exact exactly when the call is
separated. -/
theorem CallEnds.exact_iff {call : Call} {outcome : Except Failure Reply} {books : Books}
    (h : CallEnds platform plane call outcome books) (htraceable : plane.toTables.Traceable)
    (hexact : plane.toTables.Exact) :
    books.toTables.Exact ↔
      (∀ command product, call = .createProduct command → outcome = .ok (.created product) →
        ∀ key units, plane.assetBalances.get key = some units → EndsWith key command.id → units = 0) ∧
      ∀ command state passed, call.settlement platform plane = some (command, state) →
        command.Settles platform state passed → command.Separated passed plane.toTables := by
  -- a call that neither creates a product nor settles is separated
  have hquiet : (∀ command, call ≠ .createProduct command) → call.settlement platform plane = none →
      (∀ command product, call = .createProduct command → outcome = .ok (.created product) →
        ∀ key units, plane.assetBalances.get key = some units → EndsWith key command.id → units = 0) ∧
      ∀ command state passed, call.settlement platform plane = some (command, state) →
        command.Settles platform state passed → command.Separated passed plane.toTables := by
    intro hcreates hnone
    refine ⟨fun command _ hcall => absurd hcall (hcreates command), fun command state passed hsettlement => ?_⟩
    rw [hnone] at hsettlement
    cases hsettlement
  cases h with
  | @refused _ failure configuration =>
    refine iff_of_true hexact ⟨fun _ _ _ hok => ?_, fun command state passed hsettlement => ?_⟩
    · cases hok
    · cases call with
      | settle other => exact absurd rfl (configuration.1 other)
      | approveExceptionResolution caseId checkerId => exact absurd rfl (configuration.2 caseId checkerId)
      | _ => cases hsettlement
  | registered | credential | revoked | evidence | credited =>
    exact iff_of_true ⟨hexact.totals, hexact.holdings⟩ (hquiet (fun _ => Call.noConfusion) rfl)
  | @created command fresh =>
    refine (created_exact_iff htraceable hexact fresh).trans ⟨fun hzero => ⟨?_, fun _ _ _ hsettlement => ?_⟩,
      fun hall => ?_⟩
    · rintro _ _ heq -
      obtain rfl := Call.createProduct.inj heq
      exact hzero
    · cases hsettlement
    · exact hall.1 command _ rfl rfl
  | activated found =>
    exact iff_of_true ((status_units htraceable.sound found).exact_iff.mpr hexact)
      (hquiet (fun _ => Call.noConfusion) rfl)
  | paused found =>
    exact iff_of_true ((status_units htraceable.sound found).exact_iff.mpr hexact)
      (hquiet (fun _ => Call.noConfusion) rfl)
  | @settled command _ _ ends =>
    refine (ends.exact_iff hexact).trans ⟨fun hall => ⟨fun _ _ => Call.noConfusion, ?_⟩, fun hall passed =>
      hall.2 command plane passed rfl⟩
    intro other state passed hsettlement
    obtain ⟨rfl, rfl⟩ := Prod.mk.inj (Option.some.inj hsettlement)
    exact hall passed
  | @proposed _ _ _ _ exceptionCase original proposable =>
    have hopen := htraceable.reviewed _ _ proposable.found _ proposable.stored
    exact iff_of_true ((resolution_units htraceable.sound proposable.stored hopen
      TransactionState.noConfusion).exact_iff.mpr hexact) (hquiet (fun _ => Call.noConfusion) rfl)
  | approved ends =>
    exact (ends.exact_iff htraceable hexact).trans ⟨fun hall => ⟨fun _ _ => Call.noConfusion, hall⟩,
      fun hall => hall.2⟩

end Calls

/-- Reconciliation is exact in every state of a run exactly when every step is
separated: no product is created while units are held under a key that ends with its
id, and no settlement changes a key that ends with the id of another product, or
changes balances under rules whose policy has no hash. -/
theorem reconcile_exact_iff (platform : Platform) (actions : List Action) :
    (∀ before, before <+: actions → ReconcilesExactly platform (run platform before)) ↔
      ∀ before action after, actions = before ++ action :: after →
        Separated platform (run platform before) action := by
  have htraceable : ∀ actions, (run platform actions).toTables.Traceable :=
    @runs.run_invariant _ _ _ _ (fun plane : ControlPlane => plane.toTables.Traceable)
      ⟨start_sound, fun _ _ => nofun, fun _ _ => nofun⟩
      fun plane action h => (step_ends h.sound).traceable h
  refine @runs.run_invariant_iff _ _ (step platform) ControlPlane.start (ReconcilesExactly platform)
    (fun plane => plane.toTables.Traceable) (Separated platform) ?_ htraceable ?_ actions
  · exact (reconcilesExactly_iff start_sound).mpr ⟨fun _ => nofun, fun _ => nofun⟩
  · intro plane action h hexact
    rw [reconcilesExactly_iff h.sound] at hexact
    rw [reconcilesExactly_iff (step_sound h.sound)]
    exact (step_ends h.sound).exact_iff h hexact

section Sample

/-- A second fund of the operator, whose id ends with that of the first. -/
private def clashingTrades : List Action :=
  [⟨1, .createProduct ⟨"x:fund", "Second fund", "HK", "operator",
      REQUIRED_PRODUCT_ROLES.map fun role => (role, "operator"), ⟨⟨"HKD", ["PROFESSIONAL"], ["HK"], 100, []⟩, none⟩⟩⟩,
    ⟨1, .activateProduct "x:fund"⟩,
    ⟨1, .registerCredential { sampleCredential "credential-second" "alice" with productId := "x:fund" }⟩,
    ⟨1, .submitEvidence ⟨"nav-2", "x:fund", "nav", "operator", "T1", "0", "1000", "1", ⟨some "10", some "HKD", []⟩,
      "signature", none, []⟩⟩,
    ⟨2, .settle (.subscribe ⟨"subscribe-2", "key-2", "x:fund", "alice", "credential-second", "5", "50"⟩)⟩]

/-- The units of the second fund are reported for the first, which has no transactions. -/
theorem reconcile_suffix_clash :
    ¬ReconcilesExactly samplePlatform (run samplePlatform (sampleSetup ++ clashingTrades)) := by
  intro hexact
  have hrun : (reconcile samplePlatform "fund" (run samplePlatform (sampleSetup ++ clashingTrades))).1.toOption.any
      (fun report => report.confidentialAssetUnits = "5") = true := by decide +kernel
  cases hreport : reconcile samplePlatform "fund" (run samplePlatform (sampleSetup ++ clashingTrades)) with
  | mk outcome reached =>
    cases outcome with
    | error failure =>
      rw [hreport] at hrun
      cases hrun
    | ok report =>
      rw [hreport] at hrun
      have hunits := (hexact "fund" report reached hreport).1
      have hnet : toString ((run samplePlatform (sampleSetup ++ clashingTrades)).netUnits "fund") = "0" := by
        decide +kernel
      have hfive : report.confidentialAssetUnits = "5" := of_decide_eq_true hrun
      rw [hfive, hnet] at hunits
      exact absurd hunits (by decide)

end Sample

end rwa.control_plane
