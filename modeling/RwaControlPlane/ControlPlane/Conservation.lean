import RwaControlPlane.ControlPlane.Soundness

open attempt js_map js_value

namespace rwa.control_plane

variable {platform : Platform} {plane final : ControlPlane}

/-- The asset of a balance key: what follows the first colon. -/
def keyAsset (key : String) : String := String.ofList ((key.toList.dropWhile (· ≠ ':')).drop 1)

/-- An id without a colon. -/
def PlainId (id : String) : Prop := ':' ∉ id.toList

instance {id : String} : Decidable (PlainId id) := inferInstanceAs (Decidable (':' ∉ id.toList))

/-- Sum of the balances in an asset. -/
def totalOf (balances : JsMap String Int) (asset : String) : Int :=
  balances.total fun key amount => if keyAsset key = asset then amount else 0

/-- Sum of the cash credits in a currency. -/
def creditedIn (currency : String) (credits : List (String × String × String)) : Int :=
  (credits.map fun credit => if credit.2.1 = currency then (js_text.bigInt credit.2.2).getD 0 else 0).sum

/-- Units of a transaction that settled with a type for a product. -/
def Transaction.settledUnits (type : TransactionType) (productId : String) (transaction : Transaction) : Int :=
  if transaction.type = type ∧ transaction.productId = productId ∧ transaction.state = .settled then transaction.units
  else 0

/-- Units of the settled transactions of a type for a product. -/
def Tables.settledUnits (type : TransactionType) (productId : String) (tables : Tables) : Int :=
  tables.transactions.total fun _ transaction => transaction.settledUnits type productId

section Totals

variable {balances : JsMap String Int} {key asset accountId : String} {delta : Int}

theorem keyAsset_balanceKey (h : PlainId accountId) : keyAsset (balanceKey accountId asset) = asset := by
  have hkey : (balanceKey accountId asset).toList = accountId.toList ++ ':' :: asset.toList := by
    rw [show balanceKey accountId asset = accountId ++ ":" ++ asset from rfl, String.toList_append,
      String.toList_append]
    simp
  have hdrop : ∀ rest, (accountId.toList ++ ':' :: rest).dropWhile (· ≠ ':') = ':' :: rest := by
    intro rest
    rw [List.dropWhile_append_of_pos]
    · simp
    · intro letter hletter
      have hne : letter ≠ ':' := by
        rintro rfl
        exact h hletter
      simpa using hne
  rw [keyAsset, hkey, hdrop]
  simp

/-- A key determines its holder. -/
theorem balanceKey_left {first second asset : String} (h : balanceKey first asset = balanceKey second asset) :
    first = second := by
  have hlist := congrArg String.toList h
  rw [show balanceKey first asset = first ++ (":" ++ asset) from String.append_assoc ..,
    show balanceKey second asset = second ++ (":" ++ asset) from String.append_assoc ..] at hlist
  simp only [String.toList_append] at hlist
  exact String.toList_injective (List.append_cancel_right hlist)

theorem totalOf_add : totalOf (add balances key delta) asset =
    totalOf balances asset + if keyAsset key = asset then delta else 0 := by
  unfold totalOf add balanceOf
  rw [total_set]
  by_cases hasset : keyAsset key = asset
  · cases balances.get key <;> simp [hasset]
    omega
  · cases balances.get key <;> simp [hasset]

theorem totalOf_add_holder {holder product : String} (h : PlainId holder) :
    totalOf (add balances (balanceKey holder product) delta) asset =
      totalOf balances asset + if product = asset then delta else 0 := by
  rw [totalOf_add, keyAsset_balanceKey h]

/-- A new transaction adds its units, if it settled. -/
theorem settledUnits_new {tables : Tables} {transaction : Transaction} {type : TransactionType} {productId : String}
    (h : tables.transactions.get transaction.id = none) :
    (tables.setTransaction transaction).settledUnits type productId =
      tables.settledUnits type productId + transaction.settledUnits type productId := by
  rw [Tables.settledUnits, setTransaction_transactions, total_set, h]
  simp [Tables.settledUnits]

/-- The state of a transfer does not matter for subscriptions and redemptions. -/
theorem settledUnits_inState {tables : Tables} (hsound : tables.Sound) {id productId : String} {original : Transaction}
    (horiginal : tables.transactions.get id = some original) (htype : original.type = .transfer)
    {type : TransactionType} (hother : type ≠ .transfer) {state : TransactionState} {lifecycle : List Transition} :
    (tables.setTransaction (original.inState state lifecycle)).settledUnits type productId =
      tables.settledUnits type productId := by
  have hid := hsound.transactions id original horiginal
  have hne : ¬original.type = type := fun heq => hother (heq ▸ htype ▸ rfl)
  have hget : tables.transactions.get (original.inState state lifecycle).id = some original := by
    rw [← horiginal, ← hid]
    rfl
  rw [Tables.settledUnits, setTransaction_transactions, total_set, hget]
  simp [Tables.settledUnits, Transaction.settledUnits, Transaction.inState, hne]

end Totals

/-- What holds when holders have no colon in their ids and rules are JSON data:
cash sums to the credits and units to the settled transactions. -/
structure Books.Conserved (books : Books) : Prop where
  products : ∀ id found, books.products.get id = some found →
    PlainId found.issuerId ∧ found.rules.canonicalizes = true
  payloads : ∀ id exceptionCase, books.exceptionCases.get id = some exceptionCase →
    PlainId exceptionCase.retryPayload.sellerId ∧ PlainId exceptionCase.retryPayload.buyerId
  cash : ∀ currency, totalOf books.cashBalances currency = creditedIn currency books.credits
  units : ∀ productId, totalOf books.assetBalances productId =
    books.settledUnits .subscribe productId - books.settledUnits .redeem productId

def Command.PlainHolders : Command → Prop
  | .subscribe command => PlainId command.investorId
  | .transfer command => PlainId command.sellerId ∧ PlainId command.buyerId
  | .redeem command => PlainId command.investorId
  | .simulateRegisterFailure command => PlainId command.sellerId ∧ PlainId command.buyerId

instance : DecidablePred Command.PlainHolders
  | .subscribe command => inferInstanceAs (Decidable (PlainId command.investorId))
  | .transfer command => inferInstanceAs (Decidable (PlainId command.sellerId ∧ PlainId command.buyerId))
  | .redeem command => inferInstanceAs (Decidable (PlainId command.investorId))
  | .simulateRegisterFailure command =>
    inferInstanceAs (Decidable (PlainId command.sellerId ∧ PlainId command.buyerId))

section Moves

variable {command : Command} {passed : Passed}

/-- Movements keep the cash of every currency. -/
theorem Command.Settles.moved_cash (h : command.Settles platform plane passed) (hplain : command.PlainHolders)
    (hproducts : ∀ id found, plane.products.get id = some found → PlainId found.issuerId) (currency : String) :
    totalOf (passed.moved plane.toTables).cashBalances currency = totalOf plane.cashBalances currency := by
  cases command with
  | subscribe command =>
    obtain ⟨plan, hchecked, rfl⟩ := settles_subscribe h
    have hissuer := hproducts _ _ hchecked.product
    simp only [SubscribeCommand.passed, Tables.subscribed, addLegalRegister_cashBalances, addAssetBalance_cashBalances,
      setCashSettlement_cashBalances, addCash_cashBalances]
    rw [totalOf_add_holder hissuer, totalOf_add_holder hplain]
    split <;> omega
  | transfer command =>
    obtain ⟨plan, hchecked, rfl⟩ := settles_transfer h
    have hissuer := hproducts _ _ hchecked.product
    simp only [TransferCommand.passed, Tables.transferred, addLegalRegister_cashBalances, addAssetBalance_cashBalances,
      setCashSettlement_cashBalances, addCash_cashBalances]
    rw [totalOf_add_holder hissuer, totalOf_add_holder hplain.1, totalOf_add_holder hplain.2]
    split <;> omega
  | redeem command =>
    obtain ⟨plan, hchecked, rfl⟩ := settles_redeem h
    have hissuer := hproducts _ _ hchecked.product
    simp only [RedeemCommand.passed, Tables.redeemed, setCashSettlement_cashBalances, addCash_cashBalances,
      addLegalRegister_cashBalances, addAssetBalance_cashBalances]
    rw [totalOf_add_holder hplain, totalOf_add_holder hissuer]
    split <;> omega
  | simulateRegisterFailure command =>
    obtain ⟨plan, _, rfl⟩ := settles_failure h
    rfl

/-- Movements add the units that the stored transaction settles. -/
theorem Command.Settles.moved_units (h : command.Settles platform plane passed) (hplain : command.PlainHolders)
    (policy : PolicySnapshot) (settledAt : Option String) (lifecycle : List Transition)
    (commitment productId : String) :
    let transaction := (passed.data policy).transaction passed.state settledAt lifecycle commitment
    totalOf (passed.moved plane.toTables).assetBalances productId = totalOf plane.assetBalances productId +
      transaction.settledUnits .subscribe productId - transaction.settledUnits .redeem productId := by
  intro transaction
  cases command with
  | subscribe command =>
    obtain ⟨plan, hchecked, rfl⟩ := settles_subscribe h
    have htransaction :
      transaction.settledUnits .subscribe productId = (if command.productId = productId then plan.units else 0) ∧
        transaction.settledUnits .redeem productId = 0 := by
      constructor <;> simp [transaction, Transaction.settledUnits, TransactionData.transaction, SubscribeCommand.passed,
        SubscribeCommand.data]
    rw [htransaction.1, htransaction.2]
    simp only [SubscribeCommand.passed, Tables.subscribed, addLegalRegister_assetBalances,
      addAssetBalance_assetBalances, setCashSettlement_assetBalances, addCash_assetBalances]
    rw [totalOf_add_holder hplain]
    omega
  | transfer command =>
    obtain ⟨plan, hchecked, rfl⟩ := settles_transfer h
    have htransaction : transaction.settledUnits .subscribe productId = 0 ∧
      transaction.settledUnits .redeem productId = 0 := by
      constructor <;> simp [transaction, Transaction.settledUnits, TransactionData.transaction, TransferCommand.passed,
        TransferCommand.data]
    rw [htransaction.1, htransaction.2]
    simp only [TransferCommand.passed, Tables.transferred, addLegalRegister_assetBalances,
      addAssetBalance_assetBalances, setCashSettlement_assetBalances, addCash_assetBalances]
    rw [totalOf_add_holder hplain.2, totalOf_add_holder hplain.1]
    split <;> omega
  | redeem command =>
    obtain ⟨plan, hchecked, rfl⟩ := settles_redeem h
    have htransaction : transaction.settledUnits .subscribe productId = 0 ∧
        transaction.settledUnits .redeem productId = (if command.productId = productId then plan.units else 0) := by
      constructor <;> simp [transaction, Transaction.settledUnits, TransactionData.transaction, RedeemCommand.passed,
        RedeemCommand.data]
    rw [htransaction.1, htransaction.2]
    simp only [RedeemCommand.passed, Tables.redeemed, setCashSettlement_assetBalances, addCash_assetBalances,
      addLegalRegister_assetBalances, addAssetBalance_assetBalances]
    rw [totalOf_add_holder hplain]
    split <;> omega
  | simulateRegisterFailure command =>
    obtain ⟨plan, _, rfl⟩ := settles_failure h
    have htransaction : transaction.settledUnits .subscribe productId = 0 ∧
      transaction.settledUnits .redeem productId = 0 := by
      constructor <;> simp [transaction, Transaction.settledUnits, TransactionData.transaction, TransferCommand.failed,
        TransferCommand.data]
    rw [htransaction.1, htransaction.2]
    change totalOf plane.assetBalances productId = _
    omega

end Moves

section Calls

/-- A settlement call between holders without a colon keeps cash and units in
step, however it ends. -/
theorem Command.Outcome.conserved {command : Command} {outcome : Except Failure Receipt}
    (h : command.Outcome platform plane outcome final) (hplain : command.PlainHolders)
    (hconserved : plane.books.Conserved) : final.books.Conserved := by
  cases h with
  | refused _ _ kept => rwa [kept]
  | replayed => exact hconserved
  | conflict => exact hconserved
  | broken settles unhashed =>
    have hjson := (hconserved.products _ _ settles.product).2
    rw [unhashed] at hjson
    cases hjson
  | @executed passed policy settledAt lifecycle commitment fingerprint receipt _ settles _ _ _ stored =>
    have hrecords := settles.moved_records plane.toTables
    have hissuers := fun id found hfound => (hconserved.products id found hfound).1
    have hfresh : (passed.moved plane.toTables).transactions.get
        ((passed.data policy).transaction passed.state settledAt lifecycle commitment).id = none := by
      rw [← hrecords.transactions]
      exact (congrArg _ (settles.fresh_id.2 policy)).trans settles.fresh_id.1
    have hsettled : ∀ type productId, (passed.moved plane.toTables).settledUnits type productId =
        plane.settledUnits type productId := by
      intro type productId
      rw [Tables.settledUnits, ← hrecords.transactions]
      rfl
    rw [stored]
    refine ⟨?_, ?_, ?_, ?_⟩
    · intro id found hfound
      simp only [Books.withTables, setIdempotency_products, openCase_products, setTransaction_products,
        ← hrecords.products] at hfound
      exact hconserved.products id found hfound
    · intro id exceptionCase hcase
      simp only [Books.withTables, setIdempotency_exceptionCases] at hcase
      rcases settles.opened with ⟨hopened, _⟩ | ⟨terms, plan, rfl, _, hopened⟩
      · rw [hopened, Tables.openCase, setTransaction_exceptionCases, ← hrecords.exceptionCases] at hcase
        exact hconserved.payloads id exceptionCase hcase
      · rw [hopened, Tables.openCase, setCase_exceptionCases, setTransaction_exceptionCases, ← hrecords.exceptionCases,
          get_set] at hcase
        by_cases hid : id = (terms.exceptionCase (platform.isoText plane.clock) plan).id
        · rw [if_pos hid] at hcase
          obtain rfl := Option.some.inj hcase
          exact hplain
        · rw [if_neg hid] at hcase
          exact hconserved.payloads id exceptionCase hcase
    · intro currency
      simp only [Books.withTables, setIdempotency_cashBalances, openCase_cashBalances, setTransaction_cashBalances]
      rw [settles.moved_cash hplain hissuers]
      exact hconserved.cash currency
    · intro productId
      have hunits := settles.moved_units hplain policy settledAt lifecycle commitment productId
      have hbefore := hconserved.units productId
      have hnew := fun type => @settledUnits_new _ _ type productId hfresh
      change totalOf plane.assetBalances productId =
        plane.settledUnits .subscribe productId - plane.settledUnits .redeem productId at hbefore
      simp only [Books.withTables, setIdempotency_assetBalances, openCase_assetBalances, setTransaction_assetBalances,
        Tables.settledUnits, setIdempotency_transactions, openCase_transactions]
      change _ = Tables.settledUnits .subscribe productId (Tables.setTransaction _ _) -
        Tables.settledUnits .redeem productId (Tables.setTransaction _ _)
      rw [hnew, hnew, hsettled, hsettled, hunits]
      omega

/-- A stored transfer may change its state and its lifecycle. -/
private theorem inState_conserved {books : Books} (hsound : books.toTables.Sound) (hconserved : books.Conserved)
    {id : String} {original : Transaction} (horiginal : books.transactions.get id = some original)
    (htype : original.type = .transfer) {state : TransactionState} {lifecycle : List Transition} :
    (books.withTables (books.toTables.setTransaction (original.inState state lifecycle))).Conserved := by
  refine ⟨hconserved.products, hconserved.payloads, hconserved.cash, ?_⟩
  intro productId
  have hkept := fun type hother => @settledUnits_inState _ hsound id productId original horiginal htype type hother
    state lifecycle
  have hsubscribed := hkept .subscribe TransactionType.noConfusion
  have hredeemed := hkept .redeem TransactionType.noConfusion
  change totalOf books.assetBalances productId = _
  rw [hconserved.units productId]
  exact congrArg₂ _ hsubscribed.symm hredeemed.symm

/-- A stored transfer and its case may change together, under the same retry
terms. -/
private theorem resolution_conserved {books : Books} (hsound : books.toTables.Sound) (hconserved : books.Conserved)
    {exceptionCase changed : ExceptionCase} {original : Transaction}
    (hcase : books.exceptionCases.get exceptionCase.id = some exceptionCase)
    (horiginal : books.transactions.get exceptionCase.transactionId = some original)
    (htype : original.type = .transfer) (hpayload : changed.retryPayload = exceptionCase.retryPayload)
    {state : TransactionState} {lifecycle : List Transition} :
    (books.withTables
      ((books.toTables.setTransaction (original.inState state lifecycle)).setCase changed)).Conserved := by
  have hmoved := @inState_conserved books hsound hconserved _ _ horiginal htype state lifecycle
  refine ⟨hmoved.products, ?_, hmoved.cash, hmoved.units⟩
  intro id stored hget
  change (books.exceptionCases.set changed.id changed).get id = _ at hget
  rw [get_set] at hget
  by_cases hid : id = changed.id
  · rw [if_pos hid] at hget
    obtain rfl := Option.some.inj hget
    rw [hpayload]
    exact hconserved.payloads _ _ hcase
  · rw [if_neg hid] at hget
    exact hconserved.payloads id stored hget

/-- An approval keeps cash and units in step, however it ends. -/
theorem ApprovalEnds.conserved {caseId checkerId : String} {outcome : Except Failure Resolved} {books : Books}
    (h : ApprovalEnds platform plane caseId checkerId outcome books) (hsound : plane.toTables.Sound)
    (hconserved : plane.books.Conserved) : books.Conserved := by
  cases h with
  | refused => exact hconserved
  | @cancelled exceptionCase _ _ approvable =>
    obtain ⟨hid, stored, hstored, htype⟩ := hsound.cases _ _ approvable.found
    obtain rfl := Option.some.inj (approvable.stored.symm.trans hstored)
    exact @resolution_conserved plane.books hsound hconserved exceptionCase (exceptionCase.cancelled _ _) _
      (hid ▸ approvable.found) hstored htype rfl _ _
  | @retry exceptionCase proposal original reviewed settled lifecycle transferred _ _ approvable _ _ review _
    transfer ends =>
    obtain ⟨hid, stored, hstored, htype⟩ := hsound.cases _ _ approvable.found
    obtain rfl := Option.some.inj (approvable.stored.symm.trans hstored)
    have hreviewed : reviewed.toTables.Sound := by
      rw [toTables_of_books review]
      exact setTransaction_sound hsound hstored
    have hplain : (exceptionCase.retry proposal).PlainHolders := hconserved.payloads _ _ approvable.found
    have hsettled : settled.books.Conserved := by
      refine transfer.conserved hplain ?_
      rw [review]
      exact @inState_conserved plane.books hsound hconserved _ _ hstored htype _ _
    have hkept : settled.transactions.get exceptionCase.transactionId = some
      (original.inState original.state lifecycle) := by
      apply transfer.keeps_transaction
      rw [toTables_of_books review, ← hsound.transactions _ _ hstored]
      exact get_inState
    have hcase : settled.exceptionCases.get exceptionCase.id = some exceptionCase := by
      rw [transfer.keeps_cases Operation.noConfusion, toTables_of_books review, hid]
      exact approvable.found
    cases ends with
    | blocked =>
      exact @resolution_conserved settled.books
        (transfer.sound hreviewed) hsettled exceptionCase exceptionCase.reopened _
        hcase hkept htype rfl _ _
    | retried =>
      exact @resolution_conserved settled.books (transfer.sound hreviewed) hsettled exceptionCase
        (exceptionCase.retried _ _ _) _ hcase hkept htype rfl _ _

/-- Holders in a call have no colon in their ids. -/
def Call.PlainHolders : Call → Prop
  | .createProduct command => PlainId command.issuerId
  | .creditSandboxCash accountId _ _ => PlainId accountId
  | .settle command => command.PlainHolders
  | _ => True

instance : DecidablePred Call.PlainHolders
  | .createProduct command => inferInstanceAs (Decidable (PlainId command.issuerId))
  | .creditSandboxCash accountId _ _ => inferInstanceAs (Decidable (PlainId accountId))
  | .settle command => inferInstanceAs (Decidable command.PlainHolders)
  | .registerInstitution _ | .activateProduct _ | .pauseProduct _ _ | .registerCredential _ | .revokeCredential _ _
  | .submitEvidence _ | .proposeExceptionResolution _ _ _ _ | .approveExceptionResolution _ _ =>
    inferInstanceAs (Decidable True)

/-- A created product has rules that can be canonicalized. -/
def Call.JsonRules : Call → Prop
  | .createProduct command => command.rules.canonicalizes = true
  | _ => True

instance : DecidablePred Call.JsonRules
  | .createProduct command => inferInstanceAs (Decidable (command.rules.canonicalizes = true))
  | .registerInstitution _ | .activateProduct _ | .pauseProduct _ _ | .registerCredential _ | .revokeCredential _ _
  | .submitEvidence _ | .creditSandboxCash _ _ _ | .settle _ | .proposeExceptionResolution _ _ _ _
  | .approveExceptionResolution _ _ => inferInstanceAs (Decidable True)

private theorem set_products_conserved {books : Books} (hconserved : books.Conserved) {id : String} {found : Product}
    (hfound : PlainId found.issuerId ∧ found.rules.canonicalizes = true) :
    (books.withTables { books.toTables with products := books.products.set id found }).Conserved := by
  refine ⟨?_, hconserved.payloads, hconserved.cash, hconserved.units⟩
  intro other stored hget
  change (books.products.set id found).get other = _ at hget
  rw [get_set] at hget
  by_cases hother : other = id
  · rw [if_pos hother] at hget
    obtain rfl := Option.some.inj hget
    exact hfound
  · rw [if_neg hother] at hget
    exact hconserved.products other stored hget

/-- Every call between holders without a colon, over products with JSON rules,
keeps cash and units in step. -/
theorem CallEnds.conserved {call : Call} {outcome : Except Failure Reply} {books : Books}
    (h : CallEnds platform plane call outcome books) (hsound : plane.toTables.Sound) (hplain : call.PlainHolders)
    (hjson : call.JsonRules) (hconserved : plane.books.Conserved) : books.Conserved := by
  cases h with
  | refused => exact hconserved
  | registered => exact ⟨hconserved.products, hconserved.payloads, hconserved.cash, hconserved.units⟩
  | created => exact @set_products_conserved plane.books hconserved _ _ ⟨hplain, hjson⟩
  | activated found =>
    have hstored := hconserved.products _ _ found
    exact @set_products_conserved plane.books hconserved _ _ ⟨hstored.1, hstored.2⟩
  | paused found =>
    have hstored := hconserved.products _ _ found
    exact @set_products_conserved plane.books hconserved _ _ ⟨hstored.1, hstored.2⟩
  | credential => exact ⟨hconserved.products, hconserved.payloads, hconserved.cash, hconserved.units⟩
  | revoked => exact ⟨hconserved.products, hconserved.payloads, hconserved.cash, hconserved.units⟩
  | evidence => exact ⟨hconserved.products, hconserved.payloads, hconserved.cash, hconserved.units⟩
  | @credited accountId currency amount credited parsed =>
    refine ⟨hconserved.products, hconserved.payloads, ?_, hconserved.units⟩
    intro asset
    change totalOf (add plane.cashBalances (balanceKey accountId currency) credited) asset =
      creditedIn asset (plane.credits ++ [(accountId, currency, amount)])
    rw [totalOf_add_holder hplain, creditedIn, List.map_append, List.sum_append, ← creditedIn]
    have hcash := hconserved.cash asset
    change totalOf plane.cashBalances asset = creditedIn asset plane.credits at hcash
    simp [hcash, parsed]
  | settled ends => exact ends.conserved hplain hconserved
  | @proposed _ _ _ _ exceptionCase _ proposable =>
    obtain ⟨hid, stored, hstored, htype⟩ := hsound.cases _ _ proposable.found
    obtain rfl := Option.some.inj (proposable.stored.symm.trans hstored)
    exact @resolution_conserved plane.books hsound hconserved exceptionCase (exceptionCase.proposed _) _
      (hid ▸ proposable.found) hstored htype rfl _ _
  | approved ends => exact ends.conserved hsound hconserved

end Calls

theorem start_conserved : ControlPlane.start.books.Conserved where
  products := fun _ _ => nofun
  payloads := fun _ _ => nofun
  cash := fun _ => rfl
  units := fun _ => rfl

/-- Ledger invariants of the control plane: after every run over products with
JSON rules and holders without a colon, both unit maps are the same, no balance is
negative, the cash of every currency is what was credited in it, and the units of
every product are those of its settled subscriptions less its settled
redemptions. -/
theorem ledger_invariants {actions : List Action} (hplain : ∀ action ∈ actions, action.call.PlainHolders)
    (hjson : ∀ action ∈ actions, action.call.JsonRules) :
    let plane := run platform actions
    plane.assetBalances = plane.legalRegister ∧ NonNegative plane.cashBalances ∧ NonNegative plane.assetBalances ∧
      (∀ currency, totalOf plane.cashBalances currency = creditedIn currency plane.credits) ∧
      ∀ productId, totalOf plane.assetBalances productId =
        plane.settledUnits .subscribe productId - plane.settledUnits .redeem productId := by
  intro plane
  have hinvariant : plane.toTables.Sound ∧ plane.books.Conserved := by
    refine @runs.run_invariant_of_admissible _ _ _
      (fun plane : ControlPlane => plane.toTables.Sound ∧ plane.books.Conserved)
      (fun _ action => action.call.PlainHolders ∧ action.call.JsonRules) ?_ _ _ ⟨start_sound, start_conserved⟩ ?_
    · rintro state action ⟨hsound, hconserved⟩ ⟨hplainCall, hjsonCall⟩
      exact ⟨step_sound hsound, (step_ends hsound).conserved hsound hplainCall hjsonCall
        ⟨hconserved.products, hconserved.payloads, hconserved.cash, hconserved.units⟩⟩
    · intro before action after hactions
      have hmem : action ∈ actions := by simp [hactions]
      exact ⟨hplain action hmem, hjson action hmem⟩
  obtain ⟨hsound, hconserved⟩ := hinvariant
  exact ⟨hsound.mirrored.symm, hsound.cash, hsound.assets, hconserved.cash, hconserved.units⟩

section Sample

def samplePlatform : Platform where
  sha256 := id
  numberText := fun number => toString number.num
  verify := fun _ _ _ => true
  dateTime := js_text.bigInt
  isoText := toString
  randomHex := toString

def sampleCredential (id subjectId : String) : Credential :=
  ⟨id, "operator", subjectId, "fund", "PROFESSIONAL", "HK", "100", "0", "1000", "signature", []⟩

/-- A fund whose operator has every role, two investors with cash, and a NAV of
ten. -/
def sampleSetup : List Action :=
  [⟨1, .registerInstitution ⟨"operator", REQUIRED_PRODUCT_ROLES, "key"⟩⟩,
    ⟨1, .createProduct ⟨"fund", "Fund", "HK", "operator", REQUIRED_PRODUCT_ROLES.map fun role => (role, "operator"),
      ⟨⟨"HKD", ["PROFESSIONAL"], ["HK"], 100, []⟩, none⟩⟩⟩,
    ⟨1, .activateProduct "fund"⟩,
    ⟨1, .registerCredential (sampleCredential "credential-alice" "alice")⟩,
    ⟨1, .registerCredential (sampleCredential "credential-bob" "bob")⟩,
    ⟨1, .submitEvidence ⟨"nav-1", "fund", "nav", "operator", "T1", "0", "1000", "1", ⟨some "10", some "HKD", []⟩,
      "signature", none, []⟩⟩,
    ⟨1, .creditSandboxCash "alice" "HKD" "1000"⟩,
    ⟨1, .creditSandboxCash "bob" "HKD" "500"⟩]

/-- A subscription, a transfer that fails and is retried, and a redemption. -/
def sampleTrades : List Action :=
  [⟨2, .settle (.subscribe ⟨"subscribe-1", "key-1", "fund", "alice", "credential-alice", "5", "50"⟩)⟩,
    ⟨2, .settle (.simulateRegisterFailure ⟨"transfer-1", "key-2", "fund", "alice", "credential-alice", "bob",
      "credential-bob", "2", "10", none, "900"⟩)⟩,
    ⟨3, .proposeExceptionResolution "case-transfer-1" "maker" .retry (some "transfer-2")⟩,
    ⟨3, .approveExceptionResolution "case-transfer-1" "checker"⟩,
    ⟨4, .settle (.redeem ⟨"redeem-1", "key-3", "fund", "bob", "credential-bob", "1"⟩)⟩]

theorem ledger_invariants_sample :
    (run samplePlatform (sampleSetup ++ sampleTrades)).assetBalances.entries = [("alice:fund", 3), ("bob:fund", 1)] ∧
      totalOf (run samplePlatform (sampleSetup ++ sampleTrades)).cashBalances "HKD" = creditedIn "HKD"
        (run samplePlatform (sampleSetup ++ sampleTrades)).credits :=
  ⟨by decide +kernel, (@ledger_invariants samplePlatform (sampleSetup ++ sampleTrades) (by decide +kernel)
    (by decide +kernel)).2.2.2.1 "HKD"⟩

end Sample

end rwa.control_plane
