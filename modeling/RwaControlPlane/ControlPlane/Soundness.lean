import RwaControlPlane.ControlPlane.Calls

open attempt js_map js_value

namespace rwa.control_plane

variable {platform : Platform} {plane final : ControlPlane}

/-- No balance of a map is negative. -/
def NonNegative (balances : JsMap String Int) : Prop := ∀ key amount, balances.get key = some amount → 0 ≤ amount

section Balances

variable {balances : JsMap String Int} {key other : String} {delta : Int}

theorem balanceOf_add : balanceOf (add balances key delta) other =
    balanceOf balances other + if other = key then delta else 0 := by
  unfold balanceOf add
  rw [get_set]
  by_cases hother : other = key
  · subst hother
    simp [balanceOf]
  · simp [hother]

theorem nonNegative_add (h : NonNegative balances) (hdelta : 0 ≤ balanceOf balances key + delta) :
    NonNegative (add balances key delta) := by
  intro other amount hget
  rw [add, get_set] at hget
  by_cases hother : other = key
  · rw [if_pos hother] at hget
    obtain rfl := Option.some.inj hget
    exact hdelta
  · rw [if_neg hother] at hget
    exact h other amount hget

theorem nonNegative_credit (h : NonNegative balances) (hdelta : 0 ≤ delta) : NonNegative (add balances key delta) :=
  nonNegative_add h (Int.add_nonneg (balanceOf_nonneg h) hdelta)

end Balances

section Moves

variable {tables : Tables} {time : String}

/-- Movements keep the maps sound when they keep both unit maps the same and no
balance negative. -/
private theorem sound_of_moved {moved : Tables} (hsound : tables.Sound) (hrecords : tables.SameRecords moved)
    (hmirrored : moved.legalRegister = moved.assetBalances) (hassets : NonNegative moved.assetBalances)
    (hcash : NonNegative moved.cashBalances) : moved.Sound where
  mirrored := hmirrored
  assets := hassets
  cash := hcash
  products := hrecords.products ▸ hsound.products
  prices := hrecords.evidence ▸ hsound.prices
  transactions := hrecords.transactions ▸ hsound.transactions
  cases := hrecords.transactions ▸ hrecords.exceptionCases ▸ hsound.cases

private theorem subscribed_sound (hsound : plane.toTables.Sound) {command : SubscribeCommand} {plan : SubscribePlan}
    (hchecked : plan.Checked platform plane command) : (plane.toTables.subscribed command plan time).Sound := by
  obtain ⟨price, hpriced, hamount⟩ := hchecked.priced
  have hpositive : 0 < plan.amount := by
    rw [hamount]
    exact Int.mul_pos hchecked.positive (PricedBy.positive hsound hpriced)
  have hunits := hchecked.positive
  have hfunds := hchecked.funds
  apply sound_of_moved hsound subscribed_records
  · simp [Tables.subscribed, hsound.mirrored]
  · simp only [Tables.subscribed, addLegalRegister_assetBalances, addAssetBalance_assetBalances,
      setCashSettlement_assetBalances, addCash_assetBalances]
    exact nonNegative_credit hsound.assets (by omega)
  · simp only [Tables.subscribed, addLegalRegister_cashBalances, addAssetBalance_cashBalances,
      setCashSettlement_cashBalances, addCash_cashBalances]
    exact nonNegative_credit (nonNegative_add hsound.cash (by omega)) (by omega)

private theorem transferred_sound (hsound : plane.toTables.Sound) {command : TransferCommand} {plan : TransferPlan}
    (hchecked : plan.Checked platform plane command) : (plane.toTables.transferred command plan time).Sound := by
  obtain ⟨hunits, hprice, hfee⟩ := hchecked.positive
  have hconsideration : 0 < plan.consideration := Int.mul_pos hunits hprice
  have hheld := hchecked.held
  have hfunds := hchecked.funds
  apply sound_of_moved hsound transferred_records
  · simp [Tables.transferred, hsound.mirrored]
  · simp only [Tables.transferred, addLegalRegister_assetBalances, addAssetBalance_assetBalances,
      setCashSettlement_assetBalances, addCash_assetBalances]
    exact nonNegative_credit (nonNegative_add hsound.assets (by omega)) (by omega)
  · simp only [Tables.transferred, addLegalRegister_cashBalances, addAssetBalance_cashBalances,
      setCashSettlement_cashBalances, addCash_cashBalances]
    exact nonNegative_credit (nonNegative_credit (nonNegative_add hsound.cash (by omega)) (by omega)) hfee

private theorem redeemed_sound (hsound : plane.toTables.Sound) {command : RedeemCommand} {plan : RedeemPlan}
    (hchecked : plan.Checked platform plane command) : (plane.toTables.redeemed command plan time).Sound := by
  obtain ⟨price, hpriced, hamount⟩ := hchecked.priced
  have hpositive : 0 < plan.cashAmount := by
    rw [hamount]
    exact Int.mul_pos hchecked.positive (PricedBy.positive hsound hpriced)
  have hheld := hchecked.held
  have hfunds := hchecked.funds
  apply sound_of_moved hsound redeemed_records
  · simp [Tables.redeemed, hsound.mirrored]
  · simp only [Tables.redeemed, setCashSettlement_assetBalances, addCash_assetBalances, addLegalRegister_assetBalances,
      addAssetBalance_assetBalances]
    exact nonNegative_add hsound.assets (by omega)
  · simp only [Tables.redeemed, setCashSettlement_cashBalances, addCash_cashBalances, addLegalRegister_cashBalances,
      addAssetBalance_cashBalances]
    exact nonNegative_credit (nonNegative_add hsound.cash (by omega)) (by omega)

end Moves

section Calls

variable {command : Command} {passed : Passed}

/-- The movements of a call that passed its checks keep the maps sound. -/
theorem Command.Settles.moved_sound (h : command.Settles platform plane passed) (hsound : plane.toTables.Sound) :
    (passed.moved plane.toTables).Sound := by
  cases command with
  | subscribe command =>
    obtain ⟨plan, hchecked, rfl⟩ := settles_subscribe h
    exact subscribed_sound hsound hchecked
  | transfer command =>
    obtain ⟨plan, hchecked, rfl⟩ := settles_transfer h
    exact transferred_sound hsound hchecked
  | redeem command =>
    obtain ⟨plan, hchecked, rfl⟩ := settles_redeem h
    exact redeemed_sound hsound hchecked
  | simulateRegisterFailure command =>
    obtain ⟨plan, _, rfl⟩ := settles_failure h
    exact sound_of_moved hsound released_records hsound.mirrored hsound.assets hsound.cash

/-- A new transaction keeps the maps sound. -/
private theorem newTransaction_sound {tables : Tables} (hsound : tables.Sound) {transaction : Transaction}
    (hfresh : tables.transactions.get transaction.id = none) : (tables.setTransaction transaction).Sound := by
  refine ⟨hsound.mirrored, hsound.assets, hsound.cash, hsound.products, hsound.prices, ?_, ?_⟩
  · intro id stored hget
    rw [setTransaction_transactions, get_set] at hget
    by_cases hid : id = transaction.id
    · rw [if_pos hid] at hget
      obtain rfl := Option.some.inj hget
      exact hid.symm
    · rw [if_neg hid] at hget
      exact hsound.transactions id stored hget
  · intro id exceptionCase hget
    obtain ⟨hid, original, horiginal, htype⟩ := hsound.cases id exceptionCase hget
    refine ⟨hid, original, ?_, htype⟩
    rw [setTransaction_transactions, get_set_of_ne]
    · exact horiginal
    · intro heq
      rw [heq, hfresh] at horiginal
      cases horiginal

/-- A case about a stored transfer keeps the maps sound. -/
theorem setCase_sound {tables : Tables} (hsound : tables.Sound) {exceptionCase : ExceptionCase} {original : Transaction}
    (horiginal : tables.transactions.get exceptionCase.transactionId = some original)
    (htype : original.type = .transfer) : (tables.setCase exceptionCase).Sound := by
  refine ⟨hsound.mirrored, hsound.assets, hsound.cash, hsound.products, hsound.prices, hsound.transactions, ?_⟩
  intro id stored hget
  rw [setCase_exceptionCases, get_set] at hget
  by_cases hid : id = exceptionCase.id
  · rw [if_pos hid] at hget
    obtain rfl := Option.some.inj hget
    exact ⟨hid.symm, original, horiginal, htype⟩
  · rw [if_neg hid] at hget
    exact hsound.cases id stored hget

/-- A stored transfer and the case about it may change together. -/
theorem resolution_sound {tables : Tables} (hsound : tables.Sound) {exceptionCase : ExceptionCase}
    {original : Transaction} (horiginal : tables.transactions.get exceptionCase.transactionId = some original)
    (htype : original.type = .transfer) {state : TransactionState} {lifecycle : List Transition} :
    ((tables.setTransaction (original.inState state lifecycle)).setCase exceptionCase).Sound := by
  have hid := hsound.transactions _ _ horiginal
  refine @setCase_sound _ (setTransaction_sound hsound horiginal) _ (original.inState state lifecycle) ?_ htype
  rw [← hid]
  exact get_inState

private theorem setIdempotency_sound {tables : Tables} (hsound : tables.Sound) {key : String}
    {stored : IdempotencyRecord} : (tables.setIdempotency key stored).Sound :=
  ⟨hsound.mirrored, hsound.assets, hsound.cash, hsound.products, hsound.prices, hsound.transactions, hsound.cases⟩

/-- A settlement call keeps the maps sound, however it ends. -/
theorem Command.Outcome.sound {outcome : Except Failure Receipt} (h : command.Outcome platform plane outcome final)
    (hsound : plane.toTables.Sound) : final.toTables.Sound := by
  cases h with
  | refused _ _ kept => rwa [show final.toTables = plane.toTables from congrArg Books.toTables kept]
  | replayed => exact hsound
  | conflict => exact hsound
  | broken settles _ moved =>
    rw [toTables_of_books moved]
    exact settles.moved_sound hsound
  | @executed passed policy settledAt lifecycle commitment fingerprint receipt _ settles _ _ _ stored =>
    rw [toTables_of_books stored]
    apply setIdempotency_sound
    have hfresh :
      (passed.moved plane.toTables).transactions.get ((passed.data policy).transaction passed.state settledAt
        lifecycle commitment).id = none := by
      rw [← (settles.moved_records _).transactions]
      exact (congrArg _ (settles.fresh_id.2 policy)).trans settles.fresh_id.1
    have hstored := newTransaction_sound (settles.moved_sound hsound) hfresh
    rcases settles.opened with ⟨hopened, _⟩ | ⟨terms, plan, rfl, _, hopened⟩
    · rwa [hopened]
    · rw [hopened]
      obtain ⟨_, _, rfl⟩ := settles_failure settles
      exact setCase_sound hstored get_set_self rfl

end Calls

/-- An approval keeps the maps sound, however it ends. -/
theorem ApprovalEnds.sound {caseId checkerId : String} {outcome : Except Failure Resolved} {books : Books}
    (h : ApprovalEnds platform plane caseId checkerId outcome books) (hsound : plane.toTables.Sound) :
    books.toTables.Sound := by
  cases h with
  | refused => exact hsound
  | @cancelled exceptionCase _ _ approvable =>
    obtain ⟨_, stored, hstored, htype⟩ := hsound.cases _ _ approvable.found
    obtain rfl := Option.some.inj (approvable.stored.symm.trans hstored)
    exact @resolution_sound _ hsound (exceptionCase.cancelled _ _) _ hstored htype _ _
  | @retry exceptionCase proposal original reviewed settled lifecycle transferred _ _ approvable _ _ review _
    transfer ends =>
    obtain ⟨_, stored, hstored, htype⟩ := hsound.cases _ _ approvable.found
    obtain rfl := Option.some.inj (approvable.stored.symm.trans hstored)
    have hid := hsound.transactions _ _ hstored
    have hreviewed : reviewed.toTables.Sound := by
      rw [toTables_of_books review]
      exact setTransaction_sound hsound hstored
    have hkept : settled.transactions.get exceptionCase.transactionId = some
      (original.inState original.state lifecycle) := by
      apply transfer.keeps_transaction
      rw [toTables_of_books review, ← hid]
      exact get_inState
    cases ends with
    | blocked => exact @resolution_sound _ (transfer.sound hreviewed) exceptionCase.reopened _ hkept htype _ _
    | retried => exact @resolution_sound _ (transfer.sound hreviewed) (exceptionCase.retried _ _ _) _ hkept htype _ _

private theorem set_products_sound {tables : Tables} (hsound : tables.Sound) {id : String} {found : Product}
    (hid : found.id = id) : ({ tables with products := tables.products.set id found } : Tables).Sound := by
  refine ⟨hsound.mirrored, hsound.assets, hsound.cash, ?_, hsound.prices, hsound.transactions, hsound.cases⟩
  intro other stored hget
  rw [get_set] at hget
  by_cases hother : other = id
  · rw [if_pos hother] at hget
    obtain rfl := Option.some.inj hget
    exact hid.trans hother.symm
  · rw [if_neg hother] at hget
    exact hsound.products other stored hget

/-- Every call keeps the maps sound. -/
theorem CallEnds.sound {call : Call} {outcome : Except Failure Reply} {books : Books}
    (h : CallEnds platform plane call outcome books) (hsound : plane.toTables.Sound) : books.toTables.Sound := by
  cases h with
  | refused => exact hsound
  | registered =>
    exact ⟨hsound.mirrored, hsound.assets, hsound.cash, hsound.products, hsound.prices,
      hsound.transactions, hsound.cases⟩
  | created => exact set_products_sound hsound rfl
  | activated => exact set_products_sound hsound rfl
  | paused => exact set_products_sound hsound rfl
  | credential =>
    exact ⟨hsound.mirrored, hsound.assets, hsound.cash, hsound.products, hsound.prices,
      hsound.transactions, hsound.cases⟩
  | revoked =>
    exact ⟨hsound.mirrored, hsound.assets, hsound.cash, hsound.products, hsound.prices,
      hsound.transactions, hsound.cases⟩
  | @evidence envelope _ price =>
    refine ⟨hsound.mirrored, hsound.assets, hsound.cash, hsound.products, ?_, hsound.transactions, hsound.cases⟩
    intro id stored hget
    change (plane.evidence.set envelope.id _).get id = _ at hget
    rw [get_set] at hget
    by_cases hid : id = envelope.id
    · rw [if_pos hid] at hget
      obtain rfl := Option.some.inj hget
      exact price
    · rw [if_neg hid] at hget
      exact hsound.prices id stored hget
  | credited _ positive =>
    exact ⟨hsound.mirrored, hsound.assets, nonNegative_credit hsound.cash positive, hsound.products, hsound.prices,
      hsound.transactions, hsound.cases⟩
  | settled ends => exact ends.sound hsound
  | @proposed _ _ _ _ exceptionCase _ proposable =>
    obtain ⟨_, stored, hstored, htype⟩ := hsound.cases _ _ proposable.found
    obtain rfl := Option.some.inj (proposable.stored.symm.trans hstored)
    exact @resolution_sound _ hsound (exceptionCase.proposed _) _ hstored htype _ _
  | approved ends => exact ends.sound hsound

theorem start_sound : ControlPlane.start.toTables.Sound where
  mirrored := rfl
  assets := fun _ _ => nofun
  cash := fun _ _ => nofun
  products := fun _ _ => nofun
  prices := fun _ _ => nofun
  transactions := fun _ _ => nofun
  cases := fun _ _ => nofun

/-- The state in which an action makes its call. -/
def ControlPlane.atTime (plane : ControlPlane) (time : Int) : ControlPlane := { plane with clock := time }

/-- Every action is a call that ends in one of the known ways. -/
theorem step_ends (hsound : plane.toTables.Sound) {action : Action} :
    CallEnds platform (plane.atTime action.now) action.call (respond platform plane action).1
      (step platform plane action).books :=
  @Call.run_ends platform (plane.atTime action.now) _ hsound _ _ rfl

theorem step_sound (hsound : plane.toTables.Sound) {action : Action} : (step platform plane action).toTables.Sound :=
  (step_ends hsound).sound hsound

/-- The maps are sound after every run. -/
theorem run_sound (actions : List Action) : (run platform actions).toTables.Sound :=
  @runs.run_invariant _ _ _ _ (fun plane : ControlPlane => plane.toTables.Sound) start_sound
    (fun _ _ hsound => step_sound hsound) actions

end rwa.control_plane
