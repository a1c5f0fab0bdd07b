import RwaControlPlane.ControlPlane.Moves

open attempt js_map js_value

namespace rwa.control_plane

/-- The four operations that have an idempotency key. -/
inductive Operation where
  | subscribe
  | transfer
  | redeem
  | simulateRegisterFailure
deriving DecidableEq

def Command.operation : Command → Operation
  | .subscribe _ => .subscribe
  | .transfer _ => .transfer
  | .redeem _ => .redeem
  | .simulateRegisterFailure _ => .simulateRegisterFailure

def Command.id : Command → String
  | .subscribe command => command.id
  | .transfer command => command.id
  | .redeem command => command.id
  | .simulateRegisterFailure command => command.id

def Command.idempotencyKey : Command → String
  | .subscribe command => command.idempotencyKey
  | .transfer command => command.idempotencyKey
  | .redeem command => command.idempotencyKey
  | .simulateRegisterFailure command => command.idempotencyKey

def Command.request : Command → JsValue
  | .subscribe command => command.request
  | .transfer command => command.request
  | .redeem command => command.request
  | .simulateRegisterFailure command => command.request

def Command.productId : Command → String
  | .subscribe command => command.productId
  | .transfer command => command.productId
  | .redeem command => command.productId
  | .simulateRegisterFailure command => command.productId

def Operation.type : Operation → TransactionType
  | .subscribe => .subscribe
  | .transfer => .transfer
  | .redeem => .redeem
  | .simulateRegisterFailure => .transfer

/-- What a call does once its checks have passed: what it moves, the transaction
that it stores, and the case that it opens. -/
structure Passed where
  product : Product
  nav : StoredEvidence
  moved : Tables → Tables
  data : PolicySnapshot → TransactionData
  state : TransactionState
  opened : Option ExceptionCase

def SubscribeCommand.passed (command : SubscribeCommand) (time : String) (plan : SubscribePlan) : Passed where
  product := plan.product
  nav := plan.nav
  moved := Tables.subscribed command plan time
  data := command.data plan
  state := .settled
  opened := none

def TransferCommand.passed (command : TransferCommand) (time : String) (plan : TransferPlan) : Passed where
  product := plan.product
  nav := plan.nav
  moved := Tables.transferred command plan time
  data := command.data plan .standard
  state := .settled
  opened := none

def RedeemCommand.passed (command : RedeemCommand) (time : String) (plan : RedeemPlan) : Passed where
  product := plan.product
  nav := plan.nav
  moved := Tables.redeemed command plan time
  data := command.data plan
  state := .settled
  opened := none

def TransferCommand.failed (command : TransferCommand) (time : String) (plan : TransferPlan) : Passed where
  product := plan.product
  nav := plan.nav
  moved := Tables.released command time
  data := command.data plan .exceptionReview
  state := .requiresReview
  opened := some (command.exceptionCase time plan)

variable (platform : Platform)

/-- The checks of a call. -/
def Command.check (time : String) : Command → Step Passed
  | .subscribe command => do
    let plan ← checkSubscribe platform command
    return command.passed time plan
  | .transfer command => do
    let plan ← checkTransfer platform command
    return command.passed time plan
  | .redeem command => do
    let plan ← checkRedeem platform command
    return command.passed time plan
  | .simulateRegisterFailure command => do
    let plan ← checkTransfer platform command
    return command.failed time plan

/-- The state in which a call makes its checks: the request is logged. -/
def Command.requested (command : Command) (plane : ControlPlane) : ControlPlane :=
  plane.log platform (.transactionStateChanged command.id command.productId command.operation.type .requested)

/-- A call with a new key, whose checks pass. -/
structure Command.Settles (plane : ControlPlane) (command : Command) (passed : Passed) : Prop where
  key : command.idempotencyKey ≠ ""
  fresh : plane.idempotency.get command.idempotencyKey = none
  check : command.check platform (platform.isoText plane.clock) (command.requested platform plane) =
    (.ok passed, command.requested platform plane)

/-- Open an exception case, if there is one to open. -/
def Tables.openCase (opened : Option ExceptionCase) (tables : Tables) : Tables :=
  match opened with
  | some exceptionCase => tables.setCase exceptionCase
  | none => tables

section OpenCase

variable {opened : Option ExceptionCase} {tables : Tables}

@[simp] theorem openCase_products : (tables.openCase opened).products = tables.products := by cases opened <;> rfl
@[simp] theorem openCase_credentials : (tables.openCase opened).credentials = tables.credentials := by
  cases opened <;> rfl
@[simp] theorem openCase_transactions : (tables.openCase opened).transactions = tables.transactions := by
  cases opened <;> rfl
@[simp] theorem openCase_idempotency : (tables.openCase opened).idempotency = tables.idempotency := by
  cases opened <;> rfl
@[simp] theorem openCase_cashBalances : (tables.openCase opened).cashBalances = tables.cashBalances := by
  cases opened <;> rfl
@[simp] theorem openCase_assetBalances : (tables.openCase opened).assetBalances = tables.assetBalances := by
  cases opened <;> rfl

end OpenCase

def Tables.setIdempotency (key : String) (stored : IdempotencyRecord) (tables : Tables) : Tables :=
  { tables with idempotency := tables.idempotency.set key stored }

/-- How a settlement call can end. It is refused and changes no map, it is answered
from the idempotency map or conflicts with it, its policy snapshot fails after its
movements, or it is executed. -/
inductive Command.Outcome (plane : ControlPlane) (command : Command) : Except Failure Receipt → ControlPlane → Prop
  | refused {failure : Failure} {final : ControlPlane}
      (unused : command.idempotencyKey = "" ∨ plane.idempotency.get command.idempotencyKey = none)
      (refused : ∀ passed, ¬command.Settles platform plane passed)
      (kept : final.books = plane.books) : Outcome plane command (.error failure) final
  | replayed {previous : IdempotencyRecord} (key : command.idempotencyKey ≠ "")
      (found : plane.idempotency.get command.idempotencyKey = some previous)
      (same : sha256Canonical platform command.request = .ok previous.fingerprint) :
      Outcome plane command (.ok previous.result) plane
  | conflict {previous : IdempotencyRecord} (key : command.idempotencyKey ≠ "")
      (found : plane.idempotency.get command.idempotencyKey = some previous)
      (differs : sha256Canonical platform command.request ≠ .ok previous.fingerprint) :
      Outcome plane command
        (.error ⟨"IDEMPOTENCY_CONFLICT", "idempotency key reused for different request"⟩) plane
  | broken {passed : Passed} {failure : Failure} {final : ControlPlane}
      (settles : command.Settles platform plane passed)
      (unhashed : passed.product.rules.canonicalizes = false)
      (moved : final.books = plane.books.withTables (passed.moved plane.toTables)) :
      Outcome plane command (.error failure) final
  | executed {passed : Passed} {policy : PolicySnapshot} {settledAt : Option String} {lifecycle : List Transition}
      {commitment fingerprint : String} {receipt : Receipt} {final : ControlPlane}
      (settles : command.Settles platform plane passed)
      (hashed : passed.product.rules.canonicalizes = true)
      (hash : sha256Canonical platform command.request = .ok fingerprint)
      (nav : policy.navEvidenceId = passed.nav.id)
      (stored : final.books = plane.books.withTables
        ((((passed.moved plane.toTables).setTransaction ((passed.data policy).transaction passed.state
          settledAt lifecycle commitment)).openCase passed.opened).setIdempotency command.idempotencyKey
            ⟨fingerprint, receipt⟩))
      (id : receipt.transactionId = command.id)
      (state : receipt.state = passed.state)
      (type : receipt.type = command.operation.type) :
      Outcome plane command (.ok receipt) final

section SetIdempotency

variable {key : String} {stored : IdempotencyRecord} {tables : Tables}

@[simp] theorem setIdempotency_products : (tables.setIdempotency key stored).products = tables.products := rfl
@[simp] theorem setIdempotency_credentials :
    (tables.setIdempotency key stored).credentials = tables.credentials := rfl
@[simp] theorem setIdempotency_transactions :
    (tables.setIdempotency key stored).transactions = tables.transactions := rfl
@[simp] theorem setIdempotency_exceptionCases :
    (tables.setIdempotency key stored).exceptionCases = tables.exceptionCases := rfl
@[simp] theorem setIdempotency_idempotency :
    (tables.setIdempotency key stored).idempotency = tables.idempotency.set key stored := rfl
@[simp] theorem setIdempotency_cashBalances :
    (tables.setIdempotency key stored).cashBalances = tables.cashBalances := rfl
@[simp] theorem setIdempotency_assetBalances :
    (tables.setIdempotency key stored).assetBalances = tables.assetBalances := rfl

end SetIdempotency

variable {platform} {plane final : ControlPlane}

section Attempt

variable {Plan : Type} {check : Step Plan} {settle : Plan → List Transition → Step Receipt} {id productId : String}
  {type : TransactionType} {outcome : Except Failure Receipt}

private theorem keeps_rejected {failure : Failure} :
    Keeps ControlPlane.books (rejected platform id productId type failure) := by
  intro state
  obtain ⟨reason, hrun⟩ := @rejected_run platform state id productId type failure
  rw [hrun]
  exact books_log rfl

/-- An attempt logs its request, makes its checks, and settles. -/
theorem runTransactionAttempt_cases (hcheck : ReadsOnly check)
    (h : runTransactionAttempt platform id type productId
      (fun lifecycle => check >>= fun plan => settle plan lifecycle) plane = (outcome, final)) :
    ((∃ failure, outcome = .error failure ∧
        (check (plane.log platform (.transactionStateChanged id productId type .requested))).1 = .error failure) ∧
        final.books = plane.books) ∨
      ∃ plan reached lifecycle,
        check (plane.log platform (.transactionStateChanged id productId type .requested)) =
          (.ok plan, plane.log platform (.transactionStateChanged id productId type .requested)) ∧
        settle plan lifecycle (plane.log platform (.transactionStateChanged id productId type .requested)) =
          (outcome, reached) ∧
        final.books = reached.books := by
  unfold runTransactionAttempt at h
  rw [bind_of_ok transition_run] at h
  obtain ⟨reached, hrun, hbooks, _⟩ := onFailure_cases (fun _ => keeps_rejected) h
  rcases bind_cases hrun with ⟨failure, hfails, rfl⟩ | ⟨plan, checked, hplan, hsettle⟩
  · left
    have hreached := hcheck.eq hfails
    rw [hreached, books_log rfl] at hbooks
    exact ⟨⟨failure, rfl, by rw [hfails]⟩, hbooks⟩
  · right
    obtain rfl := hcheck.eq hplan
    exact ⟨plan, reached, _, hplan, hsettle, hbooks⟩

/-- An operation runs once for a key: without a key it is refused, a known key is
answered from the map or conflicts, and a new one is recorded if the operation
succeeds. -/
theorem idempotent_cases {key fingerprint : String} {request : JsValue} {operation : Step Receipt}
    (hhash : sha256Canonical platform request = .ok fingerprint)
    (h : idempotent platform key request operation plane = (outcome, final)) :
    (key = "" ∧ (∃ failure, outcome = .error failure) ∧ final = plane) ∨
      (key ≠ "" ∧ ∃ previous, plane.idempotency.get key = some previous ∧ final = plane ∧
        (previous.fingerprint = fingerprint ∧ outcome = .ok previous.result ∨
          previous.fingerprint ≠ fingerprint ∧
            outcome = .error ⟨"IDEMPOTENCY_CONFLICT", "idempotency key reused for different request"⟩)) ∨
      key ≠ "" ∧ plane.idempotency.get key = none ∧
        ((∃ failure, outcome = .error failure ∧ operation plane = (.error failure, final)) ∨
          ∃ receipt reached, outcome = .ok receipt ∧ operation plane = (.ok receipt, reached) ∧
            final = reached.onTables (Tables.setIdempotency key ⟨fingerprint, receipt⟩)) := by
  unfold idempotent at h
  rcases ensure_cases h with ⟨hkey, rfl, rfl⟩ | ⟨hkey, h⟩
  · exact Or.inl ⟨not_not.mp hkey, ⟨_, rfl⟩, rfl⟩
  rw [bind_of_ok (lift_of_ok hhash), read_bind] at h
  cases hprevious : plane.idempotency.get key with
  | some previous =>
    rw [hprevious] at h
    right; left
    refine ⟨hkey, previous, rfl, ?_⟩
    rcases ensure_cases h with ⟨hdiffers, rfl, rfl⟩ | ⟨hsame, h⟩
    · exact ⟨rfl, Or.inr ⟨hdiffers, rfl⟩⟩
    · obtain ⟨rfl, rfl⟩ := Prod.mk.inj h
      exact ⟨rfl, Or.inl ⟨hsame, rfl⟩⟩
  | none =>
    rw [hprevious] at h
    right; right
    refine ⟨hkey, rfl, ?_⟩
    rcases bind_cases h with ⟨failure, hrun, rfl⟩ | ⟨receipt, reached, hrun, hnext⟩
    · exact Or.inl ⟨failure, rfl, hrun⟩
    · obtain ⟨rfl, rfl⟩ := Prod.mk.inj hnext
      exact Or.inr ⟨receipt, reached, rfl, hrun, rfl⟩

end Attempt

/-- What the maps keep over every run: both unit maps are the same, no balance is
negative, stored entries stand under their own ids, every NAV is positive, and every
case is about a stored transfer. -/
structure Tables.Sound (tables : Tables) : Prop where
  mirrored : tables.legalRegister = tables.assetBalances
  assets : ∀ key units, tables.assetBalances.get key = some units → 0 ≤ units
  cash : ∀ key amount, tables.cashBalances.get key = some amount → 0 ≤ amount
  products : ∀ id product, tables.products.get id = some product → product.id = id
  prices : ∀ id evidence, tables.evidence.get id = some evidence → evidence.dataType = "nav" →
    ∃ price, evidence.payload.navPerUnit.bind js_text.bigInt = some price ∧ 0 < price
  transactions : ∀ id transaction, tables.transactions.get id = some transaction → transaction.id = id
  cases : ∀ id exceptionCase, tables.exceptionCases.get id = some exceptionCase → exceptionCase.id = id ∧
    ∃ original, tables.transactions.get exceptionCase.transactionId = some original ∧ original.type = .transfer

section Balances

variable {balances : JsMap String Int} {key : String} {amount : Int}

theorem balanceOf_nonneg (h : ∀ key amount, balances.get key = some amount → 0 ≤ amount) :
    0 ≤ balanceOf balances key := by
  unfold balanceOf
  cases hget : balances.get key with
  | none => exact Int.le_refl 0
  | some amount => exact h key amount hget

/-- A balance that covers a positive amount is there. -/
theorem get_of_le_balanceOf (hpositive : 0 < amount) (h : amount ≤ balanceOf balances key) :
    ∃ balance, balances.get key = some balance := by
  cases hget : balances.get key with
  | none => rw [balanceOf, hget, Option.getD_none] at h; omega
  | some balance => exact ⟨balance, rfl⟩

theorem PricedBy.positive (hsound : plane.toTables.Sound) {found : Product} {nav : StoredEvidence} {price : Int}
    (h : plane.PricedBy platform found nav price) : 0 < price := by
  have hmem : nav ∈ evidenceCandidates platform plane.evidence.values found.id "nav" plane.clock :=
    List.mem_of_mem_head? h.newest
  obtain ⟨hstored, hselected⟩ := List.mem_filter.mp ((List.perm_insertionSort _ _).mem_iff.mp hmem)
  obtain ⟨id, hget⟩ := mem_values.mp hstored
  simp only [Bool.and_eq_true, decide_eq_true_eq] at hselected
  obtain ⟨value, hvalue, hpositive⟩ := hsound.prices id nav hget hselected.1.1.2
  obtain rfl := Option.some.inj (hvalue.symm.trans h.price)
  exact hpositive

end Balances

/-- How the settlement of checked terms ends. -/
def SettleEnds (plane : ControlPlane) (command : Command) (passed : Passed)
    (outcome : Except Failure Receipt × ControlPlane) : Prop :=
  (passed.product.rules.canonicalizes = false ∧ ∃ failure moved, outcome = (.error failure, moved) ∧
      moved.books = plane.books.withTables (passed.moved plane.toTables)) ∨
    passed.product.rules.canonicalizes = true ∧
      ∃ policy settledAt lifecycle commitment receipt reached, outcome = (.ok receipt, reached) ∧
        policy.navEvidenceId = passed.nav.id ∧
        reached.books = plane.books.withTables
          (((passed.moved plane.toTables).setTransaction ((passed.data policy).transaction passed.state
            settledAt lifecycle commitment)).openCase passed.opened) ∧
        receipt.transactionId = command.id ∧ receipt.state = passed.state ∧ receipt.type = command.operation.type

/-- A settlement that made its movements and is being finished. -/
private theorem settleEnds_of_finish {command : Command} {passed : Passed} {requested moved : ControlPlane}
    {event : Event} {lifecycle : List Transition} {outcome : Except Failure Receipt × ControlPlane}
    (hbooks : requested.books = plane.books) (hmoved : moved.toTables = passed.moved requested.toTables)
    (hcredits : moved.credits = requested.credits) (hclock : moved.clock = requested.clock)
    (hrun : outcome = finish platform passed.product passed.nav passed.data event lifecycle moved)
    (hevent : event.credit? = none) (hid : ∀ policy, (passed.data policy).id = command.id)
    (htype : ∀ policy, (passed.data policy).type = command.operation.type)
    (hfresh : moved.transactions.get command.id = none) (hstate : passed.state = .settled)
    (hopened : passed.opened = none) : SettleEnds plane command passed outcome := by
  have hplane : ∀ (reached : ControlPlane) (tables : Tables), reached.toTables = tables →
    reached.credits = moved.credits →
      reached.clock = moved.clock → reached.books = plane.books.withTables tables := by
    intro reached tables htables hsameCredits hsameClock
    rw [← hbooks]
    exact books_eq htables (hsameCredits.trans hcredits) (hsameClock.trans hclock)
  have htables : requested.toTables = plane.toTables := congrArg Books.toTables hbooks
  rw [htables] at hmoved
  rcases @finish_cases platform _ _ _ _ _ _ lifecycle hevent hid hfresh with ⟨hextra, failure, hfails⟩ | h
  · exact Or.inl ⟨hextra, failure, moved, hrun.trans hfails, hplane moved _ hmoved rfl rfl⟩
  · obtain ⟨hextra, policy, settledAt, lifecycle', commitment, receipt, reached, hruns, hnav, hreached, hreachedCredits,
      hreachedClock, hreceiptId, hreceiptState, hreceiptType⟩ := h
    right
    refine ⟨hextra, policy, some settledAt, lifecycle', commitment, receipt, reached, hrun.trans hruns, hnav,
      ?_, hreceiptId, hreceiptState.trans hstate.symm, hreceiptType.trans (htype policy)⟩
    rw [hopened, hstate, ← hmoved]
    exact hplane reached _ hreached hreachedCredits hreachedClock

section Settle

variable {requested : ControlPlane} {lifecycle : List Transition}

private theorem subscribe_ends {command : SubscribeCommand} {plan : SubscribePlan}
    (hsound : requested.toTables.Sound) (hbooks : requested.books = plane.books)
    (hchecked : plan.Checked platform requested command) :
    SettleEnds plane (.subscribe command) (command.passed (platform.isoText plane.clock) plan)
      (settleSubscribe platform command plan lifecycle requested) := by
  obtain ⟨price, hpriced, hamount⟩ := hchecked.priced
  have hpositive : 0 < plan.amount := by
    rw [hamount]
    exact Int.mul_pos hchecked.positive (PricedBy.positive hsound hpriced)
  obtain ⟨balance, hcash⟩ := get_of_le_balanceOf hpositive hchecked.funds
  have hheld := @balanceOf_nonneg _ (balanceKey command.investorId command.productId) hsound.assets
  have hunits := hchecked.positive
  have hmirrored := hsound.mirrored
  obtain ⟨moved, lifecycle', htables, hcredits, hclock, hrun⟩ :=
    @settleSubscribe_moves platform requested command plan lifecycle balance plane.clock (congrArg Books.clock hbooks)
      hcash (by omega) (by rw [hmirrored]; omega)
  have hfresh : moved.transactions.get command.id = none := by
    rw [htables, ← subscribed_records.transactions]
    exact hchecked.fresh
  exact settleEnds_of_finish hbooks htables hcredits (hclock.trans (congrArg Books.clock hbooks).symm) hrun rfl
    (fun _ => rfl) (fun _ => rfl) hfresh rfl rfl

private theorem transfer_ends {command : TransferCommand} {plan : TransferPlan}
    (hsound : requested.toTables.Sound) (hbooks : requested.books = plane.books)
    (hchecked : plan.Checked platform requested command) :
    SettleEnds plane (.transfer command) (command.passed (platform.isoText plane.clock) plan)
      (settleTransfer platform command plan lifecycle requested) := by
  obtain ⟨hunits, hprice, hfee⟩ := hchecked.positive
  have hconsideration : 0 < plan.consideration := Int.mul_pos hunits hprice
  obtain ⟨balance, hcash⟩ := get_of_le_balanceOf (by omega) hchecked.funds
  have hheld := hchecked.held
  have hbuyer : 0 ≤ balanceOf
      (add requested.assetBalances (balanceKey command.sellerId command.productId) (-plan.units))
      (balanceKey command.buyerId command.productId) := by
    apply balanceOf_nonneg
    intro key units hget
    rw [add, get_set] at hget
    by_cases hkey : key = balanceKey command.sellerId command.productId
    · rw [if_pos hkey] at hget
      obtain rfl := Option.some.inj hget
      omega
    · rw [if_neg hkey] at hget
      exact hsound.assets key units hget
  obtain ⟨moved, lifecycle', htables, hcredits, hclock, hrun⟩ :=
    @settleTransfer_moves platform requested command plan lifecycle balance plane.clock (congrArg Books.clock hbooks)
      hcash (by omega) (by omega) hsound.mirrored
  have hfresh : moved.transactions.get command.id = none := by
    rw [htables, ← transferred_records.transactions]
    exact hchecked.fresh
  exact settleEnds_of_finish hbooks htables hcredits (hclock.trans (congrArg Books.clock hbooks).symm) hrun rfl
    (fun _ => rfl) (fun _ => rfl) hfresh rfl rfl

private theorem redeem_ends {command : RedeemCommand} {plan : RedeemPlan}
    (hsound : requested.toTables.Sound) (hbooks : requested.books = plane.books)
    (hchecked : plan.Checked platform requested command) :
    SettleEnds plane (.redeem command) (command.passed (platform.isoText plane.clock) plan)
      (settleRedeem platform command plan lifecycle requested) := by
  obtain ⟨price, hpriced, hamount⟩ := hchecked.priced
  have hpositive : 0 < plan.cashAmount := by
    rw [hamount]
    exact Int.mul_pos hchecked.positive (PricedBy.positive hsound hpriced)
  obtain ⟨balance, hcash⟩ := get_of_le_balanceOf hpositive hchecked.funds
  have hheld := hchecked.held
  have hmirrored := hsound.mirrored
  obtain ⟨moved, lifecycle', htables, hcredits, hclock, hrun⟩ :=
    @settleRedeem_moves platform requested command plan lifecycle balance plane.clock (congrArg Books.clock hbooks)
      hcash (by omega) (by rw [hmirrored]; omega)
  have hfresh : moved.transactions.get command.id = none := by
    rw [htables, ← redeemed_records.transactions]
    exact hchecked.fresh
  exact settleEnds_of_finish hbooks htables hcredits (hclock.trans (congrArg Books.clock hbooks).symm) hrun rfl
    (fun _ => rfl) (fun _ => rfl) hfresh rfl rfl

private theorem failure_ends {command : TransferCommand} {plan : TransferPlan}
    (hbooks : requested.books = plane.books) :
    SettleEnds plane (.simulateRegisterFailure command) (command.failed (platform.isoText plane.clock) plan)
      (openException platform command plan lifecycle requested) := by
  have hclock : requested.clock = plane.clock := congrArg Books.clock hbooks
  obtain ⟨released, lifecycle', hreleased, hrun⟩ :=
    @openException_moves platform requested command plan lifecycle plane.clock hclock
  have htables : requested.toTables = plane.toTables := congrArg Books.toTables hbooks
  rw [hbooks, htables] at hreleased
  rcases @policySnapshot_run platform released plan.product plan.nav with
    ⟨hextra, failure, hfails⟩ | ⟨hextra, policy, hpolicy, hnav⟩
  · exact Or.inl ⟨hextra, failure, released, hrun.trans (bind_of_error hfails), hreleased⟩
  · obtain ⟨commitment, hcommitment⟩ :=
      @commitmentText_run platform (command.data plan .exceptionReview policy) "exception"
    set transaction :=
      (command.data plan .exceptionReview policy).transaction .requiresReview none lifecycle' commitment
      with htransaction
    have hstore : storeExceptionTransaction platform (command.data plan .exceptionReview policy) lifecycle' released =
        (.ok transaction, released.onTables (Tables.setTransaction transaction)) := by
      unfold storeExceptionTransaction
      rw [bind_of_ok (lift_of_ok hcommitment)]
      rfl
    set opened := ((released.onTables (Tables.setTransaction transaction)).onTables
      (Tables.setCase (command.exceptionCase (platform.isoText plane.clock) plan))).log platform
        (.exceptionOpened command.productId command.id "REGISTER_TIMEOUT") with hopened
    have hstored : opened.transactions.get transaction.id = some transaction := by
      simp [hopened]
    obtain ⟨receipt, hreceipt, hreceiptId, hreceiptState, hreceiptType⟩ := @publicReceipt_run platform opened _ hstored
    refine Or.inr ⟨hextra, policy, none, lifecycle', commitment,
      { receipt with exceptionCaseId := some (caseIdOf command.id), reasonCode := some "REGISTER_TIMEOUT" }, opened, ?_,
      hnav, ?_, hreceiptId, hreceiptState, hreceiptType⟩
    · rw [hrun, bind_of_ok hpolicy, bind_of_ok hstore]
      exact bind_of_ok hreceipt
    · rw [hopened, books_log rfl, books_onTables, books_onTables, toTables_onTables, hreleased,
        toTables_of_books hreleased]
      rfl

end Settle

/-- Every request has a fingerprint. -/
theorem Command.request_hash {command : Command} :
    ∃ fingerprint, sha256Canonical platform command.request = .ok fingerprint := by
  cases command with
  | subscribe command => exact sha256Canonical_object rfl
  | transfer command => exact sha256Canonical_object rfl
  | redeem command => exact sha256Canonical_object rfl
  | simulateRegisterFailure command => exact sha256Canonical_object rfl

section Run

variable {Plan : Type} {check : Step Plan} {settle : Plan → List Transition → Step Receipt} {passed : Plan → Passed}
  {command : Command} {outcome : Except Failure Receipt}

private theorem settles_iff
    (hcommand : command.check platform (platform.isoText plane.clock) = check >>= fun plan => pure (passed plan))
    (hcheck : ReadsOnly check) {terms : Passed} (hkey : command.idempotencyKey ≠ "")
    (hfresh : plane.idempotency.get command.idempotencyKey = none) :
    command.Settles platform plane terms ↔
      ∃ plan, check (command.requested platform plane) = (.ok plan, command.requested platform plane) ∧
        passed plan = terms := by
  have hcheckTerms : command.check platform (platform.isoText plane.clock) (command.requested platform plane) =
      (.ok terms, command.requested platform plane) ↔
        ∃ plan, check (command.requested platform plane) = (.ok plan, command.requested platform plane) ∧
          passed plan = terms := by
    rw [hcommand, hcheck.bind_eq_ok_iff]
    simp only [pure_eq_ok_iff, and_true]
  constructor
  · rintro ⟨_, _, hchecked⟩
    exact hcheckTerms.mp hchecked
  · intro hplan
    exact ⟨hkey, hfresh, hcheckTerms.mpr hplan⟩

/-- A call that runs its checks and then settles ends in one of the known ways. -/
private theorem outcome_of_settle
    (hcommand : command.check platform (platform.isoText plane.clock) = check >>= fun plan => pure (passed plan))
    (hcheck : ReadsOnly check)
    (hsettle : ∀ plan lifecycle, check (command.requested platform plane) =
      (.ok plan, command.requested platform plane) →
      SettleEnds plane command (passed plan) (settle plan lifecycle (command.requested platform plane)))
    (h : idempotent platform command.idempotencyKey command.request
      (runTransactionAttempt platform command.id command.operation.type command.productId
        fun lifecycle => check >>= fun plan => settle plan lifecycle) plane = (outcome, final)) :
    command.Outcome platform plane outcome final := by
  obtain ⟨fingerprint, hhash⟩ := @Command.request_hash platform command
  rcases idempotent_cases hhash h with ⟨hkey, ⟨failure, rfl⟩, rfl⟩ | ⟨hkey, previous, hfound, rfl, hrest⟩ |
    ⟨hkey, hfresh, hrun⟩
  · exact .refused (Or.inl hkey) (fun passed hsettles => hsettles.key hkey) rfl
  · rcases hrest with ⟨hsame, rfl⟩ | ⟨hdiffers, rfl⟩
    · exact .replayed hkey hfound (hhash.trans (congrArg _ hsame.symm))
    · refine .conflict hkey hfound ?_
      rw [hhash]
      exact fun heq => hdiffers (Except.ok.inj heq).symm
  · have hsettles := fun terms => @settles_iff platform plane _ check passed command hcommand hcheck terms hkey hfresh
    rcases hrun with ⟨failure, rfl, hrun⟩ | ⟨receipt, reached, rfl, hrun, rfl⟩
    · rcases runTransactionAttempt_cases hcheck hrun with ⟨⟨_, _, hfails⟩, hbooks⟩ | ⟨plan, moved, lifecycle, hplan,
        hmoved, hbooks⟩
      · refine .refused (Or.inr hfresh) (fun terms hterms => ?_) hbooks
        obtain ⟨plan, hplan, _⟩ := (hsettles terms).mp hterms
        change (check (command.requested platform plane)).1 = _ at hfails
        rw [hplan] at hfails
        cases hfails
      · have hends := hsettle plan lifecycle hplan
        change settle plan lifecycle (command.requested platform plane) = _ at hmoved
        rw [hmoved] at hends
        rcases hends with ⟨hextra, _, _, heq, hreached⟩ | ⟨_, _, _, _, _, _, _, heq, _⟩
        · obtain ⟨_, rfl⟩ := Prod.mk.inj heq
          exact .broken ((hsettles _).mpr ⟨plan, hplan, rfl⟩) hextra (hbooks.trans hreached)
        · cases (Prod.mk.inj heq).1
    · rcases runTransactionAttempt_cases hcheck hrun with ⟨⟨_, heq, _⟩, _⟩ | ⟨plan, moved, lifecycle, hplan,
        hmoved, hbooks⟩
      · cases heq
      · have hends := hsettle plan lifecycle hplan
        change settle plan lifecycle (command.requested platform plane) = _ at hmoved
        rw [hmoved] at hends
        rcases hends with ⟨_, _, _, heq, _⟩ | ⟨hextra, policy, settledAt, lifecycle', commitment, stored, _, heq,
          hnav, hstored, hid, hstate, htype⟩
        · cases (Prod.mk.inj heq).1
        · obtain ⟨hreceipt, rfl⟩ := Prod.mk.inj heq
          obtain rfl := Except.ok.inj hreceipt
          have hfinal : (reached.onTables (Tables.setIdempotency command.idempotencyKey ⟨fingerprint, receipt⟩)).books =
              plane.books.withTables ((((passed plan).moved plane.toTables).setTransaction
                (((passed plan).data policy).transaction (passed plan).state settledAt lifecycle' commitment)).openCase
                  (passed plan).opened |>.setIdempotency command.idempotencyKey ⟨fingerprint, receipt⟩) := by
            rw [books_onTables, toTables_of_books (hbooks.trans hstored), hbooks.trans hstored]
            rfl
          exact .executed ((hsettles _).mpr ⟨plan, hplan, rfl⟩) hextra hhash hnav hfinal hid hstate htype

end Run

/-- Every settlement call ends in one of the known ways. -/
theorem Command.run_outcome (hsound : plane.toTables.Sound) {command : Command} {outcome : Except Failure Receipt}
    (h : command.run platform plane = (outcome, final)) : command.Outcome platform plane outcome final := by
  have hbooks : (command.requested platform plane).books = plane.books := books_log rfl
  cases command with
  | subscribe command =>
    exact outcome_of_settle rfl readsOnly_checkSubscribe
      (fun plan lifecycle hplan => subscribe_ends hsound hbooks (checkSubscribe_ok hplan)) h
  | transfer command =>
    exact outcome_of_settle rfl readsOnly_checkTransfer
      (fun plan lifecycle hplan => transfer_ends hsound hbooks (checkTransfer_ok hplan)) h
  | redeem command =>
    exact outcome_of_settle rfl readsOnly_checkRedeem
      (fun plan lifecycle hplan => redeem_ends hsound hbooks (checkRedeem_ok hplan)) h
  | simulateRegisterFailure command =>
    exact outcome_of_settle rfl readsOnly_checkTransfer (fun plan lifecycle _ => failure_ends hbooks) h

section Settles

variable {passed : Passed}

/-- The terms of a subscription that passed its checks. -/
theorem settles_subscribe {command : SubscribeCommand} (h : (Command.subscribe command).Settles platform plane passed) :
    ∃ plan, plan.Checked platform plane command ∧ passed = command.passed (platform.isoText plane.clock) plan := by
  have hcheck := h.check
  rw [Command.check, readsOnly_checkSubscribe.bind_eq_ok_iff] at hcheck
  obtain ⟨plan, hplan, hpassed⟩ := hcheck
  obtain ⟨⟨newest, unexpired, price⟩, hamount⟩ := (checkSubscribe_ok hplan).priced.choose_spec
  have hchecked := checkSubscribe_ok hplan
  exact ⟨plan, ⟨hchecked.fresh, hchecked.product, hchecked.active, hchecked.positive, ⟨hchecked.covers.credential⟩,
    ⟨_, ⟨newest, unexpired, price⟩, hamount⟩, hchecked.funds⟩, (pure_eq_ok_iff.mp hpassed).1.symm⟩

private theorem transfer_checked {command : TransferCommand} {plan : TransferPlan} {event : Event}
    (h : plan.Checked platform (plane.log platform event) command) : plan.Checked platform plane command := by
  obtain ⟨newest, unexpired, price⟩ := h.priced.choose_spec
  exact ⟨h.fresh, h.product, h.active, h.units, h.price, h.fee, h.positive, h.parties, h.held, ⟨h.covers.credential⟩,
    ⟨_, newest, unexpired, price⟩, h.funds⟩

/-- The terms of a transfer that passed its checks. -/
theorem settles_transfer {command : TransferCommand} (h : (Command.transfer command).Settles platform plane passed) :
    ∃ plan, plan.Checked platform plane command ∧ passed = command.passed (platform.isoText plane.clock) plan := by
  have hcheck := h.check
  rw [Command.check, readsOnly_checkTransfer.bind_eq_ok_iff] at hcheck
  obtain ⟨plan, hplan, hpassed⟩ := hcheck
  exact ⟨plan, transfer_checked (checkTransfer_ok hplan), (pure_eq_ok_iff.mp hpassed).1.symm⟩

/-- The terms of a redemption that passed its checks. -/
theorem settles_redeem {command : RedeemCommand} (h : (Command.redeem command).Settles platform plane passed) :
    ∃ plan, plan.Checked platform plane command ∧ passed = command.passed (platform.isoText plane.clock) plan := by
  have hcheck := h.check
  rw [Command.check, readsOnly_checkRedeem.bind_eq_ok_iff] at hcheck
  obtain ⟨plan, hplan, hpassed⟩ := hcheck
  obtain ⟨⟨newest, unexpired, price⟩, hamount⟩ := (checkRedeem_ok hplan).priced.choose_spec
  have hchecked := checkRedeem_ok hplan
  exact ⟨plan, ⟨hchecked.fresh, hchecked.product, hchecked.active, hchecked.positive, hchecked.held,
    ⟨_, ⟨newest, unexpired, price⟩, hamount⟩, hchecked.funds⟩, (pure_eq_ok_iff.mp hpassed).1.symm⟩

/-- The terms of a transfer that passed its checks before its registration failed. -/
theorem settles_failure {command : TransferCommand}
    (h : (Command.simulateRegisterFailure command).Settles platform plane passed) :
    ∃ plan, plan.Checked platform plane command ∧ passed = command.failed (platform.isoText plane.clock) plan := by
  have hcheck := h.check
  rw [Command.check, readsOnly_checkTransfer.bind_eq_ok_iff] at hcheck
  obtain ⟨plan, hplan, hpassed⟩ := hcheck
  exact ⟨plan, transfer_checked (checkTransfer_ok hplan), (pure_eq_ok_iff.mp hpassed).1.symm⟩

variable {command : Command}

/-- A call settles on one set of terms. -/
theorem Command.Settles.unique {first second : Passed} (hfirst : command.Settles platform plane first)
    (hsecond : command.Settles platform plane second) : first = second :=
  Except.ok.inj (Prod.mk.inj (hfirst.check.symm.trans hsecond.check)).1

/-- The transaction of a call that settles is new and under the call's id. -/
theorem Command.Settles.fresh_id (h : command.Settles platform plane passed) :
    plane.transactions.get command.id = none ∧ ∀ policy, (passed.data policy).id = command.id := by
  cases command with
  | subscribe command =>
    obtain ⟨plan, hchecked, rfl⟩ := settles_subscribe h
    exact ⟨hchecked.fresh, fun _ => rfl⟩
  | transfer command =>
    obtain ⟨plan, hchecked, rfl⟩ := settles_transfer h
    exact ⟨hchecked.fresh, fun _ => rfl⟩
  | redeem command =>
    obtain ⟨plan, hchecked, rfl⟩ := settles_redeem h
    exact ⟨hchecked.fresh, fun _ => rfl⟩
  | simulateRegisterFailure command =>
    obtain ⟨plan, hchecked, rfl⟩ := settles_failure h
    exact ⟨hchecked.fresh, fun _ => rfl⟩

/-- The product of a call that settles is stored. -/
theorem Command.Settles.product (h : command.Settles platform plane passed) :
    plane.products.get command.productId = some passed.product := by
  cases command with
  | subscribe command =>
    obtain ⟨plan, hchecked, rfl⟩ := settles_subscribe h
    exact hchecked.product
  | transfer command =>
    obtain ⟨plan, hchecked, rfl⟩ := settles_transfer h
    exact hchecked.product
  | redeem command =>
    obtain ⟨plan, hchecked, rfl⟩ := settles_redeem h
    exact hchecked.product
  | simulateRegisterFailure command =>
    obtain ⟨plan, hchecked, rfl⟩ := settles_failure h
    exact hchecked.product

/-- Movements change balances and the cash settlement only. -/
theorem Command.Settles.moved_records (h : command.Settles platform plane passed) (tables : Tables) :
    tables.SameRecords (passed.moved tables) := by
  cases command with
  | subscribe command =>
    obtain ⟨plan, _, rfl⟩ := settles_subscribe h
    exact subscribed_records
  | transfer command =>
    obtain ⟨plan, _, rfl⟩ := settles_transfer h
    exact transferred_records
  | redeem command =>
    obtain ⟨plan, _, rfl⟩ := settles_redeem h
    exact redeemed_records
  | simulateRegisterFailure command =>
    obtain ⟨plan, _, rfl⟩ := settles_failure h
    exact released_records

/-- Only a failed registration opens a case, and the case is about its own
transaction. -/
theorem Command.Settles.opened (h : command.Settles platform plane passed) :
    passed.opened = none ∧ command.operation ≠ .simulateRegisterFailure ∨
      ∃ terms plan, command = .simulateRegisterFailure terms ∧ plan.Checked platform plane terms ∧
        passed.opened = some (terms.exceptionCase (platform.isoText plane.clock) plan) := by
  cases command with
  | subscribe command =>
    obtain ⟨plan, _, rfl⟩ := settles_subscribe h
    exact Or.inl ⟨rfl, Operation.noConfusion⟩
  | transfer command =>
    obtain ⟨plan, _, rfl⟩ := settles_transfer h
    exact Or.inl ⟨rfl, Operation.noConfusion⟩
  | redeem command =>
    obtain ⟨plan, _, rfl⟩ := settles_redeem h
    exact Or.inl ⟨rfl, Operation.noConfusion⟩
  | simulateRegisterFailure command =>
    obtain ⟨plan, hchecked, rfl⟩ := settles_failure h
    exact Or.inr ⟨command, plan, rfl, hchecked, rfl⟩

variable {outcome : Except Failure Receipt}

/-- No call changes a transaction that is already stored. -/
theorem Command.Outcome.keeps_transaction (h : command.Outcome platform plane outcome final) {id : String}
    {transaction : Transaction} (hstored : plane.transactions.get id = some transaction) :
    final.transactions.get id = some transaction := by
  cases h with
  | refused _ _ kept => rwa [show final.toTables = plane.toTables from congrArg Books.toTables kept]
  | replayed => exact hstored
  | conflict => exact hstored
  | broken settles _ moved => rwa [toTables_of_books moved, ← (settles.moved_records _).transactions]
  | @executed passed policy settledAt lifecycle commitment fingerprint receipt _ settles _ _ _ stored =>
    have hne : id ≠ command.id := by
      rintro rfl
      rw [settles.fresh_id.1] at hstored
      cases hstored
    rw [toTables_of_books stored]
    change (Tables.openCase _ _).transactions.get id = _
    rw [openCase_transactions, setTransaction_transactions, get_set_of_ne, ← (settles.moved_records _).transactions]
    · exact hstored
    · exact fun heq => hne (heq.trans (settles.fresh_id.2 policy))

/-- Only a failed registration changes the cases. -/
theorem Command.Outcome.keeps_cases (h : command.Outcome platform plane outcome final)
    (hoperation : command.operation ≠ .simulateRegisterFailure) : final.exceptionCases = plane.exceptionCases := by
  cases h with
  | refused _ _ kept => rw [show final.toTables = plane.toTables from congrArg Books.toTables kept]
  | replayed => rfl
  | conflict => rfl
  | broken settles _ moved => rw [toTables_of_books moved, ← (settles.moved_records _).exceptionCases]
  | executed settles _ _ _ stored =>
    rcases settles.opened with ⟨hopened, _⟩ | ⟨terms, plan, rfl, _⟩
    · rw [toTables_of_books stored, hopened]
      exact (settles.moved_records _).exceptionCases.symm
    · exact absurd rfl hoperation

end Settles

end rwa.control_plane
