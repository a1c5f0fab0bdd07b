import RwaControlPlane.ControlPlane.Conservation

open attempt js_map js_value

namespace rwa.control_plane

variable {platform : Platform} {plane final : ControlPlane}

/-- A call that throws changed none of its maps, and at most logged something. -/
structure Unchanged (before after : ControlPlane) : Prop where
  cashBalances : after.cashBalances = before.cashBalances
  assetBalances : after.assetBalances = before.assetBalances
  legalRegister : after.legalRegister = before.legalRegister
  transactions : after.transactions = before.transactions
  cashSettlements : after.cashSettlements = before.cashSettlements
  exceptionCases : after.exceptionCases = before.exceptionCases
  idempotency : after.idempotency = before.idempotency
  events : before.events <+: after.events

/-- A call whose terms pass every check, for a product whose rules cannot be canonicalized.
The policy snapshot then throws after the movements. A failed registration moves
only its cash settlement, and leaves that as it is when the same one is stored. -/
def Command.Spoils (platform : Platform) (plane : ControlPlane) (command : Command) : Prop :=
  ∃ passed, command.Settles platform plane passed ∧ passed.product.rules.canonicalizes = false ∧
    (command.operation = .simulateRegisterFailure → plane.cashSettlements.get command.id ≠
      some ⟨command.id, command.productId, .released, platform.isoText plane.clock⟩)

section Log

/-- The log grows. -/
private abbrev LogGrows {α : Type} (action : Step α) : Prop :=
  Follows (fun before after : ControlPlane => before.events <+: after.events) action

variable {α β : Type} {action : Step α} {next : α → Step β}

private theorem grows_bind (haction : LogGrows action) (hnext : ∀ value, LogGrows (next value)) :
    LogGrows (action >>= next) :=
  Follows.bind (fun hfirst hsecond => hfirst.trans hsecond) haction hnext

private theorem grows_reads (h : ReadsOnly action) : LogGrows action := h.follows fun _ => List.prefix_refl _

private theorem grows_modify {change : ControlPlane → ControlPlane}
    (h : ∀ plane, (change plane).events = plane.events) :
    LogGrows (modify change) := by
  intro plane
  have hkept : (change plane).events = plane.events := h plane
  exact hkept.symm ▸ List.prefix_refl plane.events

private theorem grows_record {event : Event} : LogGrows (record platform event) :=
  fun _ => List.prefix_append _ _

private theorem grows_transition {lifecycle : List Transition} {state : TransactionState} {id productId : String}
    {type : TransactionType} : LogGrows (transition platform lifecycle state id type productId) :=
  fun _ => List.prefix_append _ _

private theorem grows_finish {found : Product} {nav : StoredEvidence} {data : PolicySnapshot → TransactionData}
    {event : Event} {lifecycle : List Transition} : LogGrows (finish platform found nav data event lifecycle) :=
  grows_bind (grows_reads readsOnly_policySnapshot) fun _ => grows_bind
    (grows_bind (grows_reads readsOnly_assertNewTransaction) fun _ => grows_bind (fun _ => List.prefix_refl _) fun _ =>
      grows_bind (grows_reads readsOnly_now) fun _ => grows_bind (grows_reads readsOnly_lift) fun _ =>
      grows_bind grows_transition fun _ => grows_bind (grows_modify fun _ => rfl) fun _ => grows_reads readsOnly_pure)
    fun _ => grows_bind grows_record fun _ => grows_reads readsOnly_publicReceipt

private theorem grows_debitCash {key : String} {amount : Int} : LogGrows (debitCash key amount) :=
  grows_bind (grows_reads readsOnly_read) fun _ => grows_bind (grows_reads readsOnly_require) fun _ =>
    grows_modify fun _ => rfl

private theorem grows_creditCash {key : String} {amount : Int} : LogGrows (creditCash key amount) :=
  grows_modify fun _ => rfl

private theorem grows_confirm {id productId : String} : LogGrows (confirmSandboxCash platform id productId) :=
  grows_bind (grows_reads readsOnly_now) fun _ => grows_bind (grows_modify fun _ => rfl) fun _ => grows_record

private theorem grows_addAsset {ledger : UnitLedger} {accountId productId : String} {delta : Int} :
    LogGrows (addAsset ledger accountId productId delta) :=
  grows_bind (grows_reads readsOnly_read) fun _ => grows_bind (grows_reads readsOnly_ensure) fun _ =>
    grows_modify fun _ => by cases ledger <;> rfl

private theorem grows_settleSubscribe {command : SubscribeCommand} {plan : SubscribePlan}
    {lifecycle : List Transition} :
    LogGrows (settleSubscribe platform command plan lifecycle) :=
  grows_bind grows_transition fun _ => grows_bind grows_transition fun _ => grows_bind grows_debitCash fun _ =>
    grows_bind grows_creditCash fun _ => grows_bind grows_confirm fun _ => grows_bind grows_transition fun _ =>
    grows_bind grows_addAsset fun _ => grows_bind grows_addAsset fun _ => grows_finish

private theorem grows_settleTransfer {command : TransferCommand} {plan : TransferPlan} {lifecycle : List Transition} :
    LogGrows (settleTransfer platform command plan lifecycle) :=
  grows_bind grows_transition fun _ => grows_bind grows_transition fun _ => grows_bind grows_debitCash fun _ =>
    grows_bind grows_creditCash fun _ => grows_bind grows_creditCash fun _ => grows_bind grows_confirm fun _ =>
    grows_bind grows_transition fun _ => grows_bind grows_addAsset fun _ => grows_bind grows_addAsset fun _ =>
    grows_bind grows_addAsset fun _ => grows_bind grows_addAsset fun _ => grows_finish

private theorem grows_settleRedeem {command : RedeemCommand} {plan : RedeemPlan} {lifecycle : List Transition} :
    LogGrows (settleRedeem platform command plan lifecycle) :=
  grows_bind grows_transition fun _ => grows_bind grows_transition fun _ => grows_bind grows_addAsset fun _ =>
    grows_bind grows_addAsset fun _ => grows_bind grows_debitCash fun _ => grows_bind grows_creditCash fun _ =>
    grows_bind grows_confirm fun _ => grows_bind grows_transition fun _ => grows_finish

private theorem grows_openException {command : TransferCommand} {plan : TransferPlan} {lifecycle : List Transition} :
    LogGrows (openException platform command plan lifecycle) :=
  grows_bind grows_transition fun _ => grows_bind grows_transition fun _ => grows_bind grows_transition fun _ =>
    grows_bind (grows_reads readsOnly_now) fun _ => grows_bind (grows_modify fun _ => rfl) fun _ =>
    grows_bind grows_record fun _ => grows_bind grows_transition fun _ =>
    grows_bind (grows_reads readsOnly_policySnapshot) fun _ =>
    grows_bind (grows_bind (grows_reads readsOnly_lift) fun _ => grows_bind (grows_modify fun _ => rfl) fun _ =>
      grows_reads readsOnly_pure) fun _ =>
    grows_bind (grows_modify fun _ => rfl) fun _ => grows_bind grows_record fun _ =>
    grows_bind (grows_reads readsOnly_publicReceipt) fun _ => grows_reads readsOnly_pure

private theorem grows_attempt {Plan : Type} {check : Step Plan} {settle : Plan → List Transition → Step Receipt}
    {key id productId : String} {type : TransactionType} {request : JsValue} (hcheck : ReadsOnly check)
    (hsettle : ∀ plan lifecycle, LogGrows (settle plan lifecycle)) :
    LogGrows (idempotent platform key request (runTransactionAttempt platform id type productId
      fun lifecycle => check >>= fun plan => settle plan lifecycle)) := by
  refine grows_bind (grows_reads readsOnly_ensure) fun _ => grows_bind (grows_reads readsOnly_lift) fun _ =>
    grows_bind (grows_reads readsOnly_read) fun previous => ?_
  cases previous with
  | some previous => exact grows_bind (grows_reads readsOnly_ensure) fun _ => grows_reads readsOnly_pure
  | none =>
    refine grows_bind ?_ fun _ => grows_bind (grows_modify fun _ => rfl) fun _ => grows_reads readsOnly_pure
    refine grows_bind grows_transition fun lifecycle =>
      Follows.onFailure (fun hfirst hsecond => hfirst.trans hsecond) ?_ ?_
    · exact grows_bind (grows_reads hcheck) fun plan => hsettle plan lifecycle
    · exact fun _ => grows_record

/-- No settlement call removes or changes an entry of the log. -/
theorem Command.run_grows {command : Command} : LogGrows (command.run platform) := by
  cases command with
  | subscribe command => exact grows_attempt readsOnly_checkSubscribe fun _ _ => grows_settleSubscribe
  | transfer command => exact grows_attempt readsOnly_checkTransfer fun _ _ => grows_settleTransfer
  | redeem command => exact grows_attempt readsOnly_checkRedeem fun _ _ => grows_settleRedeem
  | simulateRegisterFailure command => exact grows_attempt readsOnly_checkTransfer fun _ _ => grows_openException

end Log

section Moves

variable {balances : JsMap String Int} {key other : String} {delta : Int}

private theorem add_ne (h : delta ≠ 0) : add balances key delta ≠ balances := by
  intro heq
  have hbalance := congrArg (balanceOf · key) heq
  simp only [balanceOf_add, if_true] at hbalance
  omega

/-- Movements change the maps, unless the same reservation was released before. -/
private theorem moved_unchanged_iff {command : Command} {passed : Passed} (h : command.Settles platform plane passed) :
    ((passed.moved plane.toTables).assetBalances = plane.assetBalances ∧
        (passed.moved plane.toTables).cashSettlements = plane.cashSettlements) →
      command.operation = .simulateRegisterFailure ∧ plane.cashSettlements.get command.id =
        some ⟨command.id, command.productId, .released, platform.isoText plane.clock⟩ := by
  rintro ⟨hassets, hcash⟩
  cases command with
  | subscribe command =>
    obtain ⟨plan, hchecked, rfl⟩ := settles_subscribe h
    have hunits := hchecked.positive
    simp only [SubscribeCommand.passed, Tables.subscribed, addLegalRegister_assetBalances,
      addAssetBalance_assetBalances, setCashSettlement_assetBalances, addCash_assetBalances] at hassets
    exact absurd hassets (add_ne (by omega))
  | transfer command =>
    obtain ⟨plan, hchecked, rfl⟩ := settles_transfer h
    have hunits := hchecked.positive.1
    simp only [TransferCommand.passed, Tables.transferred, addLegalRegister_assetBalances,
      addAssetBalance_assetBalances, setCashSettlement_assetBalances, addCash_assetBalances] at hassets
    have hbalance := congrArg (balanceOf · (balanceKey command.sellerId command.productId)) hassets
    have hparties : ¬balanceKey command.sellerId command.productId = balanceKey command.buyerId command.productId :=
      fun heq => hchecked.parties (balanceKey_left heq)
    simp only [balanceOf_add, if_true, if_neg hparties] at hbalance
    omega
  | redeem command =>
    obtain ⟨plan, hchecked, rfl⟩ := settles_redeem h
    have hunits := hchecked.positive
    simp only [RedeemCommand.passed, Tables.redeemed, setCashSettlement_assetBalances, addCash_assetBalances,
      addLegalRegister_assetBalances, addAssetBalance_assetBalances] at hassets
    exact absurd hassets (add_ne (by omega))
  | simulateRegisterFailure command =>
    obtain ⟨plan, _, rfl⟩ := settles_failure h
    exact ⟨rfl, set_eq_self_iff.mp hcash⟩

/-- Releasing a reservation again changes nothing. -/
private theorem released_again {command : Command} {passed : Passed} (h : command.Settles platform plane passed)
    (hoperation : command.operation = .simulateRegisterFailure)
    (hstored : plane.cashSettlements.get command.id =
      some ⟨command.id, command.productId, .released, platform.isoText plane.clock⟩) :
    passed.moved plane.toTables = plane.toTables := by
  cases command with
  | subscribe => cases hoperation
  | transfer => cases hoperation
  | redeem => cases hoperation
  | simulateRegisterFailure command =>
    obtain ⟨plan, _, rfl⟩ := settles_failure h
    have hcash := set_eq_self_iff.mpr hstored
    change ({ plane.toTables with cashSettlements := plane.cashSettlements.set command.id _ } : Tables) = plane.toTables
    change plane.cashSettlements.set command.id ⟨command.id, command.productId, .released,
      platform.isoText plane.clock⟩ = plane.cashSettlements at hcash
    rw [hcash]

end Moves

/-- A call that does not spoil the maps leaves them as they were when it throws. -/
theorem tables_of_error (hsound : plane.toTables.Sound) {command : Command} (hspoils : ¬command.Spoils platform plane)
    {failure : Failure} (hrun : command.run platform plane = (.error failure, final)) :
    final.toTables = plane.toTables := by
  cases Command.run_outcome hsound hrun with
  | refused _ _ kept => exact congrArg Books.toTables kept
  | conflict => rfl
  | @broken passed _ _ settles unhashed moved =>
    have hreleased : ¬(command.operation = .simulateRegisterFailure → plane.cashSettlements.get command.id ≠
        some ⟨command.id, command.productId, .released, platform.isoText plane.clock⟩) :=
      fun h => hspoils ⟨passed, settles, unhashed, h⟩
    obtain ⟨hoperation, hstored⟩ := Classical.not_imp.mp hreleased
    rw [not_not] at hstored
    rw [toTables_of_books moved]
    exact released_again settles hoperation hstored

/-- A settlement call that throws changes no map exactly when it is not one whose
terms pass every check for a product whose rules cannot be canonicalized. -/
theorem tables_unchanged_iff (hsound : plane.toTables.Sound) {command : Command} :
    (∀ failure final, command.run platform plane = (.error failure, final) →
      final.assetBalances = plane.assetBalances ∧ final.cashSettlements = plane.cashSettlements) ↔
      ¬command.Spoils platform plane := by
  constructor
  · rintro hatomic ⟨passed, hsettles, hunhashed, hreleased⟩
    cases hrun : command.run platform plane with
    | mk outcome final =>
      cases Command.run_outcome hsound hrun with
      | refused _ refused => exact refused passed hsettles
      | replayed _ found => rw [hsettles.fresh] at found; cases found
      | conflict _ found => rw [hsettles.fresh] at found; cases found
      | broken settles _ moved =>
        obtain rfl := hsettles.unique settles
        obtain ⟨hassets, hcash⟩ := hatomic _ _ hrun
        rw [toTables_of_books moved] at hassets hcash
        obtain ⟨hoperation, hstored⟩ := moved_unchanged_iff settles ⟨hassets, hcash⟩
        exact hreleased hoperation hstored
      | executed settles hashed =>
        obtain rfl := hsettles.unique settles
        rw [hunhashed] at hashed
        cases hashed
  · intro hspoils failure final hrun
    have htables := tables_of_error hsound hspoils hrun
    exact ⟨congrArg _ htables, congrArg _ htables⟩

/-- A settlement call that throws changes no map, in every reachable state, exactly
when it is not one whose terms pass every check for a product whose rules cannot be
canonicalized. -/
theorem rejection_atomic_iff {actions : List Action} {time : Int} {command : Command} :
    (∀ failure final, command.run platform ((run platform actions).atTime time) = (.error failure, final) →
      Unchanged ((run platform actions).atTime time) final) ↔
      ¬command.Spoils platform ((run platform actions).atTime time) := by
  have hsound : ((run platform actions).atTime time).toTables.Sound := run_sound actions
  constructor
  · intro hatomic
    refine (tables_unchanged_iff hsound).mp fun failure final hrun => ?_
    exact ⟨(hatomic failure final hrun).assetBalances, (hatomic failure final hrun).cashSettlements⟩
  · intro hspoils failure final hrun
    have htables := tables_of_error hsound hspoils hrun
    have hgrows := @Command.run_grows platform command ((run platform actions).atTime time)
    rw [hrun] at hgrows
    exact ⟨congrArg _ htables, congrArg _ htables, congrArg _ htables, congrArg _ htables, congrArg _ htables,
      congrArg _ htables, congrArg _ htables, hgrows⟩

section Sample

/-- The sample fund with a BigInt in its rules. -/
def sampleBigInt : List Action :=
  sampleSetup.map fun action => match action.call with
    | .createProduct command =>
      ⟨action.now, .createProduct { command with rules := { command.rules with extra := [("limit", .bigint 1)] } }⟩
    | _ => action

/-- A subscription to it throws after it moved cash and units. -/
theorem rejection_not_atomic :
    ¬∀ (platform : Platform) (actions : List Action) (time : Int) (command : Command) (failure : Failure)
      (final : ControlPlane), command.run platform ((run platform actions).atTime time) = (.error failure, final) →
        Unchanged ((run platform actions).atTime time) final := by
  intro hatomic
  have hunchanged := hatomic samplePlatform sampleBigInt 2
    (.subscribe ⟨"subscribe-1", "key-1", "fund", "alice", "credential-alice", "5", "50"⟩)
    (typeError "Do not know how to serialize a BigInt") _ (Prod.ext (by decide +kernel) rfl)
  exact absurd hunchanged.assetBalances (by decide +kernel)

end Sample

end rwa.control_plane
