import RwaControlPlane.ControlPlane.History

open attempt js_map js_value

namespace rwa.control_plane

structure EvidencePackage where
  core : JsValue
  generatedAt : String
  packageHash : String

def transactionEvidencePackage (platform : Platform) (transactionId : String) : Step EvidencePackage := do
  let transaction ← read (·.transactions.get transactionId)
  let transaction ← require transaction ⟨"UNKNOWN_TRANSACTION", "transaction not found"⟩
  let cashControl ← read (·.cashSettlements.get transactionId)
  let time ← now
  let packageHash ← lift (sha256Canonical platform (immutableCore transaction cashControl))
  return ⟨immutableCore transaction cashControl, platform.isoText time, packageHash⟩

/-- What the evidence package of a stored transaction shows. -/
def Tables.package (tables : Tables) (id : String) : Option JsValue :=
  (tables.transactions.get id).map fun transaction => immutableCore transaction (tables.cashSettlements.get id)

/-- The package of every stored transaction stays as it is. -/
def KeepsPackages (before after : Tables) : Prop :=
  ∀ id core, before.package id = some core → after.package id = some core

/-- The receipt that a call returns: its own, or that of the replacement that it
approves. -/
def Reply.receipt? : Reply → Option Receipt
  | .receipt returned => some returned
  | .resolved decided => decided.replacement
  | _ => none

variable {platform : Platform} {plane final : ControlPlane}

section Packages

variable {before after tables : Tables} {id : String} {core : JsValue}

theorem package_eq_some_iff : tables.package id = some core ↔
    ∃ transaction, tables.transactions.get id = some transaction ∧
      immutableCore transaction (tables.cashSettlements.get id) = core := by
  simp [Tables.package]

theorem KeepsPackages.refl : KeepsPackages tables tables := fun _ _ => id

theorem KeepsPackages.trans (hfirst : KeepsPackages before tables) (hsecond : KeepsPackages tables after) :
    KeepsPackages before after :=
  fun id core h => hsecond id core (hfirst id core h)

/-- Stored transactions whose cash entries stay keep their packages. -/
theorem keepsPackages_of_entries
    (h : ∀ id transaction, before.transactions.get id = some transaction →
      after.transactions.get id = some transaction ∧ after.cashSettlements.get id = before.cashSettlements.get id) :
    KeepsPackages before after := by
  intro id core hcore
  obtain ⟨transaction, hstored, rfl⟩ := package_eq_some_iff.mp hcore
  obtain ⟨hkept, hcash⟩ := h id transaction hstored
  exact package_eq_some_iff.mpr ⟨transaction, hkept, by rw [hcash]⟩

/-- The package is read with any clock. -/
theorem transactionEvidencePackage_run (hpackage : plane.package id = some core) {hash : String}
    (hhash : sha256Canonical platform core = .ok hash) :
    transactionEvidencePackage platform id plane = (.ok ⟨core, platform.isoText plane.clock, hash⟩, plane) := by
  obtain ⟨transaction, hstored, rfl⟩ := package_eq_some_iff.mp hpackage
  unfold transactionEvidencePackage
  rw [read_bind, hstored, require_some_bind, read_bind, now_bind, bind_of_ok (lift_of_ok hhash)]
  rfl

/-- States that the package does not show may be appended to a lifecycle. -/
theorem immutableCore_append {transaction : Transaction} {cash : Option CashSettlement} {transition : Transition}
    (h : transition.state ∉ creationStates) :
    immutableCore { transaction with lifecycle := transaction.lifecycle ++ [transition] } cash =
      immutableCore transaction cash := by
  simp [immutableCore, h]

end Packages

section Settlement

variable {command : Command} {passed : Passed} {outcome : Except Failure Receipt}

/-- The movements of a settlement write one cash entry, that of its own
transaction. -/
theorem Command.Settles.moved_cashSettlements (h : command.Settles platform plane passed)
    (tables : Tables) {id : String}
    (hid : id ≠ command.id) : (passed.moved tables).cashSettlements.get id = tables.cashSettlements.get id := by
  cases command with
  | subscribe command =>
    obtain ⟨plan, _, rfl⟩ := settles_subscribe h
    simp only [SubscribeCommand.passed, Tables.subscribed, addLegalRegister_cashSettlements,
      addAssetBalance_cashSettlements, setCashSettlement_cashSettlements, addCash_cashSettlements]
    exact get_set_of_ne hid
  | transfer command =>
    obtain ⟨plan, _, rfl⟩ := settles_transfer h
    simp only [TransferCommand.passed, Tables.transferred, addLegalRegister_cashSettlements,
      addAssetBalance_cashSettlements, setCashSettlement_cashSettlements, addCash_cashSettlements]
    exact get_set_of_ne hid
  | redeem command =>
    obtain ⟨plan, _, rfl⟩ := settles_redeem h
    simp only [RedeemCommand.passed, Tables.redeemed, addLegalRegister_cashSettlements, addAssetBalance_cashSettlements,
      setCashSettlement_cashSettlements, addCash_cashSettlements]
    exact get_set_of_ne hid
  | simulateRegisterFailure command =>
    obtain ⟨plan, _, rfl⟩ := settles_failure h
    exact get_set_of_ne hid

@[simp] theorem openCase_cashSettlements {opened : Option ExceptionCase} {tables : Tables} :
    (tables.openCase opened).cashSettlements = tables.cashSettlements := by
  cases opened <;> rfl

/-- No settlement call writes the cash entry of a transaction that is stored. -/
theorem Command.Outcome.keeps_cash (h : command.Outcome platform plane outcome final) {id : String}
    {transaction : Transaction} (hstored : plane.transactions.get id = some transaction) :
    final.cashSettlements.get id = plane.cashSettlements.get id := by
  have hother : ∀ {passed}, command.Settles platform plane passed → id ≠ command.id := by
    rintro passed hsettles rfl
    rw [hsettles.fresh_id.1] at hstored
    cases hstored
  cases h with
  | refused _ _ kept => rw [show final.toTables = plane.toTables from congrArg Books.toTables kept]
  | replayed => rfl
  | conflict => rfl
  | broken settles _ moved =>
    rw [toTables_of_books moved]
    exact settles.moved_cashSettlements _ (hother settles)
  | executed settles _ _ _ stored =>
    rw [toTables_of_books stored]
    change (Tables.openCase _ _).cashSettlements.get id = _
    rw [openCase_cashSettlements, setTransaction_cashSettlements]
    exact settles.moved_cashSettlements _ (hother settles)

/-- No settlement call changes a package. -/
theorem Command.Outcome.keepsPackages (h : command.Outcome platform plane outcome final) :
    KeepsPackages plane.toTables final.toTables :=
  keepsPackages_of_entries fun _ _ hstored => ⟨h.keeps_transaction hstored, h.keeps_cash hstored⟩

end Settlement

section Resolution

/-- Sound maps stay sound and keep their packages. -/
private def Advances (before after : ControlPlane) : Prop :=
  before.toTables.Sound → after.toTables.Sound ∧ KeepsPackages before.toTables after.toTables

variable {α β : Type} {action : Step α} {next : α → Step β}

private theorem advances_refl (state : ControlPlane) : Advances state state := fun hsound =>
    ⟨hsound, KeepsPackages.refl⟩

private theorem advances_trans {first second third : ControlPlane} (hfirst : Advances first second)
    (hsecond : Advances second third) : Advances first third := by
  intro hsound
  obtain ⟨hreached, hkept⟩ := hfirst hsound
  obtain ⟨hend, hkeptAgain⟩ := hsecond hreached
  exact ⟨hend, hkept.trans hkeptAgain⟩

private theorem advances_bind (haction : Follows Advances action) (hnext : ∀ value, Follows Advances (next value)) :
    Follows Advances (action >>= next) :=
  Follows.bind advances_trans haction hnext

private theorem advances_onFailure {handler : Failure → Step Unit} (haction : Follows Advances action)
    (hhandler : ∀ failure, Follows Advances (handler failure)) : Follows Advances (onFailure action handler) :=
  @Follows.onFailure _ _ _ Advances _ (fun hfirst hsecond => advances_trans hfirst hsecond) _ haction hhandler

private theorem advances_reads (h : ReadsOnly action) : Follows Advances action := h.follows advances_refl

private theorem advances_record {event : Event} : Follows Advances (record platform event) :=
  fun _ hsound => ⟨hsound, KeepsPackages.refl⟩

/-- A change of a stored transaction that its package does not show. -/
private theorem advances_updateTransaction {id : String} {change : Transaction → Transaction}
    (hchange : ∀ transaction, ∃ state lifecycle, change transaction = transaction.inState state lifecycle)
    (hcore : ∀ transaction cash, immutableCore (change transaction) cash = immutableCore transaction cash) :
    Follows Advances (updateTransaction id change) := by
  intro plane hsound
  cases hstored : plane.transactions.get id with
  | none =>
    have hrun : (updateTransaction id change plane).2 = plane := by simp [updateTransaction, hstored]
    rw [hrun]
    exact advances_refl plane hsound
  | some transaction =>
    obtain ⟨state, lifecycle, hinState⟩ := hchange transaction
    have hid := hsound.transactions id transaction hstored
    have hrun : (updateTransaction id change plane).2.toTables =
        plane.toTables.setTransaction (transaction.inState state lifecycle) := by
      rw [← hinState]
      simp only [updateTransaction, modify_run, hstored, Tables.setTransaction, hinState]
      rw [Transaction.inState, hid]
    rw [hrun]
    refine ⟨setTransaction_sound hsound hstored, fun other core hother => ?_⟩
    obtain ⟨found, hfound, rfl⟩ := package_eq_some_iff.mp hother
    rw [package_eq_some_iff, setTransaction_transactions, setTransaction_cashSettlements, get_set]
    by_cases hsame : other = id
    · subst hsame
      obtain rfl := Option.some.inj (hfound.symm.trans hstored)
      refine ⟨found.inState state lifecycle, if_pos hid.symm, ?_⟩
      rw [← hinState, hcore]
    · exact ⟨found, by rw [if_neg fun heq => hsame (heq.trans hid)]; exact hfound, rfl⟩

private theorem advances_setState {original : Transaction} {state : TransactionState} :
    Follows Advances (setState original state) :=
  advances_updateTransaction (fun transaction => ⟨state, transaction.lifecycle, rfl⟩) fun _ _ => rfl

/-- Later states of a lifecycle are not those that the package shows. -/
private theorem advances_pushLifecycle {original : Transaction} {state : TransactionState}
    (h : state ∉ creationStates) :
    Follows Advances (pushLifecycle platform original state) :=
  advances_bind (advances_reads readsOnly_now) fun _ =>
    advances_bind (advances_updateTransaction (fun transaction => ⟨transaction.state, _, rfl⟩)
      fun _ _ => immutableCore_append h) fun _ => advances_record

private theorem advances_updateCase {caseId : String} {change : ExceptionCase → ExceptionCase}
    (hid : ∀ exceptionCase, (change exceptionCase).id = exceptionCase.id)
    (htransaction : ∀ exceptionCase, (change exceptionCase).transactionId = exceptionCase.transactionId) :
    Follows Advances (updateCase caseId change) := by
  intro plane hsound
  cases hstored : plane.exceptionCases.get caseId with
  | none =>
    have hrun : (updateCase caseId change plane).2 = plane := by simp [updateCase, hstored]
    rw [hrun]
    exact advances_refl plane hsound
  | some exceptionCase =>
    obtain ⟨hcaseId, original, horiginal, htype⟩ := hsound.cases caseId exceptionCase hstored
    have hrun : (updateCase caseId change plane).2.toTables = plane.toTables.setCase (change exceptionCase) := by
      simp [updateCase, hstored, Tables.setCase, hid, hcaseId]
    rw [hrun]
    refine ⟨setCase_sound hsound ?_ htype, KeepsPackages.refl⟩
    rw [htransaction]
    exact horiginal

private theorem proposeExceptionResolution_advances {caseId makerId : String} {decision : Decision}
    {replacementTransactionId : Option String} : Follows Advances
      (proposeExceptionResolution platform caseId makerId decision replacementTransactionId) :=
  advances_bind (advances_reads readsOnly_read) fun _ => advances_bind (advances_reads readsOnly_require) fun _ =>
    advances_bind (advances_reads readsOnly_ensure) fun _ => advances_bind (advances_reads readsOnly_ensure) fun _ =>
    advances_bind (advances_reads readsOnly_ensure) fun _ => advances_bind (advances_reads readsOnly_ensure) fun _ =>
    advances_bind (advances_updateCase (fun _ => rfl) fun _ => rfl) fun _ =>
    advances_bind (advances_reads readsOnly_read) fun _ => advances_bind (advances_reads readsOnly_require) fun _ =>
    advances_bind advances_setState fun _ => advances_bind (advances_pushLifecycle (by decide)) fun _ =>
    advances_bind (advances_reads readsOnly_now) fun _ =>
    advances_bind (advances_updateCase (fun _ => rfl) fun _ => rfl) fun _ =>
    advances_bind advances_record fun _ => advances_reads readsOnly_pure

private theorem advances_command {command : Command} : Follows Advances (command.run platform) := by
  intro plane hsound
  cases hrun : command.run platform plane with
  | mk outcome final =>
    have hends := Command.run_outcome hsound hrun
    exact ⟨hends.sound hsound, hends.keepsPackages⟩

private theorem advances_blockRetry {exceptionCase : ExceptionCase} {original : Transaction} {failure : Failure} :
    Follows Advances (blockRetry platform exceptionCase original failure) :=
  advances_bind (advances_updateCase (fun _ => rfl) fun _ => rfl) fun _ => advances_bind advances_setState fun _ =>
    advances_bind (advances_pushLifecycle (by decide)) fun _ => advances_record

private theorem approveExceptionResolution_advances {caseId checkerId : String} :
    Follows Advances (approveExceptionResolution platform caseId checkerId) := by
  refine advances_bind (advances_reads readsOnly_read) fun _ =>
    advances_bind (advances_reads readsOnly_require) fun _ =>
    advances_bind (advances_reads readsOnly_ensure) fun _ => advances_bind (advances_reads readsOnly_ensure) fun _ =>
    advances_bind (advances_reads readsOnly_require) fun proposal =>
    advances_bind (advances_reads readsOnly_ensure) fun _ => advances_bind (advances_reads readsOnly_read) fun _ =>
    advances_bind (advances_reads readsOnly_require) fun original =>
    advances_bind (advances_pushLifecycle (by decide)) fun _ => advances_bind (advances_reads readsOnly_now) fun _ => ?_
  by_cases hcancel : proposal.decision = .cancel
  · rw [if_pos hcancel]
    exact advances_bind advances_setState fun _ => advances_bind (advances_pushLifecycle (by decide)) fun _ =>
      advances_bind (advances_updateCase (fun _ => rfl) fun _ => rfl) fun _ =>
      advances_bind advances_record fun _ => advances_reads readsOnly_pure
  · rw [if_neg hcancel]
    exact advances_bind (advances_onFailure (@advances_command platform (.transfer _)) fun _ =>
      advances_blockRetry) fun _ =>
      advances_bind advances_setState fun _ => advances_bind (advances_pushLifecycle (by decide)) fun _ =>
      advances_bind (advances_updateCase (fun _ => rfl) fun _ => rfl) fun _ =>
      advances_bind advances_record fun _ => advances_reads readsOnly_pure

end Resolution

/-- No action changes a package. -/
theorem step_keepsPackages (hsound : plane.toTables.Sound) {action : Action} :
    KeepsPackages plane.toTables (step platform plane action).toTables := by
  obtain ⟨time, call⟩ := action
  have hends := @step_ends platform plane hsound ⟨time, call⟩
  cases call with
  | proposeExceptionResolution caseId makerId decision replacementTransactionId =>
    exact (advances_bind proposeExceptionResolution_advances (fun _ => advances_reads readsOnly_pure)
      (plane.atTime time) hsound).2
  | approveExceptionResolution caseId checkerId =>
    exact (advances_bind approveExceptionResolution_advances (fun _ => advances_reads readsOnly_pure)
      (plane.atTime time) hsound).2
  | settle command =>
    exact (advances_bind advances_command (fun _ => advances_reads readsOnly_pure) (plane.atTime time) hsound).2
  | _ =>
    change KeepsPackages _ (step platform plane _).books.toTables
    generalize (step platform plane _).books = books at hends ⊢
    generalize (respond platform plane _).1 = outcome at hends
    cases hends <;> exact KeepsPackages.refl

/-- No run changes a package of one of its states. -/
theorem run_keepsPackages {before after : List Action} :
    KeepsPackages (run platform before).toTables (run platform (before ++ after)).toTables := by
  rw [run, run, runs.run_append]
  exact (@runs.run_relates _ _ _ _ Advances advances_refl (fun hfirst hsecond => advances_trans hfirst hsecond)
    (fun _ _ hsound => ⟨step_sound hsound, step_keepsPackages hsound⟩) after (run_sound before)).2

section Created

variable {command : Command} {id : String}

/-- A receipt shows the hash of the package that is stored under its id. -/
def Receipt.Shows (platform : Platform) (receipt : Receipt) (tables : Tables) : Prop :=
  ∃ core, tables.package receipt.transactionId = some core ∧
    sha256Canonical platform core = .ok receipt.evidencePackageHash

/-- A computation whose receipts show the package in the state that it leaves. -/
private def Reports (action : Step Receipt) : Prop :=
  ∀ plane receipt final, action plane = (.ok receipt, final) → receipt.Shows platform final.toTables

private theorem reports_bind {α : Type} {action : Step α} {next : α → Step Receipt}
    (h : ∀ value, @Reports platform (next value)) : @Reports platform (action >>= next) := by
  intro plane receipt final hrun
  obtain ⟨value, reached, _, hnext⟩ := bind_eq_ok_iff.mp hrun
  exact h value reached receipt final hnext

private theorem publicReceipt_ok {transaction : Transaction} {receipt : Receipt}
    (h : publicReceipt platform transaction plane = (.ok receipt, final)) :
    receipt.Shows platform final.toTables ∧ plane = final := by
  unfold publicReceipt at h
  obtain ⟨hash, hhash, h⟩ := readsOnly_evidencePackageHash.bind_eq_ok_iff.mp h
  obtain ⟨rfl, rfl⟩ := pure_eq_ok_iff.mp h
  unfold evidencePackageHash at hhash
  rw [read_bind] at hhash
  obtain ⟨stored, hstored, hhash⟩ := readsOnly_require.bind_eq_ok_iff.mp hhash
  rw [read_bind] at hhash
  exact ⟨⟨_, package_eq_some_iff.mpr ⟨stored, (require_eq_ok_iff.mp hstored).1, rfl⟩, (lift_eq_ok_iff.mp hhash).1⟩, rfl⟩

private theorem reports_finish {found : Product} {nav : StoredEvidence} {data : PolicySnapshot → TransactionData}
    {event : Event} {lifecycle : List Transition} :
    @Reports platform (finish platform found nav data event lifecycle) :=
  reports_bind fun _ => reports_bind fun _ => reports_bind fun _ _ _ _ h => (publicReceipt_ok h).1

private theorem reports_openException {terms : TransferCommand} {plan : TransferPlan} {lifecycle : List Transition} :
    @Reports platform (openException platform terms plan lifecycle) := by
  refine reports_bind fun _ => reports_bind fun _ => reports_bind fun _ => reports_bind fun _ => reports_bind fun _ =>
    reports_bind fun _ => reports_bind fun _ => reports_bind fun _ => reports_bind fun _ => reports_bind fun _ =>
    reports_bind fun _ => ?_
  intro plane receipt final h
  obtain ⟨inner, reached, hinner, h⟩ := bind_eq_ok_iff.mp h
  obtain ⟨rfl, rfl⟩ := pure_eq_ok_iff.mp h
  exact (publicReceipt_ok hinner).1

/-- An operation that runs under a new key reports the package. -/
private theorem reports_attempt {Plan : Type} {check : Step Plan} {settle : Plan → List Transition → Step Receipt}
    {key transactionId productId : String} {type : TransactionType} {request : JsValue} {receipt : Receipt}
    (hsettle : ∀ plan lifecycle, @Reports platform (settle plan lifecycle)) (hfresh : plane.idempotency.get key = none)
    (h : idempotent platform key request (runTransactionAttempt platform transactionId type productId
      fun lifecycle => check >>= fun plan => settle plan lifecycle) plane = (.ok receipt, final)) :
    receipt.Shows platform final.toTables := by
  unfold idempotent at h
  obtain ⟨_, _, h⟩ := readsOnly_ensure.bind_eq_ok_iff.mp h
  obtain ⟨_, _, h⟩ := readsOnly_lift.bind_eq_ok_iff.mp h
  rw [read_bind, hfresh] at h
  obtain ⟨returned, reached, hrun, h⟩ := bind_eq_ok_iff.mp h
  obtain ⟨hreceipt, rfl⟩ := Prod.mk.inj h
  obtain rfl := Except.ok.inj hreceipt
  unfold runTransactionAttempt at hrun
  obtain ⟨lifecycle, requested, _, hrun⟩ := bind_eq_ok_iff.mp hrun
  have hshows : returned.Shows platform reached.toTables :=
    reports_bind (fun plan => hsettle plan lifecycle) _ _ _ (onFailure_eq_ok_iff.mp hrun)
  exact hshows

/-- A settlement call under a new key returns a receipt that shows its package. -/
theorem Command.run_shows {receipt : Receipt} (hfresh : plane.idempotency.get command.idempotencyKey = none)
    (h : command.run platform plane = (.ok receipt, final)) : receipt.Shows platform final.toTables := by
  cases command with
  | subscribe terms =>
    refine reports_attempt (fun plan lifecycle => ?_) hfresh h
    exact reports_bind fun _ => reports_bind fun _ => reports_bind fun _ => reports_bind fun _ => reports_bind fun _ =>
      reports_bind fun _ => reports_bind fun _ => reports_bind fun _ => reports_finish
  | transfer terms =>
    refine reports_attempt (fun plan lifecycle => ?_) hfresh h
    exact reports_bind fun _ => reports_bind fun _ => reports_bind fun _ => reports_bind fun _ => reports_bind fun _ =>
      reports_bind fun _ => reports_bind fun _ => reports_bind fun _ => reports_bind fun _ => reports_bind fun _ =>
      reports_bind fun _ => reports_finish
  | redeem terms =>
    refine reports_attempt (fun plan lifecycle => ?_) hfresh h
    exact reports_bind fun _ => reports_bind fun _ => reports_bind fun _ => reports_bind fun _ => reports_bind fun _ =>
      reports_bind fun _ => reports_bind fun _ => reports_bind fun _ => reports_finish
  | simulateRegisterFailure terms => exact reports_attempt (fun _ _ => reports_openException) hfresh h

/-- A settlement call that stores a transaction returns its receipt. -/
theorem Command.run_creates (hsound : plane.toTables.Sound) {outcome : Except Failure Receipt}
    (h : command.run platform plane = (outcome, final)) (hnew : plane.transactions.get id = none)
    (hstored : final.transactions.get id ≠ none) :
    ∃ receipt, outcome = .ok receipt ∧ receipt.transactionId = id ∧ receipt.Shows platform final.toTables := by
  have hends := Command.run_outcome hsound h
  cases hends with
  | refused _ _ kept =>
    rw [show final.toTables = plane.toTables from congrArg Books.toTables kept] at hstored
    exact absurd hnew hstored
  | replayed => exact absurd hnew hstored
  | conflict => exact absurd hnew hstored
  | broken settles _ moved =>
    rw [toTables_of_books moved, ← (settles.moved_records _).transactions] at hstored
    exact absurd hnew hstored
  | @executed passed policy settledAt lifecycle commitment fingerprint receipt _ settles _ _ _ stored hid =>
    refine ⟨receipt, rfl, ?_, Command.run_shows settles.fresh h⟩
    rw [toTables_of_books stored] at hstored
    change (Tables.openCase _ _).transactions.get id ≠ none at hstored
    rw [openCase_transactions, setTransaction_transactions, get_set, ← (settles.moved_records _).transactions]
      at hstored
    by_cases hsame : id = command.id
    · rw [hid, hsame]
    · rw [if_neg fun heq => hsame (heq.trans (settles.fresh_id.2 policy))] at hstored
      exact absurd hnew hstored

/-- The receipt of a stored transaction that an approval did not change. -/
private theorem shows_of_resolution {receipt : Receipt} {tables : Tables} {transaction : Transaction}
    {exceptionCase : ExceptionCase} (h : receipt.Shows platform tables)
    (hother : receipt.transactionId ≠ transaction.id) :
    receipt.Shows platform ((tables.setTransaction transaction).setCase exceptionCase) := by
  obtain ⟨core, hcore, hhash⟩ := h
  obtain ⟨stored, hstored, rfl⟩ := package_eq_some_iff.mp hcore
  refine ⟨_, package_eq_some_iff.mpr ⟨stored, ?_, rfl⟩, hhash⟩
  rw [setCase_transactions, setTransaction_transactions, get_set_of_ne hother]
  exact hstored

/-- A resolution stores no transaction under another id. -/
private theorem resolution_get {tables : Tables} (hsound : tables.Sound) {stored : String} {original : Transaction}
    (horiginal : tables.transactions.get stored = some original) (hnew : tables.transactions.get id = none)
    {state : TransactionState} {lifecycle : List Transition} {exceptionCase : ExceptionCase} :
    ((tables.setTransaction (original.inState state lifecycle)).setCase exceptionCase).transactions.get id = none := by
  have hid := hsound.transactions _ _ horiginal
  rw [setCase_transactions, setTransaction_transactions, get_set_of_ne]
  · exact hnew
  · rintro rfl
    rw [show (original.inState state lifecycle).id = stored from hid, horiginal] at hnew
    cases hnew

/-- An action that stores a transaction replies with its receipt. -/
theorem step_creates (hsound : plane.toTables.Sound) {action : Action} (hnew : plane.transactions.get id = none)
    (hstored : (step platform plane action).transactions.get id ≠ none) :
    ∃ reply receipt, (respond platform plane action).1 = .ok reply ∧ reply.receipt? = some receipt ∧
      receipt.transactionId = id ∧ receipt.Shows platform (step platform plane action).toTables := by
  obtain ⟨time, call⟩ := action
  have hends := @step_ends platform plane hsound ⟨time, call⟩
  change (step platform plane _).books.transactions.get id ≠ none at hstored
  change ∃ reply, ∃ receipt : Receipt, _ ∧ _ ∧ _ ∧ receipt.Shows platform (step platform plane _).books.toTables
  cases call with
  | settle command =>
    obtain ⟨outcome, hrun, hreply⟩ := bind_pure_cases (@rfl _ (respond platform plane ⟨time, .settle command⟩))
    obtain ⟨receipt, rfl, hid, hshows⟩ :=
      @Command.run_creates platform (plane.atTime time) _ command id hsound outcome hrun hnew hstored
    exact ⟨.receipt receipt, receipt, hreply, rfl, hid, hshows⟩
  | approveExceptionResolution caseId checkerId =>
    generalize (step platform plane _).books = books at hends hstored ⊢
    generalize (respond platform plane _).1 = outcome at hends ⊢
    cases hends with
    | refused configuration => exact absurd rfl (configuration.2 _ _)
    | approved ends =>
      cases ends with
      | refused => exact absurd hnew hstored
      | cancelled approvable => exact absurd (resolution_get hsound approvable.stored hnew) hstored
      | @retry exceptionCase proposal original reviewed settled lifecycle transferred _ _ approvable retry
        start review ran
          transfer ends =>
        have hid := hsound.transactions _ _ approvable.stored
        have hreviewed : reviewed.toTables = plane.toTables.setTransaction
          (original.inState original.state lifecycle) :=
          toTables_of_books review
        have hother : id ≠ original.id := by
          rintro rfl
          exact absurd (hnew.symm.trans (hid ▸ approvable.stored)) (Option.some_ne_none _).symm
        have hsoundReviewed : reviewed.toTables.Sound := by
          rw [hreviewed]
          exact setTransaction_sound hsound approvable.stored
        have hnewReviewed : reviewed.transactions.get id = none := by
          rw [hreviewed]
          exact (get_set_of_ne hother).trans hnew
        have hkept : settled.transactions.get original.id = some (original.inState original.state lifecycle) :=
          transfer.keeps_transaction (by rw [hreviewed, get_inState])
        cases ends with
        | blocked =>
          obtain ⟨receipt, hfails, _⟩ := Command.run_creates hsoundReviewed ran hnewReviewed
            fun hnone => hstored (resolution_get (transfer.sound hsoundReviewed) hkept hnone)
          cases hfails
        | @retried receipt =>
          obtain ⟨returned, hreturned, hreceipt, hshows⟩ := Command.run_creates hsoundReviewed ran hnewReviewed
            fun hnone => hstored (resolution_get (transfer.sound hsoundReviewed) hkept hnone)
          obtain rfl := Except.ok.inj hreturned
          exact ⟨.resolved _, receipt, rfl, rfl, hreceipt, shows_of_resolution hshows (hreceipt ▸ hother)⟩
  | proposeExceptionResolution caseId makerId decision replacementTransactionId =>
    generalize (step platform plane _).books = books at hends hstored ⊢
    generalize (respond platform plane _).1 = outcome at hends ⊢
    cases hends with
    | refused => exact absurd hnew hstored
    | proposed proposable => exact absurd (resolution_get hsound proposable.stored hnew) hstored
  | _ =>
    generalize (step platform plane _).books = books at hends hstored
    generalize (respond platform plane _).1 = outcome at hends
    cases hends <;> exact absurd hnew hstored

end Created

/-- The action that stores a transaction, directly or as an approved replacement,
replies with a receipt. The evidence package has the hash of that receipt in every
later state and at every time. -/
theorem evidence_package_stable {before : List Action} {action : Action} {id : String}
    (hnew : (run platform before).transactions.get id = none)
    (hstored : (run platform (before ++ [action])).transactions.get id ≠ none) :
    ∃ reply receipt, (respond platform (run platform before) action).1 = .ok reply ∧
      reply.receipt? = some receipt ∧ receipt.transactionId = id ∧
      ∀ (after : List Action) (time : Int), ∃ package,
        (transactionEvidencePackage platform id ((run platform (before ++ action :: after)).atTime time)).1 =
          .ok package ∧
        package.packageHash = receipt.evidencePackageHash := by
  have hstep : run platform (before ++ [action]) = step platform (run platform before) action := runs.run_concat
  rw [hstep] at hstored
  obtain ⟨reply, receipt, hreply, hreceipt, rfl, core, hcore, hhash⟩ := step_creates (run_sound before) hnew hstored
  refine ⟨reply, receipt, hreply, hreceipt, rfl, fun after time => ?_⟩
  have hlater := @run_keepsPackages platform (before ++ [action]) after
  rw [hstep, List.append_assoc, List.singleton_append] at hlater
  have hpackage : ((run platform (before ++ action :: after)).atTime time).package receipt.transactionId = some core :=
    hlater _ _ hcore
  exact ⟨_, by rw [transactionEvidencePackage_run hpackage hhash], rfl⟩

theorem evidence_package_stable_sample :
    ∃ reply receipt, (respond samplePlatform (run samplePlatform (sampleSetup ++ sampleTrades.take 3))
        ⟨3, .approveExceptionResolution "case-transfer-1" "checker"⟩).1 = .ok reply ∧
      reply.receipt? = some receipt ∧ receipt.transactionId = "transfer-2" ∧
      ∀ (after : List Action) (time : Int), ∃ package,
        (transactionEvidencePackage samplePlatform "transfer-2"
          ((run samplePlatform ((sampleSetup ++ sampleTrades.take 3) ++
          ⟨3, .approveExceptionResolution "case-transfer-1" "checker"⟩ :: after)).atTime time)).1 = .ok package ∧
        package.packageHash = receipt.evidencePackageHash :=
  evidence_package_stable (by decide +kernel) (by decide +kernel)

end rwa.control_plane
