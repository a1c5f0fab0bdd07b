import RwaControlPlane.Durable.Books

open checked keyed_rows
open rwa.gate (TransactionType TransactionState)
open rwa.storage (TransactionIntent)
open rwa.control_plane (PlainId ControlPlane)

namespace rwa.durable

variable {service : DurableWorkflowService} {db next : Database} {now : Int}

/-- A NAV has a positive price. -/
def Evidence.Priced (evidence : Evidence) : Prop :=
  evidence.dataType = "nav" → ∀ price, toInteger evidence.payload.navPerUnit = .ok price → 0 < price

/-- The invariant of the tables that settlements read and write. -/
structure Database.Sound (db : Database) : Prop where
  intents : (db.transactions.intents.map (·.id)).Nodup
  products : ∀ product ∈ db.products, PlainId product.id ∧ IsCurrency product.rules.currency
  prices : ∀ evidence ∈ db.evidence, evidence.Priced
  subjects : ∀ credential ∈ db.credentials, PlainId credential.subjectRef
  ledger : Books ledgerAccountId db.ledgerAccounts db.ledgerBatches
  register : Books registerAccountId db.registerAccounts db.registerBatches
  covered : Covered db.ledgerAccounts db.ledgerBatches
  mirrored : Mirrored db.ledgerBatches db.registerBatches
  units : ∀ account ∈ db.registerAccounts, account.assetCode = unitAssetOf account.productId

theorem empty_sound : Database.empty.Sound where
  intents := List.nodup_nil
  products := by simp [Database.empty]
  prices := by simp [Database.empty]
  subjects := by simp [Database.empty]
  ledger := Books.empty
  register := Books.empty
  covered := by simp [Covered, Database.empty]
  mirrored := fun _ _ _ _ _ => rfl
  units := by simp [Database.empty]

section Settlement

variable {type : TransactionType} {request : Request} {registerFailure : Bool} {receipt : Receipt}

/-- What is known of the NAV that a settlement uses. -/
theorem currentNav_some {productId : String} {nav : Evidence} (h : db.currentNav productId now = some nav) :
    nav ∈ db.evidence ∧ nav.productId = productId ∧ nav.dataType = "nav" ∧ nav.status = .active ∧
      nav.effectiveAt ≤ now ∧ now < nav.expiresAt := by
  have hmem := (List.mem_insertionSort newerEvidence).mp (List.mem_of_head? h)
  obtain ⟨hstored, hselected⟩ := List.mem_filter.mp hmem
  simp only [Bool.and_eq_true, decide_eq_true_eq] at hselected
  obtain ⟨⟨⟨⟨hproduct, htype⟩, hstatus⟩, heffective⟩, hexpires⟩ := hselected
  exact ⟨hstored, hproduct, htype, hstatus, heffective, hexpires⟩

theorem SettlementPlan.Moves.coveredBy {product : Product} {plan : SettlementPlan} {source target : String}
    {sourceType targetType : AccountType} {cash : List Entry}
    (h : plan.Moves db product source sourceType target targetType cash) :
    CoveredBy db.ledgerBatches plan.ledgerEntries := by
  intro entry hentry hneg
  obtain henough | ⟨productId, ownerRef, assetCode, hname⟩ := h.covered entry hentry hneg
  · exact Or.inl henough
  · exact Or.inr ⟨productId, ownerRef, assetCode, .treasury, by decide, by decide, hname⟩

/-- Posting a plan keeps the ledger and the register alike. -/
theorem Mirrored.post (hsound : db.Sound) {product : Product} (hproduct : product ∈ db.products) {plan : SettlementPlan}
    {source target : String} {sourceType targetType : AccountType} {cash : List Entry}
    (h : plan.Moves db product source sourceType target targetType cash)
    (hpostable : Postable db.ledgerAccounts plan.ledgerEntries) {ledgerBatch registerBatch : Batch}
    (hledger : ledgerBatch.entries = plan.ledgerEntries) (hregister : registerBatch.entries = plan.registerEntries) :
    Mirrored (db.ledgerBatches ++ [ledgerBatch]) (db.registerBatches ++ [registerBatch]) := by
  intro productId ownerRef accountType hplain howner
  have hcash : accountTotal cash (ledgerAccountId productId ownerRef (unitAssetOf productId) accountType) = 0 := by
    refine cash_total hsound.ledger (fun entry hentry => ?_) (fun entry hentry => ?_) hplain howner
    · exact hpostable.booked entry (h.ledger ▸ List.mem_append_left _ hentry)
    · rw [h.currency entry hentry]
      exact (hsound.products product hproduct).2
  rw [accountBalance_concat, accountBalance_concat, hsound.mirrored productId ownerRef accountType hplain howner,
    hledger, hregister, h.ledger, h.register, accountTotal_eq, List.map_append, double_entry.balance_append,
    ← accountTotal_eq, ← accountTotal_eq, hcash, zero_add, unitEntries_total]

theorem Created.nodup {old tables : storage.TransactionTables} {row : TransactionIntent} (h : Created old row tables)
    (hold : (old.intents.map (·.id)).Nodup) : (tables.intents.map (·.id)).Nodup := by
  rw [h.intents]
  exact nodup_concat hold h.fresh

theorem SettlementEnds.sound (h : SettlementEnds service db type request registerFailure now receipt next)
    (hsound : db.Sound) : next.Sound := by
  cases h with
  | replayed => exact hsound
  | failed _ _ _ _ created =>
    exact ⟨created.nodup hsound.intents, hsound.products, hsound.prices, hsound.subjects, hsound.ledger,
      hsound.register, hsound.covered, hsound.mirrored, hsound.units⟩
  | posted _ _ checked _ created _ ledger register =>
    obtain ⟨hnav, -, htype, -⟩ := currentNav_some checked.current
    obtain ⟨source, sourceType, target, targetType, cash, hmoves⟩ := checked.moves (hsound.prices _ hnav htype)
    exact
      { intents := created.nodup hsound.intents
        products := hsound.products
        prices := hsound.prices
        subjects := hsound.subjects
        ledger := hsound.ledger.post ledger
        register := hsound.register.post register
        covered := hsound.covered.post hsound.ledger ledger hmoves.coveredBy
        mirrored := Mirrored.post hsound checked.stored hmoves ledger rfl rfl
        units := hsound.units }

end Settlement

section Resolution

theorem Database.Sound.moved (h : db.Sound) {transactionId : String} {change : storage.StateChange} :
    (db.moved transactionId change).Sound := by
  have hids : ((db.moved transactionId change).transactions.intents.map (·.id)).Nodup := by
    rw [Database.moved, storage.moved_ids]
    exact h.intents
  exact ⟨hids, h.products, h.prices, h.subjects, h.ledger, h.register, h.covered, h.mirrored, h.units⟩

theorem Database.Sound.updateCase (h : db.Sound) {caseId : String} {change : ExceptionCase → ExceptionCase} :
    (db.updateCase caseId change).Sound :=
  ⟨h.intents, h.products, h.prices, h.subjects, h.ledger, h.register, h.covered, h.mirrored, h.units⟩

theorem Database.Sound.record (h : db.Sound) {approvals : List ApprovalRecord} :
    ({ db with approvals } : Database).Sound :=
  ⟨h.intents, h.products, h.prices, h.subjects, h.ledger, h.register, h.covered, h.mirrored, h.units⟩

theorem ApprovalEnds.sound {caseId checkerId : String} {decision : ApprovalDecision} {decided : Decided}
    (h : ApprovalEnds service db caseId checkerId decision now decided next) (hsound : db.Sound) : next.Sound := by
  cases h with
  | rejected => exact hsound.record.moved.updateCase
  | cancelled => exact hsound.record.moved.updateCase
  | blocked => exact hsound.record.moved.updateCase
  | retried _ _ _ _ _ settlement => exact (settlement.sound hsound.record).moved.updateCase

end Resolution

section Bootstrap

/-- The ids that name accounts, in a plane to load. -/
def PlainPlane (plane : ControlPlane) : Prop :=
  (∀ product ∈ plane.products.values, PlainId product.id ∧ PlainId product.issuerId) ∧
    ∀ credential ∈ plane.credentials.values, PlainId credential.subjectId

instance (plane : ControlPlane) : Decidable (PlainPlane plane) := inferInstanceAs (Decidable (_ ∧ _))

private theorem insertInstitution_sound {institution : control_plane.Institution} (hsound : db.Sound)
    (h : insertInstitution db institution = .ok next) : next.Sound := by
  simp only [insertInstitution, bind_eq_ok_iff, require_eq_ok_iff, throwIf_eq_ok_iff, exists_unit, pure_eq_ok_iff] at h
  obtain ⟨_, -, -, rfl⟩ := h
  split
  · exact hsound
  · exact ⟨hsound.intents, hsound.products, hsound.prices, hsound.subjects, hsound.ledger, hsound.register,
      hsound.covered, hsound.mirrored, hsound.units⟩

private theorem insertRole_sound {productId createdAt : String} {assignment : String × String} (hsound : db.Sound)
    (h : insertRole service productId createdAt db assignment = .ok next) : next.Sound := by
  unfold insertRole at h
  obtain ⟨_, -, h⟩ := bind_eq_ok_iff.mp h
  obtain ⟨_, -, h⟩ := bind_eq_ok_iff.mp h
  split at h
  · obtain rfl := pure_eq_ok_iff.mp h
    exact hsound
  · obtain ⟨_, -, h⟩ := bind_eq_ok_iff.mp h
    obtain rfl := pure_eq_ok_iff.mp h
    exact ⟨hsound.intents, hsound.products, hsound.prices, hsound.subjects, hsound.ledger, hsound.register,
      hsound.covered, hsound.mirrored, hsound.units⟩

private theorem insertProduct_currency {product : control_plane.Product}
    (h : insertProduct service db product = .ok next) : IsCurrency product.rules.currency := by
  unfold insertProduct at h
  obtain ⟨rules, -, h⟩ := bind_eq_ok_iff.mp h
  obtain ⟨_, hchecked, -⟩ := bind_eq_ok_iff.mp h
  rw [throwIf_eq_ok_iff, not_not] at hchecked
  exact hchecked.1

private theorem insertProduct_sound {product : control_plane.Product} (hplain : PlainId product.id) (hsound : db.Sound)
    (h : insertProduct service db product = .ok next) : next.Sound := by
  have hcurrency := insertProduct_currency h
  unfold insertProduct at h
  obtain ⟨rules, hrules, h⟩ := bind_eq_ok_iff.mp h
  obtain ⟨_, -, h⟩ := bind_eq_ok_iff.mp h
  obtain ⟨_, -, hrules⟩ := bind_eq_ok_iff.mp hrules
  obtain ⟨_, -, hstored⟩ := bind_eq_ok_iff.mp hrules
  obtain rfl := pure_eq_ok_iff.mp hstored
  split at h
  · exact foldlM_preserves (fun _ _ _ _ hstate hrole => insertRole_sound hstate hrole) hsound h
  · obtain ⟨_, -, h⟩ := bind_eq_ok_iff.mp h
    refine foldlM_preserves (fun _ _ _ _ hstate hrole => insertRole_sound hstate hrole) ?_ h
    exact ⟨hsound.intents, List.forall_mem_append.mpr ⟨hsound.products, by simpa using ⟨hplain, hcurrency⟩⟩,
      hsound.prices, hsound.subjects, hsound.ledger, hsound.register, hsound.covered, hsound.mirrored, hsound.units⟩

private theorem insertEvidence_sound {evidence : control_plane.StoredEvidence}
    (hprice : evidence.dataType = "nav" → ∃ price, evidence.payload.navPerUnit.bind js_text.bigInt = some price ∧
      0 < price)
    (hsound : db.Sound) (h : insertEvidence service db evidence = .ok next) : next.Sound := by
  unfold insertEvidence at h
  obtain ⟨payload, hpayload, h⟩ := bind_eq_ok_iff.mp h
  obtain ⟨_, -, h⟩ := bind_eq_ok_iff.mp h
  obtain ⟨effectiveAt, -, h⟩ := bind_eq_ok_iff.mp h
  obtain ⟨expiresAt, -, h⟩ := bind_eq_ok_iff.mp h
  obtain ⟨_, -, h⟩ := bind_eq_ok_iff.mp h
  obtain ⟨_, -, hstored⟩ := bind_eq_ok_iff.mp hpayload
  obtain rfl := pure_eq_ok_iff.mp hstored
  split at h
  · obtain rfl := pure_eq_ok_iff.mp h
    exact hsound
  · obtain ⟨_, -, h⟩ := bind_eq_ok_iff.mp h
    obtain rfl := pure_eq_ok_iff.mp h
    refine ⟨hsound.intents, hsound.products, List.forall_mem_append.mpr ⟨hsound.prices, ?_⟩, hsound.subjects,
      hsound.ledger, hsound.register, hsound.covered, hsound.mirrored, hsound.units⟩
    simp only [List.mem_singleton, forall_eq]
    intro hnav price htext
    obtain ⟨value, hvalue, hpositive⟩ := hprice hnav
    obtain ⟨text, htext', hparsed⟩ := bind_eq_ok_iff.mp htext
    rw [require_eq_ok_iff] at htext'
    dsimp only at htext'
    rw [htext', Option.bind_some] at hvalue
    rw [control_plane.toBigInt, hvalue] at hparsed
    obtain rfl := Except.ok.inj hparsed
    exact hpositive

private theorem insertCredential_sound {plane : ControlPlane} {credential : control_plane.Credential}
    (hplain : PlainId credential.subjectId) (hsound : db.Sound)
    (h : insertCredential service plane db credential = .ok next) : next.Sound := by
  unfold insertCredential at h
  obtain ⟨_, -, h⟩ := bind_eq_ok_iff.mp h
  obtain ⟨maxUnits, -, h⟩ := bind_eq_ok_iff.mp h
  obtain ⟨validFrom, -, h⟩ := bind_eq_ok_iff.mp h
  obtain ⟨validUntil, -, h⟩ := bind_eq_ok_iff.mp h
  obtain ⟨status, -, h⟩ := bind_eq_ok_iff.mp h
  obtain ⟨_, -, h⟩ := bind_eq_ok_iff.mp h
  split at h
  · obtain rfl := pure_eq_ok_iff.mp h
    exact hsound
  · obtain ⟨_, -, h⟩ := bind_eq_ok_iff.mp h
    obtain rfl := pure_eq_ok_iff.mp h
    exact ⟨hsound.intents, hsound.products, hsound.prices,
      List.forall_mem_append.mpr ⟨hsound.subjects, by simpa using hplain⟩, hsound.ledger, hsound.register,
      hsound.covered, hsound.mirrored, hsound.units⟩

variable {productId ownerRef assetCode : String} {accountType : AccountType}

private theorem ensureLedgerAccount_sound (hsound : db.Sound) (hproduct : PlainId productId) (howner : PlainId ownerRef)
    (hkind : ∀ id, (⟨id, productId, ownerRef, assetCode, accountType⟩ : Account).OfKind) :
    (db.ensureLedgerAccount productId ownerRef assetCode accountType).Sound := by
  unfold Database.ensureLedgerAccount
  split
  · exact hsound
  · next hfresh =>
    exact ⟨hsound.intents, hsound.products, hsound.prices, hsound.subjects,
      hsound.ledger.addAccount hfresh rfl ⟨hproduct, howner⟩ (hkind _), hsound.register,
      hsound.covered.addAccount hsound.ledger hfresh, hsound.mirrored, hsound.units⟩

private theorem ensureRegisterAccount_sound (hsound : db.Sound) (hproduct : PlainId productId)
    (howner : PlainId ownerRef)
    (hkind : ∀ id, (⟨id, productId, ownerRef, unitAssetOf productId, accountType⟩ : Account).OfKind) :
    (db.ensureRegisterAccount productId ownerRef (unitAssetOf productId) accountType).Sound := by
  unfold Database.ensureRegisterAccount
  split
  · exact hsound
  · next hfresh =>
    exact ⟨hsound.intents, hsound.products, hsound.prices, hsound.subjects, hsound.ledger,
      hsound.register.addAccount hfresh rfl ⟨hproduct, howner⟩ (hkind _), hsound.covered, hsound.mirrored,
      List.forall_mem_append.mpr ⟨hsound.units, by simp⟩⟩

private theorem ensureOwner_sound {product : control_plane.Product} {owner : String} (hproduct : PlainId product.id)
    (hcurrency : IsCurrency product.rules.currency) (howner : PlainId owner) (hsound : db.Sound) :
    (ensureOwner product db owner).Sound := by
  have hcash : (if owner = "TREASURY" then db
      else db.ensureLedgerAccount product.id owner product.rules.currency (cashType product.issuerId owner)).Sound := by
    split
    · exact hsound
    · exact ensureLedgerAccount_sound hsound hproduct howner fun _ => Or.inl hcurrency
  have hkind : ∀ id, (⟨id, product.id, owner, unitAssetOf product.id,
      if owner = "TREASURY" then .treasury else .investor⟩ : Account).OfKind := by
    intro id
    refine Or.inr ⟨rfl, ?_⟩
    by_cases htreasury : owner = "TREASURY"
    · exact Or.inr ⟨if_pos htreasury, htreasury⟩
    · exact Or.inl (if_neg htreasury)
  unfold ensureOwner
  dsimp only
  split
  · exact hcash
  · exact ensureRegisterAccount_sound (ensureLedgerAccount_sound hcash hproduct howner hkind) hproduct howner hkind

private theorem foldl_sound {α : Type} {items : List α} {action : Database → α → Database}
    (hstep : ∀ item ∈ items, ∀ state : Database, state.Sound → (action state item).Sound) (hsound : db.Sound) :
    (items.foldl action db).Sound := by
  induction items generalizing db with
  | nil => exact hsound
  | cons item rest ih =>
    exact ih (fun other hother => hstep other (List.mem_cons_of_mem item hother))
      (hstep item List.mem_cons_self db hsound)

private theorem ensureAccounts_sound {plane : ControlPlane} {product : control_plane.Product}
    (hplane : PlainPlane plane) (hproduct : product ∈ plane.products.values)
    (hcurrency : IsCurrency product.rules.currency) (hsound : db.Sound) : (ensureAccounts plane db product).Sound := by
  obtain ⟨hplain, hissuer⟩ := hplane.1 product hproduct
  refine ensureLedgerAccount_sound (foldl_sound (fun owner howner state hstate => ?_) hsound) hplain hissuer
    fun _ => Or.inl hcurrency
  refine ensureOwner_sound hplain hcurrency ?_ hstate
  simp only [ownersOf, List.mem_append, List.mem_cons, List.not_mem_nil, or_false, List.mem_map, List.mem_filter]
    at howner
  obtain (rfl | rfl | rfl) | ⟨credential, ⟨hcredential, -⟩, rfl⟩ := howner
  · exact hissuer
  · decide
  · decide
  · exact hplane.2 credential hcredential

private theorem openBalance_sound {plane : ControlPlane} {entry : String × Int} (hamount : 0 ≤ entry.2)
    (hcurrencies : ∀ product ∈ plane.products.values, IsCurrency product.rules.currency) (hsound : db.Sound)
    (h : openBalance plane db entry = .ok next) : next.Sound := by
  unfold openBalance at h
  split at h
  · obtain rfl := Except.ok.inj h
    exact hsound
  · dsimp only at h
    split at h
    · obtain rfl := Except.ok.inj h
      exact hsound
    · next product hproduct =>
      split at h
      · obtain rfl := Except.ok.inj h
        exact hsound
      · obtain ⟨hpostable, -, rfl⟩ := appendLedgerBatch_ok h
        have hcurrency : IsCurrency (splitKey entry.1).2 := by
          have hsame : product.rules.currency = (splitKey entry.1).2 := by simpa using List.find?_some hproduct
          exact hsame ▸ hcurrencies product (List.mem_of_find?_eq_some hproduct)
        refine ⟨hsound.intents, hsound.products, hsound.prices, hsound.subjects, hsound.ledger.post hpostable,
          hsound.register, hsound.covered.post hsound.ledger hpostable ?_, ?_, hsound.units⟩
        · simp only [CoveredBy, List.forall_mem_cons]
          refine ⟨fun hneg => absurd hneg (by omega), fun _ =>
            Or.inr ⟨_, _, _, .cashClearing, by decide, by decide, rfl⟩, by simp⟩
        · intro productId ownerRef accountType hplain howner
          rw [accountBalance_concat, hsound.mirrored productId ownerRef accountType hplain howner,
            cash_total hsound.ledger hpostable.booked ?_ hplain howner, add_zero]
          simpa using hcurrency

theorem bootstrap_sound {plane : ControlPlane} (hplane : PlainPlane plane) (hplaneSound : plane.toTables.Sound)
    (hsound : db.Sound) (h : bootstrapFromControlPlane service plane db = .ok ((), next)) : next.Sound := by
  unfold bootstrapFromControlPlane at h
  obtain ⟨institutions, hinstitutions, h⟩ := bind_eq_ok_iff.mp h
  obtain ⟨products, hproducts, h⟩ := bind_eq_ok_iff.mp h
  obtain ⟨evidence, hevidence, h⟩ := bind_eq_ok_iff.mp h
  obtain ⟨credentials, hcredentials, h⟩ := bind_eq_ok_iff.mp h
  obtain ⟨opened, hopened, h⟩ := bind_eq_ok_iff.mp h
  obtain ⟨-, rfl⟩ := Prod.mk.inj (pure_eq_ok_iff.mp h)
  have hcurrencies : ∀ product ∈ plane.products.values, IsCurrency product.rules.currency := by
    intro product hproduct
    obtain ⟨_, _, hinsert⟩ := foldlM_steps hproducts product hproduct
    exact insertProduct_currency hinsert
  have hinstitutions := foldlM_preserves (fun _ _ _ _ hstate hstep => insertInstitution_sound hstate hstep) hsound
    hinstitutions
  have hproducts := foldlM_preserves
    (fun product hproduct _ _ hstate hstep => insertProduct_sound (hplane.1 product hproduct).1 hstate hstep)
    hinstitutions hproducts
  have hevidence := foldlM_preserves (fun envelope henvelope _ _ hstate hstep => by
    obtain ⟨id, hget⟩ := js_map.mem_values.mp henvelope
    exact insertEvidence_sound (hplaneSound.prices id envelope hget) hstate hstep) hproducts hevidence
  have hcredentials := foldlM_preserves
    (fun credential hcredential _ _ hstate hstep => insertCredential_sound
      (hplane.2 credential hcredential) hstate hstep)
    hevidence hcredentials
  have haccounts := foldl_sound (fun product hproduct _ hstate =>
    ensureAccounts_sound hplane hproduct (hcurrencies product hproduct) hstate) hcredentials
  refine foldlM_preserves (fun entry hentry _ _ hstate hstep => ?_) haccounts hopened
  exact openBalance_sound (hplaneSound.cash entry.1 entry.2 (js_map.mem_entries.mp hentry)) hcurrencies hstate hstep

end Bootstrap

end rwa.durable
