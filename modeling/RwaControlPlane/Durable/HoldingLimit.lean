import RwaControlPlane.Durable.Conservation
import RwaControlPlane.ControlPlane.Holdings

open checked keyed_rows
open rwa.control_plane (PlainId ControlPlane)

namespace rwa.durable

variable {service : DurableWorkflowService} {db next : Database} {now : Int}

section Loading

/-- What loading a plane leaves as it is. Credentials are only added. -/
structure Loaded (db next : Database) : Prop where
  credentials : ∀ credential ∈ db.credentials, credential ∈ next.credentials
  registerBatches : next.registerBatches = db.registerBatches
  ledgerBatches : ∃ opened, next.ledgerBatches = db.ledgerBatches ++ opened ∧
    ∀ batch ∈ opened, batch.transactionId = none
  commitments : next.commitments = db.commitments
  transactions : next.transactions = db.transactions
  receipts : next.receipts = db.receipts
  exceptionCases : next.exceptionCases = db.exceptionCases
  approvals : next.approvals = db.approvals

/-- What leaves the batches of the ledger as they are opens no balance. -/
theorem unopened (h : next.ledgerBatches = db.ledgerBatches) :
    ∃ opened, next.ledgerBatches = db.ledgerBatches ++ opened ∧ ∀ batch ∈ opened, batch.transactionId = none :=
  ⟨[], by rw [h, List.append_nil], by simp⟩

theorem Loaded.refl : Loaded db db := ⟨fun _ hmem => hmem, rfl, unopened rfl, rfl, rfl, rfl, rfl, rfl⟩

theorem Loaded.trans {last : Database} (h : Loaded db next) (h' : Loaded next last) : Loaded db last := by
  obtain ⟨first, hfirst, hnone⟩ := h.ledgerBatches
  obtain ⟨second, hsecond, hnone'⟩ := h'.ledgerBatches
  refine ⟨fun credential hmem => h'.credentials credential (h.credentials credential hmem),
    h'.registerBatches.trans h.registerBatches, ⟨first ++ second, ?_, List.forall_mem_append.mpr ⟨hnone, hnone'⟩⟩,
    h'.commitments.trans h.commitments, h'.transactions.trans h.transactions, h'.receipts.trans h.receipts,
    h'.exceptionCases.trans h.exceptionCases, h'.approvals.trans h.approvals⟩
  rw [hsecond, hfirst, List.append_assoc]

private theorem foldlM_loaded {α : Type} {items : List α} {action : Database → α → Except Failure Database}
    (hstep : ∀ item state after, action state item = .ok after → Loaded state after)
    (h : items.foldlM action db = .ok next) : Loaded db next :=
  foldlM_preserves (fun item _ state after hstate hafter => Loaded.trans hstate (hstep item state after hafter))
    Loaded.refl h

private theorem foldl_loaded {α : Type} {items : List α} {action : Database → α → Database}
    (hstep : ∀ item state, Loaded state (action state item)) : Loaded db (items.foldl action db) := by
  induction items generalizing db with
  | nil => exact Loaded.refl
  | cons item rest ih => exact (hstep item db).trans ih

private theorem insertInstitution_loaded {institution : control_plane.Institution}
    (h : insertInstitution db institution = .ok next) : Loaded db next := by
  simp only [insertInstitution, bind_eq_ok_iff, require_eq_ok_iff, throwIf_eq_ok_iff, exists_unit, pure_eq_ok_iff] at h
  obtain ⟨_, -, -, rfl⟩ := h
  split
  · exact Loaded.refl
  · exact ⟨fun _ hmem => hmem, rfl, unopened rfl, rfl, rfl, rfl, rfl, rfl⟩

private theorem insertRole_loaded {productId createdAt : String} {assignment : String × String}
    (h : insertRole service productId createdAt db assignment = .ok next) : Loaded db next := by
  unfold insertRole at h
  obtain ⟨_, -, h⟩ := bind_eq_ok_iff.mp h
  obtain ⟨_, -, h⟩ := bind_eq_ok_iff.mp h
  split at h
  · obtain rfl := pure_eq_ok_iff.mp h
    exact Loaded.refl
  · obtain ⟨_, -, h⟩ := bind_eq_ok_iff.mp h
    obtain rfl := pure_eq_ok_iff.mp h
    exact ⟨fun _ hmem => hmem, rfl, unopened rfl, rfl, rfl, rfl, rfl, rfl⟩

private theorem insertProduct_loaded {product : control_plane.Product}
    (h : insertProduct service db product = .ok next) : Loaded db next := by
  have hroles (item : String × String) (state after : Database) := @insertRole_loaded service state after product.id
    product.createdAt item
  unfold insertProduct at h
  obtain ⟨rules, -, h⟩ := bind_eq_ok_iff.mp h
  obtain ⟨_, -, h⟩ := bind_eq_ok_iff.mp h
  split at h
  · exact foldlM_loaded hroles h
  · obtain ⟨_, -, h⟩ := bind_eq_ok_iff.mp h
    refine Loaded.trans ?_ (foldlM_loaded hroles h)
    exact ⟨fun _ hmem => hmem, rfl, unopened rfl, rfl, rfl, rfl, rfl, rfl⟩

private theorem insertEvidence_loaded {evidence : control_plane.StoredEvidence}
    (h : insertEvidence service db evidence = .ok next) : Loaded db next := by
  unfold insertEvidence at h
  obtain ⟨payload, -, h⟩ := bind_eq_ok_iff.mp h
  obtain ⟨_, -, h⟩ := bind_eq_ok_iff.mp h
  obtain ⟨effectiveAt, -, h⟩ := bind_eq_ok_iff.mp h
  obtain ⟨expiresAt, -, h⟩ := bind_eq_ok_iff.mp h
  obtain ⟨_, -, h⟩ := bind_eq_ok_iff.mp h
  split at h
  · obtain rfl := pure_eq_ok_iff.mp h
    exact Loaded.refl
  · obtain ⟨_, -, h⟩ := bind_eq_ok_iff.mp h
    obtain rfl := pure_eq_ok_iff.mp h
    exact ⟨fun _ hmem => hmem, rfl, unopened rfl, rfl, rfl, rfl, rfl, rfl⟩

private theorem insertCredential_loaded {plane : ControlPlane} {credential : control_plane.Credential}
    (h : insertCredential service plane db credential = .ok next) : Loaded db next := by
  unfold insertCredential at h
  obtain ⟨_, -, h⟩ := bind_eq_ok_iff.mp h
  obtain ⟨maxUnits, -, h⟩ := bind_eq_ok_iff.mp h
  obtain ⟨validFrom, -, h⟩ := bind_eq_ok_iff.mp h
  obtain ⟨validUntil, -, h⟩ := bind_eq_ok_iff.mp h
  obtain ⟨status, -, h⟩ := bind_eq_ok_iff.mp h
  obtain ⟨_, -, h⟩ := bind_eq_ok_iff.mp h
  split at h
  · obtain rfl := pure_eq_ok_iff.mp h
    exact Loaded.refl
  · obtain ⟨_, -, h⟩ := bind_eq_ok_iff.mp h
    obtain rfl := pure_eq_ok_iff.mp h
    exact ⟨fun _ hmem => List.mem_append_left _ hmem, rfl, unopened rfl, rfl, rfl, rfl, rfl, rfl⟩

private theorem ensureLedgerAccount_loaded {productId ownerRef assetCode : String} {accountType : AccountType} :
    Loaded db (db.ensureLedgerAccount productId ownerRef assetCode accountType) := by
  unfold Database.ensureLedgerAccount
  split
  · exact Loaded.refl
  · exact ⟨fun _ hmem => hmem, rfl, unopened rfl, rfl, rfl, rfl, rfl, rfl⟩

private theorem ensureRegisterAccount_loaded {productId ownerRef assetCode : String} {accountType : AccountType} :
    Loaded db (db.ensureRegisterAccount productId ownerRef assetCode accountType) := by
  unfold Database.ensureRegisterAccount
  split
  · exact Loaded.refl
  · exact ⟨fun _ hmem => hmem, rfl, unopened rfl, rfl, rfl, rfl, rfl, rfl⟩

private theorem ensureOwner_loaded {product : control_plane.Product} {owner : String} :
    Loaded db (ensureOwner product db owner) := by
  have hcash : Loaded db (if owner = "TREASURY" then db
      else db.ensureLedgerAccount product.id owner product.rules.currency (cashType product.issuerId owner)) := by
    split
    · exact Loaded.refl
    · exact ensureLedgerAccount_loaded
  unfold ensureOwner
  dsimp only
  split
  · exact hcash
  · exact (hcash.trans ensureLedgerAccount_loaded).trans ensureRegisterAccount_loaded

private theorem openBalance_loaded {plane : ControlPlane} {entry : String × Int}
    (h : openBalance plane db entry = .ok next) : Loaded db next := by
  unfold openBalance at h
  split at h
  · obtain rfl := Except.ok.inj h
    exact Loaded.refl
  · dsimp only at h
    split at h
    · obtain rfl := Except.ok.inj h
      exact Loaded.refl
    · split at h
      · obtain rfl := Except.ok.inj h
        exact Loaded.refl
      · obtain ⟨-, -, rfl⟩ := appendLedgerBatch_ok h
        exact ⟨fun _ hmem => hmem, rfl, ⟨_, rfl, by simp⟩, rfl, rfl, rfl, rfl, rfl⟩

theorem bootstrap_loaded {plane : ControlPlane} (h : bootstrapFromControlPlane service plane db = .ok ((), next)) :
    Loaded db next := by
  unfold bootstrapFromControlPlane at h
  obtain ⟨institutions, hinstitutions, h⟩ := bind_eq_ok_iff.mp h
  obtain ⟨products, hproducts, h⟩ := bind_eq_ok_iff.mp h
  obtain ⟨evidence, hevidence, h⟩ := bind_eq_ok_iff.mp h
  obtain ⟨credentials, hcredentials, h⟩ := bind_eq_ok_iff.mp h
  obtain ⟨opened, hopened, h⟩ := bind_eq_ok_iff.mp h
  obtain ⟨-, rfl⟩ := Prod.mk.inj (pure_eq_ok_iff.mp h)
  have haccounts : Loaded credentials (plane.products.values.foldl (ensureAccounts plane) credentials) :=
    foldl_loaded fun product state =>
      Loaded.trans (foldl_loaded fun _ _ => ensureOwner_loaded) ensureLedgerAccount_loaded
  exact ((((foldlM_loaded (fun _ _ _ => insertInstitution_loaded) hinstitutions).trans
    (foldlM_loaded (fun _ _ _ => insertProduct_loaded) hproducts)).trans
    (foldlM_loaded (fun _ _ _ => insertEvidence_loaded) hevidence)).trans
    (foldlM_loaded (fun _ _ _ => insertCredential_loaded) hcredentials)).trans
    (haccounts.trans (foldlM_loaded (fun _ _ _ => openBalance_loaded) hopened))

end Loading

section Limit

variable {productId ownerRef : String}

/-- Units of a product that stand in the register for an owner. -/
def Database.holding (db : Database) (productId ownerRef : String) : Int :=
  accountBalance db.registerBatches (registerAccountId productId ownerRef (unitAssetOf productId) .investor)

/-- A registered credential of a subject allows a holding. -/
def Database.Allows (db : Database) (productId subjectRef : String) (units : Int) : Prop :=
  ∃ credential ∈ db.credentials, credential.productId = productId ∧ credential.subjectRef = subjectRef ∧
    units ≤ credential.maxUnits

/-- Every positive holding is within the limit of a credential of its holder. -/
def Database.Limited (db : Database) : Prop :=
  ∀ productId ownerRef, PlainId productId → PlainId ownerRef → 0 < db.holding productId ownerRef →
    db.Allows productId ownerRef (db.holding productId ownerRef)

theorem Database.Allows.mono {units less : Int} (h : db.Allows productId ownerRef units) (hless : less ≤ units) :
    db.Allows productId ownerRef less := by
  obtain ⟨credential, hmem, hproduct, hsubject, hlimit⟩ := h
  exact ⟨credential, hmem, hproduct, hsubject, hless.trans hlimit⟩

/-- Units that move add to one account at most, and add what moves. -/
private theorem unitEntries_le {source target : String} {sourceType targetType : AccountType} {product : String}
    {units : Int} (hunits : 0 < units) :
    accountTotal (unitEntries registerAccountId product source sourceType target targetType units)
        (registerAccountId productId ownerRef (unitAssetOf productId) .investor) ≤
      if registerAccountId product target (unitAssetOf product) targetType =
        registerAccountId productId ownerRef (unitAssetOf productId) .investor then units else 0 := by
  simp only [accountTotal, unitEntries, List.filter_cons, List.filter_nil]
  split <;> split <;> simp_all <;> omega

private theorem posted_limited (hsound : db.Sound) (hlimited : db.Limited) {product : Product}
    (hproduct : product ∈ db.products) {plan : SettlementPlan} {source target : String}
    {sourceType targetType : AccountType} {cash : List Entry}
    (h : plan.Moves db product source sourceType target targetType cash)
    (hcredentials : next.credentials = db.credentials) {batchId : String} {transactionId : Option String}
    (hregister : next.registerBatches = db.registerBatches ++ [⟨batchId, transactionId, plan.registerEntries⟩]) :
    next.Limited := by
  intro productId ownerRef hplain howner hpositive
  have hafter : next.holding productId ownerRef = db.holding productId ownerRef +
      accountTotal plan.registerEntries (registerAccountId productId ownerRef (unitAssetOf productId) .investor) := by
    rw [Database.holding, hregister, accountBalance_concat]
    rfl
  have hmoved := @unitEntries_le productId ownerRef source target sourceType targetType product.id plan.units h.positive
  rw [← h.register] at hmoved
  rw [Database.Allows, hcredentials, ← Database.Allows]
  split at hmoved
  · next hname =>
    -- the holder gains units, which the credential of the settlement allows
    have hkey := registerAccountId_key hname
    have htype := accountKey_type hkey
    obtain ⟨credential, hmem, hofProduct, hsubject, hlimit⟩ := h.limit htype
    have htarget : PlainId target := hsubject ▸ hsound.subjects credential hmem
    obtain ⟨rfl, rfl, -, -⟩ := accountKey_inj (hsound.products product hproduct).1 htarget hplain howner hkey
    refine ⟨credential, hmem, hofProduct, hsubject, le_trans ?_ hlimit⟩
    rw [hafter, Database.holding]
    omega
  · have hbefore : 0 < db.holding productId ownerRef := by omega
    exact (hlimited productId ownerRef hplain howner hbefore).mono (by omega)

private theorem Database.Limited.of_frame (h : db.Limited)
    (hcredentials : ∀ credential ∈ db.credentials, ∃ kept ∈ next.credentials, kept.productId = credential.productId ∧
      kept.subjectRef = credential.subjectRef ∧ kept.maxUnits = credential.maxUnits)
    (hregister : next.registerBatches = db.registerBatches) : next.Limited := by
  intro productId ownerRef hplain howner hpositive
  have hsame : next.holding productId ownerRef = db.holding productId ownerRef := by
    rw [Database.holding, hregister]
    rfl
  rw [hsame] at hpositive ⊢
  obtain ⟨credential, hmem, hproduct, hsubject, hlimit⟩ := h productId ownerRef hplain howner hpositive
  obtain ⟨kept, hkept, hproduct', hsubject', hmax⟩ := hcredentials credential hmem
  exact ⟨kept, hkept, hproduct'.trans hproduct, hsubject'.trans hsubject, hmax ▸ hlimit⟩

private theorem SettlementEnds.limited {type : gate.TransactionType} {request : Request} {registerFailure : Bool}
    {receipt : Receipt} (h : SettlementEnds service db type request registerFailure now receipt next)
    (hsound : db.Sound) (hlimited : db.Limited) : next.Limited := by
  cases h with
  | replayed => exact hlimited
  | failed => exact hlimited
  | posted _ _ checked =>
    obtain ⟨hnav, -, htype, -⟩ := currentNav_some checked.current
    obtain ⟨source, sourceType, target, targetType, cash, hmoves⟩ := checked.moves (hsound.prices _ hnav htype)
    exact posted_limited hsound hlimited checked.stored hmoves rfl rfl

private theorem CallEnds.limited {call : Call} {reply : Reply} (h : CallEnds service db now call reply next)
    (hsound : db.Sound) (hlimited : db.Limited) : next.Limited := by
  cases h with
  | bootstrapped loaded =>
    have hloaded := bootstrap_loaded loaded
    exact hlimited.of_frame (fun credential hmem => ⟨credential, hloaded.credentials credential hmem, rfl, rfl, rfl⟩)
      hloaded.registerBatches
  | statusSet => exact hlimited
  | restricted =>
    refine hlimited.of_frame (fun credential hmem => ⟨_, List.mem_map_of_mem hmem, ?_⟩) rfl
    split <;> exact ⟨rfl, rfl, rfl⟩
  | settled ends => exact ends.limited hsound hlimited
  | proposed => exact hlimited
  | approved ends =>
    cases ends with
    | rejected => exact hlimited
    | cancelled => exact hlimited
    | blocked => exact hlimited
    | retried _ _ _ _ _ settlement => exact settlement.limited hsound.record hlimited

theorem run_limited {actions : List Action} (hplain : ∀ action ∈ actions, action.call.PlainIds) :
    (run service actions).Limited := by
  have hinvariant : (run service actions).Sound ∧ (run service actions).Limited := by
    refine @runs.run_invariant_of_admissible _ _ _ (fun db : Database => db.Sound ∧ db.Limited)
      (fun _ action => action.call.PlainIds) ?_ _ _ ⟨empty_sound, fun _ _ _ _ hpositive => ?_⟩ ?_
    · rintro db action ⟨hsound, hlimited⟩ hplainCall
      refine ⟨step_sound hplainCall hsound, ?_⟩
      unfold step
      obtain ⟨failure, h⟩ | ⟨reply, next, h, hends⟩ := @respond_cases service db hsound.intents action
      · rw [h]
        exact hlimited
      · rw [h]
        exact hends.limited hsound hlimited
    · exact absurd hpositive (Int.lt_irrefl 0)
    · rintro before action after rfl
      exact hplain action (by simp)
  exact hinvariant.2

end Limit

/-- The holding limit as an invariant. After every run of the in-memory control plane,
and after every run of the workflow service, over ids without a colon: a subject with a
positive holding of a product has a registered credential for that product whose limit
is at least the holding. -/
theorem holding_within_limit {platform : control_plane.Platform} {calls : List control_plane.Action}
    {actions : List Action} (hcalls : ∀ action ∈ calls, action.call.PlainHolders)
    (hactions : ∀ action ∈ actions, action.call.PlainIds) :
    let plane := control_plane.run platform calls
    let db := run service actions
    (∀ subject productId, PlainId subject →
      let units := control_plane.balanceOf plane.assetBalances (control_plane.balanceKey subject productId)
      0 < units → ∃ credentialId credential maxUnits, plane.credentials.get credentialId = some credential ∧
        credential.productId = productId ∧ credential.subjectId = subject ∧
        js_text.bigInt credential.maxUnits = some maxUnits ∧ units ≤ maxUnits) ∧
    ∀ productId subjectRef, PlainId productId → PlainId subjectRef → 0 < db.holding productId subjectRef →
      ∃ credential ∈ db.credentials, credential.productId = productId ∧ credential.subjectRef = subjectRef ∧
        db.holding productId subjectRef ≤ credential.maxUnits := by
  refine ⟨fun subject productId hplain hpositive => ?_, run_limited hactions⟩
  obtain ⟨credentialId, hcovers⟩ := (control_plane.run_covered hcalls).holdings subject productId hplain hpositive
  obtain ⟨credential, maxUnits, hstored, hproduct, hsubject, hparsed, hlimit⟩ := hcovers.credential
  exact ⟨credentialId, credential, maxUnits, hstored, hproduct, hsubject, hparsed, hlimit⟩

open rwa.control_plane (samplePlatform sampleSetup sampleTrades) in
theorem holding_within_limit_sample :
    ∃ credential ∈ (run sampleService sampleActions).credentials, credential.productId = "fund" ∧
      credential.subjectRef = "alice" ∧ (run sampleService sampleActions).holding "fund" "alice" ≤
        credential.maxUnits :=
  (@holding_within_limit sampleService samplePlatform (sampleSetup ++ sampleTrades) sampleActions (by decide +kernel)
    sampleActions_plainIds).2 "fund" "alice" (by decide) (by decide) sampleActions_units.2

end rwa.durable
