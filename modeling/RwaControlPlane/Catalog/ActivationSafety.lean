import RwaControlPlane.Catalog.Records

open checked keyed_rows js_value
open rwa.gate (ProductStatus)

namespace rwa.catalog

variable {service : ProductCatalogService} {db next : Database} {productId : String}

/-- An active product has an active configuration, and evidence whose signing key
has not been revoked satisfies every mandatory requirement. -/
def Database.ActivationSafe (db : Database) : Prop :=
  ∀ product ∈ db.products, product.status = .active →
    (∃ configuration ∈ db.configurations, configuration.productId = product.id ∧
      configuration.configurationStatus = .active) ∧
    ∀ row ∈ db.requirements, row.productId = product.id → row.mandatory = true →
      row.status = .satisfied ∧ ∃ evidence ∈ db.evidence, row.evidenceId = some evidence.id ∧
        ∃ key ∈ db.signingKeys, key.institutionId = evidence.sourceInstitutionId ∧
          key.keyId = evidence.signingKeyId ∧ key.status ≠ .revoked

/-- A product is resumed whose configuration is suspended. -/
def ResumesSuspended (db : Database) (action : Action) : Prop :=
  ∃ productId actorRef, action.call = .setProductStatus productId .active actorRef ∧ actorRef ≠ "" ∧
    (∃ product ∈ db.products, product.id = productId ∧ product.status = .paused) ∧ db.Suspended productId

theorem Database.Consistent.findProduct (h : db.Consistent) {product : Product} (hmem : product ∈ db.products) :
    db.findProduct product.id = some product := by
  have hfilter := filter_key_of_mem h.productIds hmem
  rw [Database.findProduct, ← List.head?_filter, hfilter]
  rfl

theorem Database.Consistent.findConfiguration (h : db.Consistent) {configuration : ProductConfiguration}
    (hmem : configuration ∈ db.configurations) : db.findConfiguration configuration.productId = some configuration := by
  have hfilter := filter_key_of_mem h.configurationIds hmem
  rw [Database.findConfiguration, ← List.head?_filter, hfilter]
  rfl

/-- The rows of a product that exists. -/
theorem Database.Consistent.of_product (h : db.Consistent) {product : Product}
    (hproduct : db.findProduct productId = some product) :
    ∃ configuration template, Configured db productId product configuration template := by
  rcases h.products productId with habsent | ⟨row, configuration, template, hconfigured⟩
  · have hnone : db.findProduct productId = none := congrArg ProductView.product habsent
    rw [hproduct] at hnone
    cases hnone
  · obtain rfl := Option.some.inj (hproduct.symm.trans hconfigured.joined.foundProduct)
    exact ⟨configuration, template, hconfigured⟩

/-- In a catalog that fits together, only the status of a configuration can make
an active product unsafe. -/
theorem activationSafe_iff (h : db.Consistent) :
    db.ActivationSafe ↔ ∀ productId, (db.view productId).status = some .active →
      (db.view productId).configurationStatus = some .active := by
  constructor
  · intro hsafe productId hactive
    obtain ⟨product, hproduct, hstatus⟩ := Option.map_eq_some_iff.mp hactive
    have hid : product.id = productId := by simpa using List.find?_some hproduct
    obtain ⟨⟨configuration, hmem, howner, hconfiguration⟩, -⟩ :=
      hsafe product (List.mem_of_find?_eq_some hproduct) hstatus
    have hfound := h.findConfiguration hmem
    rw [howner, hid] at hfound
    exact Option.map_eq_some_iff.mpr ⟨configuration, hfound, hconfiguration⟩
  · intro hsafe product hmem hstatus
    have hproduct := h.findProduct hmem
    obtain ⟨configuration, hfound, hactive⟩ :=
      Option.map_eq_some_iff.mp (hsafe product.id (Option.map_eq_some_iff.mpr ⟨product, hproduct, hstatus⟩))
    obtain ⟨configuration', template, hconfigured⟩ := h.of_product hproduct
    obtain rfl := Option.some.inj (hfound.symm.trans hconfigured.joined.foundConfiguration)
    have howner : configuration.productId = product.id := by simpa using List.find?_some hfound
    refine ⟨⟨configuration, List.mem_of_find?_eq_some hfound, howner, hactive⟩, fun row hrow hproductId _ => ?_⟩
    have hrequirement : row ∈ db.requirementsOf product.id := List.mem_filter.mpr ⟨hrow, decide_eq_true hproductId⟩
    have hsatisfied := hconfigured.complete hactive row hrequirement
    rcases hconfigured.evidenced row hrequirement with ⟨evidence, key, hevidence⟩ | ⟨hmissing, -⟩
    · have hkey : key.institutionId = evidence.sourceInstitutionId ∧ key.keyId = evidence.signingKeyId := by
        simpa using List.find?_some hevidence.foundKey
      refine ⟨hsatisfied, evidence, hevidence.stored, hevidence.evidenceId, key,
        List.mem_of_find?_eq_some hevidence.foundKey, hkey.1, hkey.2, ?_⟩
      rw [hevidence.activeKey]
      decide
    · rw [hmissing] at hsatisfied
      cases hsatisfied

/-- An active product has an active configuration. -/
def ProductView.Safe (view : ProductView) : Prop :=
  view.status = some .active → view.configurationStatus = some .active

theorem ProductView.safe_of_draft {view : ProductView} (h : view.status = some .draft) : view.Safe := by
  intro hactive
  rw [h] at hactive
  cases hactive

theorem Joined.draft {tenantId : String} {product : Product} {configuration : ProductConfiguration}
    {template : ProductTemplate} (h : Joined db tenantId productId product configuration template)
    (hdraft : product.status = .draft) : (db.view productId).status = some .draft :=
  Option.map_eq_some_iff.mpr ⟨product, h.foundProduct, hdraft⟩

/-- The revocation of a key pauses the products that it suspends. -/
theorem ProductView.safe_invalidated {view : ProductView} {signed : EvidenceRequirement → Bool} (h : view.Safe) :
    (view.invalidated signed).Safe := by
  intro hactive
  obtain ⟨paused, hpaused, hstatus⟩ := Option.map_eq_some_iff.mp hactive
  obtain ⟨product, hproduct, rfl⟩ := Option.map_eq_some_iff.mp hpaused
  split at hstatus
  · cases hstatus
  · rename_i hrunning
    have hwas : view.status = some .active := Option.map_eq_some_iff.mpr ⟨product, hproduct, hstatus⟩
    obtain ⟨configuration, hconfiguration, hconfigured⟩ := Option.map_eq_some_iff.mp (h hwas)
    have hunsuspended : ((view.missed signed).suspended).configurationStatus ≠ some .suspended :=
      fun hsuspended => hrunning ⟨hstatus, hsuspended⟩
    have hfound : ((view.missed signed).suspended).configuration = some
        (if configuration.configurationStatus = .active ∧ (view.missed signed).missesMandatory = true
          then configuration.next .suspended else configuration) :=
      congrArg (Option.map _) hconfiguration
    change ((view.missed signed).suspended).configurationStatus = some .active
    unfold ProductView.configurationStatus at hunsuspended ⊢
    rw [hfound, Option.map_some] at hunsuspended ⊢
    split at hunsuspended
    · exact absurd rfl hunsuspended
    · rename_i hkept
      rw [if_neg hkept, hconfigured]

/-- A call keeps active products safe, unless it resumes a suspended one. -/
theorem CallEnds.safe {now clock : Int} {call : Call} (h : CallEnds db now clock call next)
    (hconsistent : db.Consistent)
    (hsafe : ∀ productId, (db.view productId).Safe) (hresumes : ¬ResumesSuspended db ⟨now, clock, call⟩) :
    ∀ productId, (next.view productId).Safe := by
  have hnext := h.consistent hconsistent
  intro productId
  obtain hsame | htouches := h.touches hconsistent productId
  · rw [hsame]
    exact hsafe productId
  cases htouches with
  | revoked _ hview =>
    rw [hview]
    exact ProductView.safe_invalidated (hsafe productId)
  | @created _ _ _ product hown _ creates =>
    have hmem : product ∈ next.products := creates.products ▸ List.mem_append_right _ List.mem_cons_self
    refine ProductView.safe_of_draft ?_
    rw [hown]
    exact Option.map_eq_some_iff.mpr ⟨product, hnext.findProduct hmem, creates.draft⟩
  | assigned assigns =>
    obtain ⟨_, -, hview⟩ := assigns.own
    rw [hview]
    refine ProductView.safe_of_draft ?_
    rw [ProductView.status, ProductView.recorded_product]
    exact assigns.joined.draft assigns.draft
  | attached attaches =>
    rw [attaches.own]
    refine ProductView.safe_of_draft ?_
    rw [ProductView.status, ProductView.recorded_product]
    exact attaches.joined.draft attaches.draft
  | proposed proposes =>
    rw [proposes.own]
    refine ProductView.safe_of_draft ?_
    rw [ProductView.status, ProductView.recorded_product]
    exact proposes.joined.draft proposes.draft
  | @decided _ _ _ review _ _ _ _ decides =>
    obtain ⟨_, hview⟩ := decides.own
    rw [hview]
    cases hdecision : review.decision with
    | approve =>
      intro _
      rw [ProductView.configurationStatus, ProductView.recorded_configuration]
      exact congrArg (fun found : Option ProductConfiguration => (found.map (·.next .active)).map
        (·.configurationStatus)) decides.joined.foundConfiguration
    | reject =>
      refine ProductView.safe_of_draft ?_
      rw [ProductView.status, ProductView.recorded_product]
      exact decides.joined.draft decides.draft
  | @statusSet actorRef status product sets =>
    rw [sets.own]
    intro hactive
    obtain ⟨configuration, template, hconfigured⟩ := hconsistent.of_product sets.foundProduct
    have hstatus : status = .active := by
      obtain ⟨row, hrow, hstatus⟩ := Option.map_eq_some_iff.mp hactive
      obtain ⟨_, -, rfl⟩ := Option.map_eq_some_iff.mp hrow
      exact hstatus
    subst hstatus
    have hpaused : product.status = .paused := by
      rcases sets.turns with ⟨-, h⟩ | ⟨h, -⟩
      · cases h
      · exact h
    have hid : product.id = productId := by simpa using List.find?_some sets.foundProduct
    rcases hconfigured.lawful with ⟨hdraft, -⟩ | ⟨-, hstate | hstate⟩
    · rw [hpaused] at hdraft
      cases hdraft
    · exact Option.map_eq_some_iff.mpr ⟨configuration, hconfigured.joined.foundConfiguration, hstate⟩
    · have howner : configuration.productId = productId := by
        simpa using List.find?_some hconfigured.joined.foundConfiguration
      exact absurd ⟨productId, actorRef, rfl, sets.actor,
        ⟨product, List.mem_of_find?_eq_some sets.foundProduct, hid, hpaused⟩,
        ⟨configuration, List.mem_of_find?_eq_some hconfigured.joined.foundConfiguration, howner, hstate⟩⟩ hresumes

/-- The resumption of a suspended product is accepted, and makes it active. -/
theorem ResumesSuspended.not_safe {action : Action} (h : ResumesSuspended db action) (hconsistent : db.Consistent) :
    ∃ productId, ¬((step service db action).view productId).Safe := by
  obtain ⟨now, clock, call⟩ := action
  obtain ⟨productId, actorRef, rfl, hactor, ⟨product, hmem, hid, hpaused⟩, configuration, hconfiguration, howner,
    hsuspended⟩ := h
  have hproduct := hconsistent.findProduct hmem
  rw [hid] at hproduct
  have hfound := hconsistent.findConfiguration hconfiguration
  rw [howner] at hfound
  have hset : setProductStatus productId .active actorRef db = .ok (.active,
      { db with
        products := db.products.map fun row => if row.id = productId then { row with status := .active }
          else row }) := by
    simp [setProductStatus, throwIf, hactor, hproduct, hpaused, require, bind, Except.bind, pure, Except.pure]
  have hstep : step service db ⟨now, clock, .setProductStatus productId .active actorRef⟩ =
      { db with
        products := db.products.map fun row => if row.id = productId then { row with status := .active }
          else row } := by
    simp only [step, respond, commit, perform, hset, Except.map]
  refine ⟨productId, fun hsafe => ?_⟩
  rw [hstep, view_statusSet, if_pos rfl] at hsafe
  have hwas : ((db.view productId).withStatus .active).status = some .active := by
    rw [ProductView.status, ProductView.withStatus, view_product, hproduct]
    rfl
  have hactive := hsafe hwas
  have hstate : ((db.view productId).withStatus .active).configurationStatus = some .suspended :=
    Option.map_eq_some_iff.mpr ⟨configuration, hfound, hsuspended⟩
  rw [hstate] at hactive
  cases hactive

/-- In every state of a run an active product has an active configuration, and
every mandatory requirement is satisfied by evidence whose key has not been
revoked, exactly if no call of the run resumes a product whose configuration is
suspended. -/
theorem activation_safe_iff (actions : List Action) :
    (∀ before, before <+: actions → (run service before).ActivationSafe) ↔
      ∀ before action after, actions = before ++ action :: after → ¬ResumesSuspended (run service before) action := by
  have hstart : Database.migrated.ActivationSafe := fun _ hmem => absurd hmem List.not_mem_nil
  refine @runs.run_invariant_iff _ _ (step service) _ Database.ActivationSafe Database.Consistent
    (fun db action => ¬ResumesSuspended db action) hstart run_consistent ?_ actions
  intro db action hconsistent hsafe
  have hviews := (activationSafe_iff hconsistent).mp hsafe
  have hnext := @step_consistent service db action hconsistent
  rw [activationSafe_iff hnext]
  constructor
  · intro hsafe hresumes
    obtain ⟨productId, hunsafe⟩ := @ResumesSuspended.not_safe service db action hresumes hconsistent
    exact hunsafe (hsafe productId)
  · intro hresumes
    obtain ⟨-, hsame⟩ | ⟨-, hends⟩ := @step_cases service db action
    · rwa [hsame]
    · exact hends.safe hconsistent hviews hresumes

section Sample

/-- A library that accepts one signature, for examples. -/
def sampleService : ProductCatalogService where
  verify _ _ signature := signature = "AAAAAAAAAAAAAAAAAAAAAAAAAAAAAAAA"
  asymmetricKeyType _ := some "ed25519"
  sha256 text := text
  dateTime text := if text = "200" then some 200 else if text = "1000" then some 1000 else none
  isoText time := String.ofList (List.replicate time.toNat '|')
  numberText value := toString value
  maxEvidenceClockSkewMs := 300000
  maxEvidenceValidityMs := 366 * 86400000

def samplePem : String :=
  "-----BEGIN PUBLIC KEY-----AAAAAAAAAAAAAAAAAAAAAAAAAAAAAAAAAAAAAAAAAAA-----END PUBLIC KEY-----"

def sampleReview : ReviewInput := ⟨some "APPROVE", some "complete"⟩

/-- An institution that is registered and approved. -/
def sampleInstitution (id : String) : List Action :=
  [⟨100, 100, .registerInstitution "sandbox-hk" ⟨some id, some "Bank", some "HK", some samplePem, none⟩⟩,
    ⟨100, 100, .proposeInstitutionReview "sandbox-hk" "maker" (some id) sampleReview⟩,
    ⟨100, 100, .decideInstitutionReview "sandbox-hk" "checker" (some id) sampleReview⟩]

def sampleAssignment (clock : Int) (role institutionId : String) : Action :=
  ⟨clock, clock, .assignRole "sandbox-hk" "operator" (some "credit-one") role (some institutionId)⟩

/-- Evidence of an institution for a requirement, signed with its primary key. -/
def sampleEvidence (institutionId requirementCode id : String) : Action :=
  ⟨300, 300, .attachActivationEvidence "sandbox-hk" "operator" (some "credit-one")
    { id := some id, requirementCode := some requirementCode, sourceInstitutionId := some institutionId
      schemaVersion := some "1.0", contentHash := some (String.ofList (List.replicate 64 'a'))
      envelopeVersion := some "rwa.product-activation-evidence.v1", signatureAlgorithm := some "Ed25519"
      keyId := some "primary-v1", signature := some "AAAAAAAAAAAAAAAAAAAAAAAAAAAAAAAA", issuedAt := "200"
      expiresAt := "1000" }⟩

/-- A product that one institution serves in every role. -/
def sampleConfiguration : List Action :=
  sampleInstitution "bank-one" ++
  [⟨100, 100, .createProduct "sandbox-hk" "operator"
      ⟨some "credit-one", some "Credit", some "HK", some "bank-one", some "HKD", "PRIVATE_CREDIT_V1", some []⟩⟩,
    sampleAssignment 101 "distributor" "bank-one", sampleAssignment 102 "credential_issuer" "bank-one",
    sampleAssignment 103 "fund_administrator" "bank-one", sampleAssignment 104 "custodian" "bank-one",
    sampleAssignment 105 "cash_provider" "bank-one"]

def sampleSubmission : List Action :=
  [sampleEvidence "bank-one" "issuer_mandate" "evidence-1",
    sampleEvidence "bank-one" "distributor_mandate" "evidence-2",
    sampleEvidence "bank-one" "credential_issuer_mandate" "evidence-3",
    sampleEvidence "bank-one" "fund_administrator_mandate" "evidence-4",
    sampleEvidence "bank-one" "custodian_mandate" "evidence-5",
    sampleEvidence "bank-one" "cash_provider_mandate" "evidence-6",
    sampleEvidence "bank-one" "offering_document" "evidence-7", sampleEvidence "bank-one" "legal_opinion" "evidence-8"]

def sampleProposal : Action :=
  ⟨400, 400, .proposeActivation "sandbox-hk" "maker" (some "credit-one") (some "complete")⟩

def sampleDecision : Action :=
  ⟨500, 500, .decideActivation "sandbox-hk" "checker" (some "credit-one") sampleReview⟩

def sampleRevocation : Action :=
  ⟨600, 600, .revokeInstitutionSigningKey "sandbox-hk" (some "bank-one") (some "primary-v1") (some "compromised")⟩

/-- An activated product that is suspended because a key is revoked, and is then
resumed. -/
def sampleResumption : List Action :=
  sampleConfiguration ++ sampleSubmission ++
  [sampleProposal, sampleDecision, sampleRevocation, ⟨700, 700, .setProductStatus "credit-one" .active "operator"⟩]

instance (db : Database) : Decidable db.ActivationSafe := inferInstanceAs (Decidable (∀ product ∈ db.products, _))

/-- A product that was suspended because a key was revoked is active again,
without any evidence. -/
theorem suspended_product_resumes : ¬(run sampleService sampleResumption).ActivationSafe := by
  decide +kernel

end Sample

end rwa.catalog
