import RwaControlPlane.Catalog.Snapshots

open checked keyed_rows js_value
open rwa.gate (ProductStatus)

namespace rwa.catalog

variable {service : ProductCatalogService} {db next : Database} {productId : String}

/-- A maker's proposal that no checker has decided in its round. -/
structure Database.Undecided (db : Database) (productId : String) (proposal : ActivationApproval) : Prop where
  stored : proposal ∈ db.activationApprovals
  ofProduct : proposal.productId = productId
  maker : proposal.role = .maker
  unchecked : ∀ row ∈ db.activationApprovals, row.productId = productId → row.approvalRound = proposal.approvalRound →
    row.role ≠ .checker

/-- A draft product is pending exactly if it has an undecided proposal. -/
def Database.ProposalsInStep (db : Database) : Prop :=
  ∀ product ∈ db.products, product.status = .draft → ∀ configuration ∈ db.configurations,
    configuration.productId = product.id →
    (configuration.configurationStatus = .activationPending ↔ ∃ proposal, db.Undecided product.id proposal)

/-- A reason that the service and the table accept. -/
structure ValidReason (reason : String) : Prop where
  characters : 3 ≤ reason.toList.length
  min : 3 ≤ js_text.length reason
  max : js_text.length reason ≤ 1000

/-- A draft that is ready can be proposed, and an undecided proposal can be
decided by every other actor. -/
structure Database.NeverStuck (service : ProductCatalogService) (db : Database) : Prop where
  proposable : ∀ product ∈ db.products, product.status = .draft → ∀ configuration ∈ db.configurations,
    configuration.productId = product.id → configuration.configurationStatus = .readyForEvidence →
    ∀ template, db.findTemplate configuration.templateId = some template →
    ∀ now clock actorRef reason, Ready db configuration.tenantId product.id template.requiredRoles clock →
      ValidReason reason →
      Accepted service db ⟨now, clock, .proposeActivation configuration.tenantId actorRef
        (some product.id) (some reason)⟩
  decidable : ∀ product ∈ db.products, product.status = .draft → ∀ configuration ∈ db.configurations,
    configuration.productId = product.id → ∀ proposal, db.Undecided product.id proposal →
    ∀ template, db.findTemplate configuration.templateId = some template →
    ∀ now clock actorRef reason, actorRef ≠ proposal.actorRef → ValidReason reason →
      Accepted service db ⟨now, clock, .decideActivation configuration.tenantId actorRef (some product.id)
        ⟨some "REJECT", some reason⟩⟩ ∧
      (Ready db configuration.tenantId product.id template.requiredRoles clock →
        Accepted service db ⟨now, clock, .decideActivation configuration.tenantId actorRef (some product.id)
          ⟨some "APPROVE", some reason⟩⟩)

/-- A role of a product is assigned while its activation is pending. -/
def ReassignsPending (service : ProductCatalogService) (db : Database) (action : Action) : Prop :=
  Accepted service db action ∧
    match action.call with
    | .assignRole _ _ (some productId) _ _ => ∃ configuration ∈ db.configurations,
        configuration.productId = productId ∧ configuration.configurationStatus = .activationPending
    | _ => False

namespace ProductView

variable {view changed : ProductView} {row maker : ActivationApproval}

/-- The undecided proposals of a product. -/
def pending (view : ProductView) : List ActivationApproval :=
  view.approvals.filter fun row => decide (row.role = .maker) &&
    !view.approvals.any fun other => decide (other.approvalRound = row.approvalRound ∧ other.role = .checker)

theorem pending_congr (h : changed.approvals = view.approvals) : changed.pending = view.pending := by
  rw [pending, pending, h]

/-- A proposal in a new round is pending beside the ones before it. -/
theorem pending_maker (hrole : row.role = .maker)
    (hfresh : ∀ other ∈ view.approvals, other.approvalRound ≠ row.approvalRound) :
    (view.approved row).pending = view.pending ++ [row] := by
  have hchecked : ∀ round, ((view.approvals ++ [row]).any fun other =>
      decide (other.approvalRound = round ∧ other.role = .checker)) =
      view.approvals.any fun other => decide (other.approvalRound = round ∧ other.role = .checker) := by
    intro round
    simp [List.any_append, hrole]
  have hunchecked : (view.approvals.any fun other =>
      decide (other.approvalRound = row.approvalRound ∧ other.role = .checker)) = false := by
    refine List.any_eq_false.mpr fun other hother => ?_
    simp [hfresh other hother]
  simp only [pending, approved, hchecked, List.filter_append, List.filter_singleton, hrole, hunchecked]
  rfl

/-- A decision takes the proposals of its round away. -/
theorem pending_checker (hrole : row.role = .checker) :
    (view.approved row).pending = view.pending.filter fun other => other.approvalRound ≠ row.approvalRound := by
  have hchecked : ∀ round, ((view.approvals ++ [row]).any fun other =>
      decide (other.approvalRound = round ∧ other.role = .checker)) =
      ((view.approvals.any fun other => decide (other.approvalRound = round ∧ other.role = .checker)) ||
        decide (row.approvalRound = round)) := by
    intro round
    simp [List.any_append, hrole]
  simp only [pending, approved, hchecked, List.filter_append, List.filter_filter]
  have hlast : [row].filter (fun other => decide (other.role = .maker) &&
      !((view.approvals.any fun given => decide (given.approvalRound = other.approvalRound ∧ given.role = .checker)) ||
        decide (row.approvalRound = other.approvalRound))) = [] := by
    simp [hrole]
  rw [hlast, List.append_nil]
  refine List.filter_congr fun other _ => ?_
  by_cases hround : other.approvalRound = row.approvalRound
  · simp [hround]
  · simp [hround, Ne.symm hround]

theorem configurationStatus_recorded {configuration : ProductConfiguration} {status : ConfigurationStatus}
    {tenantId actorRef eventType : String} (hconfiguration : view.configuration = some configuration)
    (hnext : changed.configuration = view.configuration.map (·.next status)) :
    (changed.recorded tenantId productId actorRef eventType).configurationStatus = some status := by
  rw [configurationStatus, recorded_configuration, hnext, hconfiguration]
  rfl

/-- The status of a draft is in step with its proposals. -/
def InStep (view : ProductView) : Prop :=
  view.status = some .draft → (view.configurationStatus = some .activationPending ↔ view.pending ≠ [])

end ProductView

theorem le_foldl_max {numbers : List Nat} {start number : Nat} (h : number ∈ numbers ∨ number ≤ start) :
    number ≤ numbers.foldl max start := by
  induction numbers generalizing start with
  | nil =>
    rcases h with hmem | hle
    · cases hmem
    · exact hle
  | cons head rest ih =>
    rw [List.foldl_cons]
    apply ih
    rcases h with hmem | hle
    · cases hmem with
      | head => exact Or.inr (Nat.le_max_right _ _)
      | tail _ hrest => exact Or.inl hrest
    · exact Or.inr (hle.trans (Nat.le_max_left _ _))

/-- The round of a new proposal is later than all rounds of the product. -/
theorem lt_activationRound {row : ActivationApproval} (h : row ∈ db.approvalsOf productId) :
    row.approvalRound < db.activationRound productId :=
  Nat.lt_succ_of_le (le_foldl_max (Or.inl (List.mem_map_of_mem h)))

theorem undecided_iff {proposal : ActivationApproval} :
    db.Undecided productId proposal ↔ proposal ∈ (db.view productId).pending := by
  simp only [ProductView.pending, List.mem_filter, Database.view, Database.approvalsOf, Bool.and_eq_true,
    decide_eq_true_eq, Bool.not_eq_true', List.any_eq_false, and_imp, not_and]
  constructor
  · rintro ⟨hstored, hproduct, hmaker, hunchecked⟩
    exact ⟨⟨hstored, hproduct⟩, hmaker, hunchecked⟩
  · rintro ⟨⟨hstored, hproduct⟩, hmaker, hunchecked⟩
    exact ⟨hstored, hproduct, hmaker, hunchecked⟩

theorem view_pending : (db.view productId).pending = db.pendingActivations productId := rfl

theorem pending_ne_nil_iff : (db.view productId).pending ≠ [] ↔ ∃ proposal, db.Undecided productId proposal := by
  constructor
  · intro h
    obtain ⟨proposal, hmem⟩ := List.exists_mem_of_ne_nil _ h
    exact ⟨proposal, undecided_iff.mpr hmem⟩
  · rintro ⟨proposal, hundecided⟩
    exact List.ne_nil_of_mem (undecided_iff.mp hundecided)

/-- Being in step by product, in a catalog that fits together. -/
theorem proposalsInStep_iff (hconsistent : db.Consistent) :
    db.ProposalsInStep ↔ ∀ productId, (db.view productId).InStep := by
  constructor
  · intro h productId hdraft
    obtain ⟨product, hproduct, hstatus⟩ := Option.map_eq_some_iff.mp hdraft
    have hid : product.id = productId := by simpa using List.find?_some hproduct
    obtain ⟨configuration, template, hconfigured⟩ := hconsistent.of_product hproduct
    have hfound := hconfigured.joined.foundConfiguration
    have howner : configuration.productId = productId := by simpa using List.find?_some hfound
    have hstep := h product (List.mem_of_find?_eq_some hproduct) hstatus configuration
      (List.mem_of_find?_eq_some hfound)
      (howner.trans hid.symm)
    rw [hid] at hstep
    have hstate : (db.view productId).configurationStatus = some configuration.configurationStatus :=
      congrArg (Option.map _) hfound
    rw [hstate, Option.some.injEq, hstep, pending_ne_nil_iff]
  · intro h product hmem hdraft configuration hconfiguration howner
    have hfound := hconsistent.findConfiguration hconfiguration
    rw [howner] at hfound
    have hstate : (db.view product.id).configurationStatus = some configuration.configurationStatus :=
      congrArg (Option.map _) hfound
    have hstep := h product.id (Option.map_eq_some_iff.mpr ⟨product, hconsistent.findProduct hmem, hdraft⟩)
    rwa [hstate, Option.some.injEq, pending_ne_nil_iff] at hstep

section Calls

variable {tenantId actorRef reason : String} {clock : Int} {round : Nat} {maker : ActivationApproval}
  {product : Product}
  {configuration : ProductConfiguration} {template : ProductTemplate} {decision : ReviewDecision}

theorem ProposesActivation.one_pending
    (h : ProposesActivation db next tenantId actorRef productId reason clock round product configuration template) :
    (next.view productId).pending = [⟨productId, round, .maker, actorRef, .activate, reason⟩] := by
  have hnone : (db.view productId).pending = [] := h.undecided
  rw [h.own, ProductView.pending_congr ProductView.recorded_approvals]
  refine (ProductView.pending_maker rfl fun other hother => ?_).trans (by rw [hnone, List.nil_append])
  exact (h.nextRound ▸ lt_activationRound hother).ne

/-- The proposal that a decision is about. -/
theorem pendingActivation_eq (h : (db.view productId).pending = [maker]) :
    db.pendingActivation productId = some maker := by
  have hpending : db.pendingActivations productId = [maker] := h
  rw [Database.pendingActivation, hpending]
  rfl

theorem pending_of_pendingActivation (hsingle : (db.view productId).pending.length ≤ 1)
    (h : db.pendingActivation productId = some maker) : (db.view productId).pending = [maker] := by
  match hpending : (db.view productId).pending with
  | [] =>
    have hnone : db.pendingActivations productId = [] := hpending
    rw [Database.pendingActivation, hnone] at h
    cases h
  | [proposal] =>
    obtain rfl := Option.some.inj ((pendingActivation_eq hpending).symm.trans h)
    rfl
  | _ :: _ :: _ =>
    rw [hpending] at hsingle
    simp at hsingle

theorem DecidesActivation.none_pending
    (h : DecidesActivation db next tenantId actorRef productId reason decision clock maker product
      configuration template)
    (hsingle : (db.view productId).pending.length ≤ 1) : (next.view productId).pending = [] := by
  obtain ⟨eventType, hview⟩ := h.own
  have hpending := pending_of_pendingActivation hsingle h.proposal
  rw [hview, ProductView.pending_congr ProductView.recorded_approvals]
  have happrovals : ((db.view productId).decided decision
      ⟨productId, maker.approvalRound, .checker, actorRef, decision.activation, reason⟩).approvals =
      ((db.view productId).approved
        ⟨productId, maker.approvalRound, .checker, actorRef, decision.activation, reason⟩).approvals := by
    cases decision <;> rfl
  rw [ProductView.pending_congr happrovals, ProductView.pending_checker rfl, hpending]
  simp

end Calls

/-- Every call leaves at most one undecided proposal of a product. -/
theorem CallEnds.single {now clock : Int} {call : Call} (h : CallEnds db now clock call next)
    (hconsistent : db.Consistent) (hsingle : ∀ productId, (db.view productId).pending.length ≤ 1) :
    ∀ productId, (next.view productId).pending.length ≤ 1 := by
  intro productId
  obtain hsame | htouches := h.touches hconsistent productId
  · rw [hsame]
    exact hsingle productId
  cases htouches with
  | revoked _ hview =>
    rw [hview]
    exact hsingle productId
  | created hown _ creates =>
    rw [hown, creates.own (creates.absent hconsistent), ProductView.pending_congr ProductView.recorded_approvals]
    exact Nat.zero_le 1
  | assigned assigns =>
    obtain ⟨status, -, hview⟩ := assigns.own
    rw [hview, ProductView.pending_congr ProductView.recorded_approvals]
    exact hsingle productId
  | attached attaches =>
    rw [attaches.own, ProductView.pending_congr ProductView.recorded_approvals]
    exact hsingle productId
  | proposed proposes =>
    rw [proposes.one_pending]
    exact le_rfl
  | decided decides =>
    rw [decides.none_pending (hsingle productId)]
    exact Nat.zero_le 1
  | statusSet sets =>
    rw [sets.own]
    exact hsingle productId

/-- A revocation leaves the status of a draft and of its configuration. -/
theorem Database.Consistent.draft_invalidated (h : db.Consistent) {signed : EvidenceRequirement → Bool}
    (hdraft : ((db.view productId).invalidated signed).status = some .draft) :
    (db.view productId).status = some .draft ∧
      ((db.view productId).invalidated signed).configurationStatus = (db.view productId).configurationStatus := by
  obtain ⟨paused, hpaused, hstatus⟩ := Option.map_eq_some_iff.mp hdraft
  obtain ⟨product, hproduct, rfl⟩ := Option.map_eq_some_iff.mp hpaused
  have hwas : product.status = .draft := by
    split at hstatus
    · cases hstatus
    · exact hstatus
  obtain ⟨configuration, template, hconfigured⟩ := h.of_product hproduct
  have hfound : (db.view productId).configuration = some configuration := hconfigured.joined.foundConfiguration
  refine ⟨Option.map_eq_some_iff.mpr ⟨product, hproduct, hwas⟩, ?_⟩
  have hinactive : configuration.configurationStatus ≠ .active := by
    intro hactive
    have hlawful := hconfigured.lawful
    rw [hwas, hactive] at hlawful
    rcases hlawful with ⟨-, hstate | hstate | hstate⟩ | ⟨hstate | hstate, -⟩ <;> cases hstate
  have hkept : ((db.view productId).invalidated signed).configuration = some configuration :=
    (congrArg (Option.map _) hfound).trans (congrArg some (if_neg fun hactive => hinactive hactive.1))
  rw [ProductView.configurationStatus, ProductView.configurationStatus, hkept, hfound]

/-- Assigning a role of a draft puts its configuration back to before the
proposal, and leaves the proposal. -/
theorem Assigns.inStep_iff {tenantId actorRef role institutionId : String} {clock : Int} {product : Product}
    {configuration : ProductConfiguration} {template : ProductTemplate}
    (h : Assigns db next tenantId actorRef productId role institutionId clock product configuration template)
    (hstep : (db.view productId).InStep) :
    (next.view productId).InStep ↔ configuration.configurationStatus ≠ .activationPending := by
  obtain ⟨status, hrole, hview⟩ := h.own
  have hfound : (db.view productId).configuration = some configuration := h.joined.foundConfiguration
  have hwas : (db.view productId).configurationStatus = some configuration.configurationStatus :=
    congrArg (Option.map _) hfound
  have hbefore := hstep (h.joined.draft h.draft)
  rw [hwas, Option.some.injEq] at hbefore
  have hdraft : (next.view productId).status = some .draft := by
    rw [hview, ProductView.status, ProductView.recorded_product]
    exact h.joined.draft h.draft
  have hpending : (next.view productId).pending = (db.view productId).pending := by
    rw [hview]
    exact ProductView.pending_congr ProductView.recorded_approvals
  have hstatus : (next.view productId).configurationStatus ≠ some .activationPending := by
    rw [hview, @ProductView.configurationStatus_recorded _ (db.view productId) _ configuration _ _ _ _ hfound rfl]
    rintro ⟨⟩
    rcases roleStatus_cases with hcases | hcases <;> rw [hcases] at hrole <;> cases hrole
  rw [Ne, hbefore, not_not]
  constructor
  · intro hafter
    rw [← hpending]
    exact not_not.mp (mt (hafter hdraft).mpr hstatus)
  · intro hnone _
    rw [hpending, hnone]
    exact ⟨fun hsome => absurd hsome hstatus, fun hsome => absurd rfl hsome⟩

/-- A call keeps drafts in step with their proposals, unless it assigns a role of
a pending product. -/
theorem CallEnds.inStep {now clock : Int} {call : Call} (h : CallEnds db now clock call next)
    (hconsistent : db.Consistent)
    (hsingle : ∀ productId, (db.view productId).pending.length ≤ 1) (hstep : ∀ productId, (db.view productId).InStep)
    (haccepted : Accepted service db ⟨now, clock, call⟩)
    (hreassigns : ¬ReassignsPending service db ⟨now, clock, call⟩) :
    ∀ productId, (next.view productId).InStep := by
  intro productId
  obtain hsame | htouches := h.touches hconsistent productId
  · rw [hsame]
    exact hstep productId
  cases htouches with
  | revoked _ hview =>
    rw [hview]
    intro hdraft
    obtain ⟨hwas, hstatus⟩ := hconsistent.draft_invalidated hdraft
    rw [hstatus]
    exact hstep productId hwas
  | created hown _ creates =>
    rw [hown, creates.own (creates.absent hconsistent)]
    intro _
    rw [ProductView.pending_congr ProductView.recorded_approvals, ProductView.configurationStatus,
      ProductView.recorded_configuration]
    refine ⟨fun hnone => ?_, fun hpending => absurd rfl hpending⟩
    cases hnone
  | @assigned _ _ _ _ _ configuration _ assigns =>
    have hfound := assigns.joined.foundConfiguration
    have howner : configuration.productId = productId := by simpa using List.find?_some hfound
    rw [assigns.inStep_iff (hstep productId)]
    exact fun hpending =>
      hreassigns ⟨haccepted, configuration, List.mem_of_find?_eq_some hfound, howner, hpending⟩
  | attached attaches =>
    rw [attaches.own]
    intro _
    rw [ProductView.pending_congr ProductView.recorded_approvals, ProductView.configurationStatus,
      ProductView.recorded_configuration]
    rw [ProductView.bumped, Option.map_map]
    exact hstep productId (attaches.joined.draft attaches.draft)
  | proposed proposes =>
    intro _
    rw [proposes.one_pending, proposes.own, @ProductView.configurationStatus_recorded _ (db.view productId) _ _
      _ _ _ _ proposes.joined.foundConfiguration rfl]
    exact ⟨fun _ => List.cons_ne_nil _ _, fun _ => rfl⟩
  | @decided _ _ _ review _ _ _ _ decides =>
    obtain ⟨eventType, hview⟩ := decides.own
    intro hdraft
    rw [decides.none_pending (hsingle productId)]
    rw [hview] at hdraft ⊢
    rw [ProductView.configurationStatus, ProductView.recorded_configuration]
    rw [ProductView.status, ProductView.recorded_product] at hdraft
    cases hdecision : review.decision with
    | approve =>
      rw [hdecision, ProductView.decided, ProductView.configured, ProductView.activated,
        ProductView.approved, view_product,
        decides.joined.foundProduct, Option.map_some, if_pos decides.draft] at hdraft
      cases hdraft
    | reject =>
      rw [ProductView.decided, ProductView.configured, ProductView.approved, view_configuration,
        decides.joined.foundConfiguration]
      refine ⟨fun hnone => ?_, fun hpending => absurd rfl hpending⟩
      cases hnone
  | @statusSet _ status _ sets =>
    rw [sets.own]
    intro hdraft
    rw [ProductView.status, ProductView.withStatus, view_product, sets.foundProduct] at hdraft
    obtain rfl := Option.some.inj hdraft
    rcases sets.turns with ⟨-, hturn⟩ | ⟨-, hturn⟩ <;> cases hturn

section Accepted

variable {product : Product} {configuration : ProductConfiguration} {template : ProductTemplate} {reason : String}

theorem insertActivationApproval_eq {row : ActivationApproval} (hreason : 3 ≤ row.reason.toList.length)
    (hfresh : ∀ other ∈ db.activationApprovals, other.productId = row.productId →
      other.approvalRound = row.approvalRound → other.role ≠ row.role) :
    db.insertActivationApproval row = .ok { db with activationApprovals := db.activationApprovals ++ [row] } := by
  have hkey : (row.productId, row.approvalRound, row.role) ∉
      db.activationApprovals.map fun other => (other.productId, other.approvalRound, other.role) := by
    intro hmem
    obtain ⟨other, hother, heq⟩ := List.mem_map.mp hmem
    simp only [Prod.mk.injEq] at heq
    exact hfresh other hother heq.1 heq.2.1 heq.2.2
  simp only [Database.insertActivationApproval, bind_eq_ok_iff, throwIf_eq_ok_iff, exists_unit, pure_eq_ok_iff, not_lt]
  exact ⟨hreason, hkey, trivial⟩

theorem snapshot_total {actorRef eventType : String} (hproduct : db.findProduct productId = some product)
    (hconfiguration : db.findConfiguration productId = some configuration) :
    ∃ next, db.snapshot configuration.tenantId productId actorRef eventType = .ok next := by
  have hvalue := @ProductView.snapshotValue_eq (db.view productId) configuration product hproduct hconfiguration
  rw [← snapshotOf_view] at hvalue
  unfold Database.snapshot
  rw [hvalue]
  simp only [require, bind, Except.bind]
  split <;> exact ⟨_, rfl⟩

/-- A draft that is ready and has no proposal can be proposed. -/
theorem accepted_propose (hconfigured : Configured db productId product configuration template)
    (hdraft : product.status = .draft) (hstatus : configuration.configurationStatus = .readyForEvidence)
    (hpending : (db.view productId).pending = []) {now clock : Int} (actorRef : String)
    (hready : Ready db configuration.tenantId productId template.requiredRoles clock) (hreason : ValidReason reason) :
    Accepted service db
      ⟨now, clock, .proposeActivation configuration.tenantId actorRef (some productId) (some reason)⟩ := by
  have hjoined := hconfigured.joined
  have hfresh : ∀ other ∈ db.activationApprovals, other.productId = productId →
      other.approvalRound = db.activationRound productId → other.role ≠ .maker := by
    intro other hother hproduct hround
    have hlt := lt_activationRound (List.mem_filter.mpr ⟨hother, decide_eq_true hproduct⟩)
    omega
  have hinserted := @insertActivationApproval_eq db
    ⟨productId, db.activationRound productId, .maker, actorRef, .activate, reason⟩ hreason.characters hfresh
  obtain ⟨-, -, -, hview⟩ := view_insertActivationApproval hinserted
  generalize { db with activationApprovals := _ } = inserted at hinserted hview
  have hset : (inserted.setConfiguration productId .activationPending).view productId =
      ((db.view productId).approved ⟨productId, db.activationRound productId, .maker, actorRef, .activate, reason⟩
        ).configured .activationPending := by
    rw [view_setConfiguration, if_pos rfl, hview, if_pos rfl]
  obtain ⟨final, hfinal⟩ := @snapshot_total (inserted.setConfiguration productId .activationPending) productId product
    (configuration.next .activationPending) actorRef "product.activation_proposed"
    ((congrArg ProductView.product hset).trans hjoined.foundProduct)
    ((congrArg ProductView.configuration hset).trans (congrArg (Option.map _) hjoined.foundConfiguration))
  refine ⟨_, final, (@map_eq_ok_iff _ _ _ _ Reply.activationProposed _).mpr ⟨db.activationRound productId, ?_, rfl⟩⟩
  simp only [proposeActivation, bind_eq_ok_iff, throwIf_eq_ok_iff, exists_unit, pure_eq_ok_iff, requireString_eq_ok_iff,
    Database.product, require_eq_ok_iff, joinProduct_eq_some_iff, Prod.mk.injEq, Decidable.not_not, not_or,
    assertActivationReady_eq_ok_iff]
  obtain ⟨hmin, hmax, hpattern⟩ := hconfigured.id
  exact ⟨productId, ⟨rfl, hmin, hmax, hpattern⟩, reason, ⟨rfl, hreason.min, hreason.max, rfl⟩, _,
    ⟨product, configuration, template, hjoined, rfl⟩, ⟨hdraft, hstatus⟩, hready, hpending, inserted,
      hinserted, final, hfinal,
    rfl, rfl⟩

/-- A pending proposal can be rejected by every other actor, and approved if the
product is ready. -/
theorem accepted_decide (hconfigured : Configured db productId product configuration template)
    (hdraft : product.status = .draft) (hstatus : configuration.configurationStatus = .activationPending)
    {maker : ActivationApproval} (hpending : (db.view productId).pending = [maker]) {now clock : Int}
    {actorRef : String}
    (hactor : maker.actorRef ≠ actorRef) {input : ReviewInput} {review : Review}
    (hreview : reviewInput input = .ok review) (hreason : 3 ≤ review.reason.toList.length)
    (hready : review.decision = .approve → Ready db configuration.tenantId productId template.requiredRoles clock) :
    Accepted service db ⟨now, clock, .decideActivation configuration.tenantId actorRef (some productId) input⟩ := by
  have hjoined := hconfigured.joined
  have hundecided : db.Undecided productId maker := undecided_iff.mpr (hpending ▸ List.mem_cons_self)
  have hinserted := @insertActivationApproval_eq db
    ⟨productId, maker.approvalRound, .checker, actorRef, review.decision.activation, review.reason⟩ hreason
    hundecided.unchecked
  have hinsertedReady : review.decision = .approve → Ready
      { db with activationApprovals := db.activationApprovals ++
        [⟨productId, maker.approvalRound, .checker, actorRef, review.decision.activation, review.reason⟩] }
      configuration.tenantId productId template.requiredRoles clock :=
    fun happrove => ⟨(hready happrove).roles, (hready happrove).evidence⟩
  obtain ⟨-, -, -, hview⟩ := view_insertActivationApproval hinserted
  generalize { db with activationApprovals := _ } = inserted at hinserted hview hinsertedReady
  have hown := hview productId
  rw [if_pos rfl] at hown
  have hfoundProduct : inserted.findProduct productId = some product :=
    (congrArg ProductView.product hown).trans hjoined.foundProduct
  have hfoundConfiguration : inserted.findConfiguration productId = some configuration :=
    (congrArg ProductView.configuration hown).trans hjoined.foundConfiguration
  obtain ⟨hmin, hmax, hpattern⟩ := hconfigured.id
  have hlocked : db.joinProduct configuration.tenantId productId = some ⟨product.id, product.status,
      configuration.templateId, configuration.configurationStatus, configuration.configurationVersion,
      template.requiredRoles⟩ :=
    joinProduct_eq_some_iff.mpr ⟨product, configuration, template, hjoined, rfl⟩
  unfold Accepted
  simp only [perform, map_eq_ok_iff, decideActivation, bind_eq_ok_iff, throwIf_eq_ok_iff, exists_unit,
    requireString_eq_ok_iff, Database.product, require_eq_ok_iff, Decidable.not_not, not_or]
  have hproposal := pendingActivation_eq hpending
  cases hdecision : review.decision with
  | approve =>
    have hset : ((inserted.activate productId).setConfiguration productId .active).view productId =
        ((inserted.view productId).activated).configured .active := by
      rw [view_setConfiguration, if_pos rfl, view_activate, if_pos rfl]
    obtain ⟨final, hfinal⟩ :=
      @snapshot_total ((inserted.activate productId).setConfiguration productId .active) productId
      _ (configuration.next .active) actorRef "product.activation_approved"
      ((congrArg ProductView.product hset).trans (congrArg (Option.map fun row : Product =>
        if row.status = .draft then ({ row with status := .active } : Product) else row) hfoundProduct))
      ((congrArg ProductView.configuration hset).trans (congrArg (Option.map _) hfoundConfiguration))
    refine ⟨_, final, .active, ⟨productId, ⟨rfl, hmin, hmax, hpattern⟩, review, hreview, _, hlocked, ⟨hdraft, hstatus⟩,
      maker, hproposal, hactor, inserted, hinserted, ?_⟩, rfl⟩
    simp only [hdecision, bind_eq_ok_iff, exists_unit, pure_eq_ok_iff, assertActivationReady_eq_ok_iff]
    exact ⟨hinsertedReady hdecision, final, hfinal, rfl⟩
  | reject =>
    have hset : (inserted.setConfiguration productId .readyForEvidence).view productId =
        (inserted.view productId).configured .readyForEvidence := by
      rw [view_setConfiguration, if_pos rfl]
    obtain ⟨final, hfinal⟩ := @snapshot_total (inserted.setConfiguration productId .readyForEvidence) productId product
      (configuration.next .readyForEvidence) actorRef "product.activation_rejected"
      ((congrArg ProductView.product hset).trans hfoundProduct)
      ((congrArg ProductView.configuration hset).trans (congrArg (Option.map _) hfoundConfiguration))
    refine ⟨_, final, .readyForEvidence, ⟨productId, ⟨rfl, hmin, hmax, hpattern⟩, review, hreview, _, hlocked,
      ⟨hdraft, hstatus⟩, maker, hproposal, hactor, inserted, hinserted, ?_⟩, rfl⟩
    simp only [hdecision, bind_eq_ok_iff, pure_eq_ok_iff]
    exact ⟨final, hfinal, rfl⟩

end Accepted

theorem reviewInput_eq {decision reason : String} {outcome : ReviewDecision} (hreason : ValidReason reason)
    (h : (decision = "APPROVE" ∧ outcome = .approve) ∨ (decision = "REJECT" ∧ outcome = .reject)) :
    reviewInput ⟨some decision, some reason⟩ = .ok ⟨outcome, reason⟩ := by
  have hdecision : ∀ text, text = "APPROVE" ∨ text = "REJECT" →
    requireString (some text) "review.decision" 1 20 anyText =
      .ok text := by
    rintro _ (rfl | rfl) <;> rfl
  have hchecked : requireString (some reason) "review.reason" 3 1000 anyText = .ok reason :=
    requireString_eq_ok_iff.mpr ⟨rfl, hreason.min, hreason.max, rfl⟩
  unfold reviewInput
  rcases h with ⟨rfl, rfl⟩ | ⟨rfl, rfl⟩
  · rw [hdecision _ (Or.inl rfl), hchecked]
    rfl
  · rw [hdecision _ (Or.inr rfl), hchecked]
    rfl

/-- No draft is stuck while drafts are in step with their proposals. -/
theorem neverStuck_of_inStep (hconsistent : db.Consistent)
    (hsingle : ∀ productId, (db.view productId).pending.length ≤ 1)
    (hstep : db.ProposalsInStep) : db.NeverStuck service := by
  have hrows : ∀ product ∈ db.products, ∀ configuration ∈ db.configurations, configuration.productId = product.id →
      ∀ template, db.findTemplate configuration.templateId = some template →
      Configured db product.id product configuration template := by
    intro product hproduct configuration hconfiguration howner template htemplate
    have hfound := hconsistent.findConfiguration hconfiguration
    rw [howner] at hfound
    exact hconsistent.configured ⟨hconsistent.findProduct hproduct, hfound, htemplate, rfl⟩
  constructor
  · intro product hproduct hdraft configuration hconfiguration howner hstatus template htemplate now clock
      actorRef reason
      hready hreason
    refine accepted_propose (hrows product hproduct configuration hconfiguration howner template htemplate)
      hdraft hstatus ?_
      actorRef hready hreason
    by_contra hpending
    have hactivationPending := (hstep product hproduct hdraft configuration hconfiguration howner).mpr
      (pending_ne_nil_iff.mp hpending)
    rw [hstatus] at hactivationPending
    cases hactivationPending
  · intro product hproduct hdraft configuration hconfiguration howner proposal hundecided template htemplate now clock
      actorRef reason hactor hreason
    have hconfigured := hrows product hproduct configuration hconfiguration howner template htemplate
    have hstatus := (hstep product hproduct hdraft configuration hconfiguration howner).mpr ⟨proposal, hundecided⟩
    have hmem := undecided_iff.mp hundecided
    have hpending : (db.view product.id).pending = [proposal] := by
      match hlist : (db.view product.id).pending with
      | [] =>
        rw [hlist] at hmem
        cases hmem
      | [only] =>
        rw [hlist] at hmem
        rw [List.mem_singleton.mp hmem]
      | _ :: _ :: _ =>
        have hlength := hsingle product.id
        rw [hlist] at hlength
        simp at hlength
    exact ⟨accepted_decide hconfigured hdraft hstatus hpending hactor.symm (reviewInput_eq hreason (Or.inr ⟨rfl, rfl⟩))
        hreason.characters nofun,
      fun hready => accepted_decide hconfigured hdraft hstatus hpending hactor.symm
        (reviewInput_eq hreason (Or.inl ⟨rfl, rfl⟩)) hreason.characters fun _ => hready⟩

theorem step_single (action : Action) (hconsistent : db.Consistent)
    (hsingle : ∀ productId, (db.view productId).pending.length ≤ 1) :
    ∀ productId, ((step service db action).view productId).pending.length ≤ 1 := by
  obtain ⟨-, hsame⟩ | ⟨-, hends⟩ := @step_cases service db action
  · rwa [hsame]
  · exact hends.single hconsistent hsingle

theorem run_single (actions : List Action) :
    ∀ productId, ((run service actions).view productId).pending.length ≤ 1 := by
  have h : (run service actions).Consistent ∧ ∀ productId, ((run service actions).view productId).pending.length ≤ 1 :=
    @runs.run_invariant _ _ (step service) Database.migrated
      (fun db => db.Consistent ∧ ∀ productId, (db.view productId).pending.length ≤ 1)
      ⟨migrated_consistent, fun _ => Nat.zero_le 1⟩
      (fun _ action h => ⟨step_consistent action h.1, step_single action h.1 h.2⟩) actions
  exact h.2

/-- Only a role assigned to a pending product takes a draft out of step. -/
theorem step_inStep_iff (action : Action) (hconsistent : db.Consistent)
    (hsingle : ∀ productId, (db.view productId).pending.length ≤ 1) (hstep : ∀ productId, (db.view productId).InStep) :
    (∀ productId, ((step service db action).view productId).InStep) ↔ ¬ReassignsPending service db action := by
  obtain ⟨hrefused, hsame⟩ | ⟨haccepted, hends⟩ := @step_cases service db action
  · rw [hsame]
    exact ⟨fun _ hreassigns => hrefused hreassigns.1, fun _ => hstep⟩
  · refine ⟨?_, hends.inStep hconsistent hsingle hstep haccepted⟩
    rintro hafter ⟨-, hreassigns⟩
    obtain ⟨now, clock, call⟩ := action
    generalize step service db ⟨now, clock, call⟩ = next at hends hafter
    cases hends with
    | @assigned _ _ productId _ _ _ found _ _ assigns =>
      obtain ⟨configuration, hconfiguration, howner, hpending⟩ := hreassigns
      have hfound := hconsistent.findConfiguration hconfiguration
      rw [howner] at hfound
      obtain rfl := Option.some.inj (hfound.symm.trans assigns.joined.foundConfiguration)
      exact (assigns.inStep_iff (hstep productId)).mp (hafter productId) hpending
    | onboarded honboards =>
      cases call <;> first | exact hreassigns | exact honboards
    | revoked | created | attached | proposed | decided | statusSet => exact hreassigns

/-- In every state of a run a draft is pending exactly while it has an undecided
proposal, and no draft is stuck, exactly if no call of the run assigns a role of
a product whose activation is pending. -/
theorem proposals_in_step_iff (actions : List Action) :
    (∀ before, before <+: actions →
      (run service before).ProposalsInStep ∧ (run service before).NeverStuck service) ↔
      ∀ before action after, actions = before ++ action :: after →
        ¬ReassignsPending service (run service before) action := by
  have hstart : Database.migrated.ProposalsInStep := fun _ hmem => absurd hmem List.not_mem_nil
  refine @runs.run_invariant_iff _ _ (step service) Database.migrated
    (fun db => db.ProposalsInStep ∧ db.NeverStuck service)
    (fun db => db.Consistent ∧ ∀ productId, (db.view productId).pending.length ≤ 1)
    (fun db action => ¬ReassignsPending service db action)
    ⟨hstart, neverStuck_of_inStep migrated_consistent (fun _ => Nat.zero_le 1) hstart⟩
    (fun actions => ⟨run_consistent actions, run_single actions⟩) ?_ actions
  rintro db action ⟨hconsistent, hsingle⟩ ⟨hstep, -⟩
  have hnext := @step_consistent service db action hconsistent
  rw [← step_inStep_iff action hconsistent hsingle ((proposalsInStep_iff hconsistent).mp hstep),
    ← proposalsInStep_iff hnext]
  exact ⟨fun h => h.1, fun h => ⟨h, neverStuck_of_inStep hnext (step_single action hconsistent hsingle) h⟩⟩

section Sample

/-- A role of a proposed product is assigned again. -/
def sampleReassignment : List Action :=
  sampleConfiguration ++ sampleSubmission ++ [sampleProposal, sampleAssignment 450 "custodian" "bank-one"]

/-- A product that is ready has an undecided proposal, so nobody can propose its
activation and nobody can decide on it. -/
theorem reassigned_product_is_stuck :
    ¬((run sampleService sampleReassignment).ProposalsInStep ∧
      (run sampleService sampleReassignment).NeverStuck sampleService) := by
  rintro ⟨hstep, -⟩
  have hstuck : ∃ product ∈ (run sampleService sampleReassignment).products, product.status = .draft ∧
      ∃ configuration ∈ (run sampleService sampleReassignment).configurations, configuration.productId = product.id ∧
        configuration.configurationStatus ≠ .activationPending ∧
        (run sampleService sampleReassignment).pendingActivations product.id ≠ [] := by
    decide +kernel
  obtain ⟨product, hproduct, hdraft, configuration, hconfiguration, howner, hstatus, hpending⟩ := hstuck
  rw [← view_pending] at hpending
  exact hstatus ((hstep product hproduct hdraft configuration hconfiguration howner).mpr
    (pending_ne_nil_iff.mp hpending))

end Sample

end rwa.catalog
