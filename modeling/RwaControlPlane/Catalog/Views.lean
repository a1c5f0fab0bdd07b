import RwaControlPlane.Catalog.Activation
import RwaControlPlane.Library.KeyedRows

open checked keyed_rows js_value
open rwa.gate (ProductStatus)

namespace rwa.catalog

structure ProductView where
  product : Option Product
  configuration : Option ProductConfiguration
  roles : List RoleAssignment
  requirements : List EvidenceRequirement
  approvals : List ActivationApproval
  snapshots : List ConfigurationSnapshot

/-- The rows of one product. -/
def Database.view (db : Database) (productId : String) : ProductView where
  product := db.findProduct productId
  configuration := db.findConfiguration productId
  roles := db.rolesOf productId
  requirements := db.requirementsOf productId
  approvals := db.approvalsOf productId
  snapshots := db.snapshots.filter (·.productId = productId)

namespace ProductConfiguration

/-- The configuration with a status, and with the next version. -/
def next (row : ProductConfiguration) (status : ConfigurationStatus) : ProductConfiguration :=
  { row with configurationStatus := status, configurationVersion := row.configurationVersion + 1 }

end ProductConfiguration

namespace ProductView

variable (view : ProductView)

def status : Option ProductStatus := view.product.map (·.status)

def configurationStatus : Option ConfigurationStatus := view.configuration.map (·.configurationStatus)

def version : Option Nat := view.configuration.map (·.configurationVersion)

/-- One of its roles is given to an institution. -/
def reassigned (productId role institutionId : String) (clock : Int) : ProductView :=
  { view with
    roles := view.roles.filter (fun row => row.role ≠ role) ++ [⟨productId, role, institutionId, clock, none⟩] }

/-- Its configuration gets a status, and the next version. -/
def configured (status : ConfigurationStatus) : ProductView :=
  { view with configuration := view.configuration.map (·.next status) }

/-- Its configuration gets the next version. -/
def bumped : ProductView :=
  { view with configuration := view.configuration.map fun row => row.next row.configurationStatus }

/-- The status that the assigned roles give. -/
def roleStatus (requiredRoles : List String) : ConfigurationStatus :=
  if requiredRoles.all (fun role => view.roles.any (·.role = role)) then .readyForEvidence else .rolesPending

/-- Evidence satisfies one of its requirements. -/
def satisfied (requirementCode evidenceId : String) : ProductView :=
  { view with
    requirements := view.requirements.map fun row =>
      if row.requirementCode = requirementCode then { row with status := .satisfied, evidenceId := some evidenceId }
      else row }

/-- A maker proposes its activation, or a checker decides on it. -/
def approved (row : ActivationApproval) : ProductView := { view with approvals := view.approvals ++ [row] }

/-- It gets a status. -/
def withStatus (status : ProductStatus) : ProductView :=
  { view with product := view.product.map fun row => { row with status } }

/-- It becomes active, if it is a draft. -/
def activated : ProductView :=
  { view with
    product := view.product.map fun row => if row.status = .draft then { row with status := .active } else row }

/-- Its configuration, as a snapshot holds it. -/
def snapshotValue (tenantId : String) : Option Snapshot := do
  let product ← view.product
  let configuration ← view.configuration
  if configuration.tenantId = tenantId then
    some
      { product, templateId := configuration.templateId, configurationStatus := configuration.configurationStatus
        configurationVersion := configuration.configurationVersion
        roles := (view.roles.map fun row => (row.role, row.institutionId)).insertionSort
          fun first second => keyLe first.1 second.1
        requirements := (view.requirements.map fun row =>
            ⟨row.requirementCode, row.responsibleRole, row.mandatory, row.status, row.evidenceId⟩).insertionSort
          fun first second => keyLe first.code second.code }
  else none

/-- A snapshot is taken, unless its version has one. -/
def recorded (tenantId productId actorRef eventType : String) : ProductView :=
  match view.snapshotValue tenantId with
  | none => view
  | some snapshot =>
    if snapshot.configurationVersion ∈ view.snapshots.map (·.configurationVersion) then view
    else
      { view with
        snapshots := view.snapshots ++
          [{ tenantId, productId, configurationVersion := snapshot.configurationVersion, eventType, actorRef
             snapshot }] }

/-- Whether a mandatory requirement is not satisfied. -/
def missesMandatory : Bool := view.requirements.any fun row => row.mandatory && decide (row.status ≠ .satisfied)

/-- Evidence is taken from the requirements that a key has satisfied. -/
def missed (signed : EvidenceRequirement → Bool) : ProductView :=
  { view with
    requirements := view.requirements.map fun row =>
      if signed row then { row with status := .missing, evidenceId := none } else row }

/-- An active configuration that misses mandatory evidence is suspended. -/
def suspended : ProductView :=
  { view with
    configuration := view.configuration.map fun row =>
      if row.configurationStatus = .active ∧ view.missesMandatory = true then row.next .suspended else row }

/-- An active product with a suspended configuration is paused. -/
def paused : ProductView :=
  { view with
    product := view.product.map fun row =>
      if row.status = .active ∧ view.configurationStatus = some .suspended then { row with status := .paused }
      else row }

/-- A key is revoked. -/
def invalidated (signed : EvidenceRequirement → Bool) : ProductView := ((view.missed signed).suspended).paused

end ProductView

section Statements

variable {db : Database} {productId other : String}

@[simp] theorem view_product : (db.view productId).product = db.findProduct productId := rfl
@[simp] theorem view_configuration : (db.view productId).configuration = db.findConfiguration productId := rfl
@[simp] theorem view_roles : (db.view productId).roles = db.rolesOf productId := rfl
@[simp] theorem view_requirements : (db.view productId).requirements = db.requirementsOf productId := rfl
@[simp] theorem view_approvals : (db.view productId).approvals = db.approvalsOf productId := rfl

theorem view_setConfiguration {status : ConfigurationStatus} :
    (db.setConfiguration productId status).view other =
      if other = productId then (db.view other).configured status else db.view other := by
  have hfind : (db.setConfiguration productId status).findConfiguration other =
      if other = productId then (db.findConfiguration other).map (·.next status) else db.findConfiguration other :=
    @find_update ProductConfiguration String _ db.configurations (·.productId) productId other (·.next status)
      fun _ => rfl
  by_cases h : other = productId
  · rw [if_pos h] at hfind ⊢
    simp only [Database.view, ProductView.configured, hfind]
    rfl
  · rw [if_neg h] at hfind ⊢
    simp only [Database.view, hfind]
    rfl

theorem view_bumpConfiguration :
    (db.bumpConfiguration productId).view other =
      if other = productId then (db.view other).bumped else db.view other := by
  have hfind : (db.bumpConfiguration productId).findConfiguration other = if other = productId then
      (db.findConfiguration other).map (fun row => row.next row.configurationStatus) else db.findConfiguration other :=
    @find_update ProductConfiguration String _ db.configurations (·.productId) productId other
      (fun row => row.next row.configurationStatus) fun _ => rfl
  by_cases h : other = productId
  · rw [if_pos h] at hfind ⊢
    simp only [Database.view, ProductView.bumped, hfind]
    rfl
  · rw [if_neg h] at hfind ⊢
    simp only [Database.view, hfind]
    rfl

theorem view_statusSet {status : ProductStatus} :
    ({ db with products := db.products.map fun row => if row.id = productId then { row with status } else row } :
        Database).view other =
      if other = productId then (db.view other).withStatus status else db.view other := by
  have hfind := @find_update Product String _ db.products (·.id) productId other
    (fun row => { row with status }) fun _ => rfl
  by_cases h : other = productId
  · rw [if_pos h] at hfind ⊢
    simp only [Database.view, Database.findProduct, ProductView.withStatus, hfind]
    rfl
  · rw [if_neg h] at hfind ⊢
    simp only [Database.view, Database.findProduct, hfind]
    rfl

theorem view_activate :
    (db.activate productId).view other = if other = productId then (db.view other).activated else db.view other := by
  have hproducts : (db.activate productId).products = db.products.map fun row =>
      if row.id = productId then (if row.status = .draft then { row with status := .active } else row) else row := by
    unfold Database.activate
    refine List.map_congr_left fun row _ => ?_
    by_cases hid : row.id = productId <;> simp [hid]
  have hfind := @find_update Product String _ db.products (·.id) productId other
    (fun row => if row.status = .draft then { row with status := .active } else row) fun row => by split <;> rfl
  rw [← hproducts] at hfind
  by_cases h : other = productId
  · rw [if_pos h] at hfind ⊢
    simp only [Database.view, Database.findProduct, ProductView.activated, hfind]
    rfl
  · rw [if_neg h] at hfind ⊢
    simp only [Database.view, Database.findProduct, hfind]
    rfl

theorem mem_rolesOf {row : RoleAssignment} :
    row ∈ db.rolesOf productId ↔ row ∈ db.roleAssignments ∧ row.productId = productId ∧ row.endedAt = none := by
  simp [Database.rolesOf]

/-- The roles that have not ended after one is given to an institution. -/
theorem rolesOf_reassign {role institutionId : String} {clock : Int} :
    (db.reassign productId role institutionId clock).rolesOf other =
      if other = productId then
        (db.rolesOf other).filter (fun row => row.role ≠ role) ++ [⟨other, role, institutionId, clock, none⟩]
      else db.rolesOf other := by
  unfold Database.reassign Database.rolesOf
  rw [List.filter_append]
  have hended : (db.roleAssignments.map fun row =>
      if row.productId = productId ∧ row.role = role ∧ row.endedAt = none then { row with endedAt := some clock }
      else row).filter (fun row => decide (row.productId = other) && row.endedAt.isNone) =
      (db.roleAssignments.filter fun row => decide (row.productId = other) && row.endedAt.isNone).filter
        fun row => decide (¬(row.productId = productId ∧ row.role = role)) := by
    rw [List.filter_map, List.filter_filter]
    have hselects : ((fun row : RoleAssignment => decide (row.productId = other) && row.endedAt.isNone) ∘ fun row =>
        if row.productId = productId ∧ row.role = role ∧ row.endedAt = none then { row with endedAt := some clock }
        else row) = fun row => decide (¬(row.productId = productId ∧ row.role = role)) &&
          (decide (row.productId = other) && row.endedAt.isNone) := by
      funext row
      simp only [Function.comp]
      split
      · rename_i hrow
        simp [hrow.1, hrow.2.1]
      · rename_i hrow
        cases hopen : row.endedAt with
        | some ending => simp
        | none =>
          have hkept : ¬(row.productId = productId ∧ row.role = role) := fun h => hrow ⟨h.1, h.2, hopen⟩
          simp [hkept]
    rw [hselects]
    refine (List.map_congr_left fun row hrow => if_neg fun h => ?_).trans (List.map_id' _)
    have hkept := (List.mem_filter.mp hrow).2
    simp [h.1, h.2.1] at hkept
  rw [hended]
  by_cases h : other = productId
  · subst h
    rw [if_pos rfl]
    congr 1
    · refine List.filter_congr fun row hrow => ?_
      have hproduct : row.productId = other := (mem_rolesOf.mp hrow).2.1
      simp [hproduct]
    · simp
  · rw [if_neg h]
    have hkept : (db.roleAssignments.filter fun row => decide (row.productId = other) && row.endedAt.isNone).filter
        (fun row => decide (¬(row.productId = productId ∧ row.role = role))) =
        db.roleAssignments.filter fun row => decide (row.productId = other) && row.endedAt.isNone := by
      refine List.filter_eq_self.mpr fun row hrow => ?_
      have hproduct : row.productId = other := (mem_rolesOf.mp hrow).2.1
      simp [hproduct, h]
    rw [hkept]
    simp [Ne.symm h]

theorem view_reassign {role institutionId : String} {clock : Int} :
    (db.reassign productId role institutionId clock).view other =
      if other = productId then (db.view other).reassigned other role institutionId clock else db.view other := by
  have hroles := @rolesOf_reassign db productId other role institutionId clock
  by_cases h : other = productId
  · rw [if_pos h] at hroles ⊢
    simp only [Database.view, ProductView.reassigned, hroles]
    rfl
  · rw [if_neg h] at hroles ⊢
    simp only [Database.view, hroles]
    rfl

theorem view_satisfy {evidence : ActivationEvidence} :
    (db.satisfy evidence).view other =
      if other = evidence.productId then (db.view other).satisfied evidence.requirementCode evidence.id
      else db.view other := by
  have hrequirements : (db.satisfy evidence).requirements = db.requirements.map fun row =>
      if row.productId = evidence.productId then
        (if row.requirementCode = evidence.requirementCode then
          { row with status := .satisfied, evidenceId := some evidence.id } else row)
      else row := by
    unfold Database.satisfy
    refine List.map_congr_left fun row _ => ?_
    by_cases hid : row.productId = evidence.productId <;> simp [hid]
  have hfilter := @filter_update EvidenceRequirement String _ db.requirements (·.productId) evidence.productId other
    (fun row => if row.requirementCode = evidence.requirementCode then
      { row with status := .satisfied, evidenceId := some evidence.id } else row) fun row => by split <;> rfl
  rw [← hrequirements] at hfilter
  by_cases h : other = evidence.productId
  · rw [if_pos h] at hfilter ⊢
    simp only [Database.view, Database.requirementsOf, ProductView.satisfied, hfilter]
    rfl
  · rw [if_neg h] at hfilter ⊢
    simp only [Database.view, Database.requirementsOf, hfilter]
    rfl

theorem view_insertActivationApproval {row : ActivationApproval} {next : Database}
    (h : db.insertActivationApproval row = .ok next) :
    next = { db with activationApprovals := db.activationApprovals ++ [row] } ∧ 3 ≤ row.reason.toList.length ∧
    (∀ approval ∈ db.approvalsOf row.productId, approval.approvalRound = row.approvalRound →
      approval.role ≠ row.role) ∧
    ∀ other, next.view other = if other = row.productId then (db.view other).approved row else db.view other := by
  simp only [Database.insertActivationApproval, bind_eq_ok_iff, throwIf_eq_ok_iff, exists_unit, pure_eq_ok_iff,
    not_lt] at h
  obtain ⟨hreason, hfresh, rfl⟩ := h
  refine ⟨rfl, hreason, ?_, fun other => ?_⟩
  · intro approval happroval hround hrole
    obtain ⟨hmem, hproduct⟩ := List.mem_filter.mp happroval
    refine hfresh (List.mem_map.mpr ⟨approval, hmem, ?_⟩)
    rw [hround, hrole, of_decide_eq_true hproduct]
  · have happrovals : (db.activationApprovals ++ [row]).filter (fun approval => approval.productId = other) =
        if other = row.productId then db.approvalsOf other ++ [row] else db.approvalsOf other := by
      rw [List.filter_append]
      by_cases hother : other = row.productId
      · simp [hother, Database.approvalsOf]
      · simp [hother, Ne.symm hother, Database.approvalsOf]
    by_cases hother : other = row.productId
    · rw [if_pos hother] at happrovals ⊢
      exact congrArg (fun approvals => { db.view other with approvals }) happrovals
    · rw [if_neg hother] at happrovals ⊢
      exact congrArg (fun approvals => { db.view other with approvals }) happrovals

theorem snapshotOf_view {tenantId : String} :
    db.snapshotOf tenantId productId = (db.view productId).snapshotValue tenantId := rfl

/-- What taking a snapshot changes. -/
theorem view_snapshot {tenantId actorRef eventType : String} {next : Database}
    (h : db.snapshot tenantId productId actorRef eventType = .ok next) :
    (∃ snapshots, next = { db with snapshots }) ∧ (∃ value, (db.view productId).snapshotValue tenantId = some value) ∧
    ∀ other, next.view other =
      if other = productId then (db.view other).recorded tenantId other actorRef eventType else db.view other := by
  simp only [Database.snapshot, bind_eq_ok_iff, require_eq_ok_iff] at h
  obtain ⟨value, hvalue, h⟩ := h
  rw [snapshotOf_view] at hvalue
  have hmem : (productId, value.configurationVersion) ∈
      db.snapshots.map (fun row => (row.productId, row.configurationVersion)) ↔
      value.configurationVersion ∈ (db.view productId).snapshots.map (·.configurationVersion) := by
    simp [Database.view, and_assoc]
  split at h
  · rename_i hkey
    obtain rfl := pure_eq_ok_iff.mp h
    refine ⟨⟨db.snapshots, rfl⟩, ⟨value, hvalue⟩, fun other => ?_⟩
    by_cases hother : other = productId
    · subst hother
      rw [if_pos rfl]
      simp only [ProductView.recorded, hvalue, if_pos (hmem.mp hkey)]
    · rw [if_neg hother]
  · rename_i hkey
    obtain rfl := pure_eq_ok_iff.mp h
    refine ⟨⟨_, rfl⟩, ⟨value, hvalue⟩, fun other => ?_⟩
    by_cases hother : other = productId
    · subst hother
      rw [if_pos rfl]
      simp only [ProductView.recorded, hvalue, if_neg (hmem.not.mp hkey)]
      refine congrArg (fun snapshots => { db.view other with snapshots }) ?_
      rw [List.filter_append]
      simp [Database.view]
    · rw [if_neg hother]
      refine congrArg (fun snapshots => { db.view other with snapshots }) ?_
      rw [List.filter_append]
      simp [Ne.symm hother]

theorem view_missEvidence {institutionId keyId : String} :
    (db.missEvidence institutionId keyId).view other = (db.view other).missed (db.signedWith institutionId keyId) := by
  have hfilter : (db.missEvidence institutionId keyId).requirementsOf other =
      (db.requirementsOf other).map fun row =>
        if db.signedWith institutionId keyId row then { row with status := .missing, evidenceId := none } else row := by
    unfold Database.missEvidence Database.requirementsOf
    exact filter_map_of_same fun row => by split <;> rfl
  simp only [Database.view, ProductView.missed, hfilter]
  rfl

theorem missesMandatory_iff : db.MissesMandatory productId ↔ (db.view productId).missesMandatory = true := by
  simp [Database.MissesMandatory, ProductView.missesMandatory, Database.view, Database.requirementsOf]

theorem view_suspendConfigurations : db.suspendConfigurations.view other = (db.view other).suspended := by
  have hfind : db.suspendConfigurations.findConfiguration other = (db.findConfiguration other).map fun row =>
      if row.configurationStatus = .active ∧ db.MissesMandatory row.productId then row.next .suspended else row := by
    unfold Database.suspendConfigurations Database.findConfiguration
    exact find_map_of_same fun row => by split <;> rfl
  simp only [Database.view, ProductView.suspended, hfind]
  congr 1
  refine Option.map_congr fun row hrow => ?_
  have hkey : row.productId = other := by simpa using List.find?_some hrow
  simp only [hkey, missesMandatory_iff]
  rfl

theorem view_pauseProducts (hkeys : (db.configurations.map (·.productId)).Nodup) :
    db.pauseProducts.view other = (db.view other).paused := by
  have hfind : db.pauseProducts.findProduct other = (db.findProduct other).map fun row =>
      if row.status = .active ∧ db.Suspended row.id then { row with status := .paused } else row := by
    unfold Database.pauseProducts Database.findProduct
    exact find_map_of_same fun row => by split <;> rfl
  simp only [Database.view, ProductView.paused, hfind]
  congr 1
  refine Option.map_congr fun row hrow => ?_
  have hid : row.id = other := by simpa using List.find?_some hrow
  have hsuspended : db.Suspended row.id ↔ (db.view other).configurationStatus = some .suspended := by
    rw [hid]
    constructor
    · rintro ⟨configuration, hmem, hproduct, hstatus⟩
      have hfound : db.findConfiguration other = some configuration := by
        have hfilter := filter_key_of_mem hkeys hmem
        rw [Database.findConfiguration, ← List.head?_filter]
        simp only [hproduct] at hfilter
        rw [hfilter]
        rfl
      simp [ProductView.configurationStatus, hfound, hstatus]
    · intro h
      obtain ⟨configuration, hfound, hstatus⟩ := Option.map_eq_some_iff.mp h
      exact ⟨configuration, List.mem_of_find?_eq_some hfound, by simpa using List.find?_some hfound, hstatus⟩
  simp only [hsuspended]
  rfl

theorem view_invalidate {institutionId keyId : String} (hkeys : (db.configurations.map (·.productId)).Nodup) :
    (invalidateEvidenceForSigningKey institutionId keyId db).view other =
      (db.view other).invalidated (db.signedWith institutionId keyId) := by
  unfold invalidateEvidenceForSigningKey
  rw [view_pauseProducts, view_suspendConfigurations, view_missEvidence, ProductView.invalidated]
  have hsame : (db.missEvidence institutionId keyId).suspendConfigurations.configurations.map (·.productId) =
      db.configurations.map (·.productId) := by
    unfold Database.suspendConfigurations Database.missEvidence
    rw [List.map_map]
    exact List.map_congr_left fun row _ => by dsimp only [Function.comp]; split <;> rfl
  rwa [hsame]

end Statements

end rwa.catalog
