import RwaControlPlane.ControlPlane.OwnKeys
import RwaControlPlane.Durable.HoldingLimit
import RwaControlPlane.Library.Inserts

open checked inserts
open rwa.control_plane (ControlPlane member)

namespace rwa.durable

section Rows

variable (service : DurableWorkflowService) (plane : ControlPlane)

/-- The row of a product, after the checks of its columns. -/
def productRow (product : control_plane.Product) : Except Failure Product := do
  let rules ← storedRules service product.rules
  throwIf (¬(IsCurrency product.rules.currency ∧ 0 < product.ruleVersion)) checkViolation
  pure
    { id := product.id, issuerId := product.issuerId, currency := product.rules.currency
      status := productStatus product.status, ruleVersion := product.ruleVersion, rules }

/-- The row of an evidence envelope, after the checks of its columns. -/
def evidenceRow (evidence : control_plane.StoredEvidence) : Except Failure Evidence := do
  let payload ← storedPayload service evidence.payload
  let _ ← sha256Canonical service evidence.payload.value
  let effectiveAt ← timestamptz service evidence.effectiveAt
  let expiresAt ← timestamptz service evidence.expiresAt
  throwIf (evidence.dataType ∉ evidenceTypes ∨ ¬effectiveAt < expiresAt) checkViolation
  pure
    { id := evidence.id, productId := evidence.productId, dataType := evidence.dataType
      effectiveAt, expiresAt, payload, status := .active }

/-- The row of a credential, after the checks of its columns. -/
def credentialRow (credential : control_plane.Credential) : Except Failure Credential := do
  let _ ← jsonb service credential.unsigned
  let maxUnits ← require (service.numeric credential.maxUnits) ⟨"22P02", "invalid input syntax for type numeric"⟩
  let validFrom ← timestamptz service credential.validFrom
  let validUntil ← timestamptz service credential.validUntil
  let status ← credentialStatus (plane.credentialRestrictions.get credential.id)
  throwIf (maxUnits ≤ 0 ∨ ¬validFrom < validUntil) checkViolation
  pure
    { id := credential.id, productId := credential.productId, subjectRef := credential.subjectId
      investorClass := credential.investorClass, jurisdiction := credential.jurisdiction
      maxUnits, validFrom, validUntil, status }

variable {service plane} in
private theorem productRow_id {product : control_plane.Product} {row : Product}
    (h : productRow service product = .ok row) : row.id = product.id := by
  simp only [productRow, bind_eq_ok_iff, pure_eq_ok_iff] at h
  obtain ⟨_, -, _, -, rfl⟩ := h
  rfl

variable {service plane} in
theorem productRow_currency {product : control_plane.Product} (h : ∃ row, productRow service product = .ok row) :
    IsCurrency product.rules.currency := by
  obtain ⟨row, h⟩ := h
  simp only [productRow, bind_eq_ok_iff, throwIf_eq_ok_iff, exists_unit, not_not] at h
  obtain ⟨_, -, hchecked, -⟩ := h
  exact hchecked.1

variable {service plane} in
private theorem evidenceRow_id {evidence : control_plane.StoredEvidence} {row : Evidence}
    (h : evidenceRow service evidence = .ok row) : row.id = evidence.id := by
  simp only [evidenceRow, bind_eq_ok_iff, pure_eq_ok_iff] at h
  obtain ⟨_, -, _, -, _, -, _, -, _, -, rfl⟩ := h
  rfl

variable {service plane} in
private theorem credentialRow_id {credential : control_plane.Credential} {row : Credential}
    (h : credentialRow service plane credential = .ok row) : row.id = credential.id := by
  simp only [credentialRow, bind_eq_ok_iff, pure_eq_ok_iff] at h
  obtain ⟨_, -, _, -, _, -, _, -, _, -, _, -, rfl⟩ := h
  rfl

/-- The checks of the columns of a role assignment. -/
def roleRow (createdAt role : String) : Except Failure Unit := do
  let _ ← timestamptz service createdAt
  throwIf (role ∉ productRoles) checkViolation

/-- The roles that are assigned. -/
def Database.assignedRoles (db : Database) : List (String × String) :=
  db.roleAssignments.map fun row => (row.productId, row.role)

variable {service plane} {db : Database}

private theorem insertRole_eq {productId createdAt : String} {assignment : String × String} :
    insertRole service productId createdAt db assignment = roleRow service createdAt assignment.1 >>= fun _ =>
      if (productId, assignment.1) ∈ db.assignedRoles then pure db
      else throwIf (productId ∉ db.products.map (·.id) ∨ assignment.2 ∉ db.institutions.map (·.id))
        foreignKeyViolation >>= fun _ =>
          pure { db with roleAssignments := db.roleAssignments ++ [⟨productId, assignment.1, assignment.2⟩] } := by
  rw [roleRow, bind_assoc]
  rfl

private theorem insertProduct_eq {product : control_plane.Product} :
    insertProduct service db product = productRow service product >>= fun row =>
      if product.id ∈ db.products.map (·.id) then
        product.roleAssignments.foldlM (insertRole service product.id product.createdAt) db
      else throwIf (product.issuerId ∉ db.institutions.map (·.id)) foreignKeyViolation >>= fun _ =>
        product.roleAssignments.foldlM (insertRole service product.id product.createdAt)
          { db with products := db.products ++ [row] } := by
  simp only [productRow, bind_assoc, pure_bind]
  rfl

private theorem insertEvidence_eq {evidence : control_plane.StoredEvidence} :
    insertEvidence service db evidence = evidenceRow service evidence >>= fun row =>
      if evidence.id ∈ db.evidence.map (·.id) then pure db
      else throwIf (evidence.productId ∉ db.products.map (·.id) ∨
        evidence.sourceInstitutionId ∉ db.institutions.map (·.id)) foreignKeyViolation >>= fun _ =>
          pure { db with evidence := db.evidence ++ [row] } := by
  simp only [evidenceRow, bind_assoc, pure_bind]
  rfl

private theorem insertCredential_eq {credential : control_plane.Credential} :
    insertCredential service plane db credential = credentialRow service plane credential >>= fun row =>
      if credential.id ∈ db.credentials.map (·.id) then pure db
      else throwIf (credential.productId ∉ db.products.map (·.id) ∨
        credential.issuerId ∉ db.institutions.map (·.id)) foreignKeyViolation >>= fun _ =>
          pure { db with credentials := db.credentials ++ [row] } := by
  simp only [credentialRow, bind_assoc, pure_bind]
  rfl

end Rows

variable {service : DurableWorkflowService} {plane : ControlPlane} {db next : Database}

section Extending

/-- Rows are only added. -/
structure Extends (db next : Database) : Prop where
  institutions : db.institutions <+: next.institutions
  products : db.products <+: next.products
  roleAssignments : db.roleAssignments <+: next.roleAssignments
  evidence : db.evidence <+: next.evidence
  credentials : db.credentials <+: next.credentials
  ledgerAccounts : db.ledgerAccounts <+: next.ledgerAccounts
  registerAccounts : db.registerAccounts <+: next.registerAccounts
  ledgerBatches : db.ledgerBatches <+: next.ledgerBatches

theorem Extends.refl : Extends db db :=
  ⟨List.prefix_rfl, List.prefix_rfl, List.prefix_rfl, List.prefix_rfl, List.prefix_rfl, List.prefix_rfl,
    List.prefix_rfl, List.prefix_rfl⟩

theorem Extends.trans {last : Database} (h : Extends db next) (h' : Extends next last) : Extends db last where
  institutions := h.institutions.trans h'.institutions
  products := h.products.trans h'.products
  roleAssignments := h.roleAssignments.trans h'.roleAssignments
  evidence := h.evidence.trans h'.evidence
  credentials := h.credentials.trans h'.credentials
  ledgerAccounts := h.ledgerAccounts.trans h'.ledgerAccounts
  registerAccounts := h.registerAccounts.trans h'.registerAccounts
  ledgerBatches := h.ledgerBatches.trans h'.ledgerBatches

private theorem foldlM_extends {α : Type} {items : List α} {action : Database → α → Except Failure Database}
    (hstep : ∀ item state after, action state item = .ok after → Extends state after)
    (h : items.foldlM action db = .ok next) : Extends db next :=
  foldlM_preserves (fun item _ state after hstate hafter => Extends.trans hstate (hstep item state after hafter))
    Extends.refl h

private theorem foldl_extends {α : Type} {items : List α} {action : Database → α → Database}
    (hstep : ∀ item state, Extends state (action state item)) : Extends db (items.foldl action db) := by
  induction items generalizing db with
  | nil => exact Extends.refl
  | cons item rest ih => exact (hstep item db).trans ih

private theorem insertInstitution_extends {institution : control_plane.Institution}
    (h : insertInstitution db institution = .ok next) : Extends db next := by
  simp only [insertInstitution, bind_eq_ok_iff, require_eq_ok_iff, throwIf_eq_ok_iff, exists_unit, pure_eq_ok_iff] at h
  obtain ⟨_, -, -, rfl⟩ := h
  split
  · exact Extends.refl
  · exact { @Extends.refl db with institutions := List.prefix_append _ _ }

private theorem insertRole_extends {productId createdAt : String} {assignment : String × String}
    (h : insertRole service productId createdAt db assignment = .ok next) : Extends db next := by
  rw [insertRole_eq] at h
  obtain ⟨_, -, h⟩ := bind_eq_ok_iff.mp h
  split at h
  · obtain rfl := pure_eq_ok_iff.mp h
    exact Extends.refl
  · obtain ⟨_, -, h⟩ := bind_eq_ok_iff.mp h
    obtain rfl := pure_eq_ok_iff.mp h
    exact { @Extends.refl db with roleAssignments := List.prefix_append _ _ }

private theorem insertProduct_extends {product : control_plane.Product}
    (h : insertProduct service db product = .ok next) : Extends db next := by
  rw [insertProduct_eq] at h
  obtain ⟨row, -, h⟩ := bind_eq_ok_iff.mp h
  split at h
  · exact foldlM_extends (fun _ _ _ => insertRole_extends) h
  · obtain ⟨_, -, h⟩ := bind_eq_ok_iff.mp h
    refine Extends.trans ?_ (foldlM_extends (fun _ _ _ => insertRole_extends) h)
    exact { @Extends.refl db with products := List.prefix_append _ _ }

private theorem insertEvidence_extends {evidence : control_plane.StoredEvidence}
    (h : insertEvidence service db evidence = .ok next) : Extends db next := by
  rw [insertEvidence_eq] at h
  obtain ⟨row, -, h⟩ := bind_eq_ok_iff.mp h
  split at h
  · obtain rfl := pure_eq_ok_iff.mp h
    exact Extends.refl
  · obtain ⟨_, -, h⟩ := bind_eq_ok_iff.mp h
    obtain rfl := pure_eq_ok_iff.mp h
    exact { @Extends.refl db with evidence := List.prefix_append _ _ }

private theorem insertCredential_extends {credential : control_plane.Credential}
    (h : insertCredential service plane db credential = .ok next) : Extends db next := by
  rw [insertCredential_eq] at h
  obtain ⟨row, -, h⟩ := bind_eq_ok_iff.mp h
  split at h
  · obtain rfl := pure_eq_ok_iff.mp h
    exact Extends.refl
  · obtain ⟨_, -, h⟩ := bind_eq_ok_iff.mp h
    obtain rfl := pure_eq_ok_iff.mp h
    exact { @Extends.refl db with credentials := List.prefix_append _ _ }

variable {productId ownerRef assetCode : String} {accountType : AccountType}

private theorem ensureLedgerAccount_extends :
    Extends db (db.ensureLedgerAccount productId ownerRef assetCode accountType) := by
  unfold Database.ensureLedgerAccount
  split
  · exact Extends.refl
  · exact { @Extends.refl db with ledgerAccounts := List.prefix_append _ _ }

private theorem ensureRegisterAccount_extends :
    Extends db (db.ensureRegisterAccount productId ownerRef assetCode accountType) := by
  unfold Database.ensureRegisterAccount
  split
  · exact Extends.refl
  · exact { @Extends.refl db with registerAccounts := List.prefix_append _ _ }

private theorem ensureOwner_extends {product : control_plane.Product} {owner : String} :
    Extends db (ensureOwner product db owner) := by
  have hcash : Extends db (if owner = "TREASURY" then db
      else db.ensureLedgerAccount product.id owner product.rules.currency (cashType product.issuerId owner)) := by
    split
    · exact Extends.refl
    · exact ensureLedgerAccount_extends
  unfold ensureOwner
  dsimp only
  split
  · exact hcash
  · exact (hcash.trans ensureLedgerAccount_extends).trans ensureRegisterAccount_extends

private theorem ensureAccounts_extends {product : control_plane.Product} :
    Extends db (ensureAccounts plane db product) :=
  (foldl_extends fun _ _ => ensureOwner_extends).trans ensureLedgerAccount_extends

private theorem openBalance_extends {entry : String × Int} (h : openBalance plane db entry = .ok next) :
    Extends db next := by
  unfold openBalance at h
  split at h
  · obtain rfl := Except.ok.inj h
    exact Extends.refl
  · dsimp only at h
    split at h
    · obtain rfl := Except.ok.inj h
      exact Extends.refl
    · split at h
      · obtain rfl := Except.ok.inj h
        exact Extends.refl
      · obtain ⟨-, -, rfl⟩ := appendLedgerBatch_ok h
        exact { @Extends.refl db with ledgerBatches := List.prefix_append _ _ }

end Extending

section Again

/-- A key that is there stays there. -/
private theorem mem_map_of_extends {α β : Type} {rows more : List α} {key : α → β} {value : β} (h : rows <+: more)
    (hmem : value ∈ rows.map key) : value ∈ more.map key :=
  ((h.sublist.map key).subset) hmem

def InstitutionPresent (db : Database) (institution : control_plane.Institution) : Prop :=
  ∃ row, db.institutions.find? (·.id = institution.id) = some row ∧ row.publicKeyPem = institution.publicKeyPem

def RolePresent (productId : String) (db : Database) (assignment : String × String) : Prop :=
  (productId, assignment.1) ∈ db.assignedRoles

def ProductPresent (db : Database) (product : control_plane.Product) : Prop :=
  product.id ∈ db.products.map (·.id) ∧
    ∀ assignment ∈ product.roleAssignments, RolePresent product.id db assignment

def EvidencePresent (db : Database) (envelope : control_plane.StoredEvidence) : Prop :=
  envelope.id ∈ db.evidence.map (·.id)

def CredentialPresent (db : Database) (credential : control_plane.Credential) : Prop :=
  credential.id ∈ db.credentials.map (·.id)

private theorem InstitutionPresent.mono {institution : control_plane.Institution} (hextends : Extends db next)
    (h : InstitutionPresent db institution) : InstitutionPresent next institution := by
  obtain ⟨row, hfound, hkey⟩ := h
  obtain ⟨more, hmore⟩ := hextends.institutions
  exact ⟨row, by rw [← hmore, List.find?_append, hfound]; rfl, hkey⟩

private theorem ProductPresent.mono {product : control_plane.Product} (hextends : Extends db next)
    (h : ProductPresent db product) : ProductPresent next product :=
  ⟨mem_map_of_extends hextends.products h.1,
    fun assignment hassignment => mem_map_of_extends hextends.roleAssignments (h.2 assignment hassignment)⟩

private theorem insertInstitution_present {institution : control_plane.Institution}
    (h : insertInstitution db institution = .ok next) : InstitutionPresent next institution := by
  simp only [insertInstitution, bind_eq_ok_iff, require_eq_ok_iff, throwIf_eq_ok_iff, exists_unit, pure_eq_ok_iff,
    not_not] at h
  obtain ⟨row, hfound, hkey, rfl⟩ := h
  exact ⟨row, hfound, hkey⟩

private theorem insertInstitution_again {institution : control_plane.Institution}
    (h : InstitutionPresent db institution) : insertInstitution db institution = .ok db := by
  obtain ⟨row, hfound, hkey⟩ := h
  have hknown : institution.id ∈ db.institutions.map (·.id) :=
    List.mem_map.mpr ⟨row, List.mem_of_find?_eq_some hfound, by simpa using List.find?_some hfound⟩
  unfold insertInstitution
  rw [if_pos hknown]
  dsimp only
  rw [hfound]
  exact bind_eq_ok_iff.mpr ⟨row, rfl, bind_eq_ok_iff.mpr ⟨(), throwIf_eq_ok_iff.mpr (not_not.mpr hkey), rfl⟩⟩

private theorem insertRole_present {productId createdAt : String} {assignment : String × String}
    (h : insertRole service productId createdAt db assignment = .ok next) : RolePresent productId next assignment := by
  rw [insertRole_eq] at h
  obtain ⟨_, -, h⟩ := bind_eq_ok_iff.mp h
  split at h
  · next hknown =>
    obtain rfl := pure_eq_ok_iff.mp h
    exact hknown
  · obtain ⟨_, -, h⟩ := bind_eq_ok_iff.mp h
    obtain rfl := pure_eq_ok_iff.mp h
    simp [RolePresent, Database.assignedRoles]

/-- A role that was inserted once is not inserted again. -/
private theorem insertRole_again {productId createdAt : String} {assignment : String × String} {state after : Database}
    (hbefore : insertRole service productId createdAt state assignment = .ok after)
    (h : RolePresent productId db assignment) : insertRole service productId createdAt db assignment = .ok db := by
  rw [insertRole_eq] at hbefore ⊢
  obtain ⟨checked, hchecked, -⟩ := bind_eq_ok_iff.mp hbefore
  exact bind_eq_ok_iff.mpr ⟨checked, hchecked, if_pos h⟩

/-- The roles of a product that was inserted, as they were inserted. -/
private theorem insertProduct_roles {product : control_plane.Product}
    (h : insertProduct service db product = .ok next) :
    ∃ start row, productRow service product = .ok row ∧ product.id ∈ start.products.map (·.id) ∧
      product.roleAssignments.foldlM (insertRole service product.id product.createdAt) start = .ok next := by
  rw [insertProduct_eq] at h
  obtain ⟨row, hrow, h⟩ := bind_eq_ok_iff.mp h
  split at h
  · next hknown => exact ⟨db, row, hrow, hknown, h⟩
  · obtain ⟨_, -, h⟩ := bind_eq_ok_iff.mp h
    exact ⟨_, row, hrow, by simp [productRow_id hrow], h⟩

private theorem insertProduct_present {product : control_plane.Product}
    (h : insertProduct service db product = .ok next) :
    ProductPresent next product := by
  obtain ⟨start, row, -, hknown, hroles⟩ := insertProduct_roles h
  refine ⟨mem_map_of_extends (foldlM_extends (fun _ _ _ => insertRole_extends) hroles).products hknown, ?_⟩
  exact present_of_foldlM (fun _ _ _ => insertRole_present)
    (fun _ _ _ _ hinserted hpresent => mem_map_of_extends (insertRole_extends hinserted).roleAssignments hpresent)
    hroles

private theorem insertProduct_again {product : control_plane.Product} {state after : Database}
    (hbefore : insertProduct service state product = .ok after) (h : ProductPresent db product) :
    insertProduct service db product = .ok db := by
  obtain ⟨start, row, hrow, -, hroles⟩ := insertProduct_roles hbefore
  rw [insertProduct_eq]
  refine bind_eq_ok_iff.mpr ⟨row, hrow, ?_⟩
  rw [if_pos h.1]
  refine foldlM_of_present (fun assignment hassignment hpresent => ?_) h.2
  obtain ⟨_, _, hinserted⟩ := foldlM_steps hroles assignment hassignment
  exact insertRole_again hinserted hpresent

private theorem insertEvidence_present {evidence : control_plane.StoredEvidence}
    (h : insertEvidence service db evidence = .ok next) : evidence.id ∈ next.evidence.map (·.id) := by
  rw [insertEvidence_eq] at h
  obtain ⟨row, hrow, h⟩ := bind_eq_ok_iff.mp h
  split at h
  · next hknown =>
    obtain rfl := pure_eq_ok_iff.mp h
    exact hknown
  · obtain ⟨_, -, h⟩ := bind_eq_ok_iff.mp h
    obtain rfl := pure_eq_ok_iff.mp h
    simp [evidenceRow_id hrow]

private theorem insertEvidence_again {evidence : control_plane.StoredEvidence} {state after : Database}
    (hbefore : insertEvidence service state evidence = .ok after) (h : evidence.id ∈ db.evidence.map (·.id)) :
    insertEvidence service db evidence = .ok db := by
  rw [insertEvidence_eq] at hbefore ⊢
  obtain ⟨row, hrow, -⟩ := bind_eq_ok_iff.mp hbefore
  exact bind_eq_ok_iff.mpr ⟨row, hrow, if_pos h⟩

private theorem insertCredential_present {credential : control_plane.Credential}
    (h : insertCredential service plane db credential = .ok next) : credential.id ∈ next.credentials.map (·.id) := by
  rw [insertCredential_eq] at h
  obtain ⟨row, hrow, h⟩ := bind_eq_ok_iff.mp h
  split at h
  · next hknown =>
    obtain rfl := pure_eq_ok_iff.mp h
    exact hknown
  · obtain ⟨_, -, h⟩ := bind_eq_ok_iff.mp h
    obtain rfl := pure_eq_ok_iff.mp h
    simp [credentialRow_id hrow]

private theorem insertCredential_again {credential : control_plane.Credential} {state after : Database}
    (hbefore : insertCredential service plane state credential = .ok after)
    (h : credential.id ∈ db.credentials.map (·.id)) : insertCredential service plane db credential = .ok db := by
  rw [insertCredential_eq] at hbefore ⊢
  obtain ⟨row, hrow, -⟩ := bind_eq_ok_iff.mp hbefore
  exact bind_eq_ok_iff.mpr ⟨row, hrow, if_pos h⟩

variable {productId ownerRef assetCode : String} {accountType : AccountType}

private theorem ensureLedgerAccount_present : ledgerAccountId productId ownerRef assetCode accountType ∈
    (db.ensureLedgerAccount productId ownerRef assetCode accountType).ledgerAccounts.map (·.id) := by
  unfold Database.ensureLedgerAccount
  split
  · next hknown => exact hknown
  · simp

private theorem ensureRegisterAccount_present : registerAccountId productId ownerRef assetCode accountType ∈
    (db.ensureRegisterAccount productId ownerRef assetCode accountType).registerAccounts.map (·.id) := by
  unfold Database.ensureRegisterAccount
  split
  · next hknown => exact hknown
  · simp

/-- The type of an owner's unit accounts. -/
def unitType (owner : String) : AccountType := if owner = "TREASURY" then .treasury else .investor

/-- The accounts of an owner at a product are there. -/
structure OwnerPresent (product : control_plane.Product) (db : Database) (owner : String) : Prop where
  cash : owner ≠ "TREASURY" →
    ledgerAccountId product.id owner product.rules.currency (cashType product.issuerId owner) ∈
      db.ledgerAccounts.map (·.id)
  units : owner ≠ "EXTERNAL_CASH" →
    ledgerAccountId product.id owner (unitAssetOf product.id) (unitType owner) ∈ db.ledgerAccounts.map (·.id)
  register : owner ≠ "EXTERNAL_CASH" →
    registerAccountId product.id owner (unitAssetOf product.id) (unitType owner) ∈ db.registerAccounts.map (·.id)

private theorem OwnerPresent.mono {product : control_plane.Product} {owner : String} (hextends : Extends db next)
    (h : OwnerPresent product db owner) : OwnerPresent product next owner :=
  ⟨fun howner => mem_map_of_extends hextends.ledgerAccounts (h.cash howner),
    fun howner => mem_map_of_extends hextends.ledgerAccounts (h.units howner),
    fun howner => mem_map_of_extends hextends.registerAccounts (h.register howner)⟩

private theorem ensureOwner_present {product : control_plane.Product} {owner : String} :
    OwnerPresent product (ensureOwner product db owner) owner := by
  unfold ensureOwner
  by_cases hexternal : owner = "EXTERNAL_CASH"
  · subst hexternal
    exact ⟨fun _ => ensureLedgerAccount_present, fun h => absurd rfl h, fun h => absurd rfl h⟩
  · dsimp only
    rw [if_neg hexternal]
    refine ⟨fun howner => ?_, fun _ => ?_, fun _ => ensureRegisterAccount_present⟩
    · rw [if_neg howner]
      exact mem_map_of_extends (ensureLedgerAccount_extends.trans ensureRegisterAccount_extends).ledgerAccounts
        ensureLedgerAccount_present
    · exact mem_map_of_extends ensureRegisterAccount_extends.ledgerAccounts ensureLedgerAccount_present

private theorem ensureOwner_again {product : control_plane.Product} {owner : String}
    (h : OwnerPresent product db owner) :
    ensureOwner product db owner = db := by
  have hcash : (if owner = "TREASURY" then db
      else db.ensureLedgerAccount product.id owner product.rules.currency (cashType product.issuerId owner)) = db := by
    split
    · rfl
    · next howner => exact if_pos (h.cash howner)
  unfold ensureOwner
  dsimp only
  rw [hcash]
  split
  · rfl
  · next howner =>
    have hunits : db.ensureLedgerAccount product.id owner (unitAssetOf product.id) (unitType owner) = db :=
      if_pos (h.units howner)
    have hregister : db.ensureRegisterAccount product.id owner (unitAssetOf product.id) (unitType owner) = db :=
      if_pos (h.register howner)
    rw [show (if owner = "TREASURY" then AccountType.treasury else .investor) = unitType owner from rfl,
      hunits, hregister]

/-- The accounts of a product are there. -/
def AccountsPresent (plane : ControlPlane) (db : Database) (product : control_plane.Product) : Prop :=
  (∀ owner ∈ ownersOf plane product, OwnerPresent product db owner) ∧
    ledgerAccountId product.id product.issuerId product.rules.currency .fee ∈ db.ledgerAccounts.map (·.id)

private theorem AccountsPresent.mono {product : control_plane.Product} (hextends : Extends db next)
    (h : AccountsPresent plane db product) : AccountsPresent plane next product :=
  ⟨fun owner howner => (h.1 owner howner).mono hextends, mem_map_of_extends hextends.ledgerAccounts h.2⟩

private theorem ensureAccounts_present {product : control_plane.Product} :
    AccountsPresent plane (ensureAccounts plane db product) product := by
  refine ⟨fun owner howner => ?_, ensureLedgerAccount_present⟩
  exact (present_of_foldl (fun _ _ => ensureOwner_present) (fun _ _ _ hpresent => hpresent.mono ensureOwner_extends)
    owner howner).mono ensureLedgerAccount_extends

private theorem ensureAccounts_again {product : control_plane.Product} (h : AccountsPresent plane db product) :
    ensureAccounts plane db product = db := by
  unfold ensureAccounts
  rw [foldl_of_present fun owner howner => ensureOwner_again (h.1 owner howner)]
  exact if_pos h.2

/-- A balance is open, or there is nothing to open. -/
def BalancePresent (plane : ControlPlane) (db : Database) (entry : String × Int) : Prop :=
  entry.2 ≠ 0 → ∀ product ∈ plane.products.values.find? (·.rules.currency = (splitKey entry.1).2),
    "opening:" ++ product.id ++ ":" ++ (splitKey entry.1).1 ++ ":" ++ (splitKey entry.1).2 ∈
      db.ledgerBatches.map (·.id)

private theorem openBalance_present {entry : String × Int} (h : openBalance plane db entry = .ok next) :
    BalancePresent plane next entry := by
  intro hamount product hproduct
  unfold openBalance at h
  rw [if_neg hamount] at h
  dsimp only at h
  rw [Option.mem_def.mp hproduct] at h
  dsimp only at h
  split at h
  · next hknown =>
    obtain rfl := Except.ok.inj h
    exact hknown
  · obtain ⟨-, -, rfl⟩ := appendLedgerBatch_ok h
    simp

private theorem openBalance_again {entry : String × Int} (h : BalancePresent plane db entry) :
    openBalance plane db entry = .ok db := by
  unfold openBalance
  by_cases hamount : entry.2 = 0
  · rw [if_pos hamount]
  · rw [if_neg hamount]
    dsimp only
    cases hproduct : plane.products.values.find? (·.rules.currency = (splitKey entry.1).2) with
    | none => rfl
    | some product => exact if_pos (h hamount product hproduct)

/-- Loading a plane again changes nothing. -/
theorem bootstrap_again (h : bootstrapFromControlPlane service plane db = .ok ((), next)) :
    bootstrapFromControlPlane service plane next = .ok ((), next) := by
  unfold bootstrapFromControlPlane at h
  obtain ⟨institutions, hinstitutions, h⟩ := bind_eq_ok_iff.mp h
  obtain ⟨products, hproducts, h⟩ := bind_eq_ok_iff.mp h
  obtain ⟨evidence, hevidence, h⟩ := bind_eq_ok_iff.mp h
  obtain ⟨credentials, hcredentials, h⟩ := bind_eq_ok_iff.mp h
  obtain ⟨opened, hopened, h⟩ := bind_eq_ok_iff.mp h
  obtain ⟨-, rfl⟩ := Prod.mk.inj (pure_eq_ok_iff.mp h)
  set accounts := plane.products.values.foldl (ensureAccounts plane) credentials with haccounts
  have hfromAccounts : Extends accounts opened := foldlM_extends (fun _ _ _ => openBalance_extends) hopened
  have hfromCredentials : Extends credentials opened :=
    (foldl_extends fun _ _ => ensureAccounts_extends).trans hfromAccounts
  have hfromEvidence : Extends evidence opened :=
    (foldlM_extends (fun _ _ _ => insertCredential_extends) hcredentials).trans hfromCredentials
  have hfromProducts : Extends products opened :=
    (foldlM_extends (fun _ _ _ => insertEvidence_extends) hevidence).trans hfromEvidence
  have hfromInstitutions : Extends institutions opened :=
    (foldlM_extends (fun _ _ _ => insertProduct_extends) hproducts).trans hfromProducts
  have hinstitutionsAgain : plane.institutions.values.foldlM insertInstitution opened = .ok opened := by
    refine @foldlM_of_present _ _ _ insertInstitution InstitutionPresent _ _
      (fun _ _ hpresent => insertInstitution_again hpresent) fun institution hinstitution => ?_
    exact (@present_of_foldlM _ _ _ insertInstitution InstitutionPresent _ _ _
      (fun _ _ _ => insertInstitution_present)
      (fun _ _ _ _ hinserted hpresent => hpresent.mono (insertInstitution_extends hinserted)) hinstitutions institution
      hinstitution).mono hfromInstitutions
  have hproductsAgain : plane.products.values.foldlM (insertProduct service) opened = .ok opened := by
    refine @foldlM_of_present _ _ _ (insertProduct service) ProductPresent _ _ (fun product hproduct hpresent => ?_)
      fun product hproduct => ?_
    · obtain ⟨_, _, hinserted⟩ := foldlM_steps hproducts product hproduct
      exact insertProduct_again hinserted hpresent
    · exact (@present_of_foldlM _ _ _ (insertProduct service) ProductPresent _ _ _
        (fun _ _ _ => insertProduct_present)
        (fun _ _ _ _ hinserted hpresent => hpresent.mono (insertProduct_extends hinserted)) hproducts product
        hproduct).mono hfromProducts
  have hevidenceAgain : plane.evidence.values.foldlM (insertEvidence service) opened = .ok opened := by
    refine @foldlM_of_present _ _ _ (insertEvidence service) EvidencePresent _ _ (fun envelope henvelope hpresent => ?_)
      fun envelope henvelope => ?_
    · obtain ⟨_, _, hinserted⟩ := foldlM_steps hevidence envelope henvelope
      exact insertEvidence_again hinserted hpresent
    · exact mem_map_of_extends hfromEvidence.evidence (@present_of_foldlM _ _ _ (insertEvidence service) EvidencePresent
        _ _ _ (fun _ _ _ => insertEvidence_present)
        (fun _ _ _ _ hinserted hpresent => mem_map_of_extends (insertEvidence_extends hinserted).evidence hpresent)
        hevidence envelope henvelope)
  have hcredentialsAgain : plane.credentials.values.foldlM (insertCredential service plane) opened = .ok opened := by
    refine @foldlM_of_present _ _ _ (insertCredential service plane) CredentialPresent _ _
      (fun credential hcredential hpresent => ?_) fun credential hcredential => ?_
    · obtain ⟨_, _, hinserted⟩ := foldlM_steps hcredentials credential hcredential
      exact insertCredential_again hinserted hpresent
    · exact mem_map_of_extends hfromCredentials.credentials (@present_of_foldlM _ _ _ (insertCredential service plane)
        CredentialPresent _ _ _ (fun _ _ _ => insertCredential_present)
        (fun _ _ _ _ hinserted hpresent => mem_map_of_extends (insertCredential_extends hinserted).credentials hpresent)
        hcredentials credential hcredential)
  have haccountsAgain : plane.products.values.foldl (ensureAccounts plane) opened = opened := by
    refine foldl_of_present fun product hproduct => ensureAccounts_again ?_
    exact (@present_of_foldl _ _ (AccountsPresent plane) _ _ _ (fun _ _ => ensureAccounts_present)
      (fun _ _ _ hpresent => hpresent.mono ensureAccounts_extends) product hproduct).mono hfromAccounts
  have hbalancesAgain : plane.cashBalances.entries.foldlM (openBalance plane) opened = .ok opened := by
    refine @foldlM_of_present _ _ _ (openBalance plane) (BalancePresent plane) _ _
      (fun _ _ hpresent => openBalance_again hpresent) ?_
    refine @present_of_foldlM _ _ _ (openBalance plane) (BalancePresent plane) _ _ _
      (fun _ _ _ => openBalance_present) (fun _ _ _ _ hinserted hpresent => ?_) hopened
    exact fun hamount product hproduct =>
      mem_map_of_extends (openBalance_extends hinserted).ledgerBatches (hpresent hamount product hproduct)
  unfold bootstrapFromControlPlane
  rw [hinstitutionsAgain]
  refine bind_eq_ok_iff.mpr ⟨opened, rfl, bind_eq_ok_iff.mpr ⟨opened, hproductsAgain, ?_⟩⟩
  refine bind_eq_ok_iff.mpr ⟨opened, hevidenceAgain, bind_eq_ok_iff.mpr ⟨opened, hcredentialsAgain, ?_⟩⟩
  rw [haccountsAgain]
  exact bind_eq_ok_iff.mpr ⟨opened, hbalancesAgain, rfl⟩

end Again

section Fitting

variable (service plane)

def Registered (institutionId : String) : Prop := institutionId ∈ plane.institutions.values.map (·.id)

def Offered (productId : String) : Prop := productId ∈ plane.products.values.map (·.id)

/-- A product passes the checks of its columns, and its institutions are registered. Of two
assignments of a role the first one counts. -/
structure ProductFits (product : control_plane.Product) : Prop where
  row : ∃ row, productRow service product = .ok row
  issuer : Registered plane product.issuerId
  roles : ∀ assignment ∈ product.roleAssignments, roleRow service product.createdAt assignment.1 = .ok ()
  assigned : ∀ role institutionId, member role product.roleAssignments = some institutionId →
    Registered plane institutionId

structure EvidenceFits (envelope : control_plane.StoredEvidence) : Prop where
  row : ∃ row, evidenceRow service envelope = .ok row
  product : Offered plane envelope.productId
  source : Registered plane envelope.sourceInstitutionId

structure CredentialFits (credential : control_plane.Credential) : Prop where
  row : ∃ row, credentialRow service plane credential = .ok row
  product : Offered plane credential.productId
  issuer : Registered plane credential.issuerId

/-- The products, the evidence and the credentials of a plane pass the checks of their
tables. -/
structure Fits : Prop where
  products : ∀ product ∈ plane.products.values, ProductFits service plane product
  evidence : ∀ envelope ∈ plane.evidence.values, EvidenceFits service plane envelope
  credentials : ∀ credential ∈ plane.credentials.values, CredentialFits service plane credential

/-- The institutions of a plane are there, and no account. -/
structure Unopened (db : Database) : Prop where
  institutions : db.institutions.map (·.id) = plane.institutions.values.map (·.id)
  ledgerAccounts : db.ledgerAccounts = []
  ledgerBatches : db.ledgerBatches = []

/-- The products of a plane are there as well. -/
structure Listed (db : Database) : Prop extends Unopened plane db where
  products : db.products.map (·.id) = plane.products.values.map (·.id)

variable {service plane}

/-- Roles are inserted exactly if each passes the checks of its columns and those that
nobody has go to institutions that are there. -/
private theorem roles_isOk_iff {productId createdAt : String} {assignments : List (String × String)}
    (hproduct : productId ∈ db.products.map (·.id)) :
    (∃ final, assignments.foldlM (insertRole service productId createdAt) db = .ok final) ↔
      (∀ assignment ∈ assignments, roleRow service createdAt assignment.1 = .ok ()) ∧
        ∀ role institutionId, member role assignments = some institutionId → (productId, role) ∉ db.assignedRoles →
          institutionId ∈ db.institutions.map (·.id) := by
  induction assignments generalizing db with
  | nil => simp [member, pure, Except.pure]
  | cons assignment rest ih =>
    have hmember (role : String) : member role (assignment :: rest) =
        if assignment.1 = role then some assignment.2 else member role rest := by
      by_cases hrole : assignment.1 = role
      · simp [member, hrole]
      · simp [member, hrole]
    rw [List.forall_mem_cons, List.foldlM_cons, insertRole_eq]
    by_cases hknown : (productId, assignment.1) ∈ db.assignedRoles
    · have hrest := @ih db hproduct
      constructor
      · rintro ⟨final, h⟩
        obtain ⟨next, hinserted, h⟩ := bind_eq_ok_iff.mp h
        obtain ⟨_, hrow, hinserted⟩ := bind_eq_ok_iff.mp hinserted
        rw [if_pos hknown] at hinserted
        obtain rfl := pure_eq_ok_iff.mp hinserted
        obtain ⟨hrows, hassigned⟩ := hrest.mp ⟨final, h⟩
        refine ⟨⟨hrow, hrows⟩, fun role institutionId hmem hnew => ?_⟩
        rw [hmember] at hmem
        by_cases hrole : assignment.1 = role
        · exact absurd (hrole ▸ hknown) hnew
        · rw [if_neg hrole] at hmem
          exact hassigned role institutionId hmem hnew
      · rintro ⟨⟨hrow, hrows⟩, hassigned⟩
        obtain ⟨final, h⟩ := hrest.mpr ⟨hrows, fun role institutionId hmem hnew => by
          refine hassigned role institutionId ?_ hnew
          have hrole : assignment.1 ≠ role := fun hsame => hnew (hsame ▸ hknown)
          rw [hmember, if_neg hrole]
          exact hmem⟩
        exact ⟨final, bind_eq_ok_iff.mpr ⟨db, bind_eq_ok_iff.mpr ⟨(), hrow, if_pos hknown⟩, h⟩⟩
    · have hrest := @ih { db with roleAssignments := db.roleAssignments ++ [⟨productId, assignment.1, assignment.2⟩] }
        hproduct
      have hnow (role : String) : (productId, role) ∉ (db.assignedRoles ++ [(productId, assignment.1)]) ↔
          (productId, role) ∉ db.assignedRoles ∧ role ≠ assignment.1 := by
        simp
      simp only [Database.assignedRoles, List.map_append, List.map_cons, List.map_nil] at hrest hnow
      simp only [hnow] at hrest
      constructor
      · rintro ⟨final, h⟩
        obtain ⟨next, hinserted, h⟩ := bind_eq_ok_iff.mp h
        obtain ⟨_, hrow, hinserted⟩ := bind_eq_ok_iff.mp hinserted
        rw [if_neg hknown] at hinserted
        obtain ⟨_, hforeign, hinserted⟩ := bind_eq_ok_iff.mp hinserted
        obtain rfl := pure_eq_ok_iff.mp hinserted
        obtain ⟨hrows, hassigned⟩ := hrest.mp ⟨final, h⟩
        refine ⟨⟨hrow, hrows⟩, fun role institutionId hmem hnew => ?_⟩
        rw [hmember] at hmem
        by_cases hrole : assignment.1 = role
        · rw [if_pos hrole] at hmem
          obtain rfl := Option.some.inj hmem
          by_contra hmissing
          exact throwIf_eq_ok_iff.mp hforeign (Or.inr hmissing)
        · rw [if_neg hrole] at hmem
          exact hassigned role institutionId hmem ⟨hnew, fun hsame => hrole hsame.symm⟩
      · rintro ⟨⟨hrow, hrows⟩, hassigned⟩
        have hforeign : assignment.2 ∈ db.institutions.map (·.id) :=
          hassigned assignment.1 assignment.2 (by rw [hmember, if_pos rfl]) hknown
        obtain ⟨final, h⟩ := hrest.mpr ⟨hrows, fun role institutionId hmem hnew => by
          refine hassigned role institutionId ?_ hnew.1
          rw [hmember, if_neg fun hrole => hnew.2 hrole.symm]
          exact hmem⟩
        refine ⟨final, bind_eq_ok_iff.mpr ⟨_, bind_eq_ok_iff.mpr ⟨(), hrow, ?_⟩, h⟩⟩
        rw [if_neg hknown]
        exact bind_eq_ok_iff.mpr ⟨(), throwIf_eq_ok_iff.mpr (by simp [hproduct, hforeign]), rfl⟩

/-- Inserting roles changes roles of the product only. -/
private theorem roles_kept {productId createdAt : String} {assignments : List (String × String)}
    (h : assignments.foldlM (insertRole service productId createdAt) db = .ok next) :
    ∃ roles, next = { db with roleAssignments := roles } ∧
      ∀ row ∈ roles, row ∈ db.roleAssignments ∨ row.productId = productId := by
  refine @foldlM_preserves _ _ _ (fun after => ∃ roles, after = { db with roleAssignments := roles } ∧
    ∀ row ∈ roles, row ∈ db.roleAssignments ∨
      row.productId = productId) _ _ (fun assignment _ state after hstate hafter => ?_)
    _ _ ⟨db.roleAssignments, rfl, fun row hrow => Or.inl hrow⟩ h
  obtain ⟨roles, rfl, hroles⟩ := hstate
  rw [insertRole_eq] at hafter
  obtain ⟨_, -, hafter⟩ := bind_eq_ok_iff.mp hafter
  split at hafter
  · obtain rfl := pure_eq_ok_iff.mp hafter
    exact ⟨roles, rfl, hroles⟩
  · obtain ⟨_, -, hafter⟩ := bind_eq_ok_iff.mp hafter
    obtain rfl := pure_eq_ok_iff.mp hafter
    exact ⟨_, rfl, List.forall_mem_append.mpr ⟨hroles, by simp⟩⟩

/-- Institutions can always be loaded. -/
private theorem institutions_load (hkeys : (plane.institutions.values.map (·.id)).Nodup) :
    ∃ next, plane.institutions.values.foldlM insertInstitution Database.empty = .ok next ∧
      next.institutions.map (·.id) = plane.institutions.values.map (·.id) ∧
      next = { Database.empty with institutions := next.institutions } := by
  have hinsert (institution : control_plane.Institution) (db : Database)
      (hfresh : institution.id ∉ db.institutions.map (·.id)) : insertInstitution db institution =
        .ok { db with institutions := db.institutions ++ [⟨institution.id, institution.publicKeyPem⟩] } := by
    have hunknown : db.institutions.find? (fun row => decide (row.id = institution.id)) = none := by
      rw [List.find?_eq_none]
      intro row hrow hsame
      exact hfresh (List.mem_map.mpr ⟨row, hrow, by simpa using hsame⟩)
    simp only [insertInstitution, if_neg hfresh, List.find?_append, hunknown]
    simp [require, throwIf, bind, Except.bind, pure, Except.pure]
  have hloop := @foldlM_isOk_iff _ _ _ String insertInstitution plane.institutions.values Database.empty
    (fun db => db = { Database.empty with institutions := db.institutions }) (fun db => db.institutions.map (·.id))
    (·.id) (fun _ => True)
    (fun institution _ db _ hfresh => by simp [hinsert institution db hfresh])
    (fun institution _ db next hdb hfresh h => by
      rw [hinsert institution db hfresh] at h
      obtain rfl := Except.ok.inj h
      exact ⟨by rw [hdb], by simp⟩)
    hkeys (by simp [Database.empty]) rfl
  obtain ⟨next, hnext⟩ := hloop.1.mpr fun _ _ => trivial
  obtain ⟨hframe, hids⟩ := hloop.2 next hnext
  exact ⟨next, hnext, hids, hframe⟩

/-- The products of a plane load exactly if each passes its checks. -/
private theorem products_load (hkeys : (plane.products.values.map (·.id)).Nodup)
    (hinstitutions : db.institutions.map (·.id) = plane.institutions.values.map (·.id))
    (hempty : db = { Database.empty with institutions := db.institutions }) :
    ((∃ next, plane.products.values.foldlM (insertProduct service) db = .ok next) ↔
        ∀ product ∈ plane.products.values, ProductFits service plane product) ∧
      ∀ next, plane.products.values.foldlM (insertProduct service) db = .ok next →
        Listed plane next ∧ next.evidence = [] ∧ next.credentials = [] := by
  have hloop := @foldlM_isOk_iff _ _ _ String (insertProduct service) plane.products.values db
    (fun db => (Unopened plane db ∧ db.evidence = [] ∧ db.credentials = []) ∧
      ∀ row ∈ db.roleAssignments, row.productId ∈ db.products.map (·.id))
    (fun db => db.products.map (·.id)) (·.id) (ProductFits service plane) ?_ ?_ hkeys
      (by rw [hempty]; simp [Database.empty])
    (by rw [hempty]; exact ⟨⟨⟨hinstitutions, rfl, rfl⟩, rfl, rfl⟩, by simp [Database.empty]⟩)
  · refine ⟨hloop.1, fun next h => ?_⟩
    obtain ⟨⟨⟨hunopened, hevidence, hcredentials⟩, -⟩, hids⟩ := hloop.2 next h
    refine ⟨⟨hunopened, ?_⟩, hevidence, hcredentials⟩
    rw [hids, hempty]
    simp [Database.empty]
  · rintro product - db ⟨⟨hunopened, -, -⟩, hroles⟩ hfresh
    rw [insertProduct_eq]
    -- a product that is new has no roles yet
    have hunassigned (role : String) : (product.id, role) ∉ db.assignedRoles := by
      intro hmem
      obtain ⟨row, hrow, hsame⟩ := List.mem_map.mp hmem
      exact hfresh ((Prod.mk.inj hsame).1 ▸ hroles row hrow)
    have hloaded (row : Product) (hid : row.id = product.id) :=
      @roles_isOk_iff service { db with products := db.products ++ [row] } product.id product.createdAt
        product.roleAssignments (by simp [hid])
    constructor
    · rintro ⟨next, h⟩
      obtain ⟨row, hrow, h⟩ := bind_eq_ok_iff.mp h
      rw [if_neg hfresh] at h
      obtain ⟨_, hissuer, h⟩ := bind_eq_ok_iff.mp h
      obtain ⟨hroleRows, hassigned⟩ := (hloaded row (productRow_id hrow)).mp ⟨next, h⟩
      refine ⟨⟨row, hrow⟩, ?_, hroleRows, fun role institutionId hmember => ?_⟩
      · have hknown := throwIf_eq_ok_iff.mp hissuer
        rw [not_not, hunopened.institutions] at hknown
        exact hknown
      · have hknown := hassigned role institutionId hmember (hunassigned role)
        rw [hunopened.institutions] at hknown
        exact hknown
    · intro hfits
      obtain ⟨row, hrow⟩ := hfits.row
      obtain ⟨next, h⟩ := (hloaded row (productRow_id hrow)).mpr ⟨hfits.roles, fun role institutionId hmember _ => by
        rw [hunopened.institutions]
        exact hfits.assigned role institutionId hmember⟩
      refine ⟨next, bind_eq_ok_iff.mpr ⟨row, hrow, ?_⟩⟩
      rw [if_neg hfresh, hunopened.institutions]
      exact bind_eq_ok_iff.mpr ⟨(), throwIf_eq_ok_iff.mpr (not_not.mpr hfits.issuer), h⟩
  · rintro product - db next ⟨⟨hunopened, hevidence, hcredentials⟩, hroles⟩ hfresh h
    rw [insertProduct_eq] at h
    obtain ⟨row, hrow, h⟩ := bind_eq_ok_iff.mp h
    rw [if_neg hfresh] at h
    obtain ⟨_, -, h⟩ := bind_eq_ok_iff.mp h
    obtain ⟨roles, rfl, hkept⟩ := roles_kept h
    have hids : (db.products ++ [row]).map (·.id) = db.products.map (·.id) ++ [product.id] := by
      simp [productRow_id hrow]
    refine ⟨⟨⟨⟨hunopened.institutions, hunopened.ledgerAccounts, hunopened.ledgerBatches⟩, hevidence, hcredentials⟩,
      fun assigned hassigned => ?_⟩, hids⟩
    show assigned.productId ∈ (db.products ++ [row]).map (·.id)
    rw [hids, List.mem_append, List.mem_singleton]
    obtain hold | hnew := hkept assigned hassigned
    · exact Or.inl (hroles assigned hold)
    · exact Or.inr hnew

private theorem evidence_load (hkeys : (plane.evidence.values.map (·.id)).Nodup) (hlisted : Listed plane db)
    (hempty : db.evidence = []) (hcredentials : db.credentials = []) :
    ((∃ next, plane.evidence.values.foldlM (insertEvidence service) db = .ok next) ↔
        ∀ envelope ∈ plane.evidence.values, EvidenceFits service plane envelope) ∧
      ∀ next, plane.evidence.values.foldlM (insertEvidence service) db = .ok next →
        Listed plane next ∧ next.credentials = [] := by
  have hloop := @foldlM_isOk_iff _ _ _ String (insertEvidence service) plane.evidence.values db
    (fun db => Listed plane db ∧ db.credentials = []) (fun db => db.evidence.map (·.id)) (·.id)
    (EvidenceFits service plane) ?_ ?_ hkeys (by simp [hempty]) ⟨hlisted, hcredentials⟩
  · exact ⟨hloop.1, fun next h => (hloop.2 next h).1⟩
  · rintro envelope - db ⟨hlisted, -⟩ hfresh
    rw [insertEvidence_eq]
    simp only [if_neg hfresh, bind_eq_ok_iff, throwIf_eq_ok_iff, exists_unit, pure_eq_ok_iff, hlisted.products,
      hlisted.institutions, not_or, not_not]
    constructor
    · rintro ⟨_, row, hrow, ⟨hproduct, hsource⟩, -⟩
      exact ⟨⟨row, hrow⟩, hproduct, hsource⟩
    · intro hfits
      obtain ⟨row, hrow⟩ := hfits.row
      exact ⟨_, row, hrow, ⟨hfits.product, hfits.source⟩, rfl⟩
  · rintro envelope - db next ⟨hlisted, hcredentials⟩ hfresh h
    rw [insertEvidence_eq] at h
    simp only [if_neg hfresh, bind_eq_ok_iff, throwIf_eq_ok_iff, exists_unit, pure_eq_ok_iff] at h
    obtain ⟨row, hrow, -, rfl⟩ := h
    refine ⟨⟨⟨⟨hlisted.institutions, hlisted.ledgerAccounts, hlisted.ledgerBatches⟩, hlisted.products⟩, hcredentials⟩,
      ?_⟩
    simp [evidenceRow_id hrow]

private theorem credentials_load (hkeys : (plane.credentials.values.map (·.id)).Nodup) (hlisted : Listed plane db)
    (hempty : db.credentials = []) :
    ((∃ next, plane.credentials.values.foldlM (insertCredential service plane) db = .ok next) ↔
        ∀ credential ∈ plane.credentials.values, CredentialFits service plane credential) ∧
      ∀ next, plane.credentials.values.foldlM (insertCredential service plane) db = .ok next → Listed plane next := by
  have hloop := @foldlM_isOk_iff _ _ _ String (insertCredential service plane) plane.credentials.values db
    (Listed plane) (fun db => db.credentials.map (·.id)) (·.id) (CredentialFits service plane) ?_ ?_ hkeys
    (by simp [hempty]) hlisted
  · exact ⟨hloop.1, fun next h => (hloop.2 next h).1⟩
  · rintro credential - db hlisted hfresh
    rw [insertCredential_eq]
    simp only [if_neg hfresh, bind_eq_ok_iff, throwIf_eq_ok_iff, exists_unit, pure_eq_ok_iff, hlisted.products,
      hlisted.institutions, not_or, not_not]
    constructor
    · rintro ⟨_, row, hrow, ⟨hproduct, hissuer⟩, -⟩
      exact ⟨⟨row, hrow⟩, hproduct, hissuer⟩
    · intro hfits
      obtain ⟨row, hrow⟩ := hfits.row
      exact ⟨_, row, hrow, ⟨hfits.product, hfits.issuer⟩, rfl⟩
  · rintro credential - db next hlisted hfresh h
    rw [insertCredential_eq] at h
    simp only [if_neg hfresh, bind_eq_ok_iff, throwIf_eq_ok_iff, exists_unit, pure_eq_ok_iff] at h
    obtain ⟨row, hrow, -, rfl⟩ := h
    refine ⟨⟨⟨hlisted.institutions, hlisted.ledgerAccounts, hlisted.ledgerBatches⟩, hlisted.products⟩, ?_⟩
    simp [credentialRow_id hrow]

/-- What is loaded before any account is opened. -/
def loadRows (service : DurableWorkflowService) (plane : ControlPlane) (db : Database) : Except Failure Database := do
  let db ← plane.institutions.values.foldlM insertInstitution db
  let db ← plane.products.values.foldlM (insertProduct service) db
  let db ← plane.evidence.values.foldlM (insertEvidence service) db
  plane.credentials.values.foldlM (insertCredential service plane) db

theorem bootstrap_eq : bootstrapFromControlPlane service plane db = loadRows service plane db >>= fun db =>
    plane.cashBalances.entries.foldlM (openBalance plane) (plane.products.values.foldl (ensureAccounts plane) db) >>=
      fun db => pure ((), db) := by
  simp only [loadRows, bind_assoc]
  rfl

/-- The rows of a plane load into an empty database exactly if they pass the checks of
their tables. -/
theorem loadRows_isOk_iff (hproducts : (plane.products.values.map (·.id)).Nodup) (hown : plane.toTables.OwnKeys) :
    ((∃ loaded, loadRows service plane Database.empty = .ok loaded) ↔ Fits service plane) ∧
      ∀ loaded, loadRows service plane Database.empty = .ok loaded → Listed plane loaded := by
  obtain ⟨institutions, hinstitutions, hids, hframe⟩ := institutions_load hown.institutions.nodup
  obtain ⟨hproductsIff, hlisted⟩ := @products_load service plane institutions hproducts hids hframe
  constructor
  · constructor
    · rintro ⟨loaded, h⟩
      unfold loadRows at h
      obtain ⟨_, hsame, h⟩ := bind_eq_ok_iff.mp h
      obtain rfl := Except.ok.inj (hinstitutions.symm.trans hsame)
      obtain ⟨products, hloaded, h⟩ := bind_eq_ok_iff.mp h
      obtain ⟨hlists, hevidence, hcredentials⟩ := hlisted products hloaded
      obtain ⟨evidence, hloadedEvidence, h⟩ := bind_eq_ok_iff.mp h
      obtain ⟨hevidenceIff, hafter⟩ := @evidence_load service _ _ hown.evidence.nodup hlists hevidence hcredentials
      obtain ⟨hlists', hcredentials'⟩ := hafter evidence hloadedEvidence
      exact ⟨hproductsIff.mp ⟨products, hloaded⟩, hevidenceIff.mp ⟨evidence, hloadedEvidence⟩,
        (credentials_load hown.credentials.nodup hlists' hcredentials').1.mp ⟨loaded, h⟩⟩
    · intro hfits
      obtain ⟨products, hloaded⟩ := hproductsIff.mpr hfits.products
      obtain ⟨hlists, hevidence, hcredentials⟩ := hlisted products hloaded
      obtain ⟨hevidenceIff, hafter⟩ := @evidence_load service _ _ hown.evidence.nodup hlists hevidence hcredentials
      obtain ⟨evidence, hloadedEvidence⟩ := hevidenceIff.mpr hfits.evidence
      obtain ⟨hlists', hcredentials'⟩ := hafter evidence hloadedEvidence
      obtain ⟨loaded, h⟩ := (credentials_load hown.credentials.nodup hlists' hcredentials').1.mpr hfits.credentials
      refine ⟨loaded, ?_⟩
      unfold loadRows
      rw [hinstitutions]
      exact bind_eq_ok_iff.mpr ⟨institutions, rfl, bind_eq_ok_iff.mpr ⟨products, hloaded,
        bind_eq_ok_iff.mpr ⟨evidence, hloadedEvidence, h⟩⟩⟩
  · intro loaded h
    unfold loadRows at h
    obtain ⟨_, hsame, h⟩ := bind_eq_ok_iff.mp h
    obtain rfl := Except.ok.inj (hinstitutions.symm.trans hsame)
    obtain ⟨products, hloaded, h⟩ := bind_eq_ok_iff.mp h
    obtain ⟨hlists, hevidence, hcredentials⟩ := hlisted products hloaded
    obtain ⟨evidence, hloadedEvidence, h⟩ := bind_eq_ok_iff.mp h
    obtain ⟨-, hafter⟩ := @evidence_load service _ _ hown.evidence.nodup hlists hevidence hcredentials
    obtain ⟨hlists', hcredentials'⟩ := hafter evidence hloadedEvidence
    exact (credentials_load hown.credentials.nodup hlists' hcredentials').2 loaded h

end Fitting

end rwa.durable
