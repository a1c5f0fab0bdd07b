import RwaControlPlane.Catalog.Outcomes

open checked keyed_rows js_value
open rwa.gate (ProductStatus)

namespace rwa.catalog

variable {service : ProductCatalogService} {db next : Database} {now clock : Int}

/-- Calls that are about tenants, institutions and new keys. -/
def Call.Onboards : Call → Prop
  | .provisionTenant _ | .registerInstitution _ _ | .registerInstitutionSigningKey _ _ _
  | .proposeInstitutionReview _ _ _ _ | .decideInstitutionReview _ _ _ _ => True
  | _ => False

/-- How a call ends that does not fail. -/
inductive CallEnds (db : Database) (now clock : Int) : Call → Database → Prop
  | onboarded {call : Call} {next : Database} (honboards : call.Onboards) (same : SameProducts db next)
      (keys : next.signingKeys = db.signingKeys ∨ ∃ key, KeyAdded db next key) : CallEnds db now clock call next
  | revoked {tenantId institutionId keyId : String} {reason : Option String} {next : Database}
      (revoked : KeyRevoked db next institutionId keyId now) :
      CallEnds db now clock (.revokeInstitutionSigningKey tenantId (some institutionId) (some keyId) reason) next
  | created {tenantId actorRef : String} {input : ProductInput} {product : Product} {next : Database}
      (creates : Creates db next tenantId actorRef input clock product) :
      CallEnds db now clock (.createProduct tenantId actorRef input) next
  | assigned {tenantId actorRef productId role institutionId : String} {product : Product}
      {configuration : ProductConfiguration} {template : ProductTemplate} {next : Database}
      (assigns : Assigns db next tenantId actorRef productId role institutionId clock product configuration template) :
      CallEnds db now clock (.assignRole tenantId actorRef (some productId) role (some institutionId)) next
  | attached {tenantId actorRef productId : String} {input : EvidenceInput} {row : ActivationEvidence}
    {product : Product}
      {configuration : ProductConfiguration} {template : ProductTemplate} {requirement : EvidenceRequirement}
      {key : SigningKey} {next : Database}
      (attaches : Attaches db next tenantId actorRef productId now row product configuration template requirement key) :
      CallEnds db now clock (.attachActivationEvidence tenantId actorRef (some productId) input) next
  | proposed {tenantId actorRef productId reason : String} {round : Nat} {product : Product}
      {configuration : ProductConfiguration} {template : ProductTemplate} {next : Database}
      (proposes : ProposesActivation db next tenantId actorRef productId reason clock round product configuration
        template) :
      CallEnds db now clock (.proposeActivation tenantId actorRef (some productId) (some reason)) next
  | decided {tenantId actorRef productId : String} {input : ReviewInput} {review : Review} {maker : ActivationApproval}
      {product : Product} {configuration : ProductConfiguration} {template : ProductTemplate} {next : Database}
      (reviewed : reviewInput input = .ok review)
      (decides : DecidesActivation db next tenantId actorRef productId review.reason review.decision clock maker product
        configuration template) :
      CallEnds db now clock (.decideActivation tenantId actorRef (some productId) input) next
  | statusSet {productId actorRef : String} {status : ProductStatus} {product : Product} {next : Database}
      (sets : SetsStatus db next productId status actorRef product) :
      CallEnds db now clock (.setProductStatus productId status actorRef) next

theorem map_eq_ok_iff {α β : Type} {action : Except Failure (α × Database)} {reply : α → β} {result : β} :
    (action.map fun outcome => (reply outcome.1, outcome.2)) = .ok (result, next) ↔
      ∃ value, action = .ok (value, next) ∧ reply value = result := by
  cases action with
  | error failure => simp [Except.map]
  | ok outcome =>
    obtain ⟨value, state⟩ := outcome
    simp only [Except.map, Except.ok.injEq, Prod.mk.injEq]
    constructor
    · rintro ⟨h, rfl⟩
      exact ⟨value, ⟨rfl, rfl⟩, h⟩
    · rintro ⟨_, ⟨rfl, rfl⟩, h⟩
      exact ⟨h, rfl⟩

theorem perform_cases {action : Action} {reply : Reply} (h : perform service action db = .ok (reply, next)) :
    CallEnds db action.now action.clock action.call next := by
  obtain ⟨now, clock, call⟩ := action
  cases call with
  | provisionTenant input =>
    obtain ⟨_, h, -⟩ := (@map_eq_ok_iff _ _ _ _ Reply.tenant _).mp h
    obtain ⟨hsame, hkeys⟩ := provisionTenant_ok h
    exact .onboarded trivial hsame (Or.inl hkeys)
  | registerInstitution tenantId input =>
    obtain ⟨_, h, -⟩ := (@map_eq_ok_iff _ _ _ _ Reply.institution _).mp h
    obtain ⟨hsame, hkeys⟩ := registerInstitution_ok h
    exact .onboarded trivial hsame hkeys
  | registerInstitutionSigningKey tenantId institutionId input =>
    obtain ⟨_, h, -⟩ := (@map_eq_ok_iff _ _ _ _ Reply.signingKey _).mp h
    obtain ⟨hsame, hkeys⟩ := registerInstitutionSigningKey_ok h
    exact .onboarded trivial hsame (Or.inr hkeys)
  | revokeInstitutionSigningKey tenantId institutionId keyId reason =>
    obtain ⟨revoked, h, -⟩ :=
      (@map_eq_ok_iff _ _ _ _ (fun value : String × String => Reply.revoked value.1 value.2) _).mp h
    obtain ⟨rfl, rfl, hrevoked⟩ := revokeInstitutionSigningKey_ok h
    exact .revoked hrevoked
  | proposeInstitutionReview tenantId actorRef institutionId input =>
    obtain ⟨_, h, -⟩ := (@map_eq_ok_iff _ _ _ _ Reply.reviewProposed _).mp h
    obtain ⟨hsame, hkeys⟩ := proposeInstitutionReview_ok h
    exact .onboarded trivial hsame (Or.inl hkeys)
  | decideInstitutionReview tenantId actorRef institutionId input =>
    obtain ⟨_, h, -⟩ := (@map_eq_ok_iff _ _ _ _ Reply.reviewDecided _).mp h
    obtain ⟨hsame, hkeys⟩ := decideInstitutionReview_ok h
    exact .onboarded trivial hsame (Or.inl hkeys)
  | createProduct tenantId actorRef input =>
    obtain ⟨_, h, -⟩ := (@map_eq_ok_iff _ _ _ _ Reply.product _).mp h
    obtain ⟨row, hcreates, -⟩ := createProduct_ok h
    exact .created hcreates
  | assignRole tenantId actorRef productId role institutionId =>
    obtain ⟨_, h, -⟩ := (@map_eq_ok_iff _ _ _ _ Reply.roleAssigned _).mp h
    obtain ⟨_, _, _, _, _, rfl, rfl, hassigns⟩ := assignRole_ok h
    exact .assigned hassigns
  | attachActivationEvidence tenantId actorRef productId input =>
    obtain ⟨_, h, -⟩ := (@map_eq_ok_iff _ _ _ _ Reply.evidence _).mp h
    obtain ⟨_, _, _, _, _, _, rfl, hattaches⟩ := attachActivationEvidence_ok h
    exact .attached hattaches
  | proposeActivation tenantId actorRef productId reason =>
    obtain ⟨_, h, -⟩ := (@map_eq_ok_iff _ _ _ _ Reply.activationProposed _).mp h
    obtain ⟨_, _, _, _, _, rfl, rfl, hproposes⟩ := proposeActivation_ok h
    exact .proposed hproposes
  | decideActivation tenantId actorRef productId input =>
    obtain ⟨_, h, -⟩ := (@map_eq_ok_iff _ _ _ _ Reply.activationDecided _).mp h
    obtain ⟨_, _, _, _, _, _, rfl, hreview, -, hdecides⟩ := decideActivation_ok h
    exact .decided hreview hdecides
  | setProductStatus productId status actorRef =>
    obtain ⟨_, h, -⟩ := (@map_eq_ok_iff _ _ _ _ Reply.productStatus _).mp h
    obtain ⟨_, hsets⟩ := setProductStatus_ok h
    exact .statusSet hsets

/-- Whether a call does not fail. -/
def Accepted (service : ProductCatalogService) (db : Database) (action : Action) : Prop :=
  ∃ reply next, perform service action db = .ok (reply, next)

/-- A call is refused and changes nothing, or is accepted and ends in one of the
known ways. -/
theorem step_cases (action : Action) :
    (¬Accepted service db action ∧ step service db action = db) ∨
      (Accepted service db action ∧ CallEnds db action.now action.clock action.call (step service db action)) := by
  unfold step respond commit Accepted
  cases hperform : perform service action db with
  | error failure => exact Or.inl ⟨by simp, rfl⟩
  | ok outcome => exact Or.inr ⟨⟨outcome.1, outcome.2, rfl⟩, perform_cases hperform⟩

end rwa.catalog
