import RwaControlPlane.Gate.Commit
import RwaControlPlane.Library.FourEyes

open checked four_eyes keyed_rows rwa.security rwa.merkle

namespace rwa.gate

variable {Proof : Type}

/-- Actions that are no write of parameters or of reference data. -/
def Action.OfRail : Action Proof → Prop
  | .proposeParameters _ _ _ _ | .decideParameters _ | .writeReference _ | .retireContext _ => False
  | _ => True

/-- A step of a runtime. Circuits are written by the governance only. -/
inductive ParameterAction (Proof : Type)
  | rail (gate : ZkSettlementGate Proof) (action : Action Proof) (hrail : action.OfRail)
  | propose (service : ZkGovernanceService Proof) (tenantId : String) (request : ParameterRequest)
      (proposedBy uuid : String)
  | decide (service : ZkGovernanceService Proof)
      (poseidon3 : FieldElement → FieldElement → FieldElement → FieldElement) (request : DecideRequest)
  | writeReference (reference : ReferenceData)

def parameterStep (state : GateState Proof) : ParameterAction Proof → GateState Proof
  | .rail gate action _ => step gate state action
  | .propose service tenantId request proposedBy uuid =>
    { state with db := (commit state.db (proposeParameters service tenantId request proposedBy uuid)).2 }
  | .decide service poseidon3 request =>
    { state with db := (commit state.db (decideParameters service poseidon3 request)).2 }
  | .writeReference reference =>
    { state with
      db := { state.db with reference := { reference with circuits := state.db.reference.circuits } } }

/-- The rail before any transaction. -/
def Database.configured (reference : ReferenceData) : Database where
  reference := reference
  transactions := []
  contexts := []
  instructions := []
  authorizations := []
  roots := []
  receipts := []
  nullifiers := []
  outputs := []
  settlements := []
  finalizations := []
  parameterProposals := []

/-- What a payload is about. -/
inductive ParameterSubject
  | circuit (circuitId circuitVersion : String)
  | product (productId : String)
deriving DecidableEq

def ParameterPayload.subject : ParameterPayload → ParameterSubject
  | .circuitActivation circuitId circuitVersion _ _ _ => .circuit circuitId circuitVersion
  | .productContext productId _ _ _ _ => .product productId

/-- The payload that a registered circuit comes from. -/
def CircuitVersion.payload (row : CircuitVersion) : ParameterPayload :=
  .circuitActivation row.circuitId row.circuitVersion row.verificationKeyHash row.artifactManifestHash
    row.publicSignalOrder

/-- The payload that a context comes from. -/
def ProductContext.payload (row : ProductContext) : ParameterPayload :=
  .productContext row.productId row.contextId row.assetType row.circuitId row.circuitVersion

/-- The state of a subject: its circuit, or the contexts of its product. -/
def Database.parametersOf (db : Database) : ParameterSubject → Option CircuitVersion × List ProductContext
  | .circuit circuitId circuitVersion => (db.findCircuit circuitId circuitVersion, [])
  | .product productId => (none, db.contexts.filter (·.productId = productId))

/-- Changes of parameters as a workflow. Every circuit and every context that was not
there is an effect. -/
def parameterReviews (Proof : Type) : Workflow (GateState Proof) (ParameterAction Proof) String ParameterSubject
    ParameterPayload String (Option CircuitVersion × List ProductContext) where
  step := parameterStep
  Proposes state action proposalId makerRef subject payload := ∃ service tenantId request uuid next,
    action = .propose service tenantId request makerRef uuid ∧
      proposeParameters service tenantId request makerRef uuid state.db = .ok (proposalId, next) ∧
      requestPayload service request = .ok payload ∧ subject = payload.subject
  Decides state action proposalId checkerRef approve := ∃ service poseidon3 request decided next,
    action = .decide service poseidon3 request ∧
      decideParameters service poseidon3 request state.db = .ok (decided, next) ∧ proposalId = request.proposalId ∧
      checkerRef = request.decidedBy ∧ (approve = true ↔ request.decision = .approve)
  Effects before after subject payload := subject = payload.subject ∧
    ((∃ row ∈ after.db.reference.circuits, row ∉ before.db.reference.circuits ∧ payload = row.payload) ∨
      ∃ row ∈ after.db.contexts, row ∉ before.db.contexts ∧ payload = row.payload)
  view state := state.db.parametersOf

/-- The parameters are as they were. -/
structure SameParameters (db next : Database) : Prop where
  circuits : next.reference.circuits = db.reference.circuits
  contexts : next.contexts = db.contexts
  proposals : next.parameterProposals = db.parameterProposals

namespace SameParameters

variable {db next : Database}

theorem refl (db : Database) : SameParameters db db := ⟨rfl, rfl, rfl⟩

theorem transact {ρ : Type} {state : GateState Proof} {operation : Database → Except Failure (ρ × Database)}
    {answer : ρ → Response} {events : ρ → List Event}
    (h : ∀ result next, operation state.db = .ok (result, next) → SameParameters state.db next) :
    SameParameters state.db (state.transact operation answer events).2.db := by
  unfold GateState.transact
  split
  · next result next hok => exact h result next hok
  · exact refl _

/-- No transaction of the rail writes a parameter. -/
theorem rail {gate : ZkSettlementGate Proof} {state : GateState Proof} {action : Action Proof}
    (hrail : action.OfRail) : SameParameters state.db (step gate state action).db := by
  cases action with
  | authorize request now =>
    refine transact fun hash next h => ?_
    obtain ⟨row, -, -, rfl⟩ := authorize_ok h
    exact ⟨rfl, rfl, rfl⟩
  | acceptRead request =>
    rw [step, respond, GateState.acceptRead]
    split
    · exact refl _
    · split <;> exact refl _
  | acceptVerify index =>
    rw [step, respond, GateState.acceptVerify]
    split
    · exact refl _
    · split <;> exact refl _
  | acceptRecord index uuid now =>
    rw [step, respond, GateState.acceptRecord]
    split
    · exact refl _
    · next call _ =>
      split
      · exact refl _
      · refine @transact _ _ { state with calls := state.calls.eraseIdx index } _ _ _ fun metadata next h => ?_
        obtain ⟨-, -, rfl⟩ := recordAcceptance_ok h
        exact ⟨rfl, rfl, rfl⟩
  | acceptAbandon index => exact refl _
  | proposeFinalization request uuid =>
    refine transact fun proposal next h => ?_
    obtain ⟨_, -, rfl⟩ := proposeFinalization_ok h
    exact ⟨rfl, rfl, rfl⟩
  | cancelFinalization request =>
    refine transact fun proposalId next h => ?_
    obtain ⟨_, _, -, -, rfl⟩ := cancelFinalization_ok h
    exact ⟨rfl, rfl, rfl⟩
  | finalize request clockTimestamp =>
    rw [step, respond, GateState.finalize]
    split
    · exact refl _
    · next h =>
      obtain ⟨_, _, _, _, -, -, rfl⟩ | ⟨_, houtcome, -⟩ := finalizeTransaction_ok h
      · exact ⟨rfl, rfl, rfl⟩
      · cases houtcome
    · next h =>
      obtain ⟨_, _, _, _, -, houtcome, -⟩ | ⟨_, -, -, -, rfl⟩ := finalizeTransaction_ok h
      · cases houtcome
      · exact ⟨rfl, rfl, rfl⟩
  | proposeParameters tenantId request proposedBy uuid => exact hrail.elim
  | decideParameters request => exact hrail.elim
  | insertTransaction transaction instruction =>
    refine transact fun done next h => ?_
    obtain ⟨-, -, rfl⟩ := insertTransaction_ok h
    exact ⟨rfl, rfl, rfl⟩
  | transitionTransaction transactionId toState =>
    refine transact fun done next h => ?_
    simp only [otherTransition, bind_eq_ok_iff, throwIf_eq_ok_iff, exists_unit, pure_eq_ok_iff, Prod.mk.injEq] at h
    obtain ⟨-, moved, hmoved, -, rfl⟩ := h
    rw [transitionTransaction_ok hmoved]
    exact ⟨rfl, rfl, rfl⟩
  | writeReference reference => exact hrail.elim
  | retireContext contextId => exact hrail.elim
  | revokeHistoricalRoot contextId merkleRoot =>
    refine transact fun done next h => ?_
    simp only [revokeHistoricalRoot, pure_eq_ok_iff, Prod.mk.injEq] at h
    obtain ⟨-, rfl⟩ := h
    exact ⟨rfl, rfl, rfl⟩

theorem view (h : SameParameters db next) (subject : ParameterSubject) :
    next.parametersOf subject = db.parametersOf subject := by
  cases subject with
  | circuit circuitId circuitVersion =>
    rw [Database.parametersOf, Database.findCircuit, h.circuits, Database.parametersOf, Database.findCircuit]
  | product productId => rw [Database.parametersOf, h.contexts, Database.parametersOf]

end SameParameters

/-- A subject that has what its payloads introduce. -/
def Database.Overtaken (db : Database) : ParameterSubject → Prop
  | .circuit circuitId circuitVersion => db.findCircuit circuitId circuitVersion ≠ none
  | .product productId => ∃ context ∈ db.contexts, context.productId = productId ∧ context.retired = false

/-- What the approval of a payload writes. -/
inductive Applies (db next : Database) : ParameterPayload → Prop
  | circuit (row : CircuitVersion) (hcircuits : next.reference.circuits = db.reference.circuits ++ [row])
      (hcontexts : next.contexts = db.contexts) : Applies db next row.payload
  | context (row : ProductContext) (hactive : row.retired = false)
      (hcircuits : next.reference.circuits = db.reference.circuits) (hcontexts : next.contexts = db.contexts ++ [row]) :
      Applies db next row.payload

section Operations

variable {db next : Database} {service : ZkGovernanceService Proof}

theorem Applies.view {payload : ParameterPayload} (h : Applies db next payload) (subject : ParameterSubject) :
    next.parametersOf subject = db.parametersOf subject ∨ next.Overtaken subject := by
  cases h with
  | circuit row hcircuits hcontexts =>
    cases subject with
    | product productId => exact Or.inl (by rw [Database.parametersOf, hcontexts, Database.parametersOf])
    | circuit circuitId circuitVersion =>
      by_cases hown : row.circuitId = circuitId ∧ row.circuitVersion = circuitVersion
      · refine Or.inr fun hnone => ?_
        rw [Database.findCircuit, hcircuits] at hnone
        exact List.find?_eq_none.mp hnone row (by simp) (by simp [hown])
      · refine Or.inl ?_
        rw [Database.parametersOf, Database.findCircuit, hcircuits, find_append_of_absent, Database.parametersOf,
          Database.findCircuit]
        simpa using hown
  | context row hactive hcircuits hcontexts =>
    cases subject with
    | circuit circuitId circuitVersion =>
      exact Or.inl (by rw [Database.parametersOf, Database.findCircuit, hcircuits]; rfl)
    | product productId =>
      by_cases hown : row.productId = productId
      · exact Or.inr ⟨row, by simp [hcontexts], hown, hactive⟩
      · refine Or.inl ?_
        rw [Database.parametersOf, hcontexts, filter_append_of_absent, Database.parametersOf]
        simpa using hown

/-- No step takes back what a subject has. -/
theorem overtaken_of_append {circuits : List CircuitVersion} {contexts : List ProductContext}
    (hcircuits : next.reference.circuits = db.reference.circuits ++ circuits)
    (hcontexts : next.contexts = db.contexts ++ contexts) {subject : ParameterSubject} (h : db.Overtaken subject) :
    next.Overtaken subject := by
  cases subject with
  | circuit circuitId circuitVersion =>
    obtain ⟨row, hfound⟩ := Option.ne_none_iff_exists'.mp h
    intro hnone
    rw [Database.findCircuit, hcircuits] at hnone
    exact List.find?_eq_none.mp hnone row (List.mem_append_left _ (List.mem_of_find?_eq_some hfound))
      (by simpa using List.find?_some hfound)
  | product productId =>
    obtain ⟨context, hcontext, hrest⟩ := h
    exact ⟨context, hcontexts ▸ List.mem_append_left _ hcontext, hrest⟩

theorem Applies.overtaken {payload : ParameterPayload} (h : Applies db next payload) {subject : ParameterSubject}
    (hovertaken : db.Overtaken subject) : next.Overtaken subject := by
  cases h with
  | circuit row hcircuits hcontexts =>
    exact @overtaken_of_append _ _ [row] [] hcircuits (by rw [hcontexts, List.append_nil]) _ hovertaken
  | context row hactive hcircuits hcontexts =>
    exact @overtaken_of_append _ _ [] [row] (by rw [hcircuits, List.append_nil]) hcontexts _ hovertaken

theorem SameParameters.overtaken (h : SameParameters db next) {subject : ParameterSubject}
    (hovertaken : db.Overtaken subject) : next.Overtaken subject :=
  @overtaken_of_append _ _ [] [] (by rw [h.circuits, List.append_nil])
    (by rw [h.contexts, List.append_nil]) _ hovertaken

theorem proposeParameters_spec {tenantId proposedBy uuid proposalId : String} {request : ParameterRequest}
    (h : proposeParameters service tenantId request proposedBy uuid db = .ok (proposalId, next)) :
    ∃ row : ParameterProposal, requestPayload service request = .ok row.payload ∧ row.id = proposalId ∧
      row.status = .pending ∧ row.proposedBy = proposedBy ∧ row.id ∉ db.parameterProposals.map (·.id) ∧
      next = { db with parameterProposals := db.parameterProposals ++ [row] } := by
  simp only [proposeParameters, bind_eq_ok_iff, throwIf_eq_ok_iff, exists_unit, pure_eq_ok_iff, Prod.mk.injEq] at h
  obtain ⟨-, -, payload, hpayload, -, -, hfresh, rfl, rfl⟩ := h
  exact ⟨_, hpayload, rfl, rfl, rfl, hfresh, rfl⟩

/-- The proposals after a decision. -/
def decideProposals (request : DecideRequest) (rows : List ParameterProposal) : List ParameterProposal :=
  rows.map fun row =>
    if row.id = request.proposalId then
      { row with
        status := decidedStatus request.decision
        decidedBy := some request.decidedBy
        decisionReason := some request.reason }
    else row

/-- A decision is about a pending proposal of another actor. -/
theorem decideParameters_spec {poseidon3 : FieldElement → FieldElement → FieldElement → FieldElement}
    {request : DecideRequest} {decided : DecidedProposal}
    (h : decideParameters service poseidon3 request db = .ok (decided, next)) :
    ∃ proposal ∈ db.parameterProposals, proposal.id = request.proposalId ∧ proposal.status = .pending ∧
      proposal.proposedBy ≠ request.decidedBy ∧
      next.parameterProposals = decideProposals request db.parameterProposals ∧
      ((request.decision = .reject ∧ next.reference.circuits = db.reference.circuits ∧ next.contexts = db.contexts) ∨
        (request.decision = .approve ∧ ¬db.Overtaken proposal.payload.subject ∧ Applies db next proposal.payload)) := by
  simp only [decideParameters, bind_eq_ok_iff, throwIf_eq_ok_iff, exists_unit, require_eq_ok_iff,
    pure_eq_ok_iff, Prod.mk.injEq] at h
  obtain ⟨-, -, -, -, proposal, hfound, hdiffer, -, applied, happlied, -, rfl⟩ := h
  have hproperties := List.find?_some hfound
  simp only [Bool.and_eq_true, decide_eq_true_eq] at hproperties
  have hkept : ∀ {rows : List ParameterProposal}, applied.parameterProposals = rows →
      (applied.parameterProposals.map fun row => if row.id = request.proposalId then
        { row with
          status := decidedStatus request.decision
          decidedBy := some request.decidedBy
          decisionReason := some request.reason }
        else row) = decideProposals request rows := fun heq => by rw [heq, decideProposals]
  refine ⟨proposal, List.mem_of_find?_eq_some hfound, hproperties.1.1, hproperties.2, hdiffer, ?_⟩
  cases hdecision : request.decision with
  | reject =>
    simp only [hdecision, applyDecision, pure_eq_ok_iff] at happlied
    subst happlied
    rw [hdecision] at hkept
    exact ⟨hkept rfl, Or.inl ⟨rfl, rfl, rfl⟩⟩
  | approve =>
    simp only [hdecision, applyDecision, bind_eq_ok_iff, exists_unit] at happlied
    obtain ⟨-, havailable, hpayload⟩ := happlied
    rw [hdecision] at hkept
    cases hkind : proposal.payload with
    | circuitActivation circuitId circuitVersion verificationKeyHash artifactManifestHash order =>
      simp only [hkind, applyPayload, pure_eq_ok_iff] at hpayload
      simp only [hkind, assertAvailable, throwIf_eq_ok_iff] at havailable
      subst hpayload
      exact ⟨hkept rfl, Or.inr ⟨rfl, havailable, .circuit ⟨_, _, _, _, _, .active⟩ rfl rfl⟩⟩
    | productContext productId contextId assetType circuitId circuitVersion =>
      simp only [hkind, assertAvailable, bind_eq_ok_iff, throwIf_eq_ok_iff, exists_unit] at havailable
      simp only [hkind, applyPayload, bind_eq_ok_iff] at hpayload
      obtain ⟨inserted, hinserted, hroot⟩ := hpayload
      simp only [Database.insertContext, bind_eq_ok_iff, throwIf_eq_ok_iff, exists_unit, pure_eq_ok_iff] at hinserted
      obtain ⟨-, -, -, rfl⟩ := hinserted
      simp only [Database.insertRoot, bind_eq_ok_iff, throwIf_eq_ok_iff, exists_unit, pure_eq_ok_iff] at hroot
      obtain ⟨-, -, -, rfl⟩ := hroot
      exact ⟨hkept rfl, Or.inr ⟨rfl, havailable.2.2.1, .context ⟨_, _, _, _, _, false⟩ rfl rfl rfl⟩⟩

end Operations

/-- A proposal that is not decided yet. -/
def PendingParameters (state : GateState Proof) (proposalId makerRef : String) (subject : ParameterSubject)
    (payload : ParameterPayload) : Prop :=
  subject = payload.subject ∧ ∃ row ∈ state.db.parameterProposals, row.id = proposalId ∧ row.status = .pending ∧
    row.proposedBy = makerRef ∧ row.payload = payload

def DecidedParameters (state : GateState Proof) (proposalId : String) : Prop :=
  ∃ row ∈ state.db.parameterProposals, row.id = proposalId ∧ row.status ≠ .pending

def ParametersSound (state : GateState Proof) : Prop :=
  (state.db.parameterProposals.map ParameterProposal.id).Nodup

theorem parametersSound_configured (reference : ReferenceData) :
    ParametersSound (GateState.start (Database.configured reference) : GateState Proof) := List.nodup_nil

/-- What a step does to the parameters and their proposals. -/
inductive ParameterMoves (db : Database) : ParameterAction Proof → Database → Prop
  | same {action : ParameterAction Proof} {next : Database} (hsame : SameParameters db next) :
    ParameterMoves db action next
  | proposed {service : ZkGovernanceService Proof} {tenantId proposedBy uuid proposalId : String}
      {request : ParameterRequest} {next : Database}
      (hproposed : proposeParameters service tenantId request proposedBy uuid db = .ok (proposalId, next)) :
      ParameterMoves db (.propose service tenantId request proposedBy uuid) next
  | decided {service : ZkGovernanceService Proof}
      {poseidon3 : FieldElement → FieldElement → FieldElement → FieldElement} {request : DecideRequest}
      {decided : DecidedProposal} {next : Database}
      (hdecided : decideParameters service poseidon3 request db = .ok (decided, next)) :
      ParameterMoves db (.decide service poseidon3 request) next

theorem parameterStep_moves (state : GateState Proof) (action : ParameterAction Proof) :
    ParameterMoves state.db action (parameterStep state action).db := by
  cases action with
  | rail gate action hrail => exact .same (.rail hrail)
  | propose service tenantId request proposedBy uuid =>
    rw [parameterStep, commit]
    split
    · next hproposed => exact .proposed hproposed
    · exact .same (.refl _)
  | decide service poseidon3 request =>
    rw [parameterStep, commit]
    split
    · next hdecided => exact .decided hdecided
    · exact .same (.refl _)
  | writeReference reference => exact .same ⟨rfl, rfl, rfl⟩

theorem decideProposals_ids {request : DecideRequest} {rows : List ParameterProposal} :
    (decideProposals request rows).map ParameterProposal.id = rows.map ParameterProposal.id := by
  rw [decideProposals, List.map_map]
  refine List.map_congr_left fun row _ => ?_
  by_cases hid : row.id = request.proposalId <;> simp [hid]

/-- A decision leaves the other proposals as they are. -/
theorem mem_decideProposals {request : DecideRequest} {rows : List ParameterProposal} {row : ParameterProposal}
    (h : row ∈ decideProposals request rows) :
    (row ∈ rows ∧ row.id ≠ request.proposalId) ∨ (row.id = request.proposalId ∧ row.status ≠ .pending) := by
  obtain ⟨before, hbefore, rfl⟩ := List.mem_map.mp h
  by_cases hid : before.id = request.proposalId
  · rw [if_pos hid]
    refine Or.inr ⟨hid, ?_⟩
    cases request.decision <;> simp [decidedStatus]
  · rw [if_neg hid]
    exact Or.inl ⟨hbefore, hid⟩

section Moves

variable {db next : Database} {action : ParameterAction Proof}

theorem ParameterMoves.ids (hmoves : ParameterMoves db action next)
    (h : (db.parameterProposals.map ParameterProposal.id).Nodup) :
    (next.parameterProposals.map ParameterProposal.id).Nodup := by
  cases hmoves with
  | same hsame => rwa [hsame.proposals]
  | proposed hproposed =>
    obtain ⟨row, -, -, -, -, hfresh, rfl⟩ := proposeParameters_spec hproposed
    exact nodup_concat h hfresh
  | decided hdecided =>
    obtain ⟨_, -, -, -, -, hproposals, -⟩ := decideParameters_spec hdecided
    rwa [hproposals, decideProposals_ids]

theorem ParameterMoves.overtaken (hmoves : ParameterMoves db action next) {subject : ParameterSubject}
    (h : db.Overtaken subject) : next.Overtaken subject := by
  cases hmoves with
  | same hsame => exact hsame.overtaken h
  | proposed hproposed =>
    obtain ⟨_, -, -, -, -, -, rfl⟩ := proposeParameters_spec hproposed
    exact h
  | decided hdecided =>
    obtain ⟨_, -, -, -, -, -, ⟨-, hcircuits, hcontexts⟩ | ⟨-, -, happlies⟩⟩ := decideParameters_spec hdecided
    · exact @overtaken_of_append _ _ [] [] (by rw [hcircuits, List.append_nil]) (by rw [hcontexts, List.append_nil]) _ h
    · exact happlies.overtaken h

/-- A proposal that is pending after a step was made by it, or was pending before, and
its subject is unchanged or overtaken. -/
theorem ParameterMoves.pending (hmoves : ParameterMoves db action next) {row : ParameterProposal}
    (hrow : row ∈ next.parameterProposals) (hpending : row.status = .pending) :
    (∃ service tenantId request uuid, action = .propose service tenantId request row.proposedBy uuid ∧
      proposeParameters service tenantId request row.proposedBy uuid db = .ok (row.id, next) ∧
      requestPayload service request = .ok row.payload) ∨
    (row ∈ db.parameterProposals ∧ ∀ subject,
      next.parametersOf subject = db.parametersOf subject ∨ next.Overtaken subject) := by
  cases hmoves with
  | same hsame => exact Or.inr ⟨hsame.proposals ▸ hrow, fun subject => Or.inl (hsame.view subject)⟩
  | proposed hproposed =>
    obtain ⟨added, hpayload, rfl, -, rfl, -, rfl⟩ := proposeParameters_spec hproposed
    obtain hold | hnew := List.mem_append.mp hrow
    · exact Or.inr ⟨hold, fun subject => Or.inl rfl⟩
    · rw [List.mem_singleton.mp hnew]
      exact Or.inl ⟨_, _, _, _, rfl, hproposed, hpayload⟩
  | decided hdecided =>
    obtain ⟨_, -, -, -, -, hproposals, hends⟩ := decideParameters_spec hdecided
    rw [hproposals] at hrow
    obtain ⟨hbefore, -⟩ | ⟨-, hended⟩ := mem_decideProposals hrow
    · refine Or.inr ⟨hbefore, fun subject => ?_⟩
      obtain ⟨-, hcircuits, hcontexts⟩ | ⟨-, -, happlies⟩ := hends
      · refine Or.inl ?_
        cases subject with
        | circuit circuitId circuitVersion =>
          rw [Database.parametersOf, Database.findCircuit, hcircuits, Database.parametersOf, Database.findCircuit]
        | product productId => rw [Database.parametersOf, hcontexts, Database.parametersOf]
      · exact happlies.view subject
    · exact absurd hpending hended

/-- A decided proposal stays decided. -/
theorem ParameterMoves.decided_kept (hmoves : ParameterMoves db action next) {proposalId : String}
    (h : ∃ row ∈ db.parameterProposals, row.id = proposalId ∧ row.status ≠ .pending) :
    ∃ row ∈ next.parameterProposals, row.id = proposalId ∧ row.status ≠ .pending := by
  cases hmoves with
  | same hsame => rwa [hsame.proposals]
  | proposed hproposed =>
    obtain ⟨_, -, -, -, -, -, rfl⟩ := proposeParameters_spec hproposed
    exact exists_mem_append h
  | @decided _ _ request _ _ hdecided =>
    obtain ⟨_, -, -, -, -, hproposals, -⟩ := decideParameters_spec hdecided
    rw [hproposals]
    refine exists_mem_map _ h fun row hrow => ?_
    split
    · cases hdecision : request.decision <;> simp [decidedStatus, hrow]
    · exact hrow

/-- A circuit or a context appears by the approval of its proposal alone. -/
theorem ParameterMoves.effect {state after : GateState Proof} (hmoves : ParameterMoves state.db action after.db)
    {subject : ParameterSubject} {payload : ParameterPayload}
    (heffect : (parameterReviews Proof).Effects state after subject payload) :
    ∃ proposalId makerRef checkerRef, makerRef ≠ checkerRef ∧
      (parameterReviews Proof).Decides state action proposalId checkerRef true ∧
      PendingParameters state proposalId makerRef subject payload ∧ ¬state.db.Overtaken subject := by
  obtain ⟨rfl, hadded⟩ := heffect
  have hunchanged : after.db.reference.circuits = state.db.reference.circuits →
      after.db.contexts ≠ state.db.contexts := by
    intro hcircuits hcontexts
    obtain ⟨row, hrow, hnew, -⟩ | ⟨row, hrow, hnew, -⟩ := hadded
    · exact hnew (hcircuits ▸ hrow)
    · exact hnew (hcontexts ▸ hrow)
  generalize hnext : after.db = next at hmoves
  cases hmoves with
  | same hsame => exact absurd (hnext ▸ hsame.contexts) (hunchanged (hnext ▸ hsame.circuits))
  | proposed hproposed =>
    obtain ⟨_, -, -, -, -, -, rfl⟩ := proposeParameters_spec hproposed
    exact absurd (congrArg Database.contexts hnext) (hunchanged (congrArg (·.reference.circuits) hnext))
  | @decided service poseidon3 request decided _ hdecided =>
    obtain ⟨proposal, hproposal, hid, hpending, hdiffer, -, ⟨-, hcircuits, hcontexts⟩ | ⟨happrove, hfree, happlies⟩⟩ :=
      decideParameters_spec hdecided
    · exact absurd (hnext ▸ hcontexts) (hunchanged (hnext ▸ hcircuits))
    · have hpayload : payload = proposal.payload := by
        rw [hnext] at hadded
        generalize proposal.payload = approved at happlies ⊢
        cases happlies with
        | circuit row hcircuits hcontexts =>
          obtain ⟨other, hother, hnew, rfl⟩ | ⟨other, hother, hnew, -⟩ := hadded
          · rw [hcircuits] at hother
            obtain hold | hadded := List.mem_append.mp hother
            · exact absurd hold hnew
            · rw [List.mem_singleton.mp hadded]
          · exact absurd (hcontexts ▸ hother) hnew
        | context row hactive hcircuits hcontexts =>
          obtain ⟨other, hother, hnew, -⟩ | ⟨other, hother, hnew, rfl⟩ := hadded
          · exact absurd (hcircuits ▸ hother) hnew
          · rw [hcontexts] at hother
            obtain hold | hadded := List.mem_append.mp hother
            · exact absurd hold hnew
            · rw [List.mem_singleton.mp hadded]
      subst hpayload
      exact ⟨proposal.id, proposal.proposedBy, request.decidedBy, hdiffer,
        ⟨service, poseidon3, request, decided, next, rfl, hdecided, hid, rfl, by simp [happrove]⟩,
        ⟨rfl, proposal, hproposal, rfl, hpending, rfl, rfl⟩, hfree⟩

end Moves

/-- Changes of parameters follow the rules of a workflow. -/
theorem parameterReviews_lawful :
    (parameterReviews Proof).Lawful ParametersSound PendingParameters (fun state => state.db.Overtaken)
      DecidedParameters where
  step state action h := (parameterStep_moves state action).ids h
  pending := by
    rintro state action proposalId makerRef subject payload h ⟨rfl, row, hrow, rfl, hpending, rfl, rfl⟩
    obtain ⟨service, tenantId, request, uuid, haction, hproposed, hpayload⟩ | ⟨hbefore, hview⟩ :=
      (parameterStep_moves state action).pending hrow hpending
    · exact Or.inl ⟨service, tenantId, request, uuid, _, haction, hproposed, hpayload, rfl⟩
    · exact Or.inr ⟨⟨rfl, row, hbefore, rfl, hpending, rfl, rfl⟩, hview row.payload.subject⟩
  overtaken _ hovertaken := (parameterStep_moves _ _).overtaken hovertaken
  effect _ heffect := (parameterStep_moves _ _).effect heffect
  decides := by
    rintro state action proposalId checkerRef approve h ⟨service, poseidon3, request, decided, next, rfl, hdecided, rfl,
      rfl, -⟩
    obtain ⟨proposal, hproposal, hid, hpending, -, hproposals, -⟩ := decideParameters_spec hdecided
    constructor
    · rintro ⟨row, hrow, hrowId, hstatus⟩
      rw [List.inj_on_of_nodup_map h hrow hproposal (hrowId.trans hid.symm)] at hstatus
      exact hstatus hpending
    · have hstep : (parameterStep state (.decide service poseidon3 request)).db = next := by
        rw [parameterStep, commit, hdecided]
      change DecidedParameters (parameterStep state _) _
      rw [DecidedParameters, hstep, hproposals]
      refine ⟨_, List.mem_map_of_mem hproposal, ?_⟩
      rw [if_pos hid]
      exact ⟨hid, by cases request.decision <;> simp [decidedStatus]⟩
  decided _ hdecided := (parameterStep_moves _ _).decided_kept hdecided
  rejected := by
    rintro state action proposalId checkerRef subject payload _ ⟨_, _, request, _, _, rfl, -, -, -, hreject⟩ heffect
    obtain ⟨_, _, _, -, ⟨_, _, _, _, _, heq, -, -, -, happrove⟩, -⟩ := (parameterStep_moves state _).effect heffect
    cases heq
    exact absurd (hreject.mpr (happrove.mp rfl)) (by decide)

end rwa.gate
