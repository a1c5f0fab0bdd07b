import RwaControlPlane.Callbacks.Schema
import RwaControlPlane.Library.FourEyes
import RwaControlPlane.Library.KeyedRows

open checked four_eyes keyed_rows
open rwa.storage (checkViolation)
open rwa.gate (uniqueViolation)

namespace rwa.callbacks

inductive IncidentStatus
  | opened | pendingApproval | resolvedAcknowledged | resolvedRemediated
deriving DecidableEq

def IncidentStatus.Resolved (status : IncidentStatus) : Prop :=
  status = .resolvedAcknowledged ∨ status = .resolvedRemediated

/-- A row of `external_reconciliation_incidents` with the columns of its review. -/
structure ReviewedIncident where
  incident : Incident
  status : IncidentStatus
  approvalRound : Nat
  remediationReference : Option String
  rowVersion : Nat
deriving DecidableEq

def ReviewedIncident.id (row : ReviewedIncident) : String := row.incident.id

inductive ApprovalRole
  | maker | checker
deriving DecidableEq

inductive IncidentDecision
  | acknowledge | remediate | approve | reject
deriving DecidableEq

namespace IncidentDecision

def ofMaker (text : String) : Option IncidentDecision :=
  if text = "ACKNOWLEDGE" then some acknowledge else if text = "REMEDIATE" then some remediate else none

def ofChecker (text : String) : Option IncidentDecision :=
  if text = "APPROVE" then some approve else if text = "REJECT" then some reject else none

/-- The state of an incident whose proposal is approved. -/
def resolvedState (decision : IncidentDecision) : IncidentStatus :=
  if decision = remediate then .resolvedRemediated else .resolvedAcknowledged

end IncidentDecision

/-- `external_incident_approvals` -/
structure IncidentApproval where
  incidentId : String
  approvalRound : Nat
  role : ApprovalRole
  actorRef : String
  decision : IncidentDecision
  remediationReference : Option String
  signature : Option String
deriving DecidableEq

structure IncidentTables where
  incidents : List ReviewedIncident
  approvals : List IncidentApproval
deriving DecidableEq

namespace IncidentTables

variable (tables : IncidentTables)

/-- The proposals of a round of an incident. -/
def makers (incidentId : String) (round : Nat) : List IncidentApproval :=
  tables.approvals.filter fun row =>
    row.incidentId = incidentId && row.approvalRound = round && decide (row.role = .maker)

def record (approval : IncidentApproval) : IncidentTables :=
  { tables with approvals := tables.approvals ++ [approval] }

/-- Insert an approval. A checker decides a proposal of another actor. -/
def insertApproval (approval : IncidentApproval) : Except Failure IncidentTables := do
  throwIf (approval.role = .checker ∧
      ¬∃ maker ∈ tables.makers approval.incidentId approval.approvalRound, maker.actorRef ≠ approval.actorRef)
    checkViolation
  throwIf (∃ row ∈ tables.approvals, row.incidentId = approval.incidentId ∧
      row.approvalRound = approval.approvalRound ∧ row.role = approval.role)
    uniqueViolation
  pure (tables.record approval)

/-- Update an incident in a new version of its row. -/
def update (incidentId : String) (change : ReviewedIncident → ReviewedIncident) : IncidentTables :=
  { tables with
    incidents := tables.incidents.map fun row =>
      if row.id = incidentId then { change row with incident := row.incident, rowVersion := row.rowVersion + 1 }
      else row }

end IncidentTables

structure ExternalIncidentService where
  tenantId : String
deriving DecidableEq

/-- What the review of an incident returns. -/
structure ReviewReply where
  incidentId : String
  state : IncidentStatus
  approvalRound : Nat
deriving DecidableEq

namespace ExternalIncidentService

variable (service : ExternalIncidentService)

def findIncident (incidentId : String) (tables : IncidentTables) : Option ReviewedIncident :=
  tables.incidents.find? fun row => row.id = incidentId && row.incident.tenantId = service.tenantId

def propose (incidentId makerRef decision : String) (remediationReference signature : Option String)
    (tables : IncidentTables) : Except Failure (ReviewReply × IncidentTables) := do
  let decision ← require (IncidentDecision.ofMaker decision)
    ⟨"INVALID_INCIDENT_DECISION", "maker decision must be ACKNOWLEDGE or REMEDIATE"⟩
  throwIf (decision = .remediate ∧ remediationReference.getD "" = "")
    ⟨"MISSING_REMEDIATION_REFERENCE", "remediation requires an external reference"⟩
  let incident ← require ((service.findIncident incidentId tables).filter (·.status = .opened))
    ⟨"INVALID_INCIDENT_STATE", "external incident is not open"⟩
  let round := incident.approvalRound + 1
  let tables ← tables.insertApproval
    { incidentId, decision, remediationReference, signature, approvalRound := round, role := .maker
      actorRef := makerRef }
  pure (⟨incidentId, .pendingApproval, round⟩,
    tables.update incidentId fun row => { row with status := .pendingApproval, approvalRound := round })

def decide (incidentId checkerRef decision : String) (signature : Option String) (tables : IncidentTables) :
    Except Failure (ReviewReply × IncidentTables) := do
  let decision ← require (IncidentDecision.ofChecker decision)
    ⟨"INVALID_INCIDENT_DECISION", "checker decision must be APPROVE or REJECT"⟩
  let incident ← require ((service.findIncident incidentId tables).filter (·.status = .pendingApproval))
    ⟨"INVALID_INCIDENT_STATE", "external incident is not pending approval"⟩
  let round := incident.approvalRound
  let maker ← require (single (tables.makers incidentId round))
    ⟨"INVALID_INCIDENT_STATE", "maker proposal is missing"⟩
  throwIf (maker.actorRef = checkerRef)
    ⟨"MAKER_CHECKER_CONFLICT", "external incident maker and checker must differ"⟩
  let tables ← tables.insertApproval
    { incidentId, decision, signature, approvalRound := round, role := .checker, actorRef := checkerRef
      remediationReference := none }
  if decision = .reject then
    pure (⟨incidentId, .opened, round⟩, tables.update incidentId fun row => { row with status := .opened })
  else
    let resolvedState := maker.decision.resolvedState
    pure (⟨incidentId, resolvedState, round⟩,
      tables.update incidentId fun row =>
        { row with status := resolvedState, remediationReference := maker.remediationReference })

end ExternalIncidentService

/-- A callback opens an incident, unless its id or its callback has one. -/
def openReview (incident : Incident) (tables : IncidentTables) : Except Failure (ReviewReply × IncidentTables) := do
  throwIf (∃ row ∈ tables.incidents, row.id = incident.id ∨ row.incident.callbackId = incident.callbackId)
    uniqueViolation
  pure (⟨incident.id, .opened, 0⟩,
    { tables with
      incidents := tables.incidents ++
        [{ incident, status := .opened, approvalRound := 0, remediationReference := none, rowVersion := 0 }] })

/-- A step: an incident is opened by a callback, or reviewed by the service of a
tenant. -/
inductive IncidentAction
  | openReview (incident : Incident)
  | propose (service : ExternalIncidentService) (incidentId makerRef decision : String)
      (remediationReference signature : Option String)
  | decide (service : ExternalIncidentService) (incidentId checkerRef decision : String) (signature : Option String)

/-- The transaction of a step. -/
def IncidentAction.perform (action : IncidentAction) (tables : IncidentTables) :
    Except Failure (ReviewReply × IncidentTables) :=
  match action with
  | .openReview incident => rwa.callbacks.openReview incident tables
  | .propose service incidentId makerRef decision remediationReference signature =>
    service.propose incidentId makerRef decision remediationReference signature tables
  | .decide service incidentId checkerRef decision signature =>
    service.decide incidentId checkerRef decision signature tables

def incidentStep (tables : IncidentTables) (action : IncidentAction) : IncidentTables :=
  (commit tables action.perform).2

/-- Reviews of incidents as a workflow. A round of an incident has one proposal, which
asks for a resolution. -/
def incidentReviews : Workflow IncidentTables IncidentAction (String × Nat) String (IncidentStatus × Option String)
    String (Option ReviewedIncident) where
  step := incidentStep
  Proposes tables action key makerRef incidentId effect := ∃ service text decision signature reply next,
    action = .propose service incidentId makerRef text effect.2 signature ∧
      action.perform tables = .ok (reply, next) ∧ key = (incidentId, reply.approvalRound) ∧
      IncidentDecision.ofMaker text = some decision ∧ effect.1 = decision.resolvedState
  Decides tables action key checkerRef approve := ∃ service incidentId text signature reply next,
    action = .decide service incidentId checkerRef text signature ∧ action.perform tables = .ok (reply, next) ∧
      key = (incidentId, reply.approvalRound) ∧ (approve = true ↔ text = "APPROVE")
  Effects before after incidentId effect := ∃ changed ∈ after.incidents, changed ∉ before.incidents ∧
    changed.id = incidentId ∧ changed.status.Resolved ∧ effect = (changed.status, changed.remediationReference)
  view tables incidentId := tables.incidents.find? (·.id = incidentId)

section Operations

variable {tables next : IncidentTables} {service : ExternalIncidentService} {reply : ReviewReply}
  {incidentId makerRef checkerRef decision : String} {remediationReference signature : Option String}

theorem insertApproval_ok {approval : IncidentApproval} (h : tables.insertApproval approval = .ok next) :
    (∀ row ∈ tables.approvals, row.incidentId = approval.incidentId → row.approvalRound = approval.approvalRound →
      row.role ≠ approval.role) ∧
    next = tables.record approval := by
  simp only [IncidentTables.insertApproval, bind_eq_ok_iff, throwIf_eq_ok_iff, exists_unit, pure_eq_ok_iff] at h
  obtain ⟨-, hfresh, rfl⟩ := h
  exact ⟨fun row hrow hid hround hrole => hfresh ⟨row, hrow, hid, hround, hrole⟩, rfl⟩

theorem findIncident_ok {status : IncidentStatus} {row : ReviewedIncident}
    (h : (service.findIncident incidentId tables).filter (·.status = status) = some row) :
    row ∈ tables.incidents ∧ row.id = incidentId ∧ row.status = status := by
  obtain ⟨hfound, hstatus⟩ := Option.filter_eq_some_iff.mp h
  have hid := List.find?_some hfound
  simp only [Bool.and_eq_true, decide_eq_true_eq] at hid hstatus
  exact ⟨List.mem_of_find?_eq_some hfound, hid.1, hstatus⟩

/-- A proposal of a maker opens the next round of an open incident. -/
theorem propose_spec
    (h : service.propose incidentId makerRef decision remediationReference signature tables = .ok (reply, next)) :
    ∃ maker row, IncidentDecision.ofMaker decision = some maker ∧ row ∈ tables.incidents ∧ row.id = incidentId ∧
      row.status = .opened ∧ reply.approvalRound = row.approvalRound + 1 ∧
      next = (tables.record
        ⟨incidentId, row.approvalRound + 1, .maker, makerRef, maker, remediationReference, signature⟩).update incidentId
          fun incident => { incident with status := .pendingApproval, approvalRound := row.approvalRound + 1 } := by
  simp only [ExternalIncidentService.propose, bind_eq_ok_iff, throwIf_eq_ok_iff, require_eq_ok_iff, exists_unit,
    pure_eq_ok_iff, Prod.mk.injEq] at h
  obtain ⟨maker, hmaker, -, row, hfound, inserted, hinserted, rfl, rfl⟩ := h
  obtain ⟨hrow, hid, hopened⟩ := findIncident_ok hfound
  obtain ⟨-, rfl⟩ := insertApproval_ok hinserted
  exact ⟨maker, row, hmaker, hrow, hid, hopened, rfl, rfl⟩

/-- What a decision makes of its incident. -/
def decidedIncident (checker : IncidentDecision) (maker : IncidentApproval) (row : ReviewedIncident) :
    ReviewedIncident :=
  if checker = .reject then { row with status := .opened }
  else { row with status := maker.decision.resolvedState, remediationReference := maker.remediationReference }

/-- A checker decides the proposal of another actor in the round of a pending
incident. -/
theorem decide_spec (h : service.decide incidentId checkerRef decision signature tables = .ok (reply, next)) :
    ∃ checker row maker, IncidentDecision.ofChecker decision = some checker ∧ row ∈ tables.incidents ∧
      row.id = incidentId ∧ row.status = .pendingApproval ∧ reply.approvalRound = row.approvalRound ∧
      maker ∈ tables.approvals ∧ maker.incidentId = incidentId ∧ maker.approvalRound = row.approvalRound ∧
      maker.role = .maker ∧ maker.actorRef ≠ checkerRef ∧
      (∀ approval ∈ tables.approvals, approval.incidentId = incidentId → approval.approvalRound = row.approvalRound →
        approval.role ≠ .checker) ∧
      next = (tables.record ⟨incidentId, row.approvalRound, .checker, checkerRef, checker, none, signature⟩).update
        incidentId (decidedIncident checker maker) := by
  simp only [ExternalIncidentService.decide, bind_eq_ok_iff, throwIf_eq_ok_iff, require_eq_ok_iff, exists_unit] at h
  obtain ⟨checker, hchecker, row, hfound, maker, hmaker, hdiffer, inserted, hinserted, h⟩ := h
  obtain ⟨hrow, hid, hpending⟩ := findIncident_ok hfound
  obtain ⟨hfresh, rfl⟩ := insertApproval_ok hinserted
  obtain ⟨hmem, hof⟩ := mem_of_single_filter hmaker
  simp only [Bool.and_eq_true, decide_eq_true_eq] at hof
  refine ⟨checker, row, maker, hchecker, hrow, hid, hpending, ?_, hmem, hof.1.1, hof.1.2, hof.2, hdiffer, hfresh, ?_⟩
  · split at h <;> · cases pure_eq_ok_iff.mp h; rfl
  · unfold decidedIncident
    split at h
    · next hreject => cases pure_eq_ok_iff.mp h; simp only [hreject, if_true]
    · next happrove => cases pure_eq_ok_iff.mp h; simp only [if_neg happrove]

theorem openReview_spec {incident : Incident} (h : openReview incident tables = .ok (reply, next)) :
    incident.id ∉ tables.incidents.map ReviewedIncident.id ∧
      next = { tables with incidents := tables.incidents ++ [⟨incident, .opened, 0, none, 0⟩] } := by
  simp only [openReview, bind_eq_ok_iff, throwIf_eq_ok_iff, exists_unit, pure_eq_ok_iff, Prod.mk.injEq] at h
  obtain ⟨hfresh, -, rfl⟩ := h
  refine ⟨fun hmem => ?_, rfl⟩
  obtain ⟨row, hrow, hid⟩ := List.mem_map.mp hmem
  exact hfresh ⟨row, hrow, Or.inl hid⟩

end Operations

/-- What holds of incidents in every reachable state. -/
structure IncidentsSound (tables : IncidentTables) : Prop where
  ids : (tables.incidents.map ReviewedIncident.id).Nodup
  rounds : ∀ approval ∈ tables.approvals, ∃ row ∈ tables.incidents, row.id = approval.incidentId ∧
    approval.approvalRound ≤ row.approvalRound

theorem incidentsSound_empty : IncidentsSound ⟨[], []⟩ := by
  constructor <;> simp

/-- The proposal of the current round of an incident that is pending approval. -/
def PendingReview (tables : IncidentTables) (key : String × Nat) (makerRef incidentId : String)
    (effect : IncidentStatus × Option String) : Prop :=
  key.1 = incidentId ∧
  (∃ row ∈ tables.incidents, row.id = incidentId ∧ row.status = .pendingApproval ∧ row.approvalRound = key.2) ∧
  ∃ approval ∈ tables.approvals, approval.incidentId = incidentId ∧ approval.approvalRound = key.2 ∧
    approval.role = .maker ∧ approval.actorRef = makerRef ∧
    effect = (approval.decision.resolvedState, approval.remediationReference)

def DecidedReview (tables : IncidentTables) (key : String × Nat) : Prop :=
  ∃ approval ∈ tables.approvals, (approval.incidentId, approval.approvalRound) = key ∧ approval.role = .checker

section Update

variable {tables : IncidentTables} {incidentId : String} {change : ReviewedIncident → ReviewedIncident}
  {row : ReviewedIncident}

theorem mem_update (h : row ∈ (tables.update incidentId change).incidents) :
    (row ∈ tables.incidents ∧ row.id ≠ incidentId) ∨
      ∃ before ∈ tables.incidents, before.id = incidentId ∧
        row = { change before with incident := before.incident, rowVersion := before.rowVersion + 1 } := by
  obtain ⟨before, hbefore, rfl⟩ := List.mem_map.mp h
  by_cases hid : before.id = incidentId
  · rw [if_pos hid]
    exact Or.inr ⟨before, hbefore, hid, rfl⟩
  · rw [if_neg hid]
    exact Or.inl ⟨hbefore, hid⟩

theorem mem_update_of_ne (hrow : row ∈ tables.incidents) (hid : row.id ≠ incidentId) :
    row ∈ (tables.update incidentId change).incidents :=
  List.mem_map.mpr ⟨row, hrow, if_neg hid⟩

theorem mem_update_self (hrow : row ∈ tables.incidents) (hid : row.id = incidentId) :
    { change row with incident := row.incident, rowVersion := row.rowVersion + 1 } ∈
      (tables.update incidentId change).incidents :=
  List.mem_map.mpr ⟨row, hrow, if_pos hid⟩

theorem update_ids : (tables.update incidentId change).incidents.map ReviewedIncident.id =
    tables.incidents.map ReviewedIncident.id := by
  rw [IncidentTables.update, List.map_map]
  refine List.map_congr_left fun row _ => ?_
  by_cases hid : row.id = incidentId
  · rw [Function.comp_apply, if_pos hid]
    rfl
  · rw [Function.comp_apply, if_neg hid]

/-- A recorded approval of the round that an update sets keeps the tables sound. -/
theorem IncidentsSound.record_update {approval : IncidentApproval} (h : IncidentsSound tables)
    (hrow : row ∈ tables.incidents) (hid : row.id = approval.incidentId)
    (hround : approval.approvalRound ≤ (change row).approvalRound)
    (hgrows : row.approvalRound ≤ (change row).approvalRound) :
    IncidentsSound ((tables.record approval).update approval.incidentId change) := by
  refine ⟨?_, fun other hother => ?_⟩
  · rw [update_ids]
    exact h.ids
  · obtain hold | hnew := List.mem_append.mp hother
    · obtain ⟨owner, howner, hownerId, hbound⟩ := h.rounds other hold
      by_cases hsame : owner.id = approval.incidentId
      · obtain rfl := List.inj_on_of_nodup_map h.ids howner hrow (hsame.trans hid.symm)
        exact ⟨_, mem_update_self howner hsame, hownerId, hbound.trans hgrows⟩
      · exact ⟨owner, mem_update_of_ne howner hsame, hownerId, hbound⟩
    · rw [List.mem_singleton.mp hnew]
      exact ⟨_, mem_update_self hrow hid, hid, hround⟩

end Update

/-- What a step does to the incidents. -/
inductive IncidentMoves (tables : IncidentTables) : IncidentAction → IncidentTables → Prop
  | failed {action : IncidentAction} (hfailed : ∀ reply next, action.perform tables ≠ .ok (reply, next)) :
      IncidentMoves tables action tables
  | opened {incident : Incident} {reply : ReviewReply} {next : IncidentTables}
      (hopened : openReview incident tables = .ok (reply, next)) : IncidentMoves tables (.openReview incident) next
  | proposed {service : ExternalIncidentService} {incidentId makerRef decision : String}
      {remediationReference signature : Option String} {reply : ReviewReply} {next : IncidentTables}
      (hproposed : service.propose incidentId makerRef decision remediationReference signature tables =
        .ok (reply, next)) :
      IncidentMoves tables (.propose service incidentId makerRef decision remediationReference signature) next
  | decided {service : ExternalIncidentService} {incidentId checkerRef decision : String} {signature : Option String}
      {reply : ReviewReply} {next : IncidentTables}
      (hdecided : service.decide incidentId checkerRef decision signature tables = .ok (reply, next)) :
      IncidentMoves tables (.decide service incidentId checkerRef decision signature) next

theorem incidentStep_of_ok {tables next : IncidentTables} {action : IncidentAction} {reply : ReviewReply}
    (h : action.perform tables = .ok (reply, next)) : incidentStep tables action = next := by
  rw [incidentStep, commit, h]

theorem incidentStep_moves (tables : IncidentTables) (action : IncidentAction) :
    IncidentMoves tables action (incidentStep tables action) := by
  cases hperformed : action.perform tables with
  | error failure =>
    rw [incidentStep, commit, hperformed]
    exact .failed fun reply next hok => by rw [hperformed] at hok; cases hok
  | ok outcome =>
    obtain ⟨reply, next⟩ := outcome
    rw [incidentStep_of_ok hperformed]
    cases action with
    | openReview incident => exact .opened hperformed
    | propose service incidentId makerRef decision remediationReference signature => exact .proposed hperformed
    | decide service incidentId checkerRef decision signature => exact .decided hperformed

section Moves

variable {tables next : IncidentTables} {action : IncidentAction}

theorem IncidentMoves.sound (h : IncidentsSound tables) (hmoves : IncidentMoves tables action next) :
    IncidentsSound next := by
  cases hmoves with
  | failed _ => exact h
  | opened hopened =>
    obtain ⟨hfresh, rfl⟩ := openReview_spec hopened
    refine ⟨nodup_concat h.ids hfresh, fun approval happroval => ?_⟩
    obtain ⟨row, hrow, hrest⟩ := h.rounds approval happroval
    exact ⟨row, List.mem_append_left _ hrow, hrest⟩
  | proposed hproposed =>
    obtain ⟨maker, row, -, hrow, rfl, -, -, rfl⟩ := propose_spec hproposed
    exact h.record_update hrow rfl (le_refl _) (Nat.le_succ _)
  | decided hdecided =>
    obtain ⟨checker, row, maker, -, hrow, rfl, -, -, -, -, -, -, -, -, rfl⟩ := decide_spec hdecided
    have hround : (decidedIncident checker maker row).approvalRound = row.approvalRound := by
      unfold decidedIncident
      split <;> rfl
    exact h.record_update hrow rfl hround.ge hround.ge

/-- No decision is undone. -/
theorem IncidentMoves.approvals (hmoves : IncidentMoves tables action next) :
    ∃ added, next.approvals = tables.approvals ++ added := by
  cases hmoves with
  | failed _ => exact ⟨[], (List.append_nil _).symm⟩
  | opened hopened =>
    obtain ⟨-, rfl⟩ := openReview_spec hopened
    exact ⟨[], (List.append_nil _).symm⟩
  | proposed hproposed =>
    obtain ⟨_, _, -, -, -, -, -, rfl⟩ := propose_spec hproposed
    exact ⟨_, rfl⟩
  | decided hdecided =>
    obtain ⟨_, _, _, -, -, -, -, -, -, -, -, -, -, -, rfl⟩ := decide_spec hdecided
    exact ⟨_, rfl⟩

variable {key : String × Nat} {makerRef incidentId : String} {effect : IncidentStatus × Option String}

private theorem view_same (hids : (tables.incidents.map ReviewedIncident.id).Nodup)
    (hnext : (next.incidents.map ReviewedIncident.id).Nodup) {row : ReviewedIncident} (hrow : row ∈ tables.incidents)
    (hkept : row ∈ next.incidents) :
    incidentReviews.view next row.id = incidentReviews.view tables row.id :=
  (find_key_of_mem hnext hkept).trans (find_key_of_mem hids hrow).symm

/-- A proposal that is pending after a step was made by it, or was pending before for
the same state of its incident. -/
theorem IncidentMoves.pending (h : IncidentsSound tables) (hmoves : IncidentMoves tables action next)
    (hpending : PendingReview next key makerRef incidentId effect) :
    incidentReviews.Proposes tables action key makerRef incidentId effect ∨
      PendingReview tables key makerRef incidentId effect ∧
        incidentReviews.view next incidentId = incidentReviews.view tables incidentId := by
  have hnext := (hmoves.sound h).ids
  obtain ⟨hkey, ⟨row, hrow, rfl, hstatus, hround⟩, approval, happroval, hof, hrounds, hrole, hactor, heffect⟩ :=
    hpending
  -- Where the row and the approval are those of before, nothing about the proposal has changed.
  have hkept : row ∈ tables.incidents → approval ∈ tables.approvals →
      PendingReview tables key makerRef row.id effect ∧
        incidentReviews.view next row.id = incidentReviews.view tables row.id := fun hbefore hrecorded =>
    ⟨⟨hkey, ⟨row, hbefore, rfl, hstatus, hround⟩, approval, hrecorded, hof, hrounds, hrole, hactor, heffect⟩,
      view_same h.ids hnext hbefore hrow⟩
  cases hmoves with
  | failed _ => exact Or.inr (hkept hrow happroval)
  | opened hopened =>
    obtain ⟨-, rfl⟩ := openReview_spec hopened
    obtain hold | hnew := List.mem_append.mp hrow
    · exact Or.inr (hkept hold happroval)
    · rw [List.mem_singleton.mp hnew] at hstatus
      cases hstatus
  | @proposed service opening maker text reference signature reply _ hproposed =>
    obtain ⟨decision, incident, hdecision, hincident, hid, -, hreply, rfl⟩ := propose_spec hproposed
    obtain hold | hnew := List.mem_append.mp happroval
    · obtain ⟨hbefore, -⟩ | ⟨before, hbefore, hsame, hchanged⟩ := mem_update hrow
      · exact Or.inr (hkept hbefore hold)
      · obtain ⟨owner, howner, hownerId, hbound⟩ := h.rounds approval hold
        have howned : owner.id = incident.id := by
          rw [hownerId, hof, hchanged]
          exact hsame.trans hid.symm
        obtain rfl := List.inj_on_of_nodup_map h.ids howner hincident howned
        rw [hchanged] at hround
        simp only at hround
        omega
    · obtain rfl := List.mem_singleton.mp hnew
      simp only at hof hrounds hactor heffect
      refine Or.inl ⟨service, text, decision, signature, reply, _, ?_, hproposed, ?_, hdecision, by rw [heffect]⟩
      · rw [hof, hactor, heffect]
      · rw [hreply, hrounds, ← hkey]
  | decided hdecided =>
    obtain ⟨checker, incident, proposal, -, -, rfl, -, -, -, -, -, -, -, -, rfl⟩ := decide_spec hdecided
    obtain hold | hnew := List.mem_append.mp happroval
    · obtain ⟨hbefore, -⟩ | ⟨before, hbefore, -, hchanged⟩ := mem_update hrow
      · exact Or.inr (hkept hbefore hold)
      · rw [hchanged] at hstatus
        unfold decidedIncident IncidentDecision.resolvedState at hstatus
        split at hstatus
        · cases hstatus
        · split at hstatus <;> cases hstatus
    · rw [List.mem_singleton.mp hnew] at hrole
      cases hrole

/-- An incident is resolved by the approval of its pending proposal alone. -/
theorem IncidentMoves.approved (h : IncidentsSound tables) (hmoves : IncidentMoves tables action next)
    (heffect : incidentReviews.Effects tables next incidentId effect) :
    ∃ key makerRef checkerRef, makerRef ≠ checkerRef ∧ incidentReviews.Decides tables action key checkerRef true ∧
      PendingReview tables key makerRef incidentId effect := by
  obtain ⟨changed, hchanged, hnew, rfl, hresolved, rfl⟩ := heffect
  cases hmoves with
  | failed _ => exact absurd hchanged hnew
  | opened hopened =>
    obtain ⟨-, rfl⟩ := openReview_spec hopened
    obtain hold | hadded := List.mem_append.mp hchanged
    · exact absurd hold hnew
    · rw [List.mem_singleton.mp hadded] at hresolved
      obtain hresolved | hresolved := hresolved <;> cases hresolved
  | proposed hproposed =>
    obtain ⟨_, _, -, -, -, -, -, rfl⟩ := propose_spec hproposed
    obtain ⟨hold, -⟩ | ⟨before, -, -, rfl⟩ := mem_update hchanged
    · exact absurd hold hnew
    · obtain hresolved | hresolved := hresolved <;> cases hresolved
  | @decided service _ checkerRef text signature reply _ hdecided =>
    obtain ⟨checker, incident, maker, hchecker, hincident, rfl, hpending, hreply, hmaker, hof, hround, hrole, hdiffer,
      -, rfl⟩ := decide_spec hdecided
    obtain ⟨hold, -⟩ | ⟨before, hbefore, hsame, rfl⟩ := mem_update hchanged
    · exact absurd hold hnew
    · obtain rfl := List.inj_on_of_nodup_map h.ids hbefore hincident hsame
      have happrove : checker ≠ .reject := by
        rintro rfl
        obtain hresolved | hresolved := hresolved <;> cases hresolved
      have htext : text = "APPROVE" := by
        unfold IncidentDecision.ofChecker at hchecker
        split at hchecker
        · assumption
        · split at hchecker
          · cases hchecker
            exact absurd rfl happrove
          · cases hchecker
      refine ⟨(before.id, before.approvalRound), maker.actorRef, checkerRef, hdiffer,
        ⟨service, before.id, text, signature, reply, _, rfl, hdecided, by rw [hreply], by simp [htext]⟩, rfl,
        ⟨before, hbefore, rfl, hpending, rfl⟩, maker, hmaker, hof, hround, hrole, rfl, ?_⟩
      simp only [decidedIncident, if_neg happrove]

end Moves

/-- Reviews of incidents follow the rules of a workflow. -/
theorem incidentReviews_lawful :
    incidentReviews.Lawful IncidentsSound PendingReview (fun _ _ => False) DecidedReview where
  step tables action h := (incidentStep_moves tables action).sound h
  pending := by
    intro tables action key makerRef incidentId effect h hpending
    obtain hproposes | ⟨hbefore, hview⟩ := (incidentStep_moves tables action).pending h hpending
    · exact Or.inl hproposes
    · exact Or.inr ⟨hbefore, Or.inl hview⟩
  overtaken _ hovertaken := hovertaken
  effect := by
    intro tables action incidentId effect h heffect
    obtain ⟨key, makerRef, checkerRef, hdiffer, hdecides, hpending⟩ :=
      (incidentStep_moves tables action).approved h heffect
    exact ⟨key, makerRef, checkerRef, hdiffer, hdecides, hpending, not_false⟩
  decides := by
    rintro tables action key checkerRef approve h ⟨service, incidentId, text, signature, reply, next, rfl, hdecided,
      rfl, -⟩
    obtain ⟨checker, row, maker, -, -, -, -, hround, -, -, -, -, -, hfresh, hnext⟩ := decide_spec hdecided
    constructor
    · rintro ⟨approval, happroval, heq, hrole⟩
      obtain ⟨hid, hrounds⟩ := Prod.mk.inj heq
      exact hfresh approval happroval hid (hrounds.trans hround) hrole
    · change DecidedReview (incidentStep tables _) _
      rw [incidentStep_of_ok hdecided, hnext, hround]
      exact ⟨_, List.mem_append_right _ (List.mem_singleton_self _), rfl, rfl⟩
  decided := by
    rintro tables action key h ⟨approval, happroval, hrest⟩
    obtain ⟨added, hadded⟩ := (incidentStep_moves tables action).approvals
    exact ⟨approval, hadded ▸ List.mem_append_left _ happroval, hrest⟩
  rejected := by
    rintro tables action key checkerRef incidentId effect h ⟨service, _, text, signature, reply, next, rfl, hdecided, -,
      hreject⟩ heffect
    obtain ⟨_, _, _, -, ⟨_, _, _, _, _, _, heq, -, -, happrove⟩, -⟩ := (incidentStep_moves tables _).approved h heffect
    cases heq
    exact absurd (hreject.mpr (happrove.mp rfl)) (by decide)

example : (runs.run incidentStep ⟨[], []⟩
    [.openReview ⟨"incident-1", "callback-1", none, "tenant", "product", .cash, "HIGH", "EXTERNAL_CASH_REJECTED"⟩,
      .propose ⟨"tenant"⟩ "incident-1" "maker" "REMEDIATE" (some "ticket-7") none,
      .decide ⟨"tenant"⟩ "incident-1" "maker" "APPROVE" none,
      .decide ⟨"tenant"⟩ "incident-1" "checker" "APPROVE" none]).incidents.map
        (fun row => (row.status, row.remediationReference, row.rowVersion)) =
    [(.resolvedRemediated, some "ticket-7", 2)] := by decide

end rwa.callbacks
