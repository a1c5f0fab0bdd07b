import RwaControlPlane.Library.Runs
import RwaControlPlane.ReadModel.TransactionPackage

open checked js_value
open rwa.gate (TransactionState)
open rwa.storage (Platform TransactionIntent TransactionTables)
open rwa.durable (ApprovalDecision ApprovalRecord ExceptionCase)
open rwa.control_plane (CaseStatus Decision)

namespace rwa.transaction_evidence

section View

/-- A member of the metadata of an event. -/
def memberOf (metadata : JsValue) (key : String) : JsValue :=
  match metadata with
  | .object members => ((members.find? (·.1 = key)).map Prod.snd).getD .undefined
  | _ => .undefined

/-- `metadata->>key`: a text as it is, nothing for null, and any other value as the text
that the database makes of it. -/
def memberText (jsonText : JsValue → String) (metadata : JsValue) (key : String) : Option String :=
  match memberOf metadata key with
  | .undefined | .null | .notFinite => none
  | .string text => some text
  | value => some (jsonText value)

/-- `?? null` -/
def orNull : JsValue → JsValue
  | .undefined => .null
  | value => value

/-- An audit event in the view of a supervisor. Its time is left out. -/
structure AuditEvent where
  sequence : Nat
  type : String
  productId : String
  transactionId : String
  state : JsValue
  reasonCode : JsValue

def auditEventOf (productId : String) (row : AuditRow) : AuditEvent where
  sequence := row.sequenceId
  type := row.event.eventType
  productId := productId
  transactionId := row.aggregateId
  state := orNull (memberOf row.event.metadata "state")
  reasonCode := orNull (memberOf row.event.metadata "reasonCode")

variable (jsonText : JsValue → String) (state : State) (tenantId productId : String)

/-- The product that the metadata of an event name. -/
def Event.label (event : Event) : Option String := memberText jsonText event.metadata "productId"

/-- The audit events in the view of a supervisor of a tenant, in the order of the table. -/
def auditEvents : List AuditEvent :=
  (state.audit.filter fun row => row.tenantId = tenantId && row.event.label jsonText = some productId).map
    (auditEventOf productId)

/-- The id, the tenant and the product of each transaction. -/
def State.keys : List (String × String × String) :=
  state.db.transactions.intents.map fun row => (row.id, row.tenantId, row.productId)

/-- The audit events of the transactions of a product in a tenant, whoever has recorded
them. -/
def transactionRows : List AuditRow :=
  state.audit.filter fun row => row.aggregateType = "transaction" && (row.aggregateId, tenantId, productId) ∈ state.keys

/-- The view has every event of a transaction of the product, in the order of the
sequence and once each. -/
def Supervised : Prop :=
  ((transactionRows state tenantId productId).map (auditEventOf productId)).Sublist
      (auditEvents jsonText state tenantId productId) ∧
    (auditEvents jsonText state tenantId productId).Pairwise fun first second => first.sequence < second.sequence

end View

section Consistency

/-- The transaction and the product of each exception case. -/
def State.caseKeys (state : State) : List (String × String) :=
  state.db.exceptionCases.map fun row => (row.transactionId, row.productId)

/-- Exception cases, proposals and audit events are of transactions that are there, and the
events are numbered one after another. -/
structure State.Consistent (state : State) : Prop where
  ids : (state.keys.map Prod.fst).Nodup
  cases : ∀ key ∈ state.caseKeys, ∃ tenantId, (key.1, tenantId, key.2) ∈ state.keys
  proposals : ∀ proposal ∈ state.proposals, ∃ tenantId productId,
    (proposal.transactionId, tenantId, productId) ∈ state.keys
  rows : ∀ row ∈ state.audit, row.aggregateType = "transaction" →
    ∃ tenantId productId, (row.aggregateId, tenantId, productId) ∈ state.keys
  sequence : state.audit.map (·.sequenceId) = List.range' 1 state.audit.length

variable {jsonText : JsValue → String} {state next : State} {tenantId productId : String}

theorem empty_consistent : State.empty.Consistent :=
  ⟨List.nodup_nil, by simp [State.caseKeys, State.empty, durable.Database.empty], by simp [State.empty],
    by simp [State.empty], rfl⟩

/-- A transaction has one tenant and one product. -/
theorem State.Consistent.key_eq (h : state.Consistent) {id : String} {first second : String × String}
    (hfirst : (id, first) ∈ state.keys) (hsecond : (id, second) ∈ state.keys) : first = second :=
  (Prod.mk.inj (List.inj_on_of_nodup_map h.ids hfirst hsecond rfl)).2

private theorem sequence_lt (h : state.Consistent) :
    state.audit.Pairwise fun first second => first.sequenceId < second.sequenceId := by
  have hrange : (state.audit.map (·.sequenceId)).Pairwise (· < ·) := by
    rw [h.sequence]
    exact List.pairwise_lt_range'
  exact List.pairwise_map.mp hrange

/-- The view is complete exactly if every event of a transaction of the product is in the
tenant's log and names the product. -/
theorem supervised_iff (h : state.Consistent) : Supervised jsonText state tenantId productId ↔
    ∀ row ∈ state.audit, row.aggregateType = "transaction" → (row.aggregateId, tenantId, productId) ∈ state.keys →
      row.tenantId = tenantId ∧ row.event.label jsonText = some productId := by
  have hordered := sequence_lt h
  constructor
  · rintro ⟨hcontained, -⟩ row hrow htype hkey
    have hmem : auditEventOf productId row ∈ (transactionRows state tenantId productId).map (auditEventOf productId) :=
      List.mem_map_of_mem (List.mem_filter.mpr ⟨hrow, by simp [htype, hkey]⟩)
    obtain ⟨shown, hshown, hsame⟩ := List.mem_map.mp (hcontained.subset hmem)
    obtain ⟨hshownRow, hvisible⟩ := List.mem_filter.mp hshown
    have hsequence : shown.sequenceId = row.sequenceId := congrArg AuditEvent.sequence hsame
    -- sequence numbers tell the rows apart
    have heq : shown = row := by
      have hnodup : (state.audit.map (·.sequenceId)).Nodup := by
        rw [h.sequence]
        exact List.nodup_range'
      exact List.inj_on_of_nodup_map hnodup hshownRow hrow hsequence
    subst heq
    simpa using hvisible
  · intro hvisible
    refine ⟨List.Sublist.map _ ?_, List.pairwise_map.mpr (hordered.sublist List.filter_sublist)⟩
    unfold transactionRows
    have hkept : state.audit.filter (fun row => decide (row.aggregateType = "transaction") &&
        decide ((row.aggregateId, tenantId, productId) ∈ state.keys)) =
        (state.audit.filter fun row => row.tenantId = tenantId && row.event.label jsonText = some productId).filter
          fun row => decide (row.aggregateType = "transaction") &&
            decide ((row.aggregateId, tenantId, productId) ∈ state.keys) := by
      rw [List.filter_filter]
      refine List.filter_congr fun row hrow => ?_
      by_cases hof : row.aggregateType = "transaction" ∧ (row.aggregateId, tenantId, productId) ∈ state.keys
      · obtain ⟨htenant, hlabel⟩ := hvisible row hrow hof.1 hof.2
        simp [hof, htenant, hlabel]
      · rw [not_and] at hof
        by_cases htype : row.aggregateType = "transaction"
        · simp [hof htype]
        · simp [htype]
    rw [hkept]
    exact List.filter_sublist

end Consistency

section Writing

variable {platform : Platform} {state next last : State} {tenantId transactionId : String}

/-- What an operation adds to the tables that the view depends on: transactions, exception
cases, the transactions of proposals, and audit events with their aggregates. -/
structure Additions where
  created : List (String × String × String) := []
  opened : List (String × String) := []
  proposed : List String := []
  events : List (String × String × Event) := []

def Additions.append (first second : Additions) : Additions :=
  ⟨first.created ++ second.created, first.opened ++ second.opened, first.proposed ++ second.proposed,
    first.events ++ second.events⟩

/-- An operation of a tenant has added just that. -/
structure Added (tenantId : String) (state next : State) (writes : Additions) : Prop where
  created : next.keys = state.keys ++ writes.created
  ids : (state.keys.map Prod.fst).Nodup → (next.keys.map Prod.fst).Nodup
  opened : next.caseKeys = state.caseKeys ++ writes.opened
  proposed : next.proposals.map (·.transactionId) = state.proposals.map (·.transactionId) ++ writes.proposed
  events : ∃ rows : List AuditRow, next.audit = state.audit ++ rows ∧
    rows.map (·.sequenceId) = List.range' (state.audit.length + 1) rows.length ∧
    rows.map (fun row => (row.tenantId, row.aggregateType, row.aggregateId, row.event)) =
      writes.events.map fun event => (tenantId, event)

theorem Added.refl : Added tenantId state state {} :=
  ⟨by simp, id, by simp, by simp, [], by simp⟩

theorem Added.trans {first second : Additions} (h : Added tenantId state next first)
    (h' : Added tenantId next last second) :
    Added tenantId state last (first.append second) := by
  obtain ⟨rows, haudit, hsequence, hevents⟩ := h.events
  obtain ⟨more, haudit', hsequence', hevents'⟩ := h'.events
  refine ⟨?_, fun hids => h'.ids (h.ids hids), ?_, ?_, rows ++ more, ?_, ?_, ?_⟩
  · rw [h'.created, h.created, List.append_assoc]
    rfl
  · rw [h'.opened, h.opened, List.append_assoc]
    rfl
  · rw [h'.proposed, h.proposed, List.append_assoc]
    rfl
  · rw [haudit', haudit, List.append_assoc]
  · rw [List.map_append, hsequence, hsequence', haudit, List.length_append, List.length_append, Nat.add_right_comm,
      List.range'_append_1]
  · rw [List.map_append, hevents, hevents', Additions.append, List.map_append]

/-- Tables that the view does not depend on do not matter. -/
theorem Added.of_same (hkeys : next.keys = state.keys) (hcases : next.caseKeys = state.caseKeys)
    (hproposals : next.proposals.map (·.transactionId) = state.proposals.map (·.transactionId))
    (haudit : next.audit = state.audit) : Added tenantId state next {} :=
  ⟨by simp [hkeys], fun hids => hkeys ▸ hids, by simp [hcases], by simp [hproposals], [], by simp [haudit]⟩

theorem recordAuditEvent_wrote {aggregateType aggregateId : String} {event : Event} :
    Added tenantId state (state.recordAuditEvent platform tenantId aggregateType aggregateId event)
      { events := [(aggregateType, aggregateId, event)] } :=
  ⟨by simp [State.recordAuditEvent, State.keys], id, by simp [State.recordAuditEvent, State.caseKeys],
    by simp [State.recordAuditEvent], [_], rfl, rfl, rfl⟩

theorem recordTransactionEvent_wrote {event : Event} :
    Added tenantId state (state.recordTransactionEvent platform tenantId transactionId event)
      { events := [("transaction", transactionId, event)] } :=
  recordAuditEvent_wrote

theorem storeReceipt_wrote {receipt : JsValue} {receiptHash : String}
    (h : state.storeReceipt platform transactionId receipt = .ok (receiptHash, next)) :
    Added tenantId state next {} := by
  simp only [State.storeReceipt, bind_eq_ok_iff, pure_eq_ok_iff] at h
  obtain ⟨_, -, h⟩ := h
  obtain ⟨-, rfl⟩ := Prod.mk.inj h
  exact Added.of_same rfl rfl rfl rfl

section Tables

variable {tables after : TransactionTables} {db later : durable.Database}

/-- The id, the tenant and the product of each transaction. -/
def tableKeys (tables : TransactionTables) : List (String × String × String) :=
  tables.intents.map fun row => (row.id, row.tenantId, row.productId)

theorem transition_keys {toState : TransactionState} {reasonCode actorRef : Option String}
    (h : tables.transitionTransaction transactionId toState reasonCode actorRef = .ok after) :
    tableKeys after = tableKeys tables := by
  simp only [TransactionTables.transitionTransaction, bind_eq_ok_iff, pure_eq_ok_iff] at h
  obtain ⟨_, -, _, -, _, -, rfl⟩ := h
  unfold tableKeys
  rw [List.map_map]
  refine List.map_congr_left fun row _ => ?_
  by_cases hrow : row.id = transactionId
  · simp [hrow]
  · simp [hrow]

/-- A database whose transactions and exception cases have the same keys. -/
structure SameKeys (db later : durable.Database) : Prop where
  transactions : tableKeys later.transactions = tableKeys db.transactions
  cases : later.exceptionCases.map (fun row => (row.transactionId, row.productId)) =
    db.exceptionCases.map fun row => (row.transactionId, row.productId)

theorem SameKeys.refl : SameKeys db db := ⟨rfl, rfl⟩

theorem SameKeys.trans {final : durable.Database} (h : SameKeys db later) (h' : SameKeys later final) :
    SameKeys db final :=
  ⟨h'.transactions.trans h.transactions, h'.cases.trans h.cases⟩

/-- A state with such a database. -/
theorem SameKeys.wrote (h : SameKeys state.db later) : Added tenantId state { state with db := later } {} :=
  Added.of_same h.transactions h.cases rfl rfl

theorem dbTransition_same {toState : TransactionState} {reasonCode : Option String} {actorRef : String}
    (h : db.transitionTransaction transactionId toState reasonCode actorRef = .ok later) : SameKeys db later := by
  simp only [durable.Database.transitionTransaction, bind_eq_ok_iff, pure_eq_ok_iff] at h
  obtain ⟨_, htables, rfl⟩ := h
  exact ⟨transition_keys htables, rfl⟩

theorem dbThrough_same {states : List TransactionState} {actorRef : String}
    (h : db.transitionThrough transactionId actorRef states = .ok later) : SameKeys db later := by
  induction states generalizing db with
  | nil =>
    obtain rfl := pure_eq_ok_iff.mp h
    exact SameKeys.refl
  | cons toState rest ih =>
    obtain ⟨tables, htables, h⟩ := bind_eq_ok_iff.mp h
    have hmoved : SameKeys db { db with transactions := tables } := ⟨transition_keys htables, rfl⟩
    exact hmoved.trans (ih h)

theorem stateTransition_wrote {toState : TransactionState} {reasonCode : Option String} {actorRef : String}
    (h : state.transitionTransaction transactionId toState reasonCode actorRef = .ok next) :
    Added tenantId state next {} := by
  simp only [State.transitionTransaction, bind_eq_ok_iff, pure_eq_ok_iff] at h
  obtain ⟨db, hdb, rfl⟩ := h
  exact (dbTransition_same hdb).wrote

theorem updateCase_same {exceptionId : String} {change : ExceptionCase → ExceptionCase}
    (h : ∀ row, (change row).transactionId = row.transactionId ∧ (change row).productId = row.productId) :
    SameKeys db (db.updateCase exceptionId change) := by
  refine ⟨rfl, ?_⟩
  unfold durable.Database.updateCase
  rw [List.map_map]
  refine List.map_congr_left fun row _ => ?_
  by_cases hrow : row.id = exceptionId
  · simp [hrow, h row]
  · simp [hrow]

theorem insertApproval_same {record : ApprovalRecord} (h : db.insertApproval record = .ok later) :
    SameKeys db later := by
  simp only [durable.Database.insertApproval, bind_eq_ok_iff, pure_eq_ok_iff] at h
  obtain ⟨_, -, _, -, rfl⟩ := h
  exact ⟨rfl, rfl⟩

theorem insertCommitment_same {row : durable.EconomicCommitment} (h : db.insertCommitment row = .ok later) :
    SameKeys db later := by
  simp only [durable.Database.insertCommitment, bind_eq_ok_iff, pure_eq_ok_iff] at h
  obtain ⟨_, -, _, -, rfl⟩ := h
  exact ⟨rfl, rfl⟩

/-- A transaction that is new has a new id. -/
theorem createTransactionIntent_keys {intent row : TransactionIntent} {actorRef : Option String} {created : Bool}
    (h : tables.createTransactionIntent intent actorRef = .ok (created, row, after)) :
    if created then intent.id ∉ tables.intents.map (·.id) ∧
        tableKeys after = tableKeys tables ++ [(intent.id, intent.tenantId, intent.productId)]
      else after = tables ∧ tables.findKey intent.tenantId intent.idempotencyKey = some row := by
  unfold TransactionTables.createTransactionIntent at h
  split at h
  · next existing hfound =>
    obtain ⟨_, -, h⟩ := bind_eq_ok_iff.mp h
    obtain ⟨rfl, rfl, rfl⟩ : created = false ∧ row = existing ∧ after = tables := by
      simpa [eq_comm] using pure_eq_ok_iff.mp h
    exact ⟨rfl, hfound⟩
  · obtain ⟨_, hfresh, h⟩ := bind_eq_ok_iff.mp h
    obtain ⟨rfl, hafter⟩ := Prod.mk.inj (pure_eq_ok_iff.mp h)
    obtain ⟨-, rfl⟩ := Prod.mk.inj hafter
    refine ⟨throwIf_eq_ok_iff.mp hfresh, ?_⟩
    simp [tableKeys]

end Tables

end Writing

section Origins

variable (jsonText : JsValue → String)

/-- The transaction that a call records an event of that does not name the product. -/
def Call.unlabelled : Call → Option String
  | proposeFinalization proposal => some proposal.transactionId
  | cancelFinalization transactionId _ _ => some transactionId
  | finalize transactionId _ true => some transactionId
  | _ => none

/-- The transaction of the exception that a call decides on, whatever its tenant. -/
def Call.decidedOn (state : State) : Call → Option String
  | proposeExceptionResolution caseId _ _ _ => (state.db.findCase caseId).map (·.transactionId)
  | approveExceptionResolution caseId _ _ _ => (state.db.findCase caseId).map (·.transactionId)
  | _ => none

/-- What the events are about that a call records: another aggregate, a transaction of the
tenant or one whose exception is decided on, whose product is named, or a transaction whose
product is not named. -/
inductive Origin (state next : State) (action : Action) : String × String × Event → Prop
  | other {aggregateType aggregateId : String} {event : Event} (htype : aggregateType ≠ "transaction") :
    Origin state next action (aggregateType, aggregateId, event)
  | labelled {id productId : String} {event : Event} (hkey : (id, action.tenantId, productId) ∈ next.keys)
    (hlabel : event.label jsonText = some productId) : Origin state next action ("transaction", id, event)
  | decision {id tenantId productId : String} {event : Event} (hcase : action.call.decidedOn state = some id)
    (hkey : (id, tenantId, productId) ∈ state.keys) (hlabel : event.label jsonText = some productId) :
    Origin state next action ("transaction", id, event)
  | unlabelled {id tenantId productId : String} {event : Event} (hcall : action.call.unlabelled = some id)
    (hkey : (id, tenantId, productId) ∈ state.keys) (hlabel : event.label jsonText = none) :
    Origin state next action ("transaction", id, event)

/-- What an accepted call writes. -/
structure Accounted (state next : State) (action : Action) (writes : Additions) : Prop where
  wrote : Added action.tenantId state next writes
  opened : ∀ key ∈ writes.opened, ∃ tenantId, (key.1, tenantId, key.2) ∈ next.keys
  proposed : ∀ id ∈ writes.proposed, ∃ tenantId productId, (id, tenantId, productId) ∈ next.keys
  events : ∀ event ∈ writes.events, Origin jsonText state next action event
  decided : ∀ id, action.call.decidedOn state = some id → ∃ event, ("transaction", id, event) ∈ writes.events
  unlabelled : ∀ id, action.call.unlabelled = some id →
    ∃ event, ("transaction", id, event) ∈ writes.events ∧ event.label jsonText = none

/-- The product that an event of a transaction names. -/
def Event.productId : Event → Option String
  | settled _ productId _ => some productId
  | exceptionOpened productId _ => some productId
  | resolutionProposed productId _ _ _ _ => some productId
  | decisionRecorded productId _ _ _ _ _ => some productId
  | prepared productId _ _ _ _ _ => some productId
  | proverJobQueued productId _ _ => some productId
  | proofAccepted _ _ productId _ _ => some productId
  | finalityProposed _ => none
  | finalityCancelled _ _ _ _ => none
  | finalitySettled productId _ _ _ _ => some productId
  | other _ _ => none

variable {jsonText}

theorem label_eq {event : Event} (h : ∀ eventType metadata, event ≠ .other eventType metadata) :
    event.label jsonText = event.productId := by
  cases event with
  | other eventType metadata => exact absurd rfl (h eventType metadata)
  | _ => simp [Event.label, memberText, memberOf, Event.metadata, Event.productId]

end Origins

section Settling

variable {platform : Platform} {state next : State} {tenantId settledAt : String} {settlement : Settlement}
  {registerFailure : Bool}

theorem settleTables_keys {found : Found} {transactions : TransactionTables} {db later : durable.Database}
    (h : settleTables settlement found registerFailure transactions db = .ok later) :
    tableKeys later.transactions = tableKeys transactions ∧
      later.exceptionCases.map (fun row => (row.transactionId, row.productId)) =
        db.exceptionCases.map (fun row => (row.transactionId, row.productId)) ++
          if registerFailure then [(settlement.transactionId, found.productId)] else [] := by
  unfold settleTables at h
  obtain ⟨committed, hcommitted, h⟩ := bind_eq_ok_iff.mp h
  have hsame := insertCommitment_same hcommitted
  cases registerFailure with
  | true =>
    obtain ⟨reserved, hreserved, h⟩ := bind_eq_ok_iff.mp h
    obtain ⟨reviewed, hreviewed, h⟩ := bind_eq_ok_iff.mp h
    have hmoved := (hsame.trans (dbThrough_same hreserved)).trans (dbTransition_same hreviewed)
    simp only [durable.Database.insertExceptionCase, bind_eq_ok_iff, pure_eq_ok_iff] at h
    obtain ⟨_, -, _, -, rfl⟩ := h
    refine ⟨hmoved.transactions, ?_⟩
    rw [List.map_append, hmoved.cases]
    rfl
  | false =>
    obtain ⟨registered, hregistered, h⟩ := bind_eq_ok_iff.mp h
    have hmoved := (hsame.trans (dbThrough_same hregistered)).trans (dbTransition_same h)
    exact ⟨hmoved.transactions, by simpa using hmoved.cases⟩

/-- What a settlement writes: nothing when its key was used, and else a transaction of the
tenant, an event that names its product, and a case if the registration fails. -/
inductive SettlementAdditions (tenantId : String) : Additions → Prop
  | replayed : SettlementAdditions tenantId {}
  | created {transactionId productId : String} {event : Event} (registerFailure : Bool)
    (hevent : event.productId = some productId) (hown : ∀ eventType metadata, event ≠ .other eventType metadata) :
    SettlementAdditions tenantId
      { created := [(transactionId, tenantId, productId)]
        opened := if registerFailure then [(transactionId, productId)] else []
        events := [("transaction", transactionId, event)] }

theorem settleInTransaction_wrote
    (h : settleInTransaction platform tenantId settlement settledAt registerFailure state = .ok next) :
    ∃ writes, SettlementAdditions tenantId writes ∧ Added tenantId state next writes := by
  unfold settleInTransaction at h
  split at h
  · obtain ⟨_, -, h⟩ := bind_eq_ok_iff.mp h
    obtain ⟨_, -, h⟩ := bind_eq_ok_iff.mp h
    obtain rfl := pure_eq_ok_iff.mp h
    exact ⟨{}, .replayed, Added.refl⟩
  · next hfresh =>
    obtain ⟨found, -, h⟩ := bind_eq_ok_iff.mp h
    obtain ⟨⟨created, row, transactions⟩, hcreated, h⟩ := bind_eq_ok_iff.mp h
    obtain ⟨db, hdb, h⟩ := bind_eq_ok_iff.mp h
    obtain ⟨⟨receiptHash, stored⟩, hstored, h⟩ := bind_eq_ok_iff.mp h
    obtain rfl := pure_eq_ok_iff.mp h
    have hkeys := createTransactionIntent_keys hcreated
    cases created with
    | false => exact absurd (hfresh.symm.trans hkeys.2) nofun
    | true =>
      obtain ⟨hnew, hkeys⟩ := hkeys
      obtain ⟨hsame, hcases⟩ := settleTables_keys hdb
      have hnext : State.keys { state with db } =
          state.keys ++ [(settlement.transactionId, tenantId, found.productId)] := hsame.trans hkeys
      have hwritten : Added tenantId state { state with db }
          { created := [(settlement.transactionId, tenantId, found.productId)]
            opened := if registerFailure then [(settlement.transactionId, found.productId)] else [] } := by
        refine ⟨hnext, fun hids => ?_, hcases, by simp, [], by simp⟩
        rw [hnext, List.map_append]
        refine List.Nodup.append hids (List.nodup_singleton _) (List.disjoint_singleton.mpr ?_)
        simpa [State.keys, settlementIntent] using hnew
      have hall := (hwritten.trans (@storeReceipt_wrote platform _ _ tenantId _ _ _ hstored)).trans
        (@recordTransactionEvent_wrote platform stored tenantId settlement.transactionId
          (if registerFailure then .exceptionOpened found.productId receiptHash
            else .settled settlement.type found.productId receiptHash))
      refine ⟨_, ?_, hall⟩
      simp only [Additions.append, List.append_nil, List.nil_append]
      refine .created registerFailure ?_ ?_
      · cases registerFailure <;> rfl
      · cases registerFailure <;> simp

end Settling

section Deciding

variable {platform : Platform} {state next : State} {tenantId caseId settledAt : String}

theorem findCase_mem {db : durable.Database} {row : ExceptionCase} (h : db.findCase caseId = some row) :
    row ∈ db.exceptionCases :=
  List.mem_of_find?_eq_some h

theorem proposeExceptionResolution_wrote {makerId : String} {decision : Decision}
    {replacementTransactionId : Option String}
    (h : proposeExceptionResolution platform tenantId caseId makerId decision replacementTransactionId state =
      .ok next) :
    ∃ row event, state.db.findCase caseId = some row ∧ event.productId = some row.productId ∧
      (∀ eventType metadata, event ≠ .other eventType metadata) ∧
        Added tenantId state next { events := [("transaction", row.transactionId, event)] } := by
  unfold proposeExceptionResolution at h
  obtain ⟨⟨row, db⟩, hproposed, h⟩ := bind_eq_ok_iff.mp h
  obtain ⟨moved, hmoved, h⟩ := bind_eq_ok_iff.mp h
  obtain rfl := pure_eq_ok_iff.mp h
  simp only [durable.Database.proposeExceptionResolution, bind_eq_ok_iff, require_eq_ok_iff, pure_eq_ok_iff,
    Option.filter_eq_some_iff] at hproposed
  obtain ⟨_, -, _, -, found, ⟨hfound, -⟩, approved, happroved, hrow⟩ := hproposed
  obtain ⟨rfl, rfl⟩ := Prod.mk.inj hrow
  have hsame := (insertApproval_same happroved).trans
    (@updateCase_same approved caseId
      (fun row => { row with status := .pendingApproval, approvalRound := found.approvalRound + 1 })
      fun _ => ⟨rfl, rfl⟩)
  have hall :=
    ((@SameKeys.wrote state tenantId _ hsame).trans (@stateTransition_wrote _ _ tenantId _ _ _ _ hmoved)).trans
    (@recordTransactionEvent_wrote platform moved tenantId found.transactionId
      (.resolutionProposed found.productId caseId (found.approvalRound + 1) decision makerId))
  refine ⟨found, .resolutionProposed found.productId caseId (found.approvalRound + 1) decision makerId, hfound, rfl,
    by simp, ?_⟩
  simpa [Additions.append] using hall

theorem reopen_same {db later : durable.Database} {row : ExceptionCase} {reasonCode : Option String}
    {checkerId : String} (h : db.reopen row reasonCode checkerId = .ok later) : SameKeys db later := by
  simp only [durable.Database.reopen, bind_eq_ok_iff] at h
  obtain ⟨moved, hmoved, h⟩ := h
  simp only [durable.Database.returnExceptionForReview, bind_eq_ok_iff, pure_eq_ok_iff] at h
  obtain ⟨_, -, rfl⟩ := h
  exact (dbTransition_same hmoved).trans (updateCase_same fun _ => ⟨rfl, rfl⟩)

theorem resolveExceptionCase_same {db later : durable.Database} {status : CaseStatus}
    {replacementTransactionId : Option String}
    (h : db.resolveExceptionCase caseId status replacementTransactionId = .ok later) : SameKeys db later := by
  simp only [durable.Database.resolveExceptionCase, bind_eq_ok_iff, pure_eq_ok_iff] at h
  obtain ⟨_, -, _, -, rfl⟩ := h
  exact updateCase_same fun _ => ⟨rfl, rfl⟩

/-- A decision that is recorded after a settlement, or after nothing. -/
private theorem decision_wrote {first : Additions} {middle : State} {row : ExceptionCase} {checkerId : String}
    {status : CaseStatus} {reasonCode : Option String} {db : durable.Database}
    (hfirst : Added tenantId state middle first) (hsame : SameKeys middle.db db) :
    ∃ event, event.productId = some row.productId ∧ (∀ eventType metadata, event ≠ .other eventType metadata) ∧
      Added tenantId state
        (recordExceptionDecision platform tenantId row checkerId status reasonCode { middle with db })
        (first.append { events := [("transaction", row.transactionId, event)] }) := by
  refine ⟨.decisionRecorded row.productId row.id row.approvalRound checkerId status reasonCode, rfl, by simp, ?_⟩
  have hall := (hfirst.trans (@SameKeys.wrote middle tenantId _ hsame)).trans
    (@recordTransactionEvent_wrote platform { middle with db } tenantId row.transactionId
      (.decisionRecorded row.productId row.id row.approvalRound checkerId status reasonCode))
  unfold recordExceptionDecision
  simpa [Additions.append] using hall

private theorem retryException_wrote {row : ExceptionCase} {maker : ApprovalRecord} {checkerId : String} {retry : Retry}
    (h : retryException platform tenantId row maker checkerId retry settledAt state = .ok next) :
    ∃ first event, SettlementAdditions tenantId first ∧ event.productId = some row.productId ∧
      (∀ eventType metadata, event ≠ .other eventType metadata) ∧
        Added tenantId state next (first.append { events := [("transaction", row.transactionId, event)] }) := by
  unfold retryException at h
  obtain ⟨original, -, h⟩ := bind_eq_ok_iff.mp h
  dsimp only at h
  split at h
  · obtain ⟨db, hreopened, h⟩ := bind_eq_ok_iff.mp h
    obtain rfl := pure_eq_ok_iff.mp h
    obtain ⟨event, hevent, hown, hwrote⟩ := @decision_wrote platform state tenantId {} state row checkerId _ _ db
      Added.refl (reopen_same hreopened)
    exact ⟨{}, event, .replayed, hevent, hown, hwrote⟩
  · next settled hsettled =>
    obtain ⟨replaced, hreplaced, h⟩ := bind_eq_ok_iff.mp h
    obtain ⟨db, hresolved, h⟩ := bind_eq_ok_iff.mp h
    obtain rfl := pure_eq_ok_iff.mp h
    obtain ⟨first, hfirst, hwrites⟩ := settleInTransaction_wrote hsettled
    have hmoved := hwrites.trans (@stateTransition_wrote _ _ tenantId _ _ _ _ hreplaced)
    obtain ⟨event, hevent, hown, hwrote⟩ := @decision_wrote platform state tenantId _ replaced row checkerId _ _ db
      hmoved (resolveExceptionCase_same hresolved)
    refine ⟨first, event, hfirst, hevent, hown, ?_⟩
    simpa [Additions.append] using hwrote

theorem approveExceptionResolution_wrote {checkerId : String} {decision : ApprovalDecision} {retry : Retry}
    (h : approveExceptionResolution platform tenantId caseId checkerId decision retry settledAt state = .ok next) :
    ∃ row first event, state.db.findCase caseId = some row ∧ SettlementAdditions tenantId first ∧
      event.productId = some row.productId ∧ (∀ eventType metadata, event ≠ .other eventType metadata) ∧
        Added tenantId state next (first.append { events := [("transaction", row.transactionId, event)] }) := by
  unfold approveExceptionResolution at h
  obtain ⟨⟨row, maker, db⟩, happroved, h⟩ := bind_eq_ok_iff.mp h
  simp only [durable.Database.approveExceptionResolution, bind_eq_ok_iff, require_eq_ok_iff, pure_eq_ok_iff,
    Option.filter_eq_some_iff] at happroved
  obtain ⟨_, -, found, ⟨hfound, -⟩, _, -, _, -, approved, happroved, hrow⟩ := happroved
  obtain ⟨hsameRow, hrow⟩ := Prod.mk.inj hrow
  rw [hsameRow] at hfound
  obtain ⟨rfl, rfl⟩ := Prod.mk.inj hrow
  have hsame := insertApproval_same happroved
  dsimp only at h
  split at h
  · obtain ⟨reopened, hreopened, h⟩ := bind_eq_ok_iff.mp h
    obtain rfl := pure_eq_ok_iff.mp h
    obtain ⟨event, hevent, hown, hwrote⟩ := @decision_wrote platform state tenantId {} state row checkerId _ _ reopened
      Added.refl (hsame.trans (reopen_same hreopened))
    exact ⟨row, {}, event, hfound, .replayed, hevent, hown, hwrote⟩
  · split at h
    · obtain ⟨cancelled, hcancelled, h⟩ := bind_eq_ok_iff.mp h
      obtain ⟨resolved, hresolved, h⟩ := bind_eq_ok_iff.mp h
      obtain rfl := pure_eq_ok_iff.mp h
      obtain ⟨event, hevent, hown, hwrote⟩ := @decision_wrote platform state tenantId
        {} state row checkerId _ _ resolved
        Added.refl ((hsame.trans (dbTransition_same hcancelled)).trans (resolveExceptionCase_same hresolved))
      exact ⟨row, {}, event, hfound, .replayed, hevent, hown, hwrote⟩
    · obtain ⟨first, event, hfirst, hevent, hown, hwrote⟩ := retryException_wrote h
      have hall := (@SameKeys.wrote state tenantId _ hsame).trans hwrote
      exact ⟨row, first, event, hfound, hfirst, hevent, hown, by simpa [Additions.append] using hall⟩

end Deciding

section Confidential

variable {platform : Platform} {state next : State} {tenantId transactionId settledAt : String}

theorem confidentialTransaction_key {current : TransactionState} {row : TransactionIntent}
    (h : state.confidentialTransaction tenantId transactionId current = .ok row) :
    (transactionId, tenantId, row.productId) ∈ state.keys := by
  simp only [State.confidentialTransaction, bind_eq_ok_iff, require_eq_ok_iff, pure_eq_ok_iff,
    Option.filter_eq_some_iff] at h
  obtain ⟨found, ⟨hfound, htenant⟩, _, -, rfl⟩ := h
  have hid : found.id = transactionId := by simpa using List.find?_some hfound
  have hsame : found.tenantId = tenantId := by simpa using htenant
  exact List.mem_map.mpr ⟨found, List.mem_of_find?_eq_some hfound, by rw [hid, hsame]⟩

theorem prepare_wrote {transfer : ConfidentialTransfer} (h : prepare platform tenantId transfer state = .ok next) :
    ∃ writes, SettlementAdditions tenantId writes ∧ Added tenantId state next writes := by
  unfold prepare at h
  obtain ⟨⟨created, row, transactions⟩, hcreated, h⟩ := bind_eq_ok_iff.mp h
  have hkeys := createTransactionIntent_keys hcreated
  cases created with
  | false =>
    obtain rfl := pure_eq_ok_iff.mp h
    exact ⟨{}, .replayed, Added.refl⟩
  | true =>
    obtain ⟨hnew, hkeys⟩ := hkeys
    obtain ⟨db, hdb, h⟩ := bind_eq_ok_iff.mp h
    obtain rfl := pure_eq_ok_iff.mp h
    have hsame := dbThrough_same hdb
    have hnext : State.keys { state with db } =
        state.keys ++ [(transfer.transactionId, tenantId, transfer.productId)] := hsame.transactions.trans hkeys
    have hwritten : Added tenantId state { state with db }
        { created := [(transfer.transactionId, tenantId, transfer.productId)] } := by
      have hcases : State.caseKeys { state with db } = state.caseKeys := hsame.cases
      refine ⟨hnext, fun hids => ?_, by rw [hcases, List.append_nil], by simp, [], by simp⟩
      rw [hnext, List.map_append]
      refine List.Nodup.append hids (List.nodup_singleton _) (List.disjoint_singleton.mpr ?_)
      simpa [State.keys] using hnew
    have hall :=
      hwritten.trans (@recordTransactionEvent_wrote platform { state with db } tenantId transfer.transactionId
      (.prepared transfer.productId transfer.contextId transfer.assetType transfer.circuitId transfer.circuitVersion
        transfer.expiresAt))
    exact ⟨_, .created false rfl (by simp), hall⟩

/-- The event of a transaction of the tenant that names its product. -/
structure RecordsOwn (tenantId : String) (state next : State) (writes : Additions) : Prop where
  wrote : Added tenantId state next writes
  events : writes.events = [] ∨ ∃ id productId event, writes.events = [("transaction", id, event)] ∧
    (id, tenantId, productId) ∈ state.keys ∧ event.productId = some productId ∧
      ∀ eventType metadata, event ≠ .other eventType metadata
  opened : writes.opened = []
  proposed : writes.proposed = []

theorem enqueueProverJob_records {jobId : String}
    (h : enqueueProverJob platform tenantId transactionId jobId state = .ok next) :
    ∃ writes, RecordsOwn tenantId state next writes := by
  unfold enqueueProverJob at h
  obtain ⟨row, hrow, h⟩ := bind_eq_ok_iff.mp h
  split at h
  · obtain rfl := pure_eq_ok_iff.mp h
    exact ⟨{}, Added.refl, Or.inl rfl, rfl, rfl⟩
  · obtain rfl := pure_eq_ok_iff.mp h
    have hqueued : Added tenantId state { state with proverJobs := state.proverJobs ++ [transactionId] } {} :=
      Added.of_same rfl rfl rfl rfl
    have hall := hqueued.trans (@recordTransactionEvent_wrote platform _ tenantId transactionId
      (.proverJobQueued row.productId transactionId jobId))
    exact ⟨_, hall, Or.inr ⟨transactionId, row.productId, .proverJobQueued row.productId transactionId jobId, rfl,
      confidentialTransaction_key hrow, rfl, by simp⟩, rfl, rfl⟩

theorem acceptProof_records {receiptId contextId merkleRoot : String} {verification : Verification}
    (h : acceptProof platform tenantId transactionId receiptId contextId merkleRoot verification settledAt state =
      .ok next) : ∃ writes, RecordsOwn tenantId state next writes := by
  unfold acceptProof at h
  obtain ⟨row, hrow, h⟩ := bind_eq_ok_iff.mp h
  obtain ⟨_, -, h⟩ := bind_eq_ok_iff.mp h
  obtain ⟨_, -, h⟩ := bind_eq_ok_iff.mp h
  obtain ⟨moved, hmoved, h⟩ := bind_eq_ok_iff.mp h
  obtain ⟨transactions, htransactions, h⟩ := bind_eq_ok_iff.mp h
  obtain rfl := pure_eq_ok_iff.mp h
  have hinserted : tableKeys transactions = tableKeys moved.db.transactions := by
    simp only [TransactionTables.insertSettlement, bind_eq_ok_iff, pure_eq_ok_iff] at htransactions
    obtain ⟨_, -, _, -, rfl⟩ := htransactions
    rfl
  have hstored : Added tenantId moved { moved with
      db := { moved.db with transactions }
      proofReceipts := moved.proofReceipts ++ [⟨receiptId, transactionId, contextId, merkleRoot, verification⟩]
      nullifiers := moved.nullifiers ++ [receiptId, receiptId]
      outputs := moved.outputs ++ [receiptId, receiptId]
      settlements := moved.settlements ++
        [⟨transactionId, receiptId, row.productId, contextId, merkleRoot, "CONFIDENTIAL_PROOF_REGISTRY"⟩] } {} :=
    Added.of_same hinserted rfl rfl rfl
  have hall := ((@stateTransition_wrote _ _ tenantId _ _ _ _ hmoved).trans hstored).trans
    (@recordTransactionEvent_wrote platform _ tenantId transactionId
      (.proofAccepted receiptId transactionId row.productId verification settledAt))
  exact ⟨_, hall, Or.inr ⟨transactionId, row.productId,
    .proofAccepted receiptId transactionId row.productId verification settledAt, rfl, confidentialTransaction_key hrow,
    rfl, by simp⟩, rfl, rfl⟩

theorem proposeFinalization_wrote {proposal : Proposal}
    (h : proposeFinalization platform tenantId proposal state = .ok next) :
    (∃ productId, (proposal.transactionId, tenantId, productId) ∈ state.keys) ∧ ∃ other,
      Added tenantId state next
        { proposed := [proposal.transactionId],
          events := [("transaction", proposal.transactionId, .finalityProposed other)] } := by
  unfold proposeFinalization at h
  obtain ⟨row, hrow, h⟩ := bind_eq_ok_iff.mp h
  obtain ⟨_, -, h⟩ := bind_eq_ok_iff.mp h
  obtain ⟨_, -, h⟩ := bind_eq_ok_iff.mp h
  obtain rfl := pure_eq_ok_iff.mp h
  refine ⟨⟨row.productId, confidentialTransaction_key hrow⟩, { proposal with tenantId, status := .pending }, ?_⟩
  have hproposed : Added tenantId state
      { state with proposals := state.proposals ++ [{ proposal with tenantId, status := .pending }] }
      { proposed := [proposal.transactionId] } :=
    ⟨by simp [State.keys], id, by simp [State.caseKeys], by simp, [], by simp⟩
  exact hproposed.trans recordTransactionEvent_wrote

private theorem setProposalStatus_wrote {proposalId : String} {status : rwa.gate.ProposalStatus} :
    Added tenantId state (state.setProposalStatus proposalId status) {} := by
  refine Added.of_same rfl rfl ?_ rfl
  unfold State.setProposalStatus
  rw [List.map_map]
  refine List.map_congr_left fun row _ => ?_
  by_cases hrow : row.id = proposalId ∧ row.status = .pending
  · simp [hrow]
  · rw [Function.comp_apply, if_neg hrow]

theorem cancelProposal_wrote {proposal : Proposal} {cancelledBy : Canceller} {reason : String} :
    Added tenantId state (cancelProposal platform tenantId proposal cancelledBy reason state)
      { events := [("transaction", proposal.transactionId,
        .finalityCancelled proposal.id proposal.transactionId cancelledBy reason)] } :=
  setProposalStatus_wrote.trans recordTransactionEvent_wrote

private theorem pendingProposal_some {proposal : Proposal}
    (h : state.pendingProposal tenantId transactionId = some proposal) :
    proposal ∈ state.proposals ∧ proposal.transactionId = transactionId := by
  have hselected := List.find?_some h
  simp only [Bool.and_eq_true, decide_eq_true_eq] at hselected
  exact ⟨List.mem_of_find?_eq_some h, hselected.1.1⟩

/-- A proposal is cancelled. -/
structure RecordsCancellation (tenantId transactionId : String) (state next : State) (writes : Additions) : Prop where
  wrote : Added tenantId state next writes
  proposal : ∃ proposal ∈ state.proposals, proposal.transactionId = transactionId
  events : ∃ proposalId cancelledBy reason, writes.events =
    [("transaction", transactionId, .finalityCancelled proposalId transactionId cancelledBy reason)]
  opened : writes.opened = []
  proposed : writes.proposed = []

theorem cancelFinalization_records {cancelledBy reason : String}
    (h : cancelFinalization platform tenantId transactionId cancelledBy reason state = .ok next) :
    ∃ writes, RecordsCancellation tenantId transactionId state next writes := by
  unfold cancelFinalization at h
  obtain ⟨proposal, hproposal, h⟩ := bind_eq_ok_iff.mp h
  obtain rfl := pure_eq_ok_iff.mp h
  obtain ⟨hmem, rfl⟩ := pendingProposal_some (require_eq_ok_iff.mp hproposal)
  exact ⟨_, cancelProposal_wrote, ⟨proposal, hmem, rfl⟩, ⟨_, _, _, rfl⟩, rfl, rfl⟩

theorem finalize_records {finalizedBy : String} {stale : Bool}
    (h : finalize platform tenantId transactionId finalizedBy stale settledAt state = .ok next) :
    ∃ writes, if stale then RecordsCancellation tenantId transactionId state next writes
      else RecordsOwn tenantId state next writes := by
  unfold finalize at h
  obtain ⟨row, hrow, h⟩ := bind_eq_ok_iff.mp h
  obtain ⟨settlement, -, h⟩ := bind_eq_ok_iff.mp h
  obtain ⟨proposal, hproposal, h⟩ := bind_eq_ok_iff.mp h
  obtain ⟨_, -, h⟩ := bind_eq_ok_iff.mp h
  obtain ⟨hmem, rfl⟩ := pendingProposal_some (require_eq_ok_iff.mp hproposal)
  cases stale with
  | true =>
    obtain rfl := pure_eq_ok_iff.mp h
    exact ⟨_, cancelProposal_wrote, ⟨proposal, hmem, rfl⟩, ⟨_, _, _, rfl⟩, rfl, rfl⟩
  | false =>
    dsimp only at h
    rw [if_neg (by decide)] at h
    obtain ⟨transactions, htransactions, h⟩ := bind_eq_ok_iff.mp h
    obtain ⟨settled, hsettled, h⟩ := bind_eq_ok_iff.mp h
    obtain ⟨⟨receiptHash, stored⟩, hstored, h⟩ := bind_eq_ok_iff.mp h
    obtain rfl := pure_eq_ok_iff.mp h
    have hfinal : tableKeys transactions = tableKeys state.db.transactions := by
      simp only [TransactionTables.finalizeSettlement, bind_eq_ok_iff, pure_eq_ok_iff] at htransactions
      obtain ⟨_, -, rfl⟩ := htransactions
      rfl
    have hentered := (@setProposalStatus_wrote state tenantId proposal.id .approved).trans
      (@Added.of_same _ { state.setProposalStatus proposal.id .approved with
        db := { state.db with transactions }
        settlements := state.settlements.map (enterLedger proposal.transactionId) } tenantId hfinal rfl rfl rfl)
    have hall := ((hentered.trans (@stateTransition_wrote _ _ tenantId _ _ _ _ hsettled)).trans
      (@storeReceipt_wrote platform _ _ tenantId _ _ _ hstored)).trans
      (@recordTransactionEvent_wrote platform stored tenantId proposal.transactionId
        (.finalitySettled row.productId settlement.proofReceiptId settlement.merkleRoot proposal receiptHash))
    exact ⟨_, hall, Or.inr ⟨proposal.transactionId, row.productId,
      .finalitySettled row.productId settlement.proofReceiptId settlement.merkleRoot proposal receiptHash, rfl,
      confidentialTransaction_key hrow, rfl, by simp⟩, rfl, rfl⟩

end Confidential

end rwa.transaction_evidence
