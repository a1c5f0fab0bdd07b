import RwaControlPlane.Library.Related
import RwaControlPlane.ReadModel.TransactionPackage

open checked js_value related
open rwa.storage (Platform TransactionIntent TransactionTables StateChange readModelCanonicalize)
open rwa.durable (ApprovalRecord)
open rwa.read_model (Role)

namespace rwa.transaction_evidence

section Mask

variable (rename requests : String → String)

/-- An intent with its request hash replaced, and without its other hash and the
text of its ciphertext. -/
def maskIntent (row : TransactionIntent) : TransactionIntent :=
  { row with requestHash := requests row.requestHash, policySnapshotHash := "", privatePayloadCiphertext := "" }

/-- A change without the one who made it. -/
def maskChange (row : StateChange) : StateChange := { row with actorRef := none }

def maskApproval (row : ApprovalRecord) : ApprovalRecord := { row with actorRef := rename row.actorRef }

def ZkSettlement.mask (row : ZkSettlement) : ZkSettlement := { row with merkleRoot := "" }

def Verification.mask (verification : Verification) : Verification :=
  { verification with verificationKeyHash := "", proofHash := "", publicSignalsHash := "" }

def ProofReceipt.mask (row : ProofReceipt) : ProofReceipt :=
  { row with merkleRoot := "", verification := row.verification.mask }

def Proposal.mask (proposal : Proposal) : Proposal :=
  { proposal with outputMerkleRoot := "", baseMerkleRoot := "", proposedBy := rename proposal.proposedBy }

def Canceller.mask : Canceller → Canceller
  | actor cancelledBy => actor (rename cancelledBy)
  | staleBaseRoot => staleBaseRoot

/-- An event with its identities replaced, and without its hashes and times. -/
def Event.mask : Event → Event
  | settled type productId _ => settled type productId ""
  | exceptionOpened productId _ => exceptionOpened productId ""
  | resolutionProposed productId caseId approvalRound decision makerId =>
    resolutionProposed productId caseId approvalRound decision (rename makerId)
  | decisionRecorded productId caseId approvalRound checkerId state reasonCode =>
    decisionRecorded productId caseId approvalRound (rename checkerId) state reasonCode
  | prepared productId contextId assetType circuitId circuitVersion _ =>
    prepared productId contextId assetType circuitId circuitVersion ""
  | proverJobQueued productId transactionId jobId => proverJobQueued productId transactionId jobId
  | proofAccepted receiptId transactionId productId verification _ =>
    proofAccepted receiptId transactionId productId verification.mask ""
  | finalityProposed proposal => finalityProposed (proposal.mask rename)
  | finalityCancelled proposalId transactionId cancelledBy reason =>
    finalityCancelled proposalId transactionId (cancelledBy.mask rename) reason
  | finalitySettled productId proofReceiptId _ proposal _ =>
    finalitySettled productId proofReceiptId "" (proposal.mask rename) ""
  | other eventType metadata => other eventType metadata

/-- A row of the audit table. Of other aggregates than transactions nothing
remains but the place. -/
def AuditRow.mask (row : AuditRow) : AuditRow :=
  if row.aggregateType = "transaction" then
    { row with event := row.event.mask rename, previousHash := row.previousHash.map fun _ => "", eventHash := "" }
  else { row with aggregateId := "", event := .other "" .null, previousHash := none, eventHash := "" }

/-- Transaction tables that differ in the actors and the hashes only. -/
structure TablesAlike (tables other : TransactionTables) : Prop where
  intents : tables.intents.map (maskIntent requests) = other.intents.map (maskIntent id)
  stateHistory : tables.stateHistory.map maskChange = other.stateHistory.map maskChange
  finality : tables.zkSettlements = other.zkSettlements

/-- Workflow tables that differ in the identities and the hashes only. -/
structure DatabaseAlike (db other : durable.Database) : Prop where
  transactions : TablesAlike requests db.transactions other.transactions
  commitments : db.commitments = other.commitments
  exceptionCases : db.exceptionCases = other.exceptionCases
  approvals : db.approvals.map (maskApproval rename) = other.approvals.map (maskApproval id)

/-- Two states that differ in the identities, the hashes and the times only. -/
structure Alike (state other : State) : Prop where
  db : DatabaseAlike rename requests state.db other.db
  receiptHashes : state.receiptHashes.map Prod.fst = other.receiptHashes.map Prod.fst
  settlements : state.settlements.map ZkSettlement.mask = other.settlements.map ZkSettlement.mask
  proofReceipts : state.proofReceipts.map ProofReceipt.mask = other.proofReceipts.map ProofReceipt.mask
  nullifiers : state.nullifiers = other.nullifiers
  outputs : state.outputs = other.outputs
  proposals : state.proposals.map (Proposal.mask rename) = other.proposals.map (Proposal.mask id)
  proverJobs : state.proverJobs = other.proverJobs
  reconciliations : state.reconciliations = other.reconciliations
  audit : state.audit.map (AuditRow.mask rename) = other.audit.map (AuditRow.mask id)

end Mask

section Blank

variable {rename : String → String}

@[simp] theorem blankItems_eq_map {items : List JsValue} : blankItems items = items.map blankHashes := by
  induction items with
  | nil => rfl
  | cons item rest ih => rw [blankItems, ih, List.map_cons]

theorem blankMembers_append {members others : List (String × JsValue)} :
    blankMembers (members ++ others) = blankMembers members ++ blankMembers others := by
  induction members with
  | nil => rfl
  | cons member rest ih =>
    obtain ⟨key, item⟩ := member
    rw [List.cons_append, blankMembers, blankMembers, ih, List.cons_append]

private theorem hasBigInt_eraseText {value : JsValue} : hasBigInt (eraseText value) = hasBigInt value := by
  cases value <;> rfl

mutual

/-- A blank is a text where there was one, so no BigInt goes. -/
theorem hasBigInt_blankHashes : ∀ value, hasBigInt (blankHashes value) = hasBigInt value
  | .undefined | .null | .notFinite | .bool _ | .number _ | .bigint _ | .string _ | .date _ => rfl
  | .array items => hasBigInt_blankItems items
  | .object members => hasBigInt_blankMembers members
termination_by structural value => value

theorem hasBigInt_blankItems : ∀ items, hasBigIntItems (blankItems items) = hasBigIntItems items
  | [] => rfl
  | item :: rest => by
    rw [blankItems, hasBigIntItems, hasBigIntItems, hasBigInt_blankHashes item, hasBigInt_blankItems rest]
termination_by structural items => items

theorem hasBigInt_blankMembers : ∀ members, hasBigIntMembers (blankMembers members) = hasBigIntMembers members
  | [] => rfl
  | (key, item) :: rest => by
    rw [blankMembers, hasBigIntMembers, hasBigIntMembers, hasBigInt_blankMembers rest]
    split
    · rw [hasBigInt_eraseText, hasBigInt_blankHashes item]
    · rw [hasBigInt_blankHashes item]
termination_by structural members => members

end

mutual

/-- Redaction brings no BigInt in. -/
theorem hasBigInt_redactIdentifiers : ∀ value, hasBigInt value = false → hasBigInt (redactIdentifiers value) = false
  | .undefined | .null | .notFinite | .bool _ | .number _ | .bigint _ | .string _ => fun h => h
  | .date _ => fun _ => rfl
  | .array items => hasBigInt_redactItems items
  | .object members => hasBigInt_redactMembers members
termination_by structural value => value

theorem hasBigInt_redactItems : ∀ items, hasBigIntItems items = false → hasBigIntItems (redactItems items) = false
  | [] => fun h => h
  | item :: rest => by
    intro h
    rw [hasBigIntItems, Bool.or_eq_false_iff] at h
    rw [redactItems, hasBigIntItems, hasBigInt_redactIdentifiers item h.1, hasBigInt_redactItems rest h.2]
    rfl
termination_by structural items => items

theorem hasBigInt_redactMembers :
    ∀ members, hasBigIntMembers members = false → hasBigIntMembers (redactMembers members) = false
  | [] => fun h => h
  | (key, item) :: rest => by
    intro h
    rw [hasBigIntMembers, Bool.or_eq_false_iff] at h
    rw [redactMembers, hasBigIntMembers, hasBigInt_redactMembers rest h.2, Bool.or_false]
    split
    · rfl
    · exact hasBigInt_redactIdentifiers item h.1
termination_by structural members => members

end

end Blank

section Canonical

variable {platform : Platform}

/-- What becomes of writing a value with or without a BigInt. -/
private def written (bigInt : Bool) : Except String Unit :=
  if bigInt then .error "Do not know how to serialize a BigInt" else .ok ()

/-- A value is written before the rest, and neither may hold a BigInt. -/
private theorem written_or {α β γ : Type} {first : Except String α} {rest : Except String β} {result : α → β → γ}
    {value others : Bool} (hfirst : first.map (fun _ => ()) = written value)
    (hrest : rest.map (fun _ => ()) = written others) :
    (do let head ← first; let tail ← rest; pure (result head tail) : Except String γ).map (fun _ => ()) =
      written (value || others) := by
  cases value with
  | true =>
    cases first with
    | error message => exact hfirst
    | ok head => cases hfirst
  | false =>
    cases first with
    | error message => cases hfirst
    | ok head =>
      rw [Bool.false_or, ← hrest]
      cases rest <;> rfl

mutual

/-- A canonical text fails exactly for a BigInt, always in the same way. -/
private theorem readModelCanonicalize_written :
    ∀ value, (readModelCanonicalize platform value).map (fun _ => ()) = written (hasBigInt value)
  | .undefined | .null | .notFinite | .bool _ | .number _ | .bigint _ | .string _ | .date _ => rfl
  | .array items => by
    have hitems := readModelItems_written items
    rw [hasBigInt, ← hitems, readModelCanonicalize]
    cases rwa.storage.readModelItems platform items <;> rfl
  | .object members => by
    have hmembers := readModelMembers_written members
    rw [hasBigInt, ← hmembers, readModelCanonicalize]
    cases rwa.storage.readModelMembers platform members <;> rfl
termination_by structural value => value

private theorem readModelItems_written :
    ∀ items, (rwa.storage.readModelItems platform items).map (fun _ => ()) = written (hasBigIntItems items)
  | [] => rfl
  | item :: rest => by
    rw [hasBigIntItems, rwa.storage.readModelItems]
    exact written_or (readModelCanonicalize_written item) (readModelItems_written rest)
termination_by structural items => items

private theorem readModelMembers_written :
    ∀ members, (rwa.storage.readModelMembers platform members).map (fun _ => ()) = written (hasBigIntMembers members)
  | [] => rfl
  | (key, item) :: rest => by
    rw [hasBigIntMembers, rwa.storage.readModelMembers]
    exact written_or (readModelCanonicalize_written item) (readModelMembers_written rest)
termination_by structural members => members

end

/-- Objects that are blanked alike can be written alike. -/
theorem readModelCanonicalize_alike {members others : List (String × JsValue)}
    (h : blankMembers members = blankMembers others) :
    (readModelCanonicalize platform (.object members)).map (fun _ => ()) =
      (readModelCanonicalize platform (.object others)).map fun _ => () := by
  have hbig : hasBigIntMembers members = hasBigIntMembers others := by
    rw [← hasBigInt_blankMembers members, h, hasBigInt_blankMembers others]
  rw [readModelCanonicalize_written, readModelCanonicalize_written, hasBigInt, hasBigInt, hbig]

end Canonical

section Events

variable {rename : String → String}

/-- The identity that the redacted metadata of an event still show. -/
def Event.disclosed : Event → Option String
  | resolutionProposed _ _ _ _ makerId => some makerId
  | decisionRecorded _ _ _ checkerId _ _ => some checkerId
  | finalityCancelled _ _ (.actor cancelledBy) _ => some cancelledBy
  | _ => none

@[simp] theorem Event.mask_eventType {event : Event} : (event.mask rename).eventType = event.eventType := by
  cases event with
  | settled type => cases type <;> rfl
  | decisionRecorded productId caseId approvalRound checkerId state => cases state <;> rfl
  | _ => rfl

@[simp] theorem Event.mask_disclosed {event : Event} :
    (event.mask rename).disclosed = event.disclosed.map rename := by
  cases event with
  | finalityCancelled proposalId transactionId cancelledBy => cases cancelledBy <;> rfl
  | _ => rfl

/-- The metadata of an event, as a package shows them, without their hashes and
times. -/
def Event.shown (event : Event) : JsValue := blankHashes (redactIdentifiers event.metadata)

/-- The masks change nothing that is shown of an event without a disclosed
identity. -/
theorem Event.shown_mask {event : Event} (h : event.disclosed = none) :
    (event.mask rename).shown = event.shown := by
  cases event with
  | finalityCancelled proposalId transactionId cancelledBy =>
    cases cancelledBy with
    | actor => cases h
    | staleBaseRoot => rfl
  | resolutionProposed => cases h
  | decisionRecorded => cases h
  | _ => rfl

/-- Two events that are masked alike are shown alike exactly if the disclosed
identity is the same in both. -/
theorem Event.shown_eq_iff {event other : Event} (h : event.mask rename = other.mask id) :
    event.shown = other.shown ↔ ∀ identity ∈ event.disclosed, rename identity = identity := by
  cases hdisclosed : event.disclosed with
  | none =>
    have hother : other.disclosed = none := by
      have hmask := congrArg Event.disclosed h
      rw [mask_disclosed, mask_disclosed, hdisclosed] at hmask
      simpa using hmask.symm
    rw [← shown_mask hdisclosed, h, shown_mask hother]
    simp
  | some identity =>
    cases event with
    | resolutionProposed =>
      obtain rfl := Option.some.inj hdisclosed
      cases other with
      | resolutionProposed =>
        simp only [mask, Event.resolutionProposed.injEq, id] at h
        obtain ⟨rfl, rfl, rfl, rfl, rfl⟩ := h
        simp [shown, metadata, redactIdentifiers, redactMembers, blankHashes, blankMembers, identifierKeys, hashKeys,
          isNull, eq_comm]
      | _ => cases h
    | decisionRecorded =>
      obtain rfl := Option.some.inj hdisclosed
      cases other with
      | decisionRecorded =>
        simp only [mask, Event.decisionRecorded.injEq, id] at h
        obtain ⟨rfl, rfl, rfl, rfl, rfl, rfl⟩ := h
        simp [shown, metadata, redactIdentifiers, redactMembers, blankHashes, blankMembers, identifierKeys, hashKeys,
          isNull, eq_comm]
      | _ => cases h
    | finalityCancelled proposalId transactionId cancelledBy =>
      cases cancelledBy with
      | staleBaseRoot => cases hdisclosed
      | actor cancelledBy =>
        obtain rfl := Option.some.inj hdisclosed
        cases other with
        | finalityCancelled _ _ canceller =>
          cases canceller with
          | staleBaseRoot => simp [mask, Canceller.mask] at h
          | actor =>
            simp only [mask, Canceller.mask, Event.finalityCancelled.injEq, Canceller.actor.injEq, id] at h
            obtain ⟨rfl, rfl, rfl, rfl⟩ := h
            simp [shown, metadata, redactIdentifiers, redactMembers, blankHashes, blankMembers, identifierKeys,
              hashKeys, isNull, Canceller.text, eq_comm]
        | _ => cases h
    | _ => cases hdisclosed

end Events

section Packages

variable {rename requests : String → String} {state other : State} {tenantId transactionId : String}

private theorem blank_auditJson {row : AuditRow} :
    blankHashes (auditJson false row) = .object [("sequence", .number row.sequenceId),
      ("type", .string row.event.eventType), ("metadata", row.event.shown),
      ("previousHash", eraseText (blankHashes (nullable row.previousHash))), ("eventHash", .string "")] := by
  simp [auditJson, Event.shown, blankHashes, blankMembers, hashKeys, eraseText]

/-- Two rows of a transaction that are masked alike are shown alike exactly if
the disclosed identity is the same in both. -/
theorem auditJson_eq_iff {row counterpart : AuditRow} (htransaction : row.aggregateType = "transaction")
    (h : row.mask rename = counterpart.mask id) :
    blankHashes (auditJson false row) = blankHashes (auditJson false counterpart) ↔
      ∀ identity ∈ row.event.disclosed, rename identity = identity := by
  have hother : counterpart.aggregateType = "transaction" := by
    by_contra hother
    have htype := congrArg AuditRow.aggregateType h
    rw [AuditRow.mask, AuditRow.mask, if_pos htransaction, if_neg hother] at htype
    exact hother (htype.symm.trans htransaction)
  rw [AuditRow.mask, AuditRow.mask, if_pos htransaction, if_pos hother, AuditRow.mk.injEq] at h
  obtain ⟨hsequence, -, -, -, hevent, hprevious, -⟩ := h
  have htype : row.event.eventType = counterpart.event.eventType := by
    have hmask := congrArg Event.eventType hevent
    rwa [Event.mask_eventType, Event.mask_eventType] at hmask
  have hblank : eraseText (blankHashes (nullable row.previousHash)) =
      eraseText (blankHashes (nullable counterpart.previousHash)) := by
    cases hrow : row.previousHash <;> cases hcounterpart : counterpart.previousHash <;>
      simp [hrow, hcounterpart] at hprevious <;> rfl
  rw [← Event.shown_eq_iff hevent, blank_auditJson, blank_auditJson, hsequence, htype, hblank]
  simp

theorem auditOf_alike (h : Alike rename requests state other) :
    (state.auditOf tenantId transactionId).map (AuditRow.mask rename) =
      (other.auditOf tenantId transactionId).map (AuditRow.mask id) := by
  let selects (row : AuditRow) : Bool :=
    row.tenantId = tenantId && row.aggregateType = "transaction" && row.aggregateId = transactionId
  have hmask (rename : String → String) (row : AuditRow) : selects row = selects (row.mask rename) := by
    by_cases htransaction : row.aggregateType = "transaction"
    · simp [selects, AuditRow.mask, htransaction]
    · simp [selects, AuditRow.mask, htransaction]
  exact map_filter_eq h.audit (hmask rename) (hmask id)

/-- The audit chains of two states that are alike are shown alike exactly if the
disclosed identities are the same in both. -/
theorem auditChain_eq_iff (h : Alike rename requests state other) :
    ((state.auditOf tenantId transactionId).map fun row => blankHashes (auditJson false row)) =
        ((other.auditOf tenantId transactionId).map fun row => blankHashes (auditJson false row)) ↔
      ∀ row ∈ state.auditOf tenantId transactionId, ∀ identity ∈ row.event.disclosed, rename identity = identity := by
  refine map_eq_map_iff_of_alike (auditOf_alike h) fun row hrow counterpart hmask => auditJson_eq_iff ?_ hmask
  have hselected := List.of_mem_filter hrow
  simp only [Bool.and_eq_true, decide_eq_true_eq] at hselected
  exact hselected.1.2

@[simp] private theorem blankHashes_nullable {text : Option String} : blankHashes (nullable text) = nullable text := by
  cases text <;> rfl

/-- The hash of a receipt shows only whether there is one. -/
private theorem receiptHash_blank (h : Alike rename requests state other) :
    eraseText (nullable ((state.receiptHashes.find? (·.1 = transactionId)).map Prod.snd)) =
      eraseText (nullable ((other.receiptHashes.find? (·.1 = transactionId)).map Prod.snd)) := by
  let selects (transaction : String) : Bool := transaction = transactionId
  have hfound := @both_find _ _ _ _ _ _ _ (fun row => selects row.1) (fun row => selects row.1) selects
    h.receiptHashes (fun _ => rfl) fun _ => rfl
  simp only [selects] at hfound
  cases hstate : state.receiptHashes.find? (·.1 = transactionId) <;>
    cases hother : other.receiptHashes.find? (·.1 = transactionId)
  · rfl
  · rw [hstate, hother] at hfound
    exact hfound.elim
  · rw [hstate, hother] at hfound
    exact hfound.elim
  · rfl

private theorem settlement_alike (h : Alike rename requests state other) :
    (state.settlements.find? (·.transactionId = transactionId)).map ZkSettlement.mask =
      (other.settlements.find? (·.transactionId = transactionId)).map ZkSettlement.mask := by
  have hmask (rows : List ZkSettlement) : (rows.find? (·.transactionId = transactionId)).map ZkSettlement.mask =
      (rows.map ZkSettlement.mask).find? (·.transactionId = transactionId) := by
    rw [List.find?_map]
    rfl
  rw [hmask, hmask, h.settlements]

private theorem proof_alike (h : Alike rename requests state other) :
    (state.proofReceipts.find? (·.transactionId = transactionId)).map ProofReceipt.mask =
      (other.proofReceipts.find? (·.transactionId = transactionId)).map ProofReceipt.mask := by
  have hmask (rows : List ProofReceipt) : (rows.find? (·.transactionId = transactionId)).map ProofReceipt.mask =
      (rows.map ProofReceipt.mask).find? (·.transactionId = transactionId) := by
    rw [List.find?_map]
    rfl
  rw [hmask, hmask, h.proofReceipts]

/-- The columns of a transaction are shown alike. -/
private theorem transactionJson_blank (h : Alike rename requests state other) {row counterpart : TransactionIntent}
    (hrow : maskIntent requests row = maskIntent id counterpart) :
    blankHashes (transactionJson state row) = blankHashes (transactionJson other counterpart) := by
  simp only [maskIntent, TransactionIntent.mk.injEq] at hrow
  obtain ⟨hid, -, hproduct, -, -, htype, hcurrent, hrule, hnav, -, -, hrail, -⟩ := hrow
  have hsettlement := @settlement_alike _ _ _ _ counterpart.id h
  have hdomain : (state.settlements.find? (·.transactionId = counterpart.id)).map (·.finalityDomain) =
      (other.settlements.find? (·.transactionId = counterpart.id)).map (·.finalityDomain) := by
    simpa [Function.comp_def, ZkSettlement.mask] using congrArg (Option.map (·.finalityDomain)) hsettlement
  have hsome : (state.settlements.find? (·.transactionId = counterpart.id)).isSome =
      (other.settlements.find? (·.transactionId = counterpart.id)).isSome := by
    simpa only [Option.isSome_map] using congrArg Option.isSome hsettlement
  have hreceipt := @receiptHash_blank _ _ _ _ counterpart.id h
  simp only [transactionJson, hid, hproduct, htype, hcurrent, hrule, hnav, hrail, h.db.transactions.finality,
    hdomain, hsome, blankHashes, blankMembers, blankHashes_nullable, hreceipt]
  simp [hashKeys, eraseText]

private theorem proofJson_blank (h : Alike rename requests state other) {row counterpart : ProofReceipt}
    (hrow : row.mask = counterpart.mask) :
    blankHashes (proofJson state row) = blankHashes (proofJson other counterpart) := by
  simp only [ProofReceipt.mask, Verification.mask, ProofReceipt.mk.injEq, Verification.mk.injEq] at hrow
  obtain ⟨hid, -, hcontext, -, hcircuit, hversion, -, -, -⟩ := hrow
  simp [proofJson, hid, hcontext, hcircuit, hversion, h.nullifiers, h.outputs, blankHashes, blankMembers, hashKeys,
    eraseText]

private theorem stateChangeJson_alike (h : Alike rename requests state other) :
    (state.db.transactions.historyOf transactionId).map (stateChangeJson false) =
      (other.db.transactions.historyOf transactionId).map (stateChangeJson false) := by
  let selects (row : StateChange) : Bool := row.transactionId = transactionId
  have hselects (row : StateChange) : selects row = selects (maskChange row) := rfl
  have hchange (row : StateChange) : stateChangeJson false row = stateChangeJson false (maskChange row) := rfl
  exact map_key_eq (map_filter_eq h.db.transactions.stateHistory hselects hselects) hchange hchange

/-- What a package says of a transaction is shown alike exactly if the disclosed
identities are the same in both states. -/
theorem evidenceMembers_eq_iff (h : Alike rename requests state other) {row counterpart : TransactionIntent}
    (hrow : maskIntent requests row = maskIntent id counterpart) :
    blankMembers (evidenceMembers state tenantId false row) =
        blankMembers (evidenceMembers other tenantId false counterpart) ↔
      ∀ entry ∈ state.auditOf tenantId row.id, ∀ identity ∈ entry.event.disclosed, rename identity = identity := by
  have hid : row.id = counterpart.id := by simpa [maskIntent] using congrArg TransactionIntent.id hrow
  have hproof :
    blankHashes (((state.proofReceipts.find? (·.transactionId = row.id)).map (proofJson state)).getD .null) =
      blankHashes (((other.proofReceipts.find? (·.transactionId = row.id)).map (proofJson other)).getD .null) := by
    have hfound := @proof_alike _ _ _ _ row.id h
    cases hstate : state.proofReceipts.find? (·.transactionId = row.id) <;>
      cases hother : other.proofReceipts.find? (·.transactionId = row.id) <;> rw [hstate, hother] at hfound
    · rfl
    · simp at hfound
    · simp at hfound
    · exact proofJson_blank h (Option.some.inj hfound)
  rw [← auditChain_eq_iff h]
  simp only [evidenceMembers, blankMembers, transactionJson_blank h hrow, ← hid, stateChangeJson_alike h,
    h.db.commitments, h.reconciliations, hproof, blankHashes, blankItems_eq_map, List.map_map]
  simp [hashKeys, Function.comp_def]

/-- The transaction of a tenant. -/
def State.intentOf (state : State) (tenantId transactionId : String) : Option TransactionIntent :=
  (state.db.transactions.find transactionId).filter (·.tenantId = tenantId)

theorem TablesAlike.find {tables others : TransactionTables} (h : TablesAlike requests tables others) :
    Both (fun row counterpart => maskIntent requests row = maskIntent id counterpart)
      (tables.find transactionId) (others.find transactionId) := by
  let selects (row : TransactionIntent) : Bool := row.id = transactionId
  have hselects (requests : String → String) (row : TransactionIntent) :
      selects row = selects (maskIntent requests row) := rfl
  exact both_find h.intents (hselects requests) (hselects id)

theorem both_intentOf (h : Alike rename requests state other) :
    Both (fun row counterpart => maskIntent requests row = maskIntent id counterpart)
      (state.intentOf tenantId transactionId) (other.intentOf tenantId transactionId) := by
  have hfound := @TablesAlike.find _ transactionId _ _ h.db.transactions
  unfold State.intentOf
  cases hstate : state.db.transactions.find transactionId <;>
    cases hother : other.db.transactions.find transactionId <;> rw [hstate, hother] at hfound
  · trivial
  · exact hfound.elim
  · exact hfound.elim
  · rename_i row counterpart
    have htenant : row.tenantId = counterpart.tenantId := by
      simpa [maskIntent] using congrArg TransactionIntent.tenantId hfound
    by_cases hrow : row.tenantId = tenantId
    · simpa [Option.filter, hrow, ← htenant] using hfound
    · simp [Option.filter, hrow, ← htenant, Both]

/-- What the issuer and the supervisor are given of a transaction. -/
theorem package_eq (platform : Platform) {role : Role} (hrole : role = .issuer ∨ role = .supervisor)
    (institutionId : Option String) :
    transactionEvidencePackage platform state tenantId transactionId role institutionId = (do
      let row ← require (state.intentOf tenantId transactionId) ⟨"UNKNOWN_TRANSACTION", "transaction not found"⟩
      let members := evidenceMembers state tenantId false row
      let text ← rethrow (⟨"", ·⟩) (readModelCanonicalize platform (.object members))
      pure (.object (members ++ [("packageHash", .string (platform.sha256 (text.getD "undefined"))),
        ("disclosure", .string "NO_PRIVATE_ECONOMICS_IDENTIFIERS_REDACTED")]))) := by
  obtain rfl | rfl := hrole <;>
    simp [transactionEvidencePackage, State.intentOf, throwIf, disclosesOperationalIdentifiers, bind, Except.bind]

/-- A package of events without BigInts has none. -/
private theorem evidenceMembers_noBigInt {row : TransactionIntent}
    (hstate : ∀ entry ∈ state.audit, hasBigInt entry.event.metadata = false) :
    hasBigIntMembers (evidenceMembers state tenantId false row) = false := by
  have hnullable (text : Option String) : hasBigInt (nullable text) = false := by cases text <;> rfl
  have hhistory (item : StateChange) : hasBigInt (stateChangeJson false item) = false := by
    simp [stateChangeJson, hasBigInt, hasBigIntMembers, hnullable]
  have hexternal (item : ExternalReconciliation) : hasBigInt (reconciliationJson item) = false := by
    simp [reconciliationJson, hasBigInt, hasBigIntMembers, hnullable]
  have hcommitment : hasBigInt
      (((state.db.commitments.find? (·.transactionId = row.id)).map commitmentJson).getD .null) = false := by
    cases state.db.commitments.find? (·.transactionId = row.id) <;> rfl
  have hproof : hasBigInt
      (((state.proofReceipts.find? (·.transactionId = row.id)).map (proofJson state)).getD .null) = false := by
    cases state.proofReceipts.find? (·.transactionId = row.id) <;> rfl
  have haudit (item : AuditRow) (hitem : item ∈ state.auditOf tenantId row.id) :
      hasBigInt (auditJson false item) = false := by
    have hmetadata := hasBigInt_redactIdentifiers _ (hstate item (List.mem_filter.mp hitem).1)
    simp [auditJson, hasBigInt, hasBigIntMembers, hnullable, hmetadata]
  have htransaction : hasBigInt (transactionJson state row) = false := by
    simp only [transactionJson, hasBigInt, hasBigIntMembers, hnullable, Bool.false_or]
    split <;> rfl
  simp only [evidenceMembers, hasBigInt, hasBigIntMembers, hcommitment, hproof, htransaction, Bool.false_or,
    Bool.or_false, Bool.or_eq_false_iff]
  refine ⟨?_, ?_, ?_⟩ <;> apply hasBigIntItems_of_forall <;> intro item hitem <;>
    obtain ⟨source, hsource, rfl⟩ := List.mem_map.mp hitem
  · exact hhistory source
  · exact hexternal source
  · exact haudit source hsource

/-- The packages of two states that are alike differ in hashes and times only,
exactly if the disclosed identities are the same in both. -/
theorem package_eq_iff (platform : Platform) (h : Alike rename requests state other)
    (hstate : ∀ entry ∈ state.audit, hasBigInt entry.event.metadata = false) {role : Role}
    (hrole : role = .issuer ∨ role = .supervisor) (institutionId : Option String) :
    (transactionEvidencePackage platform state tenantId transactionId role institutionId).map blankHashes =
        (transactionEvidencePackage platform other tenantId transactionId role institutionId).map blankHashes ↔
      ((state.intentOf tenantId transactionId).isSome →
        ∀ entry ∈ state.auditOf tenantId transactionId, ∀ identity ∈ entry.event.disclosed,
          rename identity = identity) := by
  rw [package_eq platform hrole, package_eq platform hrole]
  have hfound := @both_intentOf _ _ _ _ tenantId transactionId h
  cases hrow : state.intentOf tenantId transactionId <;>
    cases hother : other.intentOf tenantId transactionId <;> rw [hrow, hother] at hfound
  · simp [require, bind, Except.bind, Except.map]
  · exact hfound.elim
  · exact hfound.elim
  · rename_i row counterpart
    have hid : row.id = transactionId := by
      have hmem := List.find?_some (Option.filter_eq_some_iff.mp hrow).1
      simpa using hmem
    have hmembers := @evidenceMembers_eq_iff _ _ _ _ tenantId h _ _ hfound
    rw [hid] at hmembers
    simp only [Option.isSome_some, forall_const]
    rw [← hmembers]
    obtain ⟨text, htext⟩ : ∃ text, readModelCanonicalize platform
        (.object (evidenceMembers state tenantId false row)) = .ok text := by
      have hwritten := @readModelCanonicalize_written platform (.object (evidenceMembers state tenantId false row))
      rw [hasBigInt, evidenceMembers_noBigInt hstate] at hwritten
      cases htext : readModelCanonicalize platform (.object (evidenceMembers state tenantId false row)) with
      | error message => rw [htext] at hwritten; cases hwritten
      | ok text => exact ⟨text, rfl⟩
    constructor
    · intro hpackages
      cases hcounterpart : readModelCanonicalize platform (.object (evidenceMembers other tenantId false counterpart))
        with
      | error message =>
        simp [require, htext, hcounterpart, rethrow, bind, Except.bind, Except.map, pure, Except.pure] at hpackages
      | ok written =>
        simp only [require, htext, hcounterpart, rethrow, bind, Except.bind, Except.map, pure, Except.pure,
          Except.ok.injEq, blankHashes, JsValue.object.injEq, blankMembers_append] at hpackages
        exact List.append_inj_left' hpackages rfl
    · intro hblank
      have halike := @readModelCanonicalize_alike platform _ _ hblank
      rw [htext] at halike
      cases hcounterpart : readModelCanonicalize platform (.object (evidenceMembers other tenantId false counterpart))
        with
      | error message => rw [hcounterpart] at halike; cases halike
      | ok written =>
        simp only [require, htext, hcounterpart, rethrow, bind, Except.bind, Except.map, pure, Except.pure,
          blankHashes, blankMembers_append, hblank]
        rfl

end Packages

end rwa.transaction_evidence
