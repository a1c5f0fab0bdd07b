import RwaControlPlane.Gate.Preparation

open checked rwa.security

namespace rwa.gate

section Held

/-- The row that an idempotency key of a tenant names. -/
def KeyedDatabase.findKey (keyed : KeyedDatabase) (tenantId idempotencyKey : String) : Option IntentKey :=
  keyed.keys.find? fun key => key.tenantId = tenantId && key.idempotencyKey = idempotencyKey

/-- What a row of `transaction_intents` keeps when its state changes. -/
def TransactionIntent.SameIntent (row other : TransactionIntent) : Prop :=
  { row with currentState := other.currentState } = other

/-- A key holds a confidential transaction with its instruction. -/
structure KeyedDatabase.Holds (keyed : KeyedDatabase) (tenantId idempotencyKey : String)
    (transaction : TransactionIntent) (instruction : ExecutionInstruction) : Prop where
  keyRow : ∃ row, keyed.findKey tenantId idempotencyKey = some row ∧ row.transactionId = transaction.id
  transactionRow : ∃ row, keyed.db.transactions.find? (·.id = transaction.id) = some row ∧ row.SameIntent transaction
  rail : transaction.settlementRail = .confidentialNote
  instructionRow : keyed.db.findInstruction transaction.id = some instruction

variable {keyed next : KeyedDatabase} {request : PrepareRequest} {requestHash : String}
  {confidential : ConfidentialRequest} {context : ProductContext} {transaction : TransactionIntent}
  {instruction : ExecutionInstruction} {prepared : PreparedTransfer}

/-- Where the key of a request holds a transaction, the request is answered with it
or refused. -/
theorem enter_of_holds (h : keyed.Holds request.tenantId request.idempotencyKey transaction instruction) :
    ∃ state, enter request requestHash confidential context keyed =
      if transaction.requestHash = requestHash ∧
          transaction.originatingInstitutionId = some request.originatingInstitutionId then
        .ok ({ transactionId := transaction.id, state, contextId := context.contextId, assetType := context.assetType,
               expiresAt := instruction.expiresAt, created := false }, keyed)
      else .error idempotencyConflict := by
  obtain ⟨key, hkey, hkeyId⟩ := h.keyRow
  obtain ⟨row, hrow, hsame⟩ := h.transactionRow
  obtain ⟨hid, hhash, hrail, hinstitution⟩ : row.id = transaction.id ∧ row.requestHash = transaction.requestHash ∧
      row.settlementRail = transaction.settlementRail ∧
      row.originatingInstitutionId = transaction.originatingInstitutionId := by
    rw [← hsame]
    exact ⟨rfl, rfl, rfl, rfl⟩
  have hfound : keyed.keys.find? (fun key => key.tenantId = (request.transaction requestHash).tenantId &&
      key.idempotencyKey = request.idempotencyKey) = some key := hkey
  have hinstruction : (keyed.db.findInstruction transaction.id).filter
      (fun _ => row.settlementRail = .confidentialNote) = some instruction := by
    rw [h.instructionRow, hrail, h.rail]
    rfl
  refine ⟨row.currentState, ?_⟩
  unfold enter createTransactionIntent
  rw [hfound, ← hhash, ← hinstitution]
  simp only [hkeyId, hrow, require, bind, Except.bind]
  by_cases hmatch : row.requestHash = requestHash ∧
      row.originatingInstitutionId = some request.originatingInstitutionId
  · have hmismatch : ¬(row.requestHash ≠ (request.transaction requestHash).requestHash ∨
        row.originatingInstitutionId ≠ (request.transaction requestHash).originatingInstitutionId) := by
      rintro (hhash | hinstitution)
      · exact hhash hmatch.1
      · exact hinstitution hmatch.2
    simp only [throwIf, if_neg hmismatch, if_pos hmatch, pure, Except.pure, if_true, hid, hinstruction]
  · have hmismatch : row.requestHash ≠ (request.transaction requestHash).requestHash ∨
        row.originatingInstitutionId ≠ (request.transaction requestHash).originatingInstitutionId := by
      by_cases hhash : row.requestHash = requestHash
      · exact Or.inr fun hinstitution => hmatch ⟨hhash, hinstitution⟩
      · exact Or.inl hhash
    simp only [throwIf, if_pos hmismatch, if_neg hmatch, idempotencyConflict]

/-- A transaction is found in its new state. -/
theorem find_setState {db : Database} {transactionId other : String} {toState : TransactionState} :
    (db.setState transactionId toState).transactions.find? (·.id = other) =
      (db.transactions.find? (·.id = other)).map fun row =>
        if row.id = transactionId then { row with currentState := toState } else row := by
  have hids : ((fun row : TransactionIntent => decide (row.id = other)) ∘ fun row =>
      if row.id = transactionId then { row with currentState := toState }
        else row) = fun row => decide (row.id = other) := by
    funext row
    simp only [Function.comp_apply]
    split <;> rfl
  rw [Database.setState, List.find?_map, hids]

private theorem find_concat {α : Type} {rows : List α} {row : α} {condition : α → Bool}
    (hrows : ∀ other ∈ rows, condition other = false) (hrow : condition row = true) :
    (rows ++ [row]).find? condition = some row := by
  rw [List.find?_append, List.find?_eq_none.mpr (by simpa using hrows), List.find?_singleton, if_pos hrow]
  rfl

/-- An answered request has its key hold what it was answered with. -/
theorem holds_of_enter (h : enter request requestHash confidential context keyed = .ok (prepared, next)) :
    ∃ transaction instruction, next.Holds request.tenantId request.idempotencyKey transaction instruction ∧
      transaction.id = prepared.transactionId ∧ instruction.expiresAt = prepared.expiresAt ∧
      transaction.requestHash = requestHash ∧
      transaction.originatingInstitutionId = some request.originatingInstitutionId := by
  unfold enter at h
  obtain ⟨⟨created, row, middle⟩, hintent, h⟩ := bind_eq_ok_iff.mp h
  unfold createTransactionIntent at hintent
  split at hintent
  · next hnone =>
    simp only [bind_eq_ok_iff, throwIf_eq_ok_iff, exists_unit, pure_eq_ok_iff, Prod.mk.injEq] at hintent
    obtain ⟨hfresh, rfl, rfl, rfl⟩ := hintent
    simp only [Bool.true_eq_false, if_false, bind_eq_ok_iff, pure_eq_ok_iff, Prod.mk.injEq] at h
    obtain ⟨inserted, hinserted, checked, hchecked, moved, hmoved, rfl, rfl⟩ := h
    simp only [Database.insertInstruction, bind_eq_ok_iff, throwIf_eq_ok_iff, exists_unit, pure_eq_ok_iff] at hinserted
    obtain ⟨hinstruction, rfl⟩ := hinserted
    obtain rfl := transitionTransaction_ok hchecked
    obtain rfl := transitionTransaction_ok hmoved
    have hnoKey : ∀ key ∈ keyed.keys,
        (decide (key.tenantId = request.tenantId) && decide (key.idempotencyKey = request.idempotencyKey)) = false := by
      intro key hkey
      exact Bool.eq_false_iff.mpr (List.find?_eq_none.mp hnone key hkey)
    have hnoTransaction : ∀ other ∈ keyed.db.transactions, decide (other.id = request.transactionId) = false :=
      fun other hother => decide_eq_false fun hid => hfresh (List.mem_map.mpr ⟨other, hother, hid⟩)
    have hnoInstruction : ∀ other ∈ keyed.db.instructions,
        decide (other.transactionId = request.transactionId) = false :=
      fun other hother => decide_eq_false fun hid => hinstruction (List.mem_map.mpr ⟨other, hother, hid⟩)
    have hfound := @find_concat _ _ (request.transaction requestHash) _ hnoTransaction (decide_eq_true rfl)
    refine ⟨request.transaction requestHash, _,
      { keyRow := ⟨_, find_concat hnoKey ?_, rfl⟩
        transactionRow := ?_
        rail := rfl
        instructionRow := find_concat hnoInstruction (decide_eq_true rfl) }, rfl, rfl, rfl, rfl⟩
    · exact Bool.and_eq_true_iff.mpr ⟨decide_eq_true rfl, decide_eq_true rfl⟩
    · rw [find_setState, find_setState]
      refine ⟨_, congrArg (Option.map _) (congrArg (Option.map _) hfound), ?_⟩
      simp [TransactionIntent.SameIntent, PrepareRequest.transaction]
  · next key hkey =>
    simp only [bind_eq_ok_iff, require_eq_ok_iff, throwIf_eq_ok_iff, exists_unit, pure_eq_ok_iff,
      Prod.mk.injEq] at hintent
    obtain ⟨existing, hexisting, hmatch, rfl, rfl, rfl⟩ := hintent
    simp only [if_true, bind_eq_ok_iff, require_eq_ok_iff, pure_eq_ok_iff, Prod.mk.injEq] at h
    obtain ⟨instruction, hinstruction, rfl, rfl⟩ := h
    obtain ⟨hfound, hrail⟩ := Option.filter_eq_some_iff.mp hinstruction
    have hid : existing.id = key.transactionId := by simpa using List.find?_some hexisting
    simp only [not_or, not_not] at hmatch
    exact ⟨existing, instruction,
      { keyRow := ⟨key, hkey, hid.symm⟩
        transactionRow := ⟨existing, hid ▸ hexisting, rfl⟩
        rail := by simpa using hrail
        instructionRow := hfound }, rfl, rfl, hmatch.1, hmatch.2⟩

end Held

section Runs

variable {Proof : Type}

/-- The rail with the idempotency keys of its transactions. -/
structure PreparingState (Proof : Type) where
  rail : GateState Proof
  keys : List IntentKey

/-- The tables that a preparation reads and writes. -/
def PreparingState.keyed (state : PreparingState Proof) : KeyedDatabase where
  db := state.rail.db
  keys := state.keys

def PreparingState.commit (state : PreparingState Proof) (keyed : KeyedDatabase) : PreparingState Proof where
  rail := { state.rail with db := keyed.db }
  keys := keyed.keys

/-- One step: a preparation, a transaction of another service with its idempotency
key, or a step of the gate, of its governance or of the services around it. -/
inductive PreparingAction (Proof : Type)
  | prepare (service : ConfidentialTransferService) (request : PrepareRequest) (now : Int)
  | createTransactionIntent (row : TransactionIntent) (idempotencyKey : String)
  | other (action : Action Proof)

def PreparingState.step (gate : ZkSettlementGate Proof) (state : PreparingState Proof) :
    PreparingAction Proof → PreparingState Proof
  | .prepare service request now =>
    match rwa.gate.prepare service request now state.keyed with
    | .ok (_, next) => state.commit next
    | .error _ => state
  | .createTransactionIntent row idempotencyKey =>
    match rwa.gate.createTransactionIntent state.keyed { row with currentState := .requested } idempotencyKey with
    | .ok (_, _, next) => state.commit next
    | .error _ => state
  | .other action => { state with rail := rwa.gate.step gate state.rail action }

/-- Keys, transactions and instructions stay what they were. -/
structure KeyedDatabase.Kept (first second : KeyedDatabase) : Prop where
  keys : ∀ tenantId idempotencyKey row, first.findKey tenantId idempotencyKey = some row →
    second.findKey tenantId idempotencyKey = some row
  transactions : ∀ transactionId row, first.db.transactions.find? (·.id = transactionId) = some row →
    ∃ later, second.db.transactions.find? (·.id = transactionId) = some later ∧ later.SameIntent row
  instructions : ∀ transactionId row, first.db.findInstruction transactionId = some row →
    second.db.findInstruction transactionId = some row

namespace KeyedDatabase.Kept

variable {first second third : KeyedDatabase}

theorem refl (keyed : KeyedDatabase) : Kept keyed keyed :=
  ⟨fun _ _ _ h => h, fun _ row h => ⟨row, h, rfl⟩, fun _ _ h => h⟩

theorem trans (h : Kept first second) (h' : Kept second third) : Kept first third where
  keys := fun tenantId idempotencyKey row hrow => h'.keys _ _ _ (h.keys tenantId idempotencyKey row hrow)
  transactions := by
    intro transactionId row hrow
    obtain ⟨later, hlater, hsame⟩ := h.transactions transactionId row hrow
    obtain ⟨last, hlast, hsame'⟩ := h'.transactions transactionId later hlater
    refine ⟨last, hlast, ?_⟩
    rw [TransactionIntent.SameIntent, ← hsame, ← hsame']
  instructions := fun transactionId row hrow => h'.instructions _ _ (h.instructions transactionId row hrow)

/-- What a key holds, it holds later. -/
theorem holds (h : Kept first second) {tenantId idempotencyKey : String} {transaction : TransactionIntent}
    {instruction : ExecutionInstruction} (hfirst : first.Holds tenantId idempotencyKey transaction instruction) :
    second.Holds tenantId idempotencyKey transaction instruction := by
  obtain ⟨key, hkey, hid⟩ := hfirst.keyRow
  obtain ⟨row, hrow, hsame⟩ := hfirst.transactionRow
  obtain ⟨later, hlater, hsame'⟩ := h.transactions _ row hrow
  exact
    { keyRow := ⟨key, h.keys _ _ key hkey, hid⟩
      transactionRow := ⟨later, hlater, by rw [TransactionIntent.SameIntent, ← hsame, ← hsame']⟩
      rail := hfirst.rail
      instructionRow := h.instructions _ _ hfirst.instructionRow }

end KeyedDatabase.Kept

/-- The rows of `transaction_intents` have different ids. -/
def Database.TransactionIds (db : Database) : Prop := (db.transactions.map TransactionIntent.id).Nodup

private theorem transactionIds_concat {db : Database} {row : TransactionIntent}
    {instructions : List ExecutionInstruction} (h : db.TransactionIds) (hfresh : row.id ∉ db.transactions.map (·.id)) :
    ({ db with transactions := db.transactions ++ [row], instructions } : Database).TransactionIds := by
  unfold Database.TransactionIds
  rw [List.map_append, List.nodup_append]
  refine ⟨h, List.nodup_singleton _, ?_⟩
  rintro id hid _ hrow rfl
  rw [List.map_singleton, List.mem_singleton] at hrow
  exact hfresh (hrow ▸ hid)

private theorem kept_setState {db : Database} {keys : List IntentKey} {transactionId : String}
    {toState : TransactionState} : KeyedDatabase.Kept ⟨db, keys⟩ ⟨db.setState transactionId toState, keys⟩ where
  keys := fun _ _ _ h => h
  transactions := by
    intro id row hrow
    have hsame : TransactionIntent.SameIntent
        (if row.id = transactionId then { row with currentState := toState } else row) row := by
      unfold TransactionIntent.SameIntent
      split <;> rfl
    exact ⟨_, by rw [find_setState, hrow]; rfl, hsame⟩
  instructions := fun _ _ h => h

private theorem kept_insert {first second : KeyedDatabase} {added : List IntentKey} {rows : List TransactionIntent}
    {instructions : List ExecutionInstruction} (hkeys : second.keys = first.keys ++ added)
    (hrows : second.db.transactions = first.db.transactions ++ rows)
    (hinstructions : second.db.instructions = first.db.instructions ++ instructions) :
    first.Kept second where
  keys := by
    intro tenantId idempotencyKey row h
    unfold KeyedDatabase.findKey at h ⊢
    rw [hkeys, List.find?_append, h]
    rfl
  transactions := by
    intro id row h
    refine ⟨row, ?_, rfl⟩
    rw [hrows, List.find?_append, h]
    rfl
  instructions := by
    intro id row h
    unfold Database.findInstruction at h ⊢
    rw [hinstructions, List.find?_append]
    exact Option.or_eq_some_iff.mpr (Or.inl h)

/-- Every change of the rail keeps keys, transactions and instructions. -/
private theorem Commit.kept {gate : ZkSettlementGate Proof} {calls : List (AcceptCall Proof)} {db next : Database}
    {events : List Event} {keys : List IntentKey} (h : Commit gate calls db next events) (hids : db.TransactionIds) :
    next.TransactionIds ∧ KeyedDatabase.Kept ⟨db, keys⟩ ⟨next, keys⟩ := by
  have hset {transactionId : String} {toState : TransactionState} :
      (db.setState transactionId toState).TransactionIds := by
    unfold Database.TransactionIds
    rw [map_id_setState]
    exact hids
  cases h with
  | record acceptance =>
    obtain ⟨hkeys, htransactions, hinstructions⟩ := @kept_setState db keys acceptance.transactionId .rootPending
    exact ⟨hset, hkeys, htransactions, hinstructions⟩
  | publish publication =>
    obtain ⟨hkeys, htransactions, hinstructions⟩ := @kept_setState db keys publication.transactionId .settled
    exact ⟨hset, hkeys, htransactions, hinstructions⟩
  | transition => exact ⟨hset, kept_setState⟩
  | insertTransaction transaction instructions howned hfresh =>
    exact ⟨transactionIds_concat hids hfresh, kept_insert (List.append_nil keys).symm rfl rfl⟩
  | _ => exact ⟨hids, fun _ _ _ h => h, fun _ row h => ⟨row, h, rfl⟩, fun _ _ h => h⟩

private theorem createTransactionIntent_kept {keyed next : KeyedDatabase} {row transaction : TransactionIntent}
    {idempotencyKey : String} {created : Bool} (hids : keyed.db.TransactionIds)
    (h : createTransactionIntent keyed row idempotencyKey = .ok (created, transaction, next)) :
    next.db.TransactionIds ∧ keyed.Kept next := by
  unfold createTransactionIntent at h
  split at h
  · simp only [bind_eq_ok_iff, throwIf_eq_ok_iff, exists_unit, pure_eq_ok_iff, Prod.mk.injEq] at h
    obtain ⟨hfresh, -, -, rfl⟩ := h
    exact ⟨transactionIds_concat hids hfresh, kept_insert rfl rfl (List.append_nil _).symm⟩
  · simp only [bind_eq_ok_iff, throwIf_eq_ok_iff, exists_unit, pure_eq_ok_iff, Prod.mk.injEq] at h
    obtain ⟨-, -, -, -, -, rfl⟩ := h
    exact ⟨hids, .refl _⟩

/-- A preparation keeps keys, transactions and instructions. -/
theorem prepare_kept {service : ConfidentialTransferService} {request : PrepareRequest} {now : Int}
    {keyed next : KeyedDatabase} {prepared : PreparedTransfer} (hids : keyed.db.TransactionIds)
    (h : prepare service request now keyed = .ok (prepared, next)) : next.db.TransactionIds ∧ keyed.Kept next := by
  rw [prepare_eq] at h
  obtain ⟨⟨confidential, context⟩, -, henter⟩ := bind_eq_ok_iff.mp h
  unfold enter at henter
  obtain ⟨⟨created, row, middle⟩, hintent, henter⟩ := bind_eq_ok_iff.mp henter
  obtain ⟨hmiddle, hkept⟩ := createTransactionIntent_kept hids hintent
  cases created with
  | false =>
    simp only [if_true, bind_eq_ok_iff, pure_eq_ok_iff, Prod.mk.injEq] at henter
    obtain ⟨-, -, -, rfl⟩ := henter
    exact ⟨hmiddle, hkept⟩
  | true =>
    simp only [Bool.true_eq_false, if_false, bind_eq_ok_iff, pure_eq_ok_iff, Prod.mk.injEq] at henter
    obtain ⟨inserted, hinserted, checked, hchecked, moved, hmoved, -, rfl⟩ := henter
    simp only [Database.insertInstruction, bind_eq_ok_iff, throwIf_eq_ok_iff, exists_unit, pure_eq_ok_iff] at hinserted
    obtain ⟨-, rfl⟩ := hinserted
    obtain rfl := transitionTransaction_ok hchecked
    obtain rfl := transitionTransaction_ok hmoved
    refine ⟨?_, hkept.trans ?_⟩
    · unfold Database.TransactionIds
      rw [map_id_setState, map_id_setState]
      exact hmiddle
    · have hinsert (row : ExecutionInstruction) :
          middle.Kept ⟨{ middle.db with instructions := middle.db.instructions ++ [row] }, middle.keys⟩ :=
        kept_insert (List.append_nil _).symm (List.append_nil _).symm rfl
      exact (hinsert _).trans (kept_setState.trans kept_setState)

/-- Every step keeps keys, transactions and instructions. -/
theorem step_kept {gate : ZkSettlementGate Proof} {state : PreparingState Proof} {action : PreparingAction Proof}
    (hids : state.rail.db.TransactionIds) :
    (state.step gate action).rail.db.TransactionIds ∧ state.keyed.Kept (state.step gate action).keyed := by
  cases action with
  | prepare service request now =>
    simp only [PreparingState.step]
    split
    · next prepared next h => exact prepare_kept hids h
    · exact ⟨hids, .refl _⟩
  | createTransactionIntent row idempotencyKey =>
    simp only [PreparingState.step]
    split
    · next created transaction next h => exact createTransactionIntent_kept hids h
    · exact ⟨hids, .refl _⟩
  | other action =>
    obtain ⟨events, hcommit, -⟩ := step_commits gate state.rail action hids
    exact hcommit.kept hids

/-- Whatever happens, keys, transactions and instructions stay what they were. -/
theorem run_kept {gate : ZkSettlementGate Proof} {state : PreparingState Proof} (hids : state.rail.db.TransactionIds)
    (actions : List (PreparingAction Proof)) :
    state.keyed.Kept (runs.run (PreparingState.step gate) state actions).keyed := by
  induction actions generalizing state with
  | nil => exact .refl _
  | cons action actions ih =>
    obtain ⟨hnext, hkept⟩ := @step_kept _ gate state action hids
    exact hkept.trans (ih hnext)

end Runs

section Retry

variable {Value Proof : Type}

/-- A prepare command. Its field elements and its expiry are any values, which
`String` and `Date` read. -/
structure PrepareCommand (Value : Type) where
  transactionId : Option String
  idempotencyKey : String
  productId : String
  fee : Value
  recipient : Value
  relayer : Value
  expiresAt : Value
  senderInvestorId : String
  senderCredentialId : String
  recipientInvestorId : String
  recipientCredentialId : String

/-- Who gives a command. -/
structure Caller where
  principalId : String
  tenantId : String
  institutionId : String

/-- `String(value ?? "")` and `new Date(value)` -/
structure ValueReader (Value : Type) where
  text : Value → String
  time : Value → Option Int

/-- The arguments of `prepare`. A command without a transaction id takes a new one. -/
def PrepareCommand.request (reader : ValueReader Value) (command : PrepareCommand Value) (caller : Caller)
    (uuid : String) : PrepareRequest where
  transactionId := command.transactionId.getD ("zk-transfer:" ++ uuid)
  idempotencyKey := command.idempotencyKey
  productId := command.productId
  fee := reader.text command.fee
  recipient := reader.text command.recipient
  relayer := reader.text command.relayer
  authorizedBy := caller.principalId
  tenantId := caller.tenantId
  expiresAt := reader.time command.expiresAt
  senderInvestorId := command.senderInvestorId
  senderCredentialId := command.senderCredentialId
  recipientInvestorId := command.recipientInvestorId
  recipientCredentialId := command.recipientCredentialId
  originatingInstitutionId := caller.institutionId

/-- How a later command with the same key has to be answered: the same command with
the transaction that was prepared and its instruction, and any other with a
conflict. Nothing changes either way. -/
structure Idempotent (command other : PrepareCommand Value) (prepared : PreparedTransfer) (first later : KeyedDatabase)
    (result : Except Failure (PreparedTransfer × KeyedDatabase)) : Prop where
  same : other = command → ∃ answer, result = .ok (answer, later) ∧ answer.transactionId = prepared.transactionId ∧
    answer.expiresAt = prepared.expiresAt ∧ answer.created = false ∧
    later.db.findInstruction answer.transactionId = first.db.findInstruction answer.transactionId
  different : other ≠ command → ∃ failure, result = .error failure ∧ failure.code = "IDEMPOTENCY_CONFLICT"

/-- Two requests that differ in their actor at most. -/
def PrepareRequest.SameAs (request other : PrepareRequest) : Prop :=
  { request with authorizedBy := other.authorizedBy } = other

/-- The checks of a preparation, which come before the key is looked up, pass. -/
def Passes (service : ConfidentialTransferService) (request : PrepareRequest) (now : Int) (db : Database) : Prop :=
  ∃ confidential context, preparation service request now db = .ok (confidential, context)

/-- Requests of one key are hashed alike exactly if they differ in their actor at most. -/
private theorem reads_eq_iff {request other : PrepareRequest} {confidential read : ConfidentialRequest}
    (hrequest : request.Reads confidential) (hother : other.Reads read)
    (hkey : other.idempotencyKey = request.idempotencyKey) (htenant : other.tenantId = request.tenantId)
    (hinstitution : other.originatingInstitutionId = request.originatingInstitutionId) :
    read = confidential ↔ other.SameAs request := by
  constructor
  · rintro rfl
    have hfields : other = { request with authorizedBy := other.authorizedBy } := by
      rw [PrepareRequest.mk.injEq]
      exact ⟨hother.transactionId.trans hrequest.transactionId.symm, hkey,
        hother.productId.trans hrequest.productId.symm, hother.fee.trans hrequest.fee.symm,
        hother.recipient.trans hrequest.recipient.symm, hother.relayer.trans hrequest.relayer.symm, rfl, htenant,
        hother.expiresAt.trans hrequest.expiresAt.symm, hother.senderInvestorId.trans hrequest.senderInvestorId.symm,
        hother.senderCredentialId.trans hrequest.senderCredentialId.symm,
        hother.recipientInvestorId.trans hrequest.recipientInvestorId.symm,
        hother.recipientCredentialId.trans hrequest.recipientCredentialId.symm, hinstitution⟩
    unfold PrepareRequest.SameAs
    rw [hfields]
  · intro hsame
    rw [← hsame] at hrequest
    rw [ConfidentialRequest.mk.injEq]
    exact ⟨hother.transactionId.symm.trans hrequest.transactionId, hother.productId.symm.trans hrequest.productId,
      toText_injective (hother.fee.symm.trans hrequest.fee),
      toText_injective (hother.recipient.symm.trans hrequest.recipient),
      toText_injective (hother.relayer.symm.trans hrequest.relayer),
      Option.some.inj (hother.expiresAt.symm.trans hrequest.expiresAt),
      hother.senderInvestorId.symm.trans hrequest.senderInvestorId,
      hother.senderCredentialId.symm.trans hrequest.senderCredentialId,
      hother.recipientInvestorId.symm.trans hrequest.recipientInvestorId,
      hother.recipientCredentialId.symm.trans hrequest.recipientCredentialId⟩

/-- The same command is the same request exactly if it names its transaction. -/
private theorem sameAs_self_iff {reader : ValueReader Value} {command : PrepareCommand Value}
    {caller otherCaller : Caller} {uuid otherUuid : String} (htenant : otherCaller.tenantId = caller.tenantId)
    (hinstitution : otherCaller.institutionId = caller.institutionId) (huuid : otherUuid ≠ uuid) :
    (command.request reader otherCaller otherUuid).SameAs (command.request reader caller uuid) ↔
      command.transactionId.isSome = true := by
  constructor
  · intro hsame
    have hid := congrArg PrepareRequest.transactionId hsame
    cases hnamed : command.transactionId with
    | some named => rfl
    | none =>
      simp only [PrepareCommand.request, hnamed, Option.getD_none] at hid
      exact absurd ((String.append_right_inj _).mp hid) huuid
  · intro hnamed
    obtain ⟨named, hid⟩ := Option.isSome_iff_exists.mp hnamed
    simp only [PrepareRequest.SameAs, PrepareCommand.request, hid, Option.getD_some, htenant, hinstitution]

/-- A later command with the key of a preparation is answered as it has to be, exactly
if the checks before the lookup of the key still pass, the command named its
transaction itself, and no other command is read as the same request. -/
theorem prepare_idempotent_iff (reader : ValueReader Value) (gate : ZkSettlementGate Proof)
    (service : ConfidentialTransferService) {state : PreparingState Proof} (hids : state.rail.db.TransactionIds)
    {command other : PrepareCommand Value} {caller otherCaller : Caller} {uuid otherUuid : String} {now later : Int}
    {prepared : PreparedTransfer} {first : KeyedDatabase}
    (hprepared : prepare service (command.request reader caller uuid) now state.keyed = .ok (prepared, first))
    (actions : List (PreparingAction Proof)) (hkey : other.idempotencyKey = command.idempotencyKey)
    (htenant : otherCaller.tenantId = caller.tenantId) (hinstitution : otherCaller.institutionId = caller.institutionId)
    (huuid : otherUuid ≠ uuid)
    (hinj : Set.InjOn service.requestHash
      {confidential | (command.request reader caller uuid).Reads confidential ∨
        (other.request reader otherCaller otherUuid).Reads confidential}) :
    let final := runs.run (PreparingState.step gate) (state.commit first) actions
    let request := other.request reader otherCaller otherUuid
    Idempotent command other prepared first final.keyed (prepare service request later final.keyed) ↔
      Passes service request later final.rail.db ∧ (other = command → command.transactionId.isSome = true) ∧
        (other ≠ command → ¬request.SameAs (command.request reader caller uuid)) := by
  intro final request
  have hkept := prepare_kept hids hprepared
  rw [prepare_eq] at hprepared
  obtain ⟨⟨confidential, context⟩, hpreparation, henter⟩ := bind_eq_ok_iff.mp hprepared
  obtain ⟨transaction, instruction, hholds, hid, hexpiry, hhash, horigin⟩ := holds_of_enter henter
  have hfinal : final.keyed.Holds request.tenantId request.idempotencyKey transaction instruction := by
    have hrun : (state.commit first).keyed.Kept final.keyed := run_kept hkept.1 actions
    have hlater := hrun.holds hholds
    rwa [show (command.request reader caller uuid).tenantId = request.tenantId from htenant.symm,
      show (command.request reader caller uuid).idempotencyKey = request.idempotencyKey from hkey.symm] at hlater
  have hread := preparation_reads hpreparation
  rw [prepare_eq]
  cases hpass : preparation service request later final.keyed.db with
  | error failure =>
    refine iff_of_false ?_ ?_
    · intro hidempotent
      by_cases hother : other = command
      · obtain ⟨answer, hanswer, -⟩ := hidempotent.same hother
        cases hanswer
      · obtain ⟨raised, hraised, hcode⟩ := hidempotent.different hother
        cases hraised
        exact preparation_noConflict failure hpass hcode
    · rintro ⟨⟨read, found, hok⟩, -⟩
      rw [show final.rail.db = final.keyed.db from rfl, hpass] at hok
      cases hok
  | ok checked =>
    obtain ⟨read, found⟩ := checked
    have hpasses : Passes service request later final.rail.db := ⟨read, found, hpass⟩
    have hother := preparation_reads hpass
    have hsame : transaction.requestHash = service.requestHash read ↔
        request.SameAs (command.request reader caller uuid) := by
      rw [← reads_eq_iff hread hother hkey htenant hinstitution, hhash]
      exact ⟨fun h => (hinj (Or.inl hread) (Or.inr hother) h).symm, fun h => by rw [h]⟩
    have horigin' : transaction.originatingInstitutionId = some request.originatingInstitutionId := by
      rw [horigin]
      exact congrArg some hinstitution.symm
    obtain ⟨reached, hanswer⟩ := @enter_of_holds _ request (service.requestHash read) read found _ _ hfinal
    have hself := @sameAs_self_iff _ reader command caller otherCaller uuid otherUuid htenant hinstitution huuid
    simp only [hpasses, true_and]
    change Idempotent command other prepared first final.keyed
      (enter request (service.requestHash read) read found final.keyed) ↔ _
    rw [hanswer]
    by_cases hrequest : request.SameAs (command.request reader caller uuid)
    · rw [if_pos ⟨hsame.mpr hrequest, horigin'⟩]
      constructor
      · intro hidempotent
        have hcommand : other = command := by
          by_contra hdifferent
          obtain ⟨raised, hraised, -⟩ := hidempotent.different hdifferent
          cases hraised
        subst hcommand
        exact ⟨fun _ => hself.mp hrequest, fun hdifferent => absurd rfl hdifferent⟩
      · rintro ⟨-, hdifferent⟩
        refine ⟨fun _ => ⟨_, rfl, hid, hexpiry, rfl, ?_⟩, fun hne => absurd hrequest (hdifferent hne)⟩
        exact hfinal.instructionRow.trans hholds.instructionRow.symm
    · rw [if_neg fun h => hrequest (hsame.mp h.1)]
      constructor
      · intro hidempotent
        refine ⟨fun hcommand => ?_, fun _ => hrequest⟩
        obtain ⟨answer, hok, -⟩ := hidempotent.same hcommand
        cases hok
      · rintro ⟨hnamed, -⟩
        refine ⟨fun hcommand => ?_, fun _ => ⟨_, rfl, rfl⟩⟩
        have hnamed' := hnamed hcommand
        subst hcommand
        exact absurd (hself.mpr hnamed') hrequest

private def sampleReader : ValueReader String where
  text := id
  time text := if text = "1970-01-01T00:00:00.090Z" then some 90 else none

private def sampleService : ConfidentialTransferService where
  circuitId := "confidential_ledger"
  circuitVersion := "v3"
  tenantId := "tenant"
  requestHash confidential := "transfer:" ++ confidential.transactionId

private def sampleCommand (transactionId : Option String) : PrepareCommand String where
  transactionId := transactionId
  idempotencyKey := "key-1"
  productId := "product"
  fee := "3"
  recipient := "22"
  relayer := "0"
  expiresAt := "1970-01-01T00:00:00.090Z"
  senderInvestorId := "sender"
  senderCredentialId := "credential:sender"
  recipientInvestorId := "recipient"
  recipientCredentialId := "credential:recipient"

private def sampleCaller : Caller := ⟨"operator", "tenant", "institution"⟩

private def samplePreparing : PreparingState Unit where
  rail := GateState.start (sampleDatabase (sampleInputs 17) [sampleContext (sampleInputs 17)] [])
  keys := [⟨"tenant", "key-0", "tx"⟩]

private def sampleRailGate : ZkSettlementGate Unit := sampleGate samplePoseidon3 (sampleInputs 17)

/-- The first answer and the state after it. -/
private def sampleFirst (transactionId : Option String) : Option (PreparedTransfer × KeyedDatabase) :=
  (prepare sampleService ((sampleCommand transactionId).request sampleReader sampleCaller "uuid-1") 50
    samplePreparing.keyed).toOption

private def sampleLater : List (PreparingAction Unit) :=
  [.createTransactionIntent ⟨"tx-2", "tenant", "product", .subscribe, .requested, "hash", .registered, none⟩ "key-2",
    .other (.transitionTransaction "tx-1" .cancelled)]

private theorem eq_ok_of_toOption {ε α : Type} {action : Except ε α} {value : α} (h : action.toOption = some value) :
    action = .ok value := by
  cases action with
  | error failure => cases h
  | ok found => exact congrArg Except.ok (Option.some.inj h)

/-- A command that names its transaction is answered again after the transaction was
cancelled. -/
theorem prepare_idempotent_sample :
    ∃ prepared first answer, sampleFirst (some "tx-1") = some (prepared, first) ∧
      (let final := runs.run (PreparingState.step sampleRailGate) (samplePreparing.commit first) sampleLater
      prepare sampleService ((sampleCommand (some "tx-1")).request sampleReader sampleCaller "uuid-2") 60 final.keyed =
        .ok (answer, final.keyed)) ∧ answer.transactionId = "tx-1" := by
  have hrun : (sampleFirst (some "tx-1")).any (fun (prepared, first) =>
      (preparation sampleService ((sampleCommand (some "tx-1")).request sampleReader sampleCaller "uuid-2") 60
        (runs.run (PreparingState.step sampleRailGate) (samplePreparing.commit first) sampleLater).rail.db).isOk &&
        prepared.transactionId == "tx-1") = true := by
    decide +kernel
  cases h : sampleFirst (some "tx-1") with
  | none =>
    rw [h] at hrun
    cases hrun
  | some outcome =>
    obtain ⟨prepared, first⟩ := outcome
    rw [h, Option.any_some, Bool.and_eq_true, beq_iff_eq] at hrun
    obtain ⟨hpasses, hid⟩ := hrun
    have hinj : Set.InjOn sampleService.requestHash
        {confidential | ((sampleCommand (some "tx-1")).request sampleReader sampleCaller "uuid-1").Reads confidential ∨
          ((sampleCommand (some "tx-1")).request sampleReader sampleCaller "uuid-2").Reads confidential} := by
      intro read hread other hother _
      have hreads {uuid : String} {confidential : ConfidentialRequest}
          (h : ((sampleCommand (some "tx-1")).request sampleReader sampleCaller uuid).Reads confidential) :
          ((sampleCommand (some "tx-1")).request sampleReader sampleCaller "uuid-1").Reads confidential := by
        obtain ⟨h1, h2, h3, h4, h5, h6, h7, h8, h9, h10⟩ := h
        exact ⟨h1, h2, h3, h4, h5, h6, h7, h8, h9, h10⟩
      exact (reads_eq_iff (hother.elim id hreads) (hread.elim id hreads) rfl rfl rfl).mpr rfl
    have hids : samplePreparing.rail.db.TransactionIds := List.nodup_singleton "tx"
    have hpass : Passes sampleService ((sampleCommand (some "tx-1")).request sampleReader sampleCaller "uuid-2") 60
        (runs.run (PreparingState.step sampleRailGate) (samplePreparing.commit first) sampleLater).rail.db := by
      cases hchecked : preparation sampleService
          ((sampleCommand (some "tx-1")).request sampleReader sampleCaller "uuid-2") 60
          (runs.run (PreparingState.step sampleRailGate) (samplePreparing.commit first) sampleLater).rail.db with
      | error failure =>
        rw [hchecked] at hpasses
        cases hpasses
      | ok checked => exact ⟨checked.1, checked.2, hchecked⟩
    have hidempotent := (prepare_idempotent_iff sampleReader sampleRailGate sampleService hids (eq_ok_of_toOption h)
      sampleLater rfl rfl rfl (by decide) hinj).mpr ⟨hpass, fun _ => rfl, fun hne => absurd rfl hne⟩
    obtain ⟨answer, hanswer, hsame, -⟩ := hidempotent.same rfl
    exact ⟨prepared, first, answer, rfl, hanswer, hsame.trans hid⟩

/-- The same command is refused when it names no transaction, and when the expiry of
its instruction has passed. -/
theorem retry_is_refused :
    (∃ prepared first, sampleFirst none = some (prepared, first) ∧
      ¬Idempotent (sampleCommand none) (sampleCommand none) prepared first first
        (prepare sampleService ((sampleCommand none).request sampleReader sampleCaller "uuid-2") 60 first)) ∧
    ∃ prepared first, sampleFirst (some "tx-1") = some (prepared, first) ∧
      ¬Idempotent (sampleCommand (some "tx-1")) (sampleCommand (some "tx-1")) prepared first first
        (prepare sampleService ((sampleCommand (some "tx-1")).request sampleReader sampleCaller "uuid-2")
          95 first) := by
  have hrefused (transactionId : Option String) (later : Int)
      (h : (sampleFirst transactionId).any (fun (_, first) =>
        !(prepare sampleService ((sampleCommand transactionId).request sampleReader sampleCaller "uuid-2") later
          first).isOk) = true) :
      ∃ prepared first, sampleFirst transactionId = some (prepared, first) ∧
        ¬Idempotent (sampleCommand transactionId) (sampleCommand transactionId) prepared first first
          (prepare sampleService ((sampleCommand transactionId).request sampleReader sampleCaller "uuid-2") later
            first) := by
    obtain ⟨⟨prepared, first⟩, hfirst, hfails⟩ := (Option.any_eq_true _ _).mp h
    refine ⟨prepared, first, hfirst, fun hidempotent => ?_⟩
    obtain ⟨answer, hanswer, -⟩ := hidempotent.same rfl
    simp only [hanswer] at hfails
    cases hfails
  exact ⟨hrefused none 60 (by decide +kernel), hrefused (some "tx-1") 95 (by decide +kernel)⟩

end Retry

end rwa.gate
