import RwaControlPlane.Gate.Acceptance

open checked rwa.security rwa.merkle

namespace rwa.gate

variable {Proof : Type}

/-- A credential of a product that is active, within its validity, bound to a
subject, and of a class and a jurisdiction that the product allows. -/
structure Credential.Eligible (credential : Credential) (product : Product) (subjectRef : String) (now : Int) :
    Prop where
  scope : credential.productId = product.id
  subject : credential.subjectRef = subjectRef
  active : credential.status = .active
  started : credential.validFrom ≤ now
  unexpired : now < credential.validUntil
  investorClass : ∃ classes, product.rules.allowedInvestorClasses = some classes ∧ credential.investorClass ∈ classes
  jurisdiction : ∃ places, product.rules.allowedJurisdictions = some places ∧ credential.jurisdiction ∈ places

/-- What the accepting transaction has read: the instruction of the transfer
and, as they are at that moment, everything that makes its parties eligible. -/
structure Database.EligibleAt (db : Database) (acceptance : Acceptance) (instruction : ExecutionInstruction)
    (now : Int) : Prop where
  found : db.findInstruction acceptance.transactionId = some instruction
  unexpired : now < instruction.expiresAt
  recipient : instruction.recipient = acceptance.inputs.recipient
  parties : ∃ product ∈ db.reference.products, product.id = acceptance.productId ∧ product.status = .active ∧
    (∃ credential ∈ db.reference.credentials, credential.id = instruction.senderCredentialId ∧
      credential.Eligible product instruction.senderSubjectRef now) ∧
    ∃ credential ∈ db.reference.credentials, credential.id = instruction.recipientCredentialId ∧
      credential.Eligible product instruction.recipientSubjectRef now
  key : ∃ key ∈ db.reference.ownerKeys, key.productId = acceptance.productId ∧
    key.ownerPublicKey = acceptance.inputs.recipient ∧ key.status = .active ∧
    key.subjectRef = instruction.recipientSubjectRef ∧ key.credentialId = instruction.recipientCredentialId
  context : ∃ context ∈ db.contexts, context.productId = acceptance.productId ∧
    context.contextId = acceptance.inputs.contextId ∧ context.retired = false

section Checks

variable {reference : ReferenceData} {product : Product} {subjectRef credentialId party : String} {now : Int}

/-- A credential without a reason against it is eligible. -/
private theorem eligible_of_no_reason {credential : Credential} (hproduct : credential.productId = product.id)
    (hclasses : product.rules.allowedInvestorClasses ≠ none) (hplaces : product.rules.allowedJurisdictions ≠ none)
    (h : ineligibilityReason product.rules subjectRef now (some credential) = none) :
    credential.Eligible product subjectRef now := by
  obtain ⟨classes, hclasses⟩ := Option.ne_none_iff_exists'.mp hclasses
  obtain ⟨places, hplaces⟩ := Option.ne_none_iff_exists'.mp hplaces
  simp only [ineligibilityReason, hclasses, hplaces, Option.getD_some] at h
  split at h
  · cases h
  · next hsubject =>
    split at h
    · cases h
    · next htime =>
      split at h
      · cases h
      · next hstatus =>
        split at h
        · cases h
        · next hclass =>
          split at h
          · cases h
          · next hplace =>
            have hcurrent := not_or.mp htime
            exact ⟨hproduct, not_not.mp hsubject, not_not.mp hstatus, by omega, by omega,
              ⟨classes, hclasses, not_not.mp hclass⟩, ⟨places, hplaces, not_not.mp hplace⟩⟩

/-- A credential that passes the check is one that makes its holder eligible. -/
theorem assertEligibleCredential_ok {done : Unit}
    (h : assertEligibleCredential reference product.id product.rules subjectRef credentialId now party = .ok done) :
    ∃ credential ∈ reference.credentials, credential.id = credentialId ∧
      credential.Eligible product subjectRef now := by
  simp only [assertEligibleCredential, bind_eq_ok_iff, throwIf_eq_ok_iff, exists_unit, not_or, not_not] at h
  obtain ⟨⟨hclasses, hplaces⟩, _, _, hreason⟩ := h
  cases hfound : reference.credentials.find? (fun row => row.id = credentialId && row.productId = product.id) with
  | none => simp [hfound, ineligibilityReason] at hreason
  | some credential =>
    rw [hfound] at hreason
    have hkey := List.find?_some hfound
    simp only [Bool.and_eq_true, decide_eq_true_eq] at hkey
    exact ⟨credential, List.mem_of_find?_eq_some hfound, hkey.1, eligible_of_no_reason hkey.2 hclasses hplaces hreason⟩

/-- The parties of an instruction pass the check only if both are eligible and
the recipient's key is theirs. -/
private theorem assertInstructionParties_ok {instruction : ExecutionInstruction} {done : Unit}
    (h : assertInstructionParties reference product.id product.rules instruction now = .ok done) :
    (∃ credential ∈ reference.credentials, credential.id = instruction.senderCredentialId ∧
      credential.Eligible product instruction.senderSubjectRef now) ∧
    (∃ credential ∈ reference.credentials, credential.id = instruction.recipientCredentialId ∧
      credential.Eligible product instruction.recipientSubjectRef now) ∧
    ∃ key ∈ reference.ownerKeys, key.productId = product.id ∧ key.ownerPublicKey = instruction.recipient ∧
      key.status = .active ∧ key.subjectRef = instruction.recipientSubjectRef ∧
      key.credentialId = instruction.recipientCredentialId := by
  simp only [assertInstructionParties, bind_eq_ok_iff, throwIf_eq_ok_iff, exists_unit] at h
  obtain ⟨_, hsender, hrecipient, hkey⟩ := h
  refine ⟨assertEligibleCredential_ok hsender, assertEligibleCredential_ok hrecipient, ?_⟩
  simp only [assertRegisteredRecipientKey, throwIf_eq_ok_iff, not_not] at hkey
  obtain ⟨key, hfound, hactive, hsubject, hcredential⟩ := hkey
  have hrow := List.find?_some hfound
  simp only [Bool.and_eq_true, decide_eq_true_eq] at hrow
  exact ⟨key, List.mem_of_find?_eq_some hfound, hrow.1, hrow.2, hactive, hsubject, hcredential⟩

end Checks

private theorem findTransaction_product {db : Database} {transactionId : String} {transaction : TransactionIntent}
    {product : Product} (h : db.findTransaction transactionId = some (transaction, product)) :
    product ∈ db.reference.products ∧ product.id = transaction.productId := by
  simp only [Database.findTransaction, bind, Option.bind_eq_some_iff] at h
  obtain ⟨found, _, joined, hjoined, hresult⟩ := h
  obtain ⟨rfl, rfl⟩ := Prod.mk.inj (Option.some.inj hresult)
  exact ⟨List.mem_of_find?_eq_some hjoined, by simpa using List.find?_some hjoined⟩

/-- A committed acceptance has found everything in place. -/
theorem recordAcceptance_eligible {request : AcceptRequest Proof} {expected : JoinSplitPublicInputs FieldElement}
    {verification : Verification} {uuid : String} {now : Int} {db next : Database} {metadata : AcceptanceMetadata}
    (h : recordAcceptance request expected verification uuid now db = .ok (metadata, next)) :
    ∃ instruction, db.EligibleAt (Acceptance.of request expected metadata) instruction now := by
  obtain ⟨_, _, _⟩ := recordAcceptance_ok h
  simp only [recordAcceptance, bind_eq_ok_iff, throwIf_eq_ok_iff, exists_unit, require_eq_ok_iff, Prod.exists,
    not_not] at h
  obtain ⟨transaction, product, htransaction, _, _, _, hactive, context, hcontext, instruction, hinstruction,
    hparties, _, _, _, _, _, _, _, _, _, _, _, _, _, _, _, _, _, _, _, hresult⟩ := h
  simp only [pure_eq_ok_iff, Prod.mk.injEq] at hresult
  obtain ⟨rfl, _⟩ := hresult
  obtain ⟨hproduct, hproductId⟩ := findTransaction_product (Option.filter_eq_some_iff.mp htransaction).1
  obtain ⟨hfound, hbound⟩ := Option.filter_eq_some_iff.mp hinstruction
  simp only [Bool.and_eq_true, decide_eq_true_eq] at hbound
  obtain ⟨⟨⟨_, hrecipient⟩, _⟩, hexpiry⟩ := hbound
  rw [← hproductId] at hparties
  obtain ⟨hsender, hreceiver, key, hkey, hkeyProduct, hkeyOwner, hkeyActive, hkeySubject, hkeyCredential⟩ :=
    assertInstructionParties_ok hparties
  obtain ⟨hcontextMem, hcontextProps⟩ := mem_of_single_filter hcontext
  simp only [Bool.and_eq_true, decide_eq_true_eq, Bool.not_eq_true'] at hcontextProps
  obtain ⟨⟨⟨⟨⟨⟨hscope, _⟩, _⟩, hcontextId⟩, _⟩, hretired⟩, _⟩ := hcontextProps
  refine ⟨instruction, ?_⟩
  constructor
  case found => exact hfound
  case unexpired => exact hexpiry
  case recipient => exact hrecipient
  case parties => exact ⟨product, hproduct, hproductId, hactive, hsender, hreceiver⟩
  case key =>
    exact ⟨key, hkey, hkeyProduct.trans hproductId, hkeyOwner.trans hrecipient, hkeyActive, hkeySubject, hkeyCredential⟩
  case context => exact ⟨context, hcontextMem, hscope, hcontextId, hretired⟩

/-- Only an accept call that commits its transaction appends an acceptance to
the history. -/
theorem step_accepts {gate : ZkSettlementGate Proof} {state : GateState Proof} {action : Action Proof}
    {acceptance : Acceptance} (h : (step gate state action).history = state.history ++ [.accepted acceptance]) :
    ∃ index uuid now, action = .acceptRecord index uuid now ∧
      ∃ instruction, state.db.EligibleAt acceptance instruction now := by
  have htransact {ρ : Type} {operation : Database → Except Failure (ρ × Database)} {answer : ρ → Response}
      {events : ρ → List Event} {from' : GateState Proof} (hhistory : from'.history = state.history)
      (h : (from'.transact operation answer events).2.history = state.history ++ [.accepted acceptance]) :
      ∃ result next, operation from'.db = .ok (result, next) ∧ events result = [.accepted acceptance] := by
    unfold GateState.transact at h
    split at h
    · next result next hresult =>
      rw [hhistory] at h
      exact ⟨result, next, hresult, List.append_cancel_left h⟩
    · simp [hhistory] at h
  have hsame : state.history ≠ state.history ++ [.accepted acceptance] := by simp
  cases action with
  | acceptRecord index uuid now =>
    refine ⟨index, uuid, now, rfl, ?_⟩
    simp only [step, respond, GateState.acceptRecord] at h
    split at h
    · exact absurd h hsame
    · split at h
      · exact absurd h hsame
      · obtain ⟨metadata, next, hrecorded, hevents⟩ :=
          @htransact _ _ _ _ { state with calls := state.calls.eraseIdx index } rfl h
        obtain ⟨rfl⟩ := Event.accepted.inj (List.cons.inj hevents).1
        exact recordAcceptance_eligible hrecorded
  | acceptRead request =>
    simp only [step, respond, GateState.acceptRead] at h
    split at h
    · exact absurd h hsame
    · split at h <;> exact absurd h hsame
  | acceptVerify index =>
    simp only [step, respond, GateState.acceptVerify] at h
    split at h
    · exact absurd h hsame
    · split at h <;> exact absurd h hsame
  | finalize request clockTimestamp =>
    simp only [step, respond, GateState.finalize] at h
    split at h
    · exact absurd h hsame
    · exact absurd h hsame
    · simp at h
  | decideParameters request =>
    obtain ⟨decided, next, _, hevents⟩ := htransact rfl h
    unfold genesisEvents at hevents
    split at hevents <;> simp at hevents
  | acceptAbandon index => exact absurd h hsame
  | writeReference reference => exact absurd h hsame
  | _ =>
    obtain ⟨_, _, _, hevents⟩ := htransact rfl h
    exact absurd hevents (List.cons_ne_nil _ _).symm

/-- A change that commits an acceptance commits nothing else. -/
private theorem Commit.events_of_accepted {gate : ZkSettlementGate Proof} {calls : List (AcceptCall Proof)}
    {db next : Database} {events : List Event} {acceptance : Acceptance} (h : Commit gate calls db next events)
    (hmem : .accepted acceptance ∈ events) : events = [.accepted acceptance] := by
  cases h with
  | record other => rw [List.mem_singleton.mp hmem]
  | publish | genesis => simp at hmem
  | _ => exact absurd hmem List.not_mem_nil

/-- No change touches an instruction. -/
theorem Commit.findInstruction {gate : ZkSettlementGate Proof} {calls : List (AcceptCall Proof)}
    {db next : Database} {events : List Event} {transactionId : String} {instruction : ExecutionInstruction}
    (h : Commit gate calls db next events) (hfound : db.findInstruction transactionId = some instruction) :
    next.findInstruction transactionId = some instruction := by
  cases h with
  | insertTransaction => simpa [Database.findInstruction, List.find?_append] using Or.inl hfound
  | _ => exact hfound

/-- The instruction that a transfer was prepared with stays its instruction. -/
theorem instruction_kept {gate : ZkSettlementGate Proof} {state : GateState Proof} {before : List Acceptance}
    {transactionId : String} {instruction : ExecutionInstruction} (h : Sound gate before state)
    (hfound : state.db.findInstruction transactionId = some instruction) (actions : List (Action Proof)) :
    (runs.run (step gate) state actions).db.findInstruction transactionId = some instruction := by
  induction actions generalizing state with
  | nil => exact hfound
  | cons action actions ih =>
    obtain ⟨events, hcommit, _⟩ := h.commits action
    exact ih (h.step action) (hcommit.findInstruction hfound)

/-- Whenever a confidential transaction is ROOT_PENDING, one step of the run has
accepted its proof, and in the database of that step both parties of its
instruction, the recipient key, the product, the context and the instruction
itself were eligible. The instruction is the one the transfer was prepared with. -/
theorem eligible_at_acceptance (gate : ZkSettlementGate Proof) (db : Database) (hfresh : db.Fresh)
    (actions : List (Action Proof)) {transaction : TransactionIntent}
    (htransaction : transaction ∈ (run gate db actions).db.transactions)
    (hrail : transaction.settlementRail = .confidentialNote) (hstate : transaction.currentState = .rootPending) :
    ∃ before index uuid now after acceptance instruction,
      actions = before ++ .acceptRecord index uuid now :: after ∧
      (step gate (run gate db before) (.acceptRecord index uuid now)).history =
        (run gate db before).history ++ [.accepted acceptance] ∧
      acceptance.transactionId = transaction.id ∧ acceptance.productId = transaction.productId ∧
      Verified gate.adapter acceptance.inputs acceptance.verification ∧
      (run gate db before).db.EligibleAt acceptance instruction now ∧
      ∀ earlier more, before = earlier ++ more →
        ∀ prepared, (run gate db earlier).db.findInstruction transaction.id = some prepared →
          prepared = instruction := by
  have hsound (taken : List (Action Proof)) := run_sound (hfresh.records gate.adapter) taken
  have hrecords := (hsound actions).records
  rw [List.nil_append] at hrecords
  obtain ⟨acceptance, haccepted, hid⟩ :=
    List.mem_map.mp ((hrecords.recorded transaction htransaction hrail).mp (Or.inl hstate))
  obtain ⟨row, hrow, hrowId, _, hrowProduct, _⟩ := hrecords.transaction acceptance haccepted
  obtain rfl : row = transaction :=
    List.inj_on_of_nodup_map hrecords.transactionRows hrow htransaction (hrowId.trans hid)
  -- The step that appended the acceptance.
  obtain hstart | ⟨before, action, after, added, rfl, -, hadded, hhistory⟩ :=
    @runs.run_entry _ _ (step gate) (GateState.start db) _ GateState.history actions (.accepted acceptance)
      (fun taken action => ((hsound taken).commits action).imp fun _ h => h.2) (mem_acceptances.mp haccepted)
  · exact absurd hstart List.not_mem_nil
  obtain ⟨events, hcommit, hevents⟩ := (hsound before).commits action
  obtain rfl : events = added := List.append_cancel_left (hevents.symm.trans hhistory)
  obtain rfl := hcommit.events_of_accepted hadded
  obtain ⟨index, uuid, now, rfl, instruction, heligible⟩ := step_accepts hhistory
  refine ⟨before, index, uuid, now, after, acceptance, instruction, rfl, hhistory, hid, hrowProduct.symm,
    hrecords.verified acceptance haccepted, heligible, ?_⟩
  rintro earlier more rfl prepared hprepared
  have hkept := instruction_kept (hsound earlier) hprepared more
  have happend : run gate db (earlier ++ more) = runs.run (step gate) (run gate db earlier) more := runs.run_append
  rw [← happend] at hkept
  have hfound := heligible.found
  rw [hid] at hfound
  exact Option.some.inj (hkept.symm.trans hfound)

/-- The transfer of the small gate was accepted while its parties were
eligible. -/
theorem eligible_at_acceptance_sample :
    ∃ before index uuid now after acceptance instruction,
      sampleAcceptance (sampleInputs 17) = before ++ .acceptRecord index uuid now :: after ∧
      acceptance.transactionId = "tx" ∧
      (run (sampleGate samplePoseidon3 (sampleInputs 17))
        (sampleDatabase (sampleInputs 17) [sampleContext (sampleInputs 17)]
          [⟨1, 17, 4, none, .historical, none, "import"⟩]) before).db.EligibleAt acceptance instruction now := by
  have hpending : ∃ transaction ∈ sampleState.db.transactions, transaction.currentState = .rootPending ∧
      transaction.settlementRail = .confidentialNote ∧ transaction.id = "tx" := by
    decide +kernel
  obtain ⟨transaction, htransaction, hstate, hrail, hid⟩ := hpending
  obtain ⟨before, index, uuid, now, after, acceptance, instruction, hactions, _, hacceptance, _, _, heligible, _⟩ :=
    eligible_at_acceptance _ _ (sampleDatabase_fresh _ _ _) _ htransaction hrail hstate
  exact ⟨before, index, uuid, now, after, acceptance, instruction, hactions, hacceptance.trans hid, heligible⟩

end rwa.gate
