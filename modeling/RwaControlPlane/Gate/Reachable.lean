import RwaControlPlane.Gate.Records

open checked rwa.security rwa.merkle

namespace rwa.gate

variable {Proof : Type} {gate : ZkSettlementGate Proof} {state : GateState Proof}

/-- Every authorization of a database is in a later one, with the inputs that
it froze. -/
def Frozen (db later : Database) : Prop :=
  ∀ row ∈ db.authorizations, ∃ kept ∈ later.authorizations, kept.transactionId = row.transactionId ∧
    kept.tenantId = row.tenantId ∧ kept.publicInputs = row.publicInputs

theorem Frozen.refl (db : Database) : Frozen db db := fun row hrow => ⟨row, hrow, rfl, rfl, rfl⟩

theorem Frozen.trans {first second third : Database} (h : Frozen first second) (h' : Frozen second third) :
    Frozen first third := by
  intro row hrow
  obtain ⟨kept, hkept, hid, htenant, hinputs⟩ := h row hrow
  obtain ⟨later, hlater, hid', htenant', hinputs'⟩ := h' kept hkept
  exact ⟨later, hlater, hid'.trans hid, htenant'.trans htenant, hinputs'.trans hinputs⟩

/-- No change touches the inputs of an authorization. -/
theorem Commit.frozen {calls : List (AcceptCall Proof)} {db next : Database} {events : List Event}
    (h : Commit gate calls db next events) : Frozen db next := by
  cases h with
  | authorize row hfresh hpending =>
    exact fun row hrow => ⟨row, List.mem_append_left _ hrow, rfl, rfl, rfl⟩
  | record acceptance =>
    refine fun row hrow => ⟨_, List.mem_map_of_mem hrow, ?_⟩
    split <;> exact ⟨rfl, rfl, rfl⟩
  | _ => exact Frozen.refl _

private theorem readAuthorization_ok {adapter : Groth16JoinSplitProofAdapter Proof} {request : AcceptRequest Proof}
    {db : Database} {expected : JoinSplitPublicInputs FieldElement}
    (h : readAuthorization adapter request db = .ok expected) :
    ∃ row ∈ db.authorizations, row.transactionId = request.transactionId ∧ row.tenantId = request.tenantId ∧
      row.publicInputs = expected := by
  simp only [readAuthorization, bind_eq_ok_iff, throwIf_eq_ok_iff, exists_unit, require_eq_ok_iff,
    Prod.exists, pure_eq_ok_iff] at h
  obtain ⟨_, row, transaction, product, hrow, _, _, _, _, hexpected⟩ := h
  simp only [Database.pendingAuthorization, bind, Option.bind_eq_some_iff] at hrow
  obtain ⟨found, hfound, _, hscope, _, _, _, _, hresult⟩ := hrow
  obtain ⟨rfl, _⟩ := Prod.mk.inj (Option.some.inj hresult)
  rw [Option.guard_eq_some'] at hscope
  exact ⟨found, List.mem_of_find?_eq_some hfound, by simpa using List.find?_some hfound, hscope.1, hexpected⟩

/-- A call in flight after a step was in flight before, has just been read, or
has just been verified. -/
private theorem step_calls {action : Action Proof} {call : AcceptCall Proof}
    (hcall : call ∈ (step gate state action).calls) :
    call ∈ state.calls ∨
    (readAuthorization gate.adapter call.request state.db = .ok call.expectedPublicInputs ∧
      call.verification = none) ∨
    ∃ old ∈ state.calls, ∃ verification, call = { old with verification := some verification } ∧
      verifyJoinSplit gate.adapter old.request.proof old.request.publicSignals old.expectedPublicInputs =
        .ok verification := by
  have htransact {ρ : Type} {operation : Database → Except Failure (ρ × Database)} {answer : ρ → Response}
      {events : ρ → List Event} {from' : GateState Proof} :
      (from'.transact operation answer events).2.calls = from'.calls := by
    unfold GateState.transact
    split <;> rfl
  cases action with
  | acceptRead request =>
    simp only [step, respond, GateState.acceptRead] at hcall
    split at hcall
    · exact Or.inl hcall
    · next expected hread =>
      split at hcall
      · exact Or.inl hcall
      · rcases List.mem_append.mp hcall with hold | hnew
        · exact Or.inl hold
        · obtain rfl := List.mem_singleton.mp hnew
          exact Or.inr (Or.inl ⟨hread, rfl⟩)
  | acceptVerify index =>
    simp only [step, respond, GateState.acceptVerify] at hcall
    split at hcall
    · exact Or.inl hcall
    · next old hold =>
      have hmem := List.mem_of_getElem? (Option.filter_eq_some_iff.mp hold).1
      split at hcall
      · exact Or.inl (List.mem_of_mem_eraseIdx hcall)
      · next verification hverify =>
        rcases List.mem_or_eq_of_mem_set hcall with hkept | rfl
        · exact Or.inl hkept
        · exact Or.inr (Or.inr ⟨old, hmem, verification, rfl, hverify⟩)
  | acceptRecord index uuid now =>
    simp only [step, respond, GateState.acceptRecord] at hcall
    split at hcall
    · exact Or.inl hcall
    · split at hcall
      · exact Or.inl hcall
      · rw [htransact] at hcall
        exact Or.inl (List.mem_of_mem_eraseIdx hcall)
  | acceptAbandon index => exact Or.inl (List.mem_of_mem_eraseIdx hcall)
  | finalize request clockTimestamp =>
    simp only [step, respond, GateState.finalize] at hcall
    split at hcall <;> exact Or.inl hcall
  | writeReference reference => exact Or.inl hcall
  | _ => exact Or.inl (htransact ▸ hcall)

/-- The invariant of a state: its tables record the proofs accepted before the
run and during it, and its calls in flight are sound. -/
structure Sound (gate : ZkSettlementGate Proof) (before : List Acceptance) (state : GateState Proof) : Prop where
  records : Records gate.adapter state.db (before ++ acceptances state.history)
  calls : CallsSound gate.adapter state.db state.calls

namespace Sound

variable {before : List Acceptance} {db : Database}

theorem start (h : Records gate.adapter db before) : Sound gate before (GateState.start db) where
  records := by simpa [GateState.start] using h
  calls := by simp [GateState.start, CallsSound]

/-- The change that a step commits from a sound state. -/
theorem commits (h : Sound gate before state) (action : Action Proof) :
    ∃ events, Commit gate state.calls state.db (step gate state action).db events ∧
      (step gate state action).history = state.history ++ events :=
  step_commits gate state action h.records.transactionRows

theorem step (h : Sound gate before state) (action : Action Proof) : Sound gate before (step gate state action) := by
  obtain ⟨events, hcommit, hhistory⟩ := h.commits action
  have hfrozen := hcommit.frozen
  refine ⟨?_, ?_⟩
  · rw [hhistory, acceptances_append, ← List.append_assoc]
    exact h.records.commit h.calls hcommit
  · intro call hcall
    rcases step_calls hcall with hold | ⟨hread, hverification⟩ | ⟨old, hold, verification, rfl, hverify⟩
    · obtain ⟨⟨row, hrow, hid, htenant, hinputs⟩, hverified⟩ := h.calls call hold
      obtain ⟨kept, hkept, hid', htenant', hinputs'⟩ := hfrozen row hrow
      exact ⟨⟨kept, hkept, hid'.trans hid, htenant'.trans htenant, hinputs'.trans hinputs⟩, hverified⟩
    · obtain ⟨row, hrow, hid, htenant, hinputs⟩ := readAuthorization_ok hread
      obtain ⟨kept, hkept, hid', htenant', hinputs'⟩ := hfrozen row hrow
      exact ⟨⟨kept, hkept, hid'.trans hid, htenant'.trans htenant, hinputs'.trans hinputs⟩,
        fun verification hsome => by simp [hverification] at hsome⟩
    · obtain ⟨⟨row, hrow, hid, htenant, hinputs⟩, _⟩ := h.calls old hold
      obtain ⟨kept, hkept, hid', htenant', hinputs'⟩ := hfrozen row hrow
      refine ⟨⟨kept, hkept, hid'.trans hid, htenant'.trans htenant, hinputs'.trans hinputs⟩, ?_⟩
      intro found hfound
      obtain rfl := Option.some.inj hfound
      obtain ⟨package, hproof, _⟩ := verifyJoinSplit_eq_ok hverify
      exact ⟨package, old.request.publicSignals, hproof ▸ hverify⟩

theorem run (h : Sound gate before state) (actions : List (Action Proof)) :
    Sound gate before (runs.run (rwa.gate.step gate) state actions) :=
  runs.run_invariant h (fun _ action hstate => hstate.step action) actions

end Sound

/-- Every reachable state is sound. -/
theorem run_sound {before : List Acceptance} {db : Database} (h : Records gate.adapter db before)
    (actions : List (Action Proof)) : Sound gate before (run gate db actions) :=
  (Sound.start h).run actions

/-- Whatever a run does, the inputs of an authorization stay as they were
frozen. -/
theorem run_frozen {before : List Acceptance} (h : Sound gate before state) (actions : List (Action Proof)) :
    Frozen state.db (runs.run (step gate) state actions).db := by
  induction actions generalizing state with
  | nil => exact Frozen.refl _
  | cons action actions ih =>
    obtain ⟨events, hcommit, _⟩ := h.commits action
    exact hcommit.frozen.trans (ih (h.step action))

/-- A database in which no proof has been accepted: transactions, instructions,
authorizations, contexts and roots may be there already. -/
structure Database.Fresh (db : Database) : Prop where
  receipts : db.receipts = []
  nullifiers : db.nullifiers = []
  outputs : db.outputs = []
  settlements : db.settlements = []
  finalizations : db.finalizations = []
  transactionRows : (db.transactions.map TransactionIntent.id).Nodup
  authorizationRows : (db.authorizations.map Authorization.transactionId).Nodup
  recorded : ∀ row ∈ db.transactions, row.settlementRail = .confidentialNote → ¬row.currentState.Recorded
  pending : ∀ row ∈ db.authorizations, row.proofReceiptId = none

theorem Database.Fresh.records {db : Database} (h : db.Fresh) (adapter : Groth16JoinSplitProofAdapter Proof) :
    Records adapter db [] where
  receipts := h.receipts
  nullifiers := h.nullifiers
  outputs := h.outputs
  settlements := by simp [h.settlements]
  receiptIds := List.nodup_nil
  transactionIds := List.nodup_nil
  nullifierKeys := by simp [h.nullifiers]
  outputKeys := by simp [h.outputs]
  transactionRows := h.transactionRows
  authorizationRows := h.authorizationRows
  recorded := fun row hrow hrail => by simpa using h.recorded row hrow hrail
  transaction := by simp
  authorization := by simp
  consumed := fun row hrow hproof => absurd (h.pending row hrow) hproof
  context := by simp
  instruction := by simp
  root := by simp
  verified := by simp

end rwa.gate
