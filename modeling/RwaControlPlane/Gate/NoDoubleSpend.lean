import RwaControlPlane.Circuit.Spending
import RwaControlPlane.Gate.Acceptance

open checked keyed_rows rwa.security rwa.merkle rwa.circuit

namespace rwa.gate

variable {Proof : Type} {poseidon : List FieldElement → FieldElement}
variable {pedersen : List FieldElement → FieldElement × FieldElement}

/-- Every proof that the verifier accepts has a satisfying assignment with its
public signals. -/
def ProofSound (adapter : Groth16JoinSplitProofAdapter Proof) (poseidon : List FieldElement → FieldElement)
    (pedersen : List FieldElement → FieldElement × FieldElement) : Prop :=
  ∀ (inputs : JoinSplitPublicInputs FieldElement) (package : Proof),
    adapter.verify (inputs.toList.map toText) package = .ok true →
    ∃ signals : ConfidentialLedgerJoinSplit merkleTreeDepth,
      signals.Constraints poseidon pedersen ∧ signals.publicInputs = inputs

/-- A choice of one satisfying assignment for every accepted proof. -/
structure Explains (poseidon : List FieldElement → FieldElement)
    (pedersen : List FieldElement → FieldElement × FieldElement)
    (witness : Acceptance → ConfidentialLedgerJoinSplit merkleTreeDepth) (accepted : List Acceptance) : Prop where
  constraints : ∀ acceptance ∈ accepted, (witness acceptance).Constraints poseidon pedersen
  publicInputs : ∀ acceptance ∈ accepted, (witness acceptance).publicInputs = acceptance.inputs

/-- Sound verification explains every proof that was accepted. -/
theorem Records.exists_explains {adapter : Groth16JoinSplitProofAdapter Proof} {db : Database}
    {accepted : List Acceptance} (h : Records adapter db accepted) (hsound : ProofSound adapter poseidon pedersen) :
    ∃ witness, Explains poseidon pedersen witness accepted := by
  have hexists : ∀ acceptance : Acceptance, ∃ signals : ConfidentialLedgerJoinSplit merkleTreeDepth,
      acceptance ∈ accepted → signals.Constraints poseidon pedersen ∧ signals.publicInputs = acceptance.inputs := by
    intro acceptance
    by_cases hmem : acceptance ∈ accepted
    · obtain ⟨package, publicSignals, hverified⟩ := h.verified acceptance hmem
      obtain ⟨used, _, _, haccepts, _⟩ := verifyJoinSplit_eq_ok hverified
      obtain ⟨signals, hsignals⟩ := hsound acceptance.inputs used haccepts
      exact ⟨signals, fun _ => hsignals⟩
    · exact ⟨default, fun hmem' => absurd hmem' hmem⟩
  choose witness hwitness using hexists
  exact ⟨witness, fun acceptance hmem => (hwitness acceptance hmem).1,
    fun acceptance hmem => (hwitness acceptance hmem).2⟩

/-- The nullifier at one of the two positions. -/
def Acceptance.nullifier (acceptance : Acceptance) : Fin 2 → FieldElement
  | 0 => acceptance.inputs.inputNullifier0
  | 1 => acceptance.inputs.inputNullifier1

theorem Explains.mono {witness : Acceptance → ConfidentialLedgerJoinSplit merkleTreeDepth}
    {accepted explained : List Acceptance} (h : Explains poseidon pedersen witness accepted)
    (hsubset : explained ⊆ accepted) : Explains poseidon pedersen witness explained where
  constraints := fun acceptance hmem => h.constraints acceptance (hsubset hmem)
  publicInputs := fun acceptance hmem => h.publicInputs acceptance (hsubset hmem)

section Explained

variable {witness : Acceptance → ConfidentialLedgerJoinSplit merkleTreeDepth} {accepted : List Acceptance}

theorem Explains.contextId_eq (h : Explains poseidon pedersen witness accepted) {acceptance : Acceptance}
    (hmem : acceptance ∈ accepted) : (witness acceptance).contextId = acceptance.inputs.contextId :=
  congrArg JoinSplitPublicInputs.contextId (h.publicInputs acceptance hmem)

theorem Explains.nullifier_eq (h : Explains poseidon pedersen witness accepted) {acceptance : Acceptance}
    (hmem : acceptance ∈ accepted) (i : Fin 2) :
    (witness acceptance).inputNullifiers i = acceptance.nullifier i := by
  match i with
  | 0 => exact congrArg JoinSplitPublicInputs.inputNullifier0 (h.publicInputs acceptance hmem)
  | 1 => exact congrArg JoinSplitPublicInputs.inputNullifier1 (h.publicInputs acceptance hmem)

end Explained

section Index

variable {adapter : Groth16JoinSplitProofAdapter Proof} {db : Database} {accepted : List Acceptance}

theorem Acceptance.mem_nullifierKeys (acceptance : Acceptance) (i : Fin 2) :
    (acceptance.inputs.contextId, acceptance.nullifier i) ∈ acceptance.nullifiers.map nullifierKey := by
  match i with
  | 0 => simp [Acceptance.nullifiers, Acceptance.nullifier, nullifierKey]
  | 1 => simp [Acceptance.nullifiers, Acceptance.nullifier, nullifierKey]

/-- The index holds every nullifier of a context for one position of one
accepted proof. -/
theorem Records.nullifier_unique (h : Records adapter db accepted) {first second : Acceptance}
    (hfirst : first ∈ accepted) (hsecond : second ∈ accepted) {i j : Fin 2}
    (hcontext : first.inputs.contextId = second.inputs.contextId)
    (hnullifier : first.nullifier i = second.nullifier j) : first = second ∧ i = j := by
  have hkeys := h.nullifierKeys
  rw [h.nullifiers, List.map_flatMap] at hkeys
  have hwithin := (List.nodup_flatMap.mp hkeys).1
  have hsame : first = second := by
    have hkey := first.mem_nullifierKeys i
    rw [hcontext, hnullifier] at hkey
    exact eq_of_common_child hkeys hfirst hsecond hkey (second.mem_nullifierKeys j)
  subst hsame
  refine ⟨rfl, ?_⟩
  have hdistinct : first.inputs.inputNullifier0 ≠ first.inputs.inputNullifier1 := by
    intro heq
    have hnodup := hwithin first hfirst
    simp [Acceptance.nullifiers, nullifierKey, heq] at hnodup
  fin_cases i <;> fin_cases j
  · rfl
  · exact absurd hnullifier hdistinct
  · exact absurd hnullifier.symm hdistinct
  · rfl

/-- Among explained proofs, one note is one input of one accepted proof. -/
theorem Records.note_unique (h : Records adapter db accepted)
    {witness : Acceptance → ConfidentialLedgerJoinSplit merkleTreeDepth} {explained : List Acceptance}
    (hsubset : explained ⊆ accepted) (hexplains : Explains poseidon pedersen witness explained)
    (hfree : CollisionFree poseidon pedersen (explained.map witness)) {first second : Acceptance}
    (hfirst : first ∈ explained) (hsecond : second ∈ explained) {i j : Fin 2}
    (hcontext : first.inputs.contextId = second.inputs.contextId)
    (hsame : ((witness first).inputNote i).out = ((witness second).inputNote j).out) : first = second ∧ i = j := by
  apply h.nullifier_unique (hsubset hfirst) (hsubset hsecond) hcontext
  rw [← hexplains.nullifier_eq hfirst, ← hexplains.nullifier_eq hsecond]
  apply nullifier_eq_of_commitment (hexplains.constraints first hfirst) (hexplains.constraints second hsecond)
  · apply hfree.mono
    intro signals hsignals
    simp only [List.mem_cons, List.not_mem_nil, or_false] at hsignals
    rcases hsignals with rfl | rfl
    · exact List.mem_map_of_mem hfirst
    · exact List.mem_map_of_mem hsecond
  · rw [hexplains.contextId_eq hfirst, hexplains.contextId_eq hsecond, hcontext]
  · exact hsame

end Index

/-- An accept call whose nullifier is already in the index fails and changes no
table. -/
theorem acceptRecord_spent {gate : ZkSettlementGate Proof} {state : GateState Proof} {before : List Acceptance}
    (hsound : Sound gate before state) {index : Nat} {uuid : String} {now : Int} {call : AcceptCall Proof}
    {verification : Verification} (hcall : state.calls[index]? = some call)
    (hverification : call.verification = some verification)
    (hspent : ∃ row ∈ state.db.nullifiers, row.contextId = call.expectedPublicInputs.contextId ∧
      (row.nullifier = call.expectedPublicInputs.inputNullifier0 ∨
        row.nullifier = call.expectedPublicInputs.inputNullifier1)) :
    (∃ failure, (respond gate state (.acceptRecord index uuid now)).1 = .error failure) ∧
      (respond gate state (.acceptRecord index uuid now)).2.db = state.db := by
  simp only [respond, GateState.acceptRecord, hcall, hverification, GateState.transact]
  cases hresult : recordAcceptance call.request call.expectedPublicInputs verification uuid now state.db with
  | error failure => exact ⟨⟨failure, rfl⟩, rfl⟩
  | ok outcome =>
    exfalso
    obtain ⟨metadata, next⟩ := outcome
    obtain ⟨_, hadmits, _⟩ := recordAcceptance_ok hresult
    have hnodup := hadmits.nullifiers hsound.records.nullifierKeys
    rw [List.map_append] at hnodup
    obtain ⟨row, hrow, hcontext, hnullifier⟩ := hspent
    have hold : nullifierKey row ∈ state.db.nullifiers.map nullifierKey := List.mem_map_of_mem hrow
    have hnew : nullifierKey row ∈
        (Acceptance.of call.request call.expectedPublicInputs metadata).nullifiers.map nullifierKey := by
      rcases hnullifier with hnullifier | hnullifier
      · simp [Acceptance.nullifiers, Acceptance.of, nullifierKey, hcontext, hnullifier]
      · simp [Acceptance.nullifiers, Acceptance.of, nullifierKey, hcontext, hnullifier]
    exact (List.disjoint_of_nodup_append hnodup) hold hnew

/-- No double spend. Satisfying assignments of one context that consume the same
commitment publish the same nullifier, and the two inputs of one assignment
differ; in every reachable state the index holds a nullifier of a context once,
and an accept that spends it again changes nothing. So every note of a context is
consumed at most once, by one input of one accepted proof. -/
theorem no_double_spend (gate : ZkSettlementGate Proof) (poseidon : List FieldElement → FieldElement)
    (pedersen : List FieldElement → FieldElement × FieldElement) (hproofs : ProofSound gate.adapter poseidon pedersen)
    (db : Database) (hfresh : db.Fresh) (actions : List (Action Proof)) :
    (∀ first second : ConfidentialLedgerJoinSplit merkleTreeDepth, first.Constraints poseidon pedersen →
      second.Constraints poseidon pedersen → CollisionFree poseidon pedersen [first, second] →
      first.contextId = second.contextId → ∀ i j, (first.inputNote i).out = (second.inputNote j).out →
        first.inputNullifiers i = second.inputNullifiers j) ∧
    (∀ signals : ConfidentialLedgerJoinSplit merkleTreeDepth, signals.Constraints poseidon pedersen →
      CollisionFree poseidon pedersen [signals] → (signals.inputNote 0).out ≠ (signals.inputNote 1).out) ∧
    ((run gate db actions).db.nullifiers.map nullifierKey).Nodup ∧
    (∀ index uuid now call verification, (run gate db actions).calls[index]? = some call →
      call.verification = some verification →
      (∃ row ∈ (run gate db actions).db.nullifiers, row.contextId = call.expectedPublicInputs.contextId ∧
        (row.nullifier = call.expectedPublicInputs.inputNullifier0 ∨
          row.nullifier = call.expectedPublicInputs.inputNullifier1)) →
      (∃ failure, (respond gate (run gate db actions) (.acceptRecord index uuid now)).1 = .error failure) ∧
        (respond gate (run gate db actions) (.acceptRecord index uuid now)).2.db = (run gate db actions).db) ∧
    (∃ witness, Explains poseidon pedersen witness (acceptances (run gate db actions).history)) ∧
    ∀ witness, Explains poseidon pedersen witness (acceptances (run gate db actions).history) →
      CollisionFree poseidon pedersen ((acceptances (run gate db actions).history).map witness) →
      ∀ first ∈ acceptances (run gate db actions).history, ∀ second ∈ acceptances (run gate db actions).history,
        first.inputs.contextId = second.inputs.contextId →
        ∀ i j, ((witness first).inputNote i).out = ((witness second).inputNote j).out → first = second ∧ i = j := by
  have hsound := run_sound (hfresh.records gate.adapter) actions
  have hrecords := hsound.records
  rw [List.nil_append] at hrecords
  refine ⟨?_, ?_, hrecords.nullifierKeys, ?_, hrecords.exists_explains hproofs, ?_⟩
  · intro first second hfirst hsecond hfree hcontext i j hsame
    exact nullifier_eq_of_commitment hfirst hsecond hfree hcontext hsame
  · intro signals hsignals hfree
    exact commitments_ne hsignals hfree
  · intro index uuid now call verification hcall hverification hspent
    exact acceptRecord_spent hsound hcall hverification hspent
  · intro witness hexplains hfree first hfirst second hsecond hcontext i j hsame
    exact hrecords.note_unique (fun _ hmem => hmem) hexplains hfree hfirst hsecond hcontext hsame

/-- A verifier that accepts only the signals of a satisfying assignment is
sound. -/
theorem sampleGate_sound {poseidon3 : FieldElement → FieldElement → FieldElement → FieldElement}
    {signals : ConfidentialLedgerJoinSplit merkleTreeDepth} {accepted : JoinSplitPublicInputs FieldElement}
    (h : signals.Constraints poseidon pedersen) (haccepted : signals.publicInputs = accepted) :
    ProofSound (sampleGate poseidon3 accepted).adapter poseidon pedersen := by
  subst haccepted
  intro inputs package hverify
  have htexts : inputs.toList.map toText = signals.publicInputs.toList.map toText := by
    simpa [sampleGate] using hverify
  have hlists := List.map_injective_iff.mpr toText_injective htexts
  refine ⟨signals, h, ?_⟩
  cases inputs
  simpa [JoinSplitPublicInputs.toList, joinSplitPublicSignalOrder, JoinSplitPublicInputs.get,
    ConfidentialLedgerJoinSplit.publicInputs, eq_comm] using hlists

/-- A context whose tree holds the sample notes, before their transfer is
accepted. -/
def unspentDatabase : Database :=
  sampleDatabase samplePublicInputs [sampleContext samplePublicInputs]
    [⟨1, samplePublicInputs.merkleRoot, 2, some (noteTree (poseidon3 sampleHash) sampleLeaves).frontier, .current, none,
      "import"⟩]

/-- The state after the transfer of the sample notes was accepted. -/
def spentState : GateState Unit :=
  run (sampleGate (poseidon3 sampleHash) samplePublicInputs) unspentDatabase (sampleAcceptance samplePublicInputs)

/-- Nothing but the acceptance of the transfer has happened. -/
theorem spentState_history :
    ∃ acceptance, acceptance.inputs = samplePublicInputs ∧ spentState.history = [.accepted acceptance] := by
  have haccepted : (spentState.history.map fun event => event.acceptance?.map Acceptance.inputs) =
      [some samplePublicInputs] := by
    decide +kernel
  obtain ⟨event, hhistory, hevent⟩ := List.map_eq_singleton_iff.mp haccepted
  obtain ⟨acceptance, haccept, hinputs⟩ := Option.map_eq_some_iff.mp hevent
  refine ⟨acceptance, hinputs, hhistory.trans ?_⟩
  cases event with
  | accepted => simpa [Event.acceptance?] using haccept
  | genesis => cases haccept
  | finalized => cases haccept

/-- The accepted transfer of the sample notes consumes two different notes. -/
theorem no_double_spend_sample :
    (acceptances spentState.history).length = 1 ∧
      ∀ first ∈ acceptances spentState.history, ∀ second ∈ acceptances spentState.history, ∀ i j,
        (sampleSignals.inputNote i).out = (sampleSignals.inputNote j).out → first = second ∧ i = j := by
  obtain ⟨acceptance, hinputs, hhistory⟩ := spentState_history
  have haccepted : acceptances spentState.history = [acceptance] := by
    rw [hhistory]
    rfl
  have hexplains : Explains sampleHash samplePedersen (fun _ => sampleSignals) (acceptances spentState.history) := by
    rw [haccepted]
    exact ⟨fun _ _ => sampleSignals_constraints,
      fun other hother => by rw [List.mem_singleton.mp hother, hinputs, sampleSignals_publicInputs]⟩
  have hfree : CollisionFree sampleHash samplePedersen
      ((acceptances spentState.history).map fun _ => sampleSignals) := by
    rw [haccepted]
    exact sampleSignals_collisionFree
  have hspent := no_double_spend (sampleGate (poseidon3 sampleHash) samplePublicInputs) sampleHash samplePedersen
    (sampleGate_sound sampleSignals_constraints sampleSignals_publicInputs) unspentDatabase
    (sampleDatabase_fresh _ _ _) (sampleAcceptance samplePublicInputs)
  rw [← spentState] at hspent
  have honce := hspent.2.2.2.2.2 (fun _ => sampleSignals) hexplains hfree
  rw [haccepted] at honce ⊢
  refine ⟨rfl, fun first hfirst second hsecond i j hsame => honce first hfirst second hsecond ?_ i j hsame⟩
  rw [List.mem_singleton.mp hfirst, List.mem_singleton.mp hsecond]

end rwa.gate
