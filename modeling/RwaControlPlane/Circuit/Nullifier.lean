import RwaControlPlane.Circuit.Conservation
import RwaControlPlane.Security.PublicInputs

open rwa.security bit_decomposition padded_tree

namespace rwa.circuit

variable {poseidon : List FieldElement → FieldElement}
variable {pedersen : List FieldElement → FieldElement × FieldElement}
variable {TREE_DEPTH : Nat}

/-- The public signals of an assignment, by name. -/
def ConfidentialLedgerJoinSplit.publicInputs (signals : ConfidentialLedgerJoinSplit TREE_DEPTH) :
    JoinSplitPublicInputs FieldElement where
  merkleRoot := signals.merkleRoot
  contextId := signals.contextId
  assetType := signals.assetType
  fee := signals.fee
  recipient := signals.recipient
  relayer := signals.relayer
  transactionHash := signals.transactionHash
  inputNullifier0 := signals.inputNullifiers 0
  inputNullifier1 := signals.inputNullifiers 1
  outputCommitmentX0 := signals.outputCommitmentX 0
  outputCommitmentX1 := signals.outputCommitmentX 1
  outputCommitmentY0 := signals.outputCommitmentY 0
  outputCommitmentY1 := signals.outputCommitmentY 1

/-- The inputs of the Poseidon components of a path. -/
def MerklePath.poseidonInputs (NODE_DOMAIN : FieldElement) (signals : MerklePath TREE_DEPTH) :
    List (List FieldElement) :=
  List.ofFn fun i => [NODE_DOMAIN, signals.left i, signals.right i]

namespace ConfidentialLedgerJoinSplit

/-- The inputs of the Poseidon components that belong to one input note. -/
def inputPoseidonInputs (signals : ConfidentialLedgerJoinSplit TREE_DEPTH) (i : Fin 2) : List (List FieldElement) :=
  [[signals.inputOwnerSecret i],
    [merkle.merkleLeafDomain, (signals.inputNote i).out.1, (signals.inputNote i).out.2],
    [nullifierDomain, signals.contextId, signals.inputOwnerSecret i],
    [signals.nullifierKey i, signals.inputNonce i, signals.inputCommitmentHash i]] ++
    (signals.inputPath i).poseidonInputs merkle.merkleNodeDomain

/-- The inputs of all Poseidon components of an assignment. -/
def poseidonInputs (signals : ConfidentialLedgerJoinSplit TREE_DEPTH) : List (List FieldElement) :=
  signals.inputPoseidonInputs 0 ++ signals.inputPoseidonInputs 1 ++
    [[outputSetDomain, signals.outputCommitmentX 0, signals.outputCommitmentY 0, signals.outputCommitmentX 1,
        signals.outputCommitmentY 1],
      [txContextDomain, signals.contextId, signals.merkleRoot, signals.assetType, signals.fee, signals.recipient],
      [signals.txCore, signals.relayer, signals.inputNullifiers 0, signals.inputNullifiers 1],
      [signals.txMid, signals.outputSetHash]]

/-- The inputs of all Pedersen components of an assignment. -/
def pedersenInputs (signals : ConfidentialLedgerJoinSplit TREE_DEPTH) : List (List FieldElement) :=
  [(signals.inputNote 0).pedersenIn, (signals.inputNote 1).pedersenIn, (signals.outputNote 0).pedersenIn,
    (signals.outputNote 1).pedersenIn]

variable {signals : ConfidentialLedgerJoinSplit TREE_DEPTH}

theorem mem_poseidonInputs {call : List FieldElement} (i : Fin 2) (h : call ∈ signals.inputPoseidonInputs i) :
    call ∈ signals.poseidonInputs := by
  unfold poseidonInputs
  match i with
  | 0 => exact List.mem_append_left _ (List.mem_append_left _ h)
  | 1 => exact List.mem_append_left _ (List.mem_append_right _ h)

theorem mem_pedersenInputs_input (i : Fin 2) : (signals.inputNote i).pedersenIn ∈ signals.pedersenInputs := by
  match i with
  | 0 => simp [pedersenInputs]
  | 1 => simp [pedersenInputs]

theorem mem_pedersenInputs_output (i : Fin 2) : (signals.outputNote i).pedersenIn ∈ signals.pedersenInputs := by
  match i with
  | 0 => simp [pedersenInputs]
  | 1 => simp [pedersenInputs]

end ConfidentialLedgerJoinSplit

/-- Whether no two different inputs of a list have the same hash. The key of a
hash is compared first. -/
def noCollision {β : Type} [DecidableEq β] (key : β → Nat) (hash : List FieldElement → β)
    (calls : List (List FieldElement)) : Bool :=
  let hashed := calls.map fun call => (key (hash call), call)
  hashed.all fun first => hashed.all fun second => !(first.1 == second.1) || first.2 == second.2

theorem injOn_of_noCollision {β : Type} [DecidableEq β] {key : β → Nat} {hash : List FieldElement → β}
    {calls : List (List FieldElement)} (h : noCollision key hash calls = true) :
    Set.InjOn hash {call | call ∈ calls} := by
  intro first hfirst second hsecond hsame
  simp only [noCollision, List.all_eq_true, List.mem_map, forall_exists_index, and_imp,
    forall_apply_eq_imp_iff₂] at h
  simpa [hsame] using h first hfirst second hsecond

/-- Inputs with the same hash have the same key, so it is enough to compare those whose
keys leave the same remainder. -/
theorem injOn_of_noCollision_mod {β : Type} [DecidableEq β] {key : β → Nat} {hash : List FieldElement → β}
    {calls : List (List FieldElement)}
    (h : ∀ remainder < 16, noCollision key hash (calls.filter fun call => key (hash call) % 16 = remainder) = true) :
    Set.InjOn hash {call | call ∈ calls} := by
  intro first hfirst second hsecond hsame
  have hmod : key (hash second) % 16 = key (hash first) % 16 := by rw [hsame]
  have hremainder := injOn_of_noCollision (h (key (hash first) % 16) (Nat.mod_lt _ (by decide)))
  exact hremainder (List.mem_filter.mpr ⟨hfirst, by simp⟩) (List.mem_filter.mpr ⟨hsecond, by simpa using hmod⟩) hsame

/-- No two of the inputs that a list of assignments hashes collide. The hashes
themselves cannot be injective: they compress. -/
structure CollisionFree (poseidon : List FieldElement → FieldElement)
    (pedersen : List FieldElement → FieldElement × FieldElement)
    (used : List (ConfidentialLedgerJoinSplit TREE_DEPTH)) : Prop where
  poseidon : Set.InjOn poseidon {call | ∃ signals ∈ used, call ∈ signals.poseidonInputs}
  pedersen : Set.InjOn pedersen {call | ∃ signals ∈ used, call ∈ signals.pedersenInputs}

theorem CollisionFree.mono {used more : List (ConfidentialLedgerJoinSplit TREE_DEPTH)}
    (h : CollisionFree poseidon pedersen more) (hsubset : ∀ signals ∈ used, signals ∈ more) :
    CollisionFree poseidon pedersen used where
  poseidon := by
    refine h.poseidon.mono ?_
    rintro call ⟨signals, hsignals, hcall⟩
    exact ⟨signals, hsubset signals hsignals, hcall⟩
  pedersen := by
    refine h.pedersen.mono ?_
    rintro call ⟨signals, hsignals, hcall⟩
    exact ⟨signals, hsubset signals hsignals, hcall⟩

section SameNote

variable {first second : ConfidentialLedgerJoinSplit TREE_DEPTH}
  (hfirst : first.Constraints poseidon pedersen) (hsecond : second.Constraints poseidon pedersen)
  (hfree : CollisionFree poseidon pedersen [first, second])

include hfirst hsecond hfree

/-- Inputs with the same commitment are the same note. -/
theorem input_eq_of_commitment {i j : Fin 2} (hsame : (first.inputNote i).out = (second.inputNote j).out) :
    hfirst.input i = hsecond.input j := by
  apply Note.message_injective
  have hfirstIn := (hfirst.inputNote i).component.pedersenIn_eq
  have hsecondIn := (hsecond.inputNote j).component.pedersenIn_eq
  have hout : pedersen (first.inputNote i).pedersenIn = pedersen (second.inputNote j).pedersenIn := by
    rw [← (hfirst.inputNote i).component.out, ← (hsecond.inputNote j).component.out, hsame]
  have hinputs := hfree.pedersen
    ⟨first, by simp, ConfidentialLedgerJoinSplit.mem_pedersenInputs_input i⟩
    ⟨second, by simp, ConfidentialLedgerJoinSplit.mem_pedersenInputs_input j⟩ hout
  rw [hfirstIn, hsecondIn] at hinputs
  exact hinputs

/-- The owner of a note can prove it with one secret only. -/
theorem secret_eq_of_commitment {i j : Fin 2} (hsame : (first.inputNote i).out = (second.inputNote j).out) :
    first.inputOwnerSecret i = second.inputOwnerSecret j := by
  have howner := congrArg Note.ownerPubKey (input_eq_of_commitment hfirst hsecond hfree hsame)
  rw [hfirst.input_owner, hsecond.input_owner] at howner
  have hsecrets := hfree.poseidon
    ⟨first, by simp, ConfidentialLedgerJoinSplit.mem_poseidonInputs i
      (by simp [ConfidentialLedgerJoinSplit.inputPoseidonInputs])⟩
    ⟨second, by simp, ConfidentialLedgerJoinSplit.mem_poseidonInputs j
      (by simp [ConfidentialLedgerJoinSplit.inputPoseidonInputs])⟩ howner
  exact List.head_eq_of_cons_eq hsecrets

/-- In one context, every satisfying assignment that consumes a note publishes
the same nullifier for it, whatever nonce, blinding, path or bits it was given. -/
theorem nullifier_eq_of_commitment (hcontext : first.contextId = second.contextId) {i j : Fin 2}
    (hsame : (first.inputNote i).out = (second.inputNote j).out) :
    first.inputNullifiers i = second.inputNullifiers j := by
  have hnote := input_eq_of_commitment hfirst hsecond hfree hsame
  have hsecret := secret_eq_of_commitment hfirst hsecond hfree hsame
  rw [hfirst.inputNullifier_eq, hsecond.inputNullifier_eq, hcontext, hsecret, hnote]

end SameNote

/-- The two inputs of one satisfying assignment have different commitments. -/
theorem commitments_ne {signals : ConfidentialLedgerJoinSplit TREE_DEPTH} (h : signals.Constraints poseidon pedersen)
    (hfree : CollisionFree poseidon pedersen [signals]) : (signals.inputNote 0).out ≠ (signals.inputNote 1).out := by
  intro hsame
  apply h.inputNullifiers_ne
  exact nullifier_eq_of_commitment h h (hfree.mono (by simp)) rfl hsame

/-- The honest assignment of the sample notes. -/
def sampleSignals : ConfidentialLedgerJoinSplit merkle.merkleTreeDepth :=
  (sampleWitness sampleHash samplePedersen).assign sampleHash samplePedersen

/-- The public signals of the sample notes, evaluated. -/
def samplePublicInputs : JoinSplitPublicInputs FieldElement where
  merkleRoot := 3056747335831187221154264286796434904722038097010086752118250963318895625925
  contextId := 1
  assetType := 7
  fee := 3
  recipient := 22
  relayer := 0
  transactionHash := 18026767527767599492192993456866138200086735073103855691736832683420160159385
  inputNullifier0 := 16299299264099081187500321068499919897595154803044028460553160671225872578229
  inputNullifier1 := 14290254476319462343070288654092418378843348857864475460189328434953218807471
  outputCommitmentX0 := 10119938185715887179003065276748515673792072310999642700124577455414380486735
  outputCommitmentX1 := 15340868305203253629010912646646880382776158485919358848542874302711438097486
  outputCommitmentY0 := 0
  outputCommitmentY1 := 0

theorem sampleSignals_publicInputs : sampleSignals.publicInputs = samplePublicInputs := by
  decide +kernel

theorem sampleSignals_constraints : sampleSignals.Constraints sampleHash samplePedersen :=
  JoinSplitWitness.assign_constraints sampleWitness_valid

theorem sampleSignals_collisionFree : CollisionFree sampleHash samplePedersen [sampleSignals] := by
  have hposeidon : noCollision ZMod.val sampleHash sampleSignals.poseidonInputs = true := by
    decide +kernel
  have hpedersen : noCollision (fun point => point.1.val) samplePedersen sampleSignals.pedersenInputs = true := by
    decide +kernel
  constructor
  case poseidon => simpa using injOn_of_noCollision hposeidon
  case pedersen => simpa using injOn_of_noCollision hpedersen

end rwa.circuit
