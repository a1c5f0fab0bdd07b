import RwaControlPlane.Circuit.Nullifier
import RwaControlPlane.Library.CoinLedger
import RwaControlPlane.Merkle.Reference

open rwa.security rwa.merkle bit_decomposition padded_tree coin_ledger

namespace rwa.circuit

namespace ConfidentialLedgerJoinSplit

variable {TREE_DEPTH : Nat} (signals : ConfidentialLedgerJoinSplit TREE_DEPTH)

/-- The coin behind an input. -/
def inputCoin (i : Fin 2) : Coin (FieldElement × FieldElement) :=
  ((signals.inputNote i).out, (signals.inputAmount i).val)

/-- The coin behind an output. -/
def outputCoin (i : Fin 2) : Coin (FieldElement × FieldElement) :=
  ((signals.outputCommitmentX i, signals.outputCommitmentY i), (signals.outputAmount i).val)

def transfer : Transfer (FieldElement × FieldElement) where
  inputs := [signals.inputCoin 0, signals.inputCoin 1]
  outputs := [signals.outputCoin 0, signals.outputCoin 1]
  fee := signals.fee.val

end ConfidentialLedgerJoinSplit

/-- The coin of a note. -/
def Note.coin (pedersen : List FieldElement → FieldElement × FieldElement) (note : Note) :
    Coin (FieldElement × FieldElement) :=
  (note.commitment pedersen, note.amount)

/-- What is hashed with Poseidon in a ledger that started with some notes: the
inputs of the assignments, the leaves of the initial notes and of the outputs,
and the nodes of the trees over the prefixes of its leaves. -/
inductive HashedByLedger (poseidon : List FieldElement → FieldElement)
    (pedersen : List FieldElement → FieldElement × FieldElement) (initial : List Note) (leaves : List FieldElement)
    (used : List (ConfidentialLedgerJoinSplit merkleTreeDepth)) : List FieldElement → Prop
  | assignment (signals : ConfidentialLedgerJoinSplit merkleTreeDepth) (hsignals : signals ∈ used)
      (call : List FieldElement) (hcall : call ∈ signals.poseidonInputs) :
      HashedByLedger poseidon pedersen initial leaves used call
  | output (signals : ConfidentialLedgerJoinSplit merkleTreeDepth) (hsignals : signals ∈ used) (i : Fin 2) :
      HashedByLedger poseidon pedersen initial leaves used
        [merkleLeafDomain, signals.outputCommitmentX i, signals.outputCommitmentY i]
  | initial (note : Note) (hnote : note ∈ initial) :
      HashedByLedger poseidon pedersen initial leaves used
        [merkleLeafDomain, (note.commitment pedersen).1, (note.commitment pedersen).2]
  | tree (count : Nat) (pair : FieldElement × FieldElement)
      (hpair : pair ∈ treeInputs (merkleNode (poseidon3 poseidon)) (padded 0 (leaves.take count)) merkleTreeDepth) :
      HashedByLedger poseidon pedersen initial leaves used [merkleNodeDomain, pair.1, pair.2]

/-- No two inputs that a ledger hashes collide, and no consumed commitment has
the hash of an empty leaf. -/
structure LedgerCollisionFree (poseidon : List FieldElement → FieldElement)
    (pedersen : List FieldElement → FieldElement × FieldElement) (initial : List Note) (leaves : List FieldElement)
    (used : List (ConfidentialLedgerJoinSplit merkleTreeDepth)) : Prop where
  poseidon : Set.InjOn poseidon {call | HashedByLedger poseidon pedersen initial leaves used call}
  pedersen : Set.InjOn pedersen
    {call | (∃ signals ∈ used, call ∈ signals.pedersenInputs) ∨ ∃ note ∈ initial, call = note.message}
  nonzero : ∀ signals ∈ used, ∀ i, signals.inputCommitmentHash i ≠ 0

section Check

variable (poseidon : List FieldElement → FieldElement) (pedersen : List FieldElement → FieldElement × FieldElement)
  (initial : List Note) (leaves : List FieldElement) (used : List (ConfidentialLedgerJoinSplit merkleTreeDepth))

/-- What a ledger hashes with Poseidon, as a list. -/
def ledgerPoseidonInputs : List (List FieldElement) :=
  used.flatMap (·.poseidonInputs) ++
    used.flatMap (fun signals =>
      List.ofFn fun i => [merkleLeafDomain, signals.outputCommitmentX i, signals.outputCommitmentY i]) ++
    initial.map (fun note => [merkleLeafDomain, (note.commitment pedersen).1, (note.commitment pedersen).2]) ++
    (List.range (leaves.length + 1)).flatMap fun count =>
      (hashedPairs (poseidon3 poseidon) 0 merkleTreeDepth (leaves.take count)).map fun pair =>
        [merkleNodeDomain, pair.1, pair.2]

/-- What a ledger hashes with Pedersen, as a list. -/
def ledgerPedersenInputs : List (List FieldElement) :=
  used.flatMap (·.pedersenInputs) ++ initial.map Note.message

variable {poseidon pedersen initial leaves used}

theorem HashedByLedger.mem {call : List FieldElement} (h : HashedByLedger poseidon pedersen initial leaves used call) :
    call ∈ ledgerPoseidonInputs poseidon pedersen initial leaves used := by
  simp only [ledgerPoseidonInputs, List.mem_append]
  cases h with
  | assignment signals hsignals call hcall =>
    left; left; left
    exact List.mem_flatMap.mpr ⟨signals, hsignals, hcall⟩
  | output signals hsignals i =>
    left; left; right
    exact List.mem_flatMap.mpr ⟨signals, hsignals, List.mem_ofFn.mpr ⟨i, rfl⟩⟩
  | initial note hnote =>
    left; right
    exact List.mem_map.mpr ⟨note, hnote, rfl⟩
  | tree count pair hpair =>
    right
    have htake : leaves.take count = leaves.take (min count leaves.length) := by
      rw [List.take_eq_take_iff]
      omega
    rw [htake] at hpair
    refine List.mem_flatMap.mpr ⟨min count leaves.length, List.mem_range.mpr (by omega), ?_⟩
    exact List.mem_map.mpr ⟨pair, treeInputs_subset_hashedPairs hpair, rfl⟩

/-- A ledger whose hashed inputs were all checked is free of collisions. -/
theorem LedgerCollisionFree.of_check
    (hposeidon : ∀ remainder < 16, noCollision ZMod.val poseidon
      ((ledgerPoseidonInputs poseidon pedersen initial leaves used).filter fun call =>
        (poseidon call).val % 16 = remainder) = true)
    (hpedersen : noCollision (fun point => point.1.val) pedersen (ledgerPedersenInputs initial used) = true)
    (hnonzero : ∀ signals ∈ used, ∀ i, signals.inputCommitmentHash i ≠ 0) :
    LedgerCollisionFree poseidon pedersen initial leaves used where
  poseidon := (injOn_of_noCollision_mod hposeidon).mono fun _ hcall => hcall.mem
  pedersen := by
    refine (injOn_of_noCollision hpedersen).mono ?_
    rintro call (⟨signals, hsignals, hcall⟩ | ⟨note, hnote, rfl⟩)
    · exact List.mem_append_left _ (List.mem_flatMap.mpr ⟨signals, hsignals, hcall⟩)
    · exact List.mem_append_right _ (List.mem_map_of_mem hnote)
  nonzero := hnonzero

end Check

section Origin

variable {poseidon : List FieldElement → FieldElement}
variable {pedersen : List FieldElement → FieldElement × FieldElement}
variable {initial : List Note} {leaves : List FieldElement}
variable {used : List (ConfidentialLedgerJoinSplit merkleTreeDepth)}
variable {signals other : ConfidentialLedgerJoinSplit merkleTreeDepth}

theorem LedgerCollisionFree.collisionFree (h : LedgerCollisionFree poseidon pedersen initial leaves used) :
    CollisionFree poseidon pedersen used where
  poseidon := by
    refine h.poseidon.mono ?_
    rintro call ⟨signals, hsignals, hcall⟩
    exact .assignment signals hsignals call hcall
  pedersen := by
    refine h.pedersen.mono ?_
    rintro call ⟨signals, hsignals, hcall⟩
    exact Or.inl ⟨signals, hsignals, hcall⟩

/-- A satisfying assignment is a balanced transfer of coins. -/
theorem ConfidentialLedgerJoinSplit.Constraints.balanced (h : signals.Constraints poseidon pedersen) :
    signals.transfer.Balanced := by
  have hconservation := h.conservation_nat
  simp only [input_amount, output_amount] at hconservation
  simpa [Transfer.Balanced, ConfidentialLedgerJoinSplit.transfer, total, ConfidentialLedgerJoinSplit.inputCoin,
    ConfidentialLedgerJoinSplit.outputCoin] using hconservation

theorem ConfidentialLedgerJoinSplit.Constraints.inputCoin_eq (h : signals.Constraints poseidon pedersen) (i : Fin 2) :
    signals.inputCoin i = (h.input i).coin pedersen := by
  rw [ConfidentialLedgerJoinSplit.inputCoin, Note.coin, h.inputNote_out, h.input_amount]

theorem ConfidentialLedgerJoinSplit.Constraints.outputCoin_eq (h : signals.Constraints poseidon pedersen) (i : Fin 2) :
    signals.outputCoin i = (h.output i).coin pedersen := by
  rw [ConfidentialLedgerJoinSplit.outputCoin, Note.coin, h.outputCommitment, h.output_amount]

/-- An input that is proved under the root of published leaves is one of
them. -/
theorem inputLeaf_mem (hfree : LedgerCollisionFree poseidon pedersen initial leaves used) (hsignals : signals ∈ used)
    (h : signals.Constraints poseidon pedersen) {count : Nat}
    (hroot : signals.merkleRoot = noteRoot (poseidon3 poseidon) (leaves.take count)) (i : Fin 2) :
    (h.input i).commitmentHash poseidon pedersen ∈ leaves.take count := by
  have hleaf : (signals.inputPath i).leaf = (h.input i).commitmentHash poseidon pedersen := by
    rw [h.inputPath_leaf, h.inputCommitmentHash_eq]
  have hnonzero : (h.input i).commitmentHash poseidon pedersen ≠ 0 := by
    rw [← h.inputCommitmentHash_eq]
    exact hfree.nonzero signals hsignals i
  have hinjective : Set.InjOn (fun pair : FieldElement × FieldElement =>
      merkleNode (poseidon3 poseidon) pair.1 pair.2)
      {pair | HashedByLedger poseidon pedersen initial leaves used [merkleNodeDomain, pair.1, pair.2]} := by
    intro first hfirst second hsecond hsame
    have hcalls := hfree.poseidon hfirst hsecond hsame
    simp only [List.cons.injEq, and_true, true_and] at hcalls
    exact Prod.ext hcalls.1 hcalls.2
  have hlength : (signals.inputPath i).steps.length = merkleTreeDepth := MerklePath.length_steps _
  have hpath : ∀ pair ∈ pathInputs (merkleNode (poseidon3 poseidon)) (signals.inputPath i).steps
      ((h.input i).commitmentHash poseidon pedersen),
      pair ∈ {pair : FieldElement × FieldElement |
        HashedByLedger poseidon pedersen initial leaves used [merkleNodeDomain, pair.1, pair.2]} := by
    intro pair hpair
    have hinputs := (h.inputPath i).pathInputs_eq
    rw [hleaf] at hinputs
    have hlevels : pair ∈ List.ofFn fun level =>
        ((signals.inputPath i).left level, (signals.inputPath i).right level) := hinputs ▸ hpair
    obtain ⟨level, rfl⟩ := List.mem_ofFn.mp hlevels
    apply HashedByLedger.assignment signals hsignals
    apply ConfidentialLedgerJoinSplit.mem_poseidonInputs i
    apply List.mem_append_right
    exact List.mem_ofFn.mpr ⟨level, rfl⟩
  have htree : treeInputs (merkleNode (poseidon3 poseidon)) (padded 0 (leaves.take count))
      (signals.inputPath i).steps.length ⊆ {pair : FieldElement × FieldElement |
        HashedByLedger poseidon pedersen initial leaves used [merkleNodeDomain, pair.1, pair.2]} := by
    rw [hlength]
    exact fun pair hpair => .tree count pair hpair
  have hrootEq : pathRoot (merkleNode (poseidon3 poseidon)) (signals.inputPath i).steps
      ((h.input i).commitmentHash poseidon pedersen) =
        treeRoot (merkleNode (poseidon3 poseidon)) 0 (signals.inputPath i).steps.length (leaves.take count) := by
    rw [hlength, ← h.merkleRoot_eq i, hroot]
    rfl
  exact mem_of_pathRoot_treeRoot hinjective hpath htree hrootEq hnonzero

/-- An input whose leaf is that of a note of the ledger is that note's coin. -/
private theorem inputCoin_eq (hfree : LedgerCollisionFree poseidon pedersen initial leaves used)
    (hsignals : signals ∈ used) (h : signals.Constraints poseidon pedersen) {i : Fin 2} {note : Note}
    (hhashed : HashedByLedger poseidon pedersen initial leaves used
      [merkleLeafDomain, (note.commitment pedersen).1, (note.commitment pedersen).2])
    (hcommitted : (∃ signals ∈ used, note.message ∈ signals.pedersenInputs) ∨
      ∃ known ∈ initial, note.message = known.message)
    (hleaf : (h.input i).commitmentHash poseidon pedersen = note.commitmentHash poseidon pedersen) :
    signals.inputCoin i = note.coin pedersen := by
  have hcall : HashedByLedger poseidon pedersen initial leaves used
      [merkleLeafDomain, (signals.inputNote i).out.1, (signals.inputNote i).out.2] :=
    .assignment signals hsignals _ (ConfidentialLedgerJoinSplit.mem_poseidonInputs i
      (by simp [ConfidentialLedgerJoinSplit.inputPoseidonInputs]))
  rw [h.inputNote_out] at hcall
  have hcalls := hfree.poseidon hcall hhashed hleaf
  simp only [List.cons.injEq, and_true, true_and] at hcalls
  have hcommitment : pedersen (h.input i).message = pedersen note.message := Prod.ext hcalls.1 hcalls.2
  have hin : (h.input i).message ∈ signals.pedersenInputs := by
    have hmem := @ConfidentialLedgerJoinSplit.mem_pedersenInputs_input _ signals i
    rwa [(h.inputNote i).component.pedersenIn_eq] at hmem
  have hmessage := hfree.pedersen (Or.inl ⟨signals, hsignals, hin⟩) hcommitted hcommitment
  rw [h.inputCoin_eq, Note.message_injective hmessage]

/-- An input whose leaf is that of an initial note is that note's coin. -/
theorem inputCoin_eq_initial (hfree : LedgerCollisionFree poseidon pedersen initial leaves used)
    (hsignals : signals ∈ used) (h : signals.Constraints poseidon pedersen) {i : Fin 2} {note : Note}
    (hnote : note ∈ initial)
    (hleaf : (h.input i).commitmentHash poseidon pedersen = note.commitmentHash poseidon pedersen) :
    signals.inputCoin i = note.coin pedersen :=
  inputCoin_eq hfree hsignals h (.initial note hnote) (Or.inr ⟨note, hnote, rfl⟩) hleaf

/-- An input whose leaf is that of an output is that output's coin. -/
theorem inputCoin_eq_output (hfree : LedgerCollisionFree poseidon pedersen initial leaves used)
    (hsignals : signals ∈ used) (h : signals.Constraints poseidon pedersen) (hother : other ∈ used)
    (h' : other.Constraints poseidon pedersen) {i j : Fin 2}
    (hleaf : (h.input i).commitmentHash poseidon pedersen =
      merkleLeaf (poseidon3 poseidon) (other.outputCommitmentX j) (other.outputCommitmentY j)) :
    signals.inputCoin i = other.outputCoin j := by
  have hcommitment := h'.outputCommitment j
  rw [h'.outputCoin_eq]
  apply inputCoin_eq hfree hsignals h
  · rw [← hcommitment]
    exact .output other hother j
  · refine Or.inl ⟨other, hother, ?_⟩
    have hmem := @ConfidentialLedgerJoinSplit.mem_pedersenInputs_output _ other j
    rwa [(h'.outputNote j).component.pedersenIn_eq] at hmem
  · rw [hleaf, Note.commitmentHash, ← hcommitment]
    rfl

end Origin

/-- The notes of a context that has seen no transfer yet. -/
def sampleInitial : List Note :=
  [sampleNote 700 (ownerPubKey sampleHash 11) 1, sampleNote 5 (ownerPubKey sampleHash 11) 3]

def sampleLeaves : List FieldElement := sampleInitial.map (Note.commitmentHash sampleHash samplePedersen)

theorem sampleInitial_root : samplePublicInputs.merkleRoot = noteRoot (poseidon3 sampleHash) sampleLeaves := by
  rw [noteRoot, ← buildTree_root]
  decide +kernel

theorem sampleInitial_collisionFree :
    LedgerCollisionFree sampleHash samplePedersen sampleInitial sampleLeaves [sampleSignals] := by
  apply LedgerCollisionFree.of_check
  · decide +kernel
  · decide +kernel
  · decide +kernel

end rwa.circuit
