import RwaControlPlane.Circuit.Spending
import RwaControlPlane.Merkle.Proof

open rwa.security rwa.merkle bit_decomposition padded_tree

namespace rwa.circuit

variable {poseidon : List FieldElement → FieldElement}

/-- The path signals carry a proof. -/
def MerklePath.Carries {DEPTH : Nat} (signals : MerklePath DEPTH) (proof : MerkleProof) : Prop :=
  ∀ i : Fin DEPTH, proof.pathElements[i.val]? = some (some (signals.pathElements i)) ∧
    ∃ direction : Int, proof.pathDirections[i.val]? = some direction ∧
      signals.pathDirections i = (direction : FieldElement)

section Completeness

variable {leaves : List FieldElement} {index : Nat}

/-- Signals that carry the proof of an index follow its path. -/
theorem MerklePath.Carries.steps_eq {signals : MerklePath merkleTreeDepth} (hindex : index < 2 ^ 31)
    (h : signals.Carries (merkleProof (buildTree (poseidon3 poseidon) leaves merkleTreeDepth) index)) :
    signals.steps = indexPath (poseidon3 poseidon) leaves 0 merkleTreeDepth index := by
  have hproof := @proofSteps_buildTree (poseidon3 poseidon) leaves merkleTreeDepth merkleTreeDepth 0 index
    (Nat.zero_add _) hindex
  apply List.ext_getElem
  · rw [MerklePath.length_steps, length_indexPath]
  · intro i hi hpath
    have hdepth : i < merkleTreeDepth := by rwa [MerklePath.length_steps] at hi
    obtain ⟨helement, direction, hdirection, hsignal⟩ := h ⟨i, hdepth⟩
    simp only [merkleProof, buildTree] at helement hdirection
    simp only [buildTree] at hproof
    rw [hproof, List.map_map, List.getElem?_map, List.getElem?_eq_getElem hpath, Option.map_some,
      Option.some_inj] at helement hdirection
    simp only [Function.comp_apply, Option.some_inj] at helement hdirection
    have hbit : decide (signals.pathDirections ⟨i, hdepth⟩ = 1) =
        ((indexPath (poseidon3 poseidon) leaves 0 merkleTreeDepth index)[i]).1 := by
      rw [hsignal, ← hdirection]
      cases ((indexPath (poseidon3 poseidon) leaves 0 merkleTreeDepth index)[i]).1 <;> simp
    simp only [MerklePath.steps, List.getElem_ofFn]
    exact Prod.ext hbit helement.symm

theorem merklePath_complete {signals : MerklePath merkleTreeDepth} (hindex : index < 2 ^ 31)
    (h : signals.Constraints poseidon merkleNodeDomain) (hleaf : signals.leaf = padded 0 leaves index)
    (hcarries : signals.Carries (merkleProof (buildTree (poseidon3 poseidon) leaves merkleTreeDepth) index)) :
    signals.root = (buildTree (poseidon3 poseidon) leaves merkleTreeDepth).root := by
  have hpath := @pathRoot_indexPath (poseidon3 poseidon) leaves merkleTreeDepth 0 index
  have hsmall : index / 2 ^ merkleTreeDepth = 0 := Nat.div_eq_of_lt (hindex.trans (by decide))
  rw [Nat.zero_add, hsmall, subtreeRoot, ← hleaf] at hpath
  rw [h.root_eq, hcarries.steps_eq hindex, buildTree_root, treeRoot, ← hpath]
  rfl

theorem lt_length_indexPath (poseidon : List FieldElement → FieldElement) (leaves : List FieldElement) (index : Nat)
    (i : Fin merkleTreeDepth) : i.val < (indexPath (poseidon3 poseidon) leaves 0 merkleTreeDepth index).length := by
  rw [length_indexPath]
  exact i.isLt

/-- The signals that a prover assigns from the proof of an index. -/
def proofSignals (poseidon : List FieldElement → FieldElement) (leaves : List FieldElement) (index : Nat) :
    MerklePath merkleTreeDepth :=
  MerklePath.assign poseidon
    (fun i => (indexPath (poseidon3 poseidon) leaves 0 merkleTreeDepth index).get
      ⟨i, lt_length_indexPath poseidon leaves index i⟩) (padded 0 leaves index)

theorem proofSignals_carries (hindex : index < 2 ^ 31) :
    (proofSignals poseidon leaves index).Carries
      (merkleProof (buildTree (poseidon3 poseidon) leaves merkleTreeDepth) index) := by
  have hproof := @proofSteps_buildTree (poseidon3 poseidon) leaves merkleTreeDepth merkleTreeDepth 0 index
    (Nat.zero_add _) hindex
  intro i
  have hi := lt_length_indexPath poseidon leaves index i
  simp only [buildTree] at hproof
  simp only [merkleProof, buildTree, hproof, List.map_map, List.getElem?_map, List.getElem?_eq_getElem hi,
    Option.map_some, Function.comp_apply]
  refine ⟨rfl, _, rfl, ?_⟩
  simp only [proofSignals, MerklePath.assign, List.get_eq_getElem]
  cases ((indexPath (poseidon3 poseidon) leaves 0 merkleTreeDepth index)[i.val]).1 <;> simp

end Completeness

/-- The proof of every index folds to the root of the built tree. Conversely the
signals that fold to that root open exactly the place which their directions
spell, be it one of the leaves or a zero leaf behind them, when no two of the
hashed pairs collide. -/
theorem merkleProof_complete_and_binding {leaves : List FieldElement} (hlength : leaves.length < 2 ^ 31) :
    (∀ index, ∀ hindex : index < leaves.length,
      (∃ signals : MerklePath merkleTreeDepth, signals.Constraints poseidon merkleNodeDomain ∧
        signals.leaf = leaves[index] ∧
        signals.Carries (merkleProof (buildTree (poseidon3 poseidon) leaves merkleTreeDepth) index)) ∧
      ∀ signals : MerklePath merkleTreeDepth, signals.Constraints poseidon merkleNodeDomain →
        signals.leaf = leaves[index] →
        signals.Carries (merkleProof (buildTree (poseidon3 poseidon) leaves merkleTreeDepth) index) →
        signals.root = (buildTree (poseidon3 poseidon) leaves merkleTreeDepth).root) ∧
      ∀ signals : MerklePath merkleTreeDepth, signals.Constraints poseidon merkleNodeDomain →
        Set.InjOn (fun pair : FieldElement × FieldElement => merkleNode (poseidon3 poseidon) pair.1 pair.2)
          (treeInputs (merkleNode (poseidon3 poseidon)) (padded 0 leaves) merkleTreeDepth ∪
            Set.range fun i => (signals.left i, signals.right i)) →
        signals.root = (buildTree (poseidon3 poseidon) leaves merkleTreeDepth).root →
        signals.leaf = padded 0 leaves (pathPosition signals.steps) := by
  refine ⟨fun index hindex => ?_, fun signals h hinjective hroot => ?_⟩
  · have hbound : index < 2 ^ 31 := hindex.trans hlength
    have hleaf : padded 0 leaves index = leaves[index] := by
      rw [padded, List.getD_eq_getElem?_getD, List.getElem?_eq_getElem hindex, Option.getD_some]
    refine ⟨⟨proofSignals poseidon leaves index, MerklePath.assign_constraints _ _, hleaf,
      proofSignals_carries hbound⟩, fun signals h hsignals hcarries => ?_⟩
    exact merklePath_complete hbound h (hsignals.trans hleaf.symm) hcarries
  · have hsteps : signals.steps.length = merkleTreeDepth := MerklePath.length_steps _
    refine pathRoot_treeRoot hinjective (fun pair hpair => Or.inr ?_) ?_ ?_
    · have hinputs : pathInputs (merkleNode (poseidon3 poseidon)) signals.steps signals.leaf =
          List.ofFn fun i => (signals.left i, signals.right i) := h.pathInputs_eq
      rw [hinputs, List.mem_ofFn] at hpair
      exact hpair
    · rw [hsteps]
      exact Set.subset_union_left
    · rw [hsteps, ← buildTree_root, ← hroot, h.root_eq]
      rfl

private def threeLeaves : List FieldElement := [5, 6, 7]

/-- The path of the second leaf: it is a right child, and so is no node above it. -/
private def samplePath : MerklePath merkleTreeDepth :=
  MerklePath.assign sampleHash (fun i =>
    match i.val with
    | 0 => (true, 5)
    | 1 => (false, merkleNode (poseidon3 sampleHash) 7 0)
    | level => (false, merkleZeros (poseidon3 sampleHash) level)) 6

private theorem samplePath_carries :
    samplePath.Carries (merkleProof (buildTree (poseidon3 sampleHash) threeLeaves merkleTreeDepth) 1) := by
  have hproof : merkleProof (buildTree (poseidon3 sampleHash) threeLeaves merkleTreeDepth) 1 =
      ⟨List.ofFn fun i => some (samplePath.pathElements i),
        List.ofFn fun i : Fin merkleTreeDepth => if i.val = 0 then 1 else 0⟩ := by
    decide +kernel
  have hdirections : ∀ i : Fin merkleTreeDepth,
      samplePath.pathDirections i = if i.val = 0 then 1 else 0 := by
    decide +kernel
  intro i
  rw [hproof]
  refine ⟨by simp, if i.val = 0 then 1 else 0, by simp, ?_⟩
  rw [hdirections]
  split <;> simp

private theorem samplePath_injOn :
    Set.InjOn (fun pair : FieldElement × FieldElement => merkleNode (poseidon3 sampleHash) pair.1 pair.2)
      (treeInputs (merkleNode (poseidon3 sampleHash)) (padded 0 threeLeaves) merkleTreeDepth ∪
        Set.range fun i => (samplePath.left i, samplePath.right i)) := by
  have hcalls : Set.InjOn sampleHash {call | call ∈
      (hashedPairs (poseidon3 sampleHash) 0 merkleTreeDepth threeLeaves).map
        fun pair => [merkleNodeDomain, pair.1, pair.2]} :=
    @injOn_of_noCollision _ _ ZMod.val _ _ (by decide +kernel)
  have hpairs : Set.InjOn (fun pair : FieldElement × FieldElement => merkleNode (poseidon3 sampleHash) pair.1 pair.2)
      {pair | pair ∈ hashedPairs (poseidon3 sampleHash) 0 merkleTreeDepth threeLeaves} := by
    intro first hfirst second hsecond hsame
    have hcall := hcalls (List.mem_map_of_mem hfirst) (List.mem_map_of_mem hsecond) hsame
    simp only [List.cons.injEq, and_true, true_and] at hcall
    exact Prod.ext hcall.1 hcall.2
  have hpath : ∀ i, (samplePath.left i, samplePath.right i) ∈
      hashedPairs (poseidon3 sampleHash) 0 merkleTreeDepth threeLeaves := by
    decide +kernel
  refine hpairs.mono ?_
  rintro pair (hpair | ⟨i, rfl⟩)
  · exact treeInputs_subset_hashedPairs hpair
  · exact hpath i

theorem merkleProof_complete_and_binding_sample :
    samplePath.root = (buildTree (poseidon3 sampleHash) threeLeaves merkleTreeDepth).root ∧
      samplePath.leaf = padded 0 threeLeaves (pathPosition samplePath.steps) := by
  obtain ⟨hcomplete, hbinding⟩ := @merkleProof_complete_and_binding sampleHash threeLeaves (by decide)
  have hconstraints : samplePath.Constraints sampleHash merkleNodeDomain := MerklePath.assign_constraints _ _
  have hroot := (hcomplete 1 (by decide)).2 _ hconstraints rfl samplePath_carries
  exact ⟨hroot, hbinding _ hconstraints samplePath_injOn hroot⟩

end rwa.circuit
