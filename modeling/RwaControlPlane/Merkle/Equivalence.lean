import RwaControlPlane.Merkle.Reference

open checked rwa.security padded_tree

namespace rwa.merkle

/-- Append batches one after another. The flag of a batch says whether the
caller supplies the current root as the expected one. -/
def appendBatches (poseidon3 : FieldElement → FieldElement → FieldElement → FieldElement) (state : MerkleTreeState) :
    List (Bool × List FieldElement) → Except Failure MerkleTreeState
  | [] => pure state
  | (checksRoot, batch) :: batches => do
    let next ← appendMerkleLeaves poseidon3 state.treeSize state.frontier
      (if checksRoot then some state.root else none) (batch.map toText)
    appendBatches poseidon3 next batches

variable {poseidon3 : FieldElement → FieldElement → FieldElement → FieldElement}

/-- Batches move the state of a leaf list to the state of the list extended by
the batches. -/
theorem appendBatches_noteTree {batches : List (Bool × List FieldElement)} :
    ∀ {leaves : List FieldElement}, (∀ batch ∈ batches, batch.2 ≠ []) →
      leaves.length + (batches.map Prod.snd).flatten.length < maxTreeSize →
      appendBatches poseidon3 (noteTree poseidon3 leaves) batches =
        .ok (noteTree poseidon3 (leaves ++ (batches.map Prod.snd).flatten)) := by
  induction batches with
  | nil =>
    intro leaves _ _
    simp [appendBatches, pure_eq_ok_iff]
  | cons head batches ih =>
    intro leaves hnonempty hroom
    obtain ⟨checksRoot, batch⟩ := head
    simp only [List.map_cons, List.flatten_cons, List.length_append] at hroom
    have hbatch : batch ≠ [] := hnonempty _ List.mem_cons_self
    have hexpected : (if checksRoot then some (noteTree poseidon3 leaves).root else none) = none ∨
        (if checksRoot then some (noteTree poseidon3 leaves).root else none) =
          some (noteTree poseidon3 leaves).root := by
      cases checksRoot <;> simp
    have hstep := @appendMerkleLeaves_noteTree poseidon3 _ _ _ hexpected hbatch (by omega)
    have hrest := @ih (leaves ++ batch)
      (fun other hother => hnonempty other (List.mem_cons_of_mem _ hother))
      (by simp only [List.length_append]; omega)
    simp only [appendBatches, bind_eq_ok_iff]
    refine ⟨_, hstep, ?_⟩
    rw [hrest, List.map_cons, List.flatten_cons, List.append_assoc]

/-- The incremental frontier tree equals the plain tree: however the leaves are
cut into batches, the appends reach the state of appending them at once, and its
root is the one the witness builder computes. -/
theorem appendBatches_eq_buildTree {leaves : List FieldElement} {batches : List (Bool × List FieldElement)}
    (hpositive : 0 < leaves.length) (hbound : leaves.length < 2 ^ 32)
    (hcut : (batches.map Prod.snd).flatten = leaves) (hnonempty : ∀ batch ∈ batches, batch.2 ≠ []) :
    ∃ state : MerkleTreeState,
      appendBatches poseidon3 (emptyMerkleTreeState poseidon3) batches = .ok state ∧
      appendMerkleLeaves poseidon3 (emptyMerkleTreeState poseidon3).treeSize
        (emptyMerkleTreeState poseidon3).frontier none (leaves.map toText) = .ok state ∧
      state.root = toText (buildTree poseidon3 leaves merkleTreeDepth).root := by
  have hne : leaves ≠ [] := List.length_pos_iff.mp hpositive
  have hroom : ([] : List FieldElement).length + leaves.length < maxTreeSize := by
    simpa [maxTreeSize, merkleTreeDepth] using hbound
  have hbatches := @appendBatches_noteTree poseidon3 batches [] hnonempty (by rwa [hcut])
  have hwhole := @appendMerkleLeaves_noteTree poseidon3 [] leaves none (Or.inl rfl) hne hroom
  rw [noteTree_nil] at hbatches hwhole
  rw [hcut, List.nil_append] at hbatches
  refine ⟨noteTree poseidon3 leaves, hbatches, hwhole, ?_⟩
  rw [buildTree_root]
  rfl

/-- Three leaves cut into a batch of one and a checked batch of two. -/
theorem appendBatches_eq_buildTree_three :
    ∃ state : MerkleTreeState,
      appendBatches (fun tag left right => tag + 2 * left + 3 * right)
        (emptyMerkleTreeState fun tag left right => tag + 2 * left + 3 * right) [(false, [5]), (true, [6, 7])] =
          .ok state ∧
      appendMerkleLeaves (fun tag left right => tag + 2 * left + 3 * right)
        (emptyMerkleTreeState fun tag left right => tag + 2 * left + 3 * right).treeSize
        (emptyMerkleTreeState fun tag left right => tag + 2 * left + 3 * right).frontier none
        ([5, 6, 7].map toText) = .ok state ∧
      state.root =
        toText (buildTree (fun tag left right => tag + 2 * left + 3 * right) [5, 6, 7] merkleTreeDepth).root :=
  appendBatches_eq_buildTree (by decide) (by decide) rfl (by decide)

end rwa.merkle
