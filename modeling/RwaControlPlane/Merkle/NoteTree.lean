import RwaControlPlane.Merkle.Frontier

open checked rwa.security padded_tree

namespace rwa.merkle

variable (poseidon3 : FieldElement → FieldElement → FieldElement → FieldElement)

/-- Root of the depth-32 tree over a list of leaves. -/
def noteRoot (leaves : List FieldElement) : FieldElement :=
  treeRoot (merkleNode poseidon3) 0 merkleTreeDepth leaves

/-- Occupied levels of the frontier of a list of leaves. -/
def noteLevels (leaves : List FieldElement) : List (Option FieldElement) :=
  frontier (merkleNode poseidon3) 0 merkleTreeDepth leaves

/-- The state that commits to a list of leaves. -/
def noteTree (leaves : List FieldElement) : MerkleTreeState where
  treeSize := leaves.length
  frontier := (noteLevels poseidon3 leaves).map (Option.map toText)
  root := toText (noteRoot poseidon3 leaves)

variable {poseidon3}

theorem merkleZeros_eq (level : Nat) :
    merkleZeros poseidon3 level = zeroRoot (merkleNode poseidon3) 0 level := by
  induction level with
  | zero => rfl
  | succ level ih => rw [merkleZeros, zeroRoot, ih]

@[simp] theorem noteTree_nil : noteTree poseidon3 [] = emptyMerkleTreeState poseidon3 := by
  have hroot : noteRoot poseidon3 [] = merkleZeros poseidon3 merkleTreeDepth := by
    rw [merkleZeros_eq, noteRoot, treeRoot]
    exact subtreeRoot_of_length_le _ (by simp)
  simp [noteTree, emptyMerkleTreeState, noteLevels, hroot]

theorem parseTreeSize_eq_ok_iff {value : Int} {size : Nat} :
    parseTreeSize value = .ok size ↔ value = size ∧ size < maxTreeSize := by
  simp only [parseTreeSize, bind_eq_ok_iff, throwIf_eq_ok_iff, exists_unit, pure_eq_ok_iff]
  omega

/-- Parsing a printed level gives it back when its occupation agrees with the
tree size. -/
theorem parseLevel_print {size level : Nat} {slot : Option FieldElement}
    (hslot : slot.isSome = size.testBit level) :
    parseLevel size level (slot.map toText) = .ok slot := by
  cases slot with
  | none =>
    simp only [Option.isSome_none] at hslot
    simp [parseLevel, ← hslot, throwIf, Functor.map, Except.map]
  | some root =>
    simp only [Option.isSome_some] at hslot
    simp [parseLevel, ← hslot, Functor.map, Except.map]

theorem isSome_frontierSlot {leaves : List FieldElement} {level : Nat} :
    (frontierSlot (merkleNode poseidon3) 0 leaves level).isSome = leaves.length.testBit level := by
  rw [Nat.testBit_eq_decide_div_mod_eq, frontierSlot]
  split
  · next hodd => simp [hodd]
  · next heven => simp [heven]

private theorem parseLevels_print {leaves : List FieldElement} {count : Nat} :
    ∀ {level : Nat},
      parseLevels leaves.length level
          ((frontierFrom (merkleNode poseidon3) 0 leaves level count).map (Option.map toText)) =
        .ok (frontierFrom (merkleNode poseidon3) 0 leaves level count) := by
  induction count with
  | zero =>
    intro level
    rfl
  | succ count ih =>
    intro level
    simp only [frontierFrom, List.map_cons, parseLevels, parseLevel_print isSome_frontierSlot, ih]
    rfl

theorem parseMerkleFrontier_noteTree {leaves : List FieldElement} (hroom : leaves.length < maxTreeSize) :
    parseMerkleFrontier leaves.length (noteTree poseidon3 leaves).frontier =
      .ok (noteLevels poseidon3 leaves) := by
  simp only [parseMerkleFrontier, bind_eq_ok_iff, parseTreeSize_eq_ok_iff, throwIf_eq_ok_iff, exists_unit]
  refine ⟨leaves.length, ⟨rfl, hroom⟩, ?_, parseLevels_print⟩
  simp [noteTree, noteLevels]

/-- The stored root is the root of the padded tree. -/
theorem merkleRootFromFrontier_noteTree {leaves : List FieldElement} (hroom : leaves.length < maxTreeSize) :
    merkleRootFromFrontier poseidon3 leaves.length (noteTree poseidon3 leaves).frontier =
      .ok (noteRoot poseidon3 leaves) := by
  have hzeros : merkleZeros poseidon3 = zeroRoot (merkleNode poseidon3) 0 := funext merkleZeros_eq
  simp only [merkleRootFromFrontier, bind_eq_ok_iff, parseTreeSize_eq_ok_iff, pure_eq_ok_iff]
  refine ⟨leaves.length, ⟨rfl, hroom⟩, _, parseMerkleFrontier_noteTree hroom, ?_⟩
  rw [hzeros]
  exact foldFrontier_frontier hroom

/-- On a frontier whose occupied levels match the size, the carry loop never
meets a missing node. -/
private theorem carryLeaf_eq {leaves : List FieldElement} {count : Nat} :
    ∀ {level : Nat} {carry : FieldElement},
      carryLeaf poseidon3 (leaves.length / 2 ^ level)
          (frontierFrom (merkleNode poseidon3) 0 leaves level count) carry =
        .ok (carryUp (merkleNode poseidon3) (leaves.length / 2 ^ level)
          (frontierFrom (merkleNode poseidon3) 0 leaves level count) carry) := by
  induction count with
  | zero =>
    intro level carry
    rfl
  | succ count ih =>
    intro level carry
    have hhalf : leaves.length / 2 ^ level / 2 = leaves.length / 2 ^ (level + 1) := by
      rw [pow_succ, Nat.div_div_eq_div_mul]
    by_cases hodd : leaves.length / 2 ^ level % 2 = 1
    · simp only [frontierFrom, frontierSlot, if_pos hodd, carryLeaf, carryUp, require, hhalf]
      simp only [bind_eq_ok_iff, pure_eq_ok_iff, Except.ok.injEq, exists_eq_left']
      exact ⟨_, ih, rfl⟩
    · simp only [frontierFrom, frontierSlot, if_neg hodd, carryLeaf, carryUp]
      rfl

private theorem carryLeaf_noteLevels {leaves : List FieldElement} {leaf : FieldElement}
    (hroom : leaves.length + 1 < maxTreeSize) :
    carryLeaf poseidon3 leaves.length (noteLevels poseidon3 leaves) leaf =
      .ok (noteLevels poseidon3 (leaves ++ [leaf])) := by
  have h := @carryLeaf_eq poseidon3 leaves merkleTreeDepth 0 leaf
  simp only [pow_zero, Nat.div_one] at h
  rw [noteLevels, padded_tree.frontier, h, noteLevels, ← carryUp_frontier hroom]
  rfl

private theorem appendLeaves_noteLevels {appended : List FieldElement} :
    ∀ {leaves : List FieldElement}, leaves.length + appended.length < maxTreeSize →
      appendLeaves poseidon3 leaves.length (noteLevels poseidon3 leaves) (appended.map toText) =
        .ok ((leaves ++ appended).length, noteLevels poseidon3 (leaves ++ appended)) := by
  induction appended with
  | nil =>
    intro leaves _
    simp [appendLeaves, pure_eq_ok_iff]
  | cons leaf appended ih =>
    intro leaves hroom
    simp only [List.length_cons] at hroom
    have hrest := @ih (leaves ++ [leaf]) (by simp; omega)
    simp only [List.append_assoc, List.singleton_append, List.length_append, List.length_singleton] at hrest
    simp only [List.map_cons, appendLeaves, bind_eq_ok_iff, normalizeFieldElement_toText, Except.ok.injEq,
      exists_eq_left']
    refine ⟨_, carryLeaf_noteLevels (by omega), ?_⟩
    simpa using hrest

/-- Appending leaves to the state of a leaf list gives the state of the longer
list. The tree must keep at least one free leaf. -/
theorem appendMerkleLeaves_noteTree {leaves appended : List FieldElement} {expectedRoot : Option String}
    (hexpected : expectedRoot = none ∨ expectedRoot = some (noteTree poseidon3 leaves).root)
    (happended : appended ≠ []) (hroom : leaves.length + appended.length < maxTreeSize) :
    appendMerkleLeaves poseidon3 (noteTree poseidon3 leaves).treeSize (noteTree poseidon3 leaves).frontier
        expectedRoot (appended.map toText) =
      .ok (noteTree poseidon3 (leaves ++ appended)) := by
  have hbase : leaves.length < maxTreeSize := by omega
  have hgrown : (leaves ++ appended).length < maxTreeSize := by simpa using hroom
  have hchecked : assertExpectedRoot poseidon3 leaves.length (noteTree poseidon3 leaves).frontier expectedRoot =
      .ok () := by
    rcases hexpected with rfl | rfl
    · rfl
    · simp only [assertExpectedRoot, bind_eq_ok_iff, throwIf_eq_ok_iff]
      exact ⟨_, merkleRootFromFrontier_noteTree hbase, not_not.mpr rfl⟩
  simp only [appendMerkleLeaves, bind_eq_ok_iff, throwIf_eq_ok_iff, exists_unit, parseTreeSize_eq_ok_iff,
    pure_eq_ok_iff]
  refine ⟨leaves.length, ⟨rfl, hbase⟩, _, parseMerkleFrontier_noteTree hbase, hchecked,
    by simpa using happended, by simp only [List.length_map]; omega, _, appendLeaves_noteLevels hroom, _,
    merkleRootFromFrontier_noteTree hgrown, rfl⟩

theorem appendLeaves_size {appended : List String} :
    ∀ {size : Nat} {levels : List (Option FieldElement)} {result : Nat × List (Option FieldElement)},
      appendLeaves poseidon3 size levels appended = .ok result → result.1 = size + appended.length := by
  induction appended with
  | nil =>
    intro size levels result h
    obtain rfl := pure_eq_ok_iff.mp h
    rfl
  | cons leaf appended ih =>
    intro size levels result h
    simp only [appendLeaves, bind_eq_ok_iff] at h
    obtain ⟨_, _, _, _, hrest⟩ := h
    rw [ih hrest, List.length_cons]
    omega

/-- A successful append to the state of a leaf list kept a free leaf, because
the size of a full tree is refused when its root is computed. -/
theorem appendMerkleLeaves_noteTree_ok {leaves appended : List FieldElement} {expectedRoot : Option String}
    {next : MerkleTreeState}
    (hexpected : expectedRoot = none ∨ expectedRoot = some (noteTree poseidon3 leaves).root)
    (h : appendMerkleLeaves poseidon3 (noteTree poseidon3 leaves).treeSize (noteTree poseidon3 leaves).frontier
      expectedRoot (appended.map toText) = .ok next) :
    leaves.length + appended.length < maxTreeSize ∧ next = noteTree poseidon3 (leaves ++ appended) := by
  have hparts := h
  simp only [appendMerkleLeaves, bind_eq_ok_iff, throwIf_eq_ok_iff, exists_unit, parseTreeSize_eq_ok_iff] at hparts
  obtain ⟨size, ⟨hsize, _⟩, levels, _, _, hnonempty, _, result, hresult, root, hroot, _⟩ := hparts
  obtain rfl : leaves.length = size := by simpa [noteTree] using hsize
  simp only [merkleRootFromFrontier, bind_eq_ok_iff, parseTreeSize_eq_ok_iff] at hroot
  obtain ⟨grown, ⟨hgrown, hbound⟩, _⟩ := hroot
  have hlength := appendLeaves_size hresult
  simp only [List.length_map] at hlength hnonempty
  have hroom : leaves.length + appended.length < maxTreeSize := by omega
  have happended : appended ≠ [] := fun hnil => hnonempty (by simp [hnil])
  rw [appendMerkleLeaves_noteTree hexpected happended hroom] at h
  exact ⟨hroom, (Except.ok.inj h).symm⟩

end rwa.merkle
