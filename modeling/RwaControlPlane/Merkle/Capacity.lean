import RwaControlPlane.Merkle.NoteTree

open checked rwa.security

namespace rwa.merkle

variable {poseidon3 : FieldElement → FieldElement → FieldElement → FieldElement}

/-- The occupied levels are the set bits of a size. -/
def Occupied : Nat → List (Option FieldElement) → Prop
  | _, [] => True
  | size, slot :: levels => slot.isSome = decide (size % 2 = 1) ∧ Occupied (size / 2) levels

section Frontier

/-- The bit of a level, and the sizes of the levels above it. -/
private theorem shift_testBit {size level : Nat} : size.testBit level = decide (size / 2 ^ level % 2 = 1) :=
  Nat.testBit_eq_decide_div_mod_eq

private theorem shift_succ {size level : Nat} : size / 2 ^ level / 2 = size / 2 ^ (level + 1) := by
  rw [pow_succ, Nat.div_div_eq_div_mul]

private theorem parseLevel_isSome {size level : Nat} {entry : Option String} {slot : Option FieldElement}
    (h : parseLevel size level entry = .ok slot) : slot.isSome = size.testBit level := by
  unfold parseLevel at h
  split at h
  · next hbit =>
    rw [rethrow_eq_ok_iff] at h
    cases hentry : normalizeFieldElement (entry.getD "") s!"frontier[{level}]" with
    | error failure =>
      rw [hentry] at h
      cases h
    | ok root =>
      rw [hentry] at h
      obtain rfl := Except.ok.inj h
      rw [hbit]
      rfl
  · next hbit =>
    obtain ⟨-, -, h⟩ := bind_eq_ok_iff.mp h
    obtain rfl := pure_eq_ok_iff.mp h
    simpa using hbit

/-- A frontier is accepted only with one entry for every set bit of the size. -/
theorem parseLevels_occupied {size : Nat} {entries : StoredFrontier} :
    ∀ {level : Nat} {levels : List (Option FieldElement)}, parseLevels size level entries = .ok levels →
      levels.length = entries.length ∧ Occupied (size / 2 ^ level) levels := by
  induction entries with
  | nil =>
    intro level levels h
    obtain rfl := pure_eq_ok_iff.mp h
    exact ⟨rfl, trivial⟩
  | cons entry entries ih =>
    intro level levels h
    obtain ⟨slot, hslot, h⟩ := bind_eq_ok_iff.mp h
    obtain ⟨rest, hrest, h⟩ := bind_eq_ok_iff.mp h
    obtain rfl := pure_eq_ok_iff.mp h
    obtain ⟨hlength, hoccupied⟩ := ih hrest
    refine ⟨congrArg Nat.succ hlength, ?_, ?_⟩
    · rw [parseLevel_isSome hslot, shift_testBit]
    · rwa [shift_succ]

theorem parseLevels_of_occupied {size : Nat} {levels : List (Option FieldElement)} :
    ∀ {level : Nat}, Occupied (size / 2 ^ level) levels →
      parseLevels size level (levels.map (Option.map toText)) = .ok levels := by
  induction levels with
  | nil => exact fun _ => rfl
  | cons slot levels ih =>
    intro level h
    obtain ⟨hslot, hrest⟩ := h
    rw [shift_succ] at hrest
    rw [List.map_cons, parseLevels, parseLevel_print (by rw [hslot, shift_testBit]), ih hrest]
    rfl

/-- Exactly the occupied frontiers of full length are accepted. -/
theorem parseMerkleFrontier_of_occupied {size : Nat} {levels : List (Option FieldElement)}
    (hsize : size < maxTreeSize) (hlength : levels.length = merkleTreeDepth) (h : Occupied size levels) :
    parseMerkleFrontier size (levels.map (Option.map toText)) = .ok levels := by
  simp only [parseMerkleFrontier, bind_eq_ok_iff, parseTreeSize_eq_ok_iff, throwIf_eq_ok_iff, exists_unit]
  refine ⟨size, ⟨rfl, hsize⟩, by simpa using hlength, ?_⟩
  exact parseLevels_of_occupied (by simpa using h)

theorem parseMerkleFrontier_occupied {size : Nat} {stored : StoredFrontier} {levels : List (Option FieldElement)}
    (h : parseMerkleFrontier size stored = .ok levels) :
    size < maxTreeSize ∧ levels.length = merkleTreeDepth ∧ Occupied size levels := by
  simp only [parseMerkleFrontier, bind_eq_ok_iff, parseTreeSize_eq_ok_iff, throwIf_eq_ok_iff, exists_unit] at h
  obtain ⟨parsed, ⟨hparsed, hsize⟩, hlength, hlevels⟩ := h
  obtain rfl : size = parsed := by exact_mod_cast hparsed
  obtain ⟨hentries, hoccupied⟩ := parseLevels_occupied hlevels
  exact ⟨hsize, hentries.trans (not_not.mp hlength), by simpa using hoccupied⟩

end Frontier

section Append

/-- The carry of one leaf stays inside the levels while one more leaf fits. -/
theorem carryLeaf_occupied {levels : List (Option FieldElement)} :
    ∀ {size : Nat} {carry : FieldElement}, Occupied size levels → size + 1 < 2 ^ levels.length →
      ∃ next, carryLeaf poseidon3 size levels carry = .ok next ∧ next.length = levels.length ∧
        Occupied (size + 1) next := by
  induction levels with
  | nil =>
    intro size carry _ hroom
    simp at hroom
  | cons slot levels ih =>
    intro size carry h hroom
    obtain ⟨hslot, hrest⟩ := h
    rw [List.length_cons, pow_succ] at hroom
    by_cases hodd : size % 2 = 1
    · -- the level is occupied: it is emptied, and the carry goes one level up
      obtain ⟨left, rfl⟩ : ∃ left, slot = some left := by
        rw [← Option.isSome_iff_exists, hslot, decide_eq_true hodd]
      obtain ⟨next, hnext, hlength, hoccupied⟩ := @ih (size / 2) (merkleNode poseidon3 left carry) hrest (by omega)
      have hhalf : (size + 1) / 2 = size / 2 + 1 := by omega
      refine ⟨none :: next, ?_, congrArg Nat.succ hlength, ?_, ?_⟩
      · simp only [carryLeaf, if_pos hodd, bind_eq_ok_iff, require_eq_ok_iff, pure_eq_ok_iff]
        exact ⟨left, rfl, next, hnext, rfl⟩
      · simp only [Option.isSome_none]
        rw [eq_comm, decide_eq_false_iff_not]
        omega
      · rwa [hhalf]
    · have hhalf : (size + 1) / 2 = size / 2 := by omega
      refine ⟨some carry :: levels, by simp only [carryLeaf, if_neg hodd]; rfl, rfl, ?_, ?_⟩
      · simp only [Option.isSome_some]
        rw [eq_comm, decide_eq_true_eq]
        omega
      · rwa [hhalf]

theorem appendLeaves_occupied {leaves : List FieldElement} :
    ∀ {size : Nat} {levels : List (Option FieldElement)}, Occupied size levels →
      size + leaves.length < 2 ^ levels.length →
      ∃ next, appendLeaves poseidon3 size levels (leaves.map toText) = .ok (size + leaves.length, next) ∧
        next.length = levels.length ∧ Occupied (size + leaves.length) next := by
  induction leaves with
  | nil => exact fun h _ => ⟨_, rfl, rfl, h⟩
  | cons leaf leaves ih =>
    intro size levels h hroom
    rw [List.length_cons] at hroom
    obtain ⟨carried, hcarried, hlength, hoccupied⟩ := @carryLeaf_occupied poseidon3 levels size leaf h (by omega)
    obtain ⟨next, hnext, hnextLength, hnextOccupied⟩ := ih hoccupied (by rw [hlength]; omega)
    have hcount : size + (leaf :: leaves).length = size + 1 + leaves.length := by
      rw [List.length_cons]
      omega
    refine ⟨next, ?_, hnextLength.trans hlength, by rwa [hcount]⟩
    simp only [List.map_cons, appendLeaves, bind_eq_ok_iff, normalizeFieldElement_toText, Except.ok.injEq,
      exists_eq_left', hcount]
    exact ⟨carried, hcarried, hnext⟩

end Append

section Capacity

/-- What an append of `count` leaves is for: it succeeds while there is room, with
a state that is accepted again, and is refused as full otherwise. -/
def AppendsWithinCapacity (poseidon3 : FieldElement → FieldElement → FieldElement → FieldElement) (size count : Nat)
    (result : Except Failure MerkleTreeState) : Prop :=
  (size + count ≤ maxTreeSize → ∃ next, result = .ok next ∧ next.treeSize = size + count ∧
    (∃ levels, parseMerkleFrontier next.treeSize next.frontier = .ok levels) ∧
    ∃ root, merkleRootFromFrontier poseidon3 next.treeSize next.frontier = .ok root ∧ next.root = toText root) ∧
  (maxTreeSize < size + count → ∃ failure, result = .error failure ∧ failure.code = "MERKLE_TREE_FULL")

variable {size : Nat} {stored : StoredFrontier} {levels : List (Option FieldElement)} {expectedRoot : Option String}
  {leaves : List FieldElement}

private theorem assertExpectedRoot_ok
    (hexpected : ∀ expected ∈ expectedRoot, ∃ root, merkleRootFromFrontier poseidon3 size stored = .ok root ∧
      expected = toText root) : assertExpectedRoot poseidon3 size stored expectedRoot = .ok () := by
  cases expectedRoot with
  | none => rfl
  | some expected =>
    obtain ⟨root, hroot, rfl⟩ := hexpected expected rfl
    simp only [assertExpectedRoot, bind_eq_ok_iff, throwIf_eq_ok_iff]
    exact ⟨root, hroot, not_not.mpr rfl⟩

theorem merkleRootFromFrontier_of_occupied (hsize : size < maxTreeSize) (hlength : levels.length = merkleTreeDepth)
    (h : Occupied size levels) :
    ∃ root, merkleRootFromFrontier poseidon3 size (levels.map (Option.map toText)) = .ok root := by
  simp only [merkleRootFromFrontier, bind_eq_ok_iff, parseTreeSize_eq_ok_iff, pure_eq_ok_iff]
  exact ⟨_, size, ⟨rfl, hsize⟩, levels, parseMerkleFrontier_of_occupied hsize hlength h, rfl⟩

/-- An append that leaves a place free succeeds. -/
theorem appendMerkleLeaves_of_room (hstate : parseMerkleFrontier size stored = .ok levels)
    (hexpected : ∀ expected ∈ expectedRoot, ∃ root, merkleRootFromFrontier poseidon3 size stored = .ok root ∧
      expected = toText root)
    (hleaves : leaves ≠ []) (hroom : size + leaves.length < maxTreeSize) :
    ∃ next root, next.length = merkleTreeDepth ∧ Occupied (size + leaves.length) next ∧
      merkleRootFromFrontier poseidon3 (size + leaves.length : Nat) (next.map (Option.map toText)) = .ok root ∧
      appendMerkleLeaves poseidon3 size stored expectedRoot (leaves.map toText) =
        .ok ⟨size + leaves.length, next.map (Option.map toText), toText root⟩ := by
  obtain ⟨hsize, hlength, hoccupied⟩ := parseMerkleFrontier_occupied hstate
  have hlevels : size + leaves.length < 2 ^ levels.length := by rwa [hlength]
  obtain ⟨next, hnext, hnextLength, hnextOccupied⟩ := @appendLeaves_occupied poseidon3 leaves _ _ hoccupied hlevels
  have hdepth := hnextLength.trans hlength
  obtain ⟨root, hroot⟩ := @merkleRootFromFrontier_of_occupied poseidon3 _ _ hroom hdepth hnextOccupied
  refine ⟨next, root, hdepth, hnextOccupied, hroot, ?_⟩
  simp only [appendMerkleLeaves, bind_eq_ok_iff, throwIf_eq_ok_iff, exists_unit, parseTreeSize_eq_ok_iff,
    pure_eq_ok_iff]
  exact ⟨size, ⟨rfl, hsize⟩, levels, hstate, assertExpectedRoot_ok hexpected, by simpa using hleaves,
    by rw [List.length_map]; omega, _, hnext, root, hroot, rfl⟩

/-- An append that succeeds has left a place free, since the size of a full tree is
refused when its root is computed. -/
theorem room_of_appendMerkleLeaves {next : MerkleTreeState} {appended : List String}
    (h : appendMerkleLeaves poseidon3 size stored expectedRoot appended = .ok next) :
    size + appended.length < maxTreeSize := by
  simp only [appendMerkleLeaves, bind_eq_ok_iff, throwIf_eq_ok_iff, exists_unit, parseTreeSize_eq_ok_iff] at h
  obtain ⟨parsed, ⟨hparsed, _⟩, _, _, _, _, _, result, hresult, root, hroot, _⟩ := h
  obtain rfl : size = parsed := by exact_mod_cast hparsed
  simp only [merkleRootFromFrontier, bind_eq_ok_iff, parseTreeSize_eq_ok_iff] at hroot
  obtain ⟨grown, ⟨hgrown, hbound⟩, -⟩ := hroot
  have hcount := appendLeaves_size hresult
  omega

/-- An append to a state that is accepted does what it is for exactly if it does
not fill the tree. -/
theorem appendMerkleLeaves_capacity (hstate : parseMerkleFrontier size stored = .ok levels)
    (hexpected : ∀ expected ∈ expectedRoot, ∃ root, merkleRootFromFrontier poseidon3 size stored = .ok root ∧
      expected = toText root) (hleaves : leaves ≠ []) :
    AppendsWithinCapacity poseidon3 size leaves.length
        (appendMerkleLeaves poseidon3 size stored expectedRoot (leaves.map toText)) ↔
      size + leaves.length ≠ maxTreeSize := by
  constructor
  · rintro ⟨hfits, -⟩ hfull
    obtain ⟨next, hnext, -⟩ := hfits hfull.le
    have hroom := room_of_appendMerkleLeaves hnext
    rw [List.length_map] at hroom
    omega
  · intro hfull
    refine ⟨fun hfits => ?_, fun hover => ?_⟩
    · have hroom : size + leaves.length < maxTreeSize := by omega
      obtain ⟨next, root, hlength, hoccupied, hroot, hnext⟩ :=
        appendMerkleLeaves_of_room hstate hexpected hleaves hroom
      exact ⟨_, hnext, rfl, ⟨next, parseMerkleFrontier_of_occupied hroom hlength hoccupied⟩, root, hroot, rfl⟩
    · obtain ⟨hsize, -⟩ := parseMerkleFrontier_occupied hstate
      have hparsed : parseTreeSize size = .ok size := parseTreeSize_eq_ok_iff.mpr ⟨rfl, hsize⟩
      have hnonempty : ¬(leaves.map toText).length = 0 := by simpa using hleaves
      have hexceeds : maxTreeSize < size + (leaves.map toText).length := by rwa [List.length_map]
      refine ⟨⟨"MERKLE_TREE_FULL", "the confidential note tree has no remaining capacity"⟩, ?_, rfl⟩
      simp only [appendMerkleLeaves, hparsed, bind, Except.bind, hstate, assertExpectedRoot_ok hexpected, throwIf,
        if_neg hnonempty, if_pos hexceeds]

private def sampleHash (first second third : FieldElement) : FieldElement := first + 2 * second + 3 * third

theorem appendMerkleLeaves_capacity_sample :
    AppendsWithinCapacity sampleHash 0 2
      (appendMerkleLeaves sampleHash (0 : Nat) (noteTree sampleHash []).frontier none ([5, 6].map toText)) :=
  (@appendMerkleLeaves_capacity sampleHash 0 _ _ none [5, 6] (@parseMerkleFrontier_noteTree sampleHash [] (by decide))
    nofun (by decide)).mpr (by decide)

/-- The last leaf of a tree is refused, although it has a place. -/
theorem appendMerkleLeaves_last_leaf :
    (parseMerkleFrontier (2 ^ 32 - 1 : Nat) (List.replicate 32 (some "1"))).isOk = true ∧
      ¬AppendsWithinCapacity sampleHash (2 ^ 32 - 1) 1
        (appendMerkleLeaves sampleHash (2 ^ 32 - 1 : Nat) (List.replicate 32 (some "1")) none ["5"]) := by
  refine ⟨by decide +kernel, ?_⟩
  rintro ⟨hfits, -⟩
  obtain ⟨next, hnext, -⟩ := hfits (by decide)
  exact absurd (room_of_appendMerkleLeaves hnext) (by decide)

end Capacity

end rwa.merkle
