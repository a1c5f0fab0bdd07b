import RwaControlPlane.Library.PaddedTree
import RwaControlPlane.Security.FieldElement

open checked rwa.security

namespace rwa.merkle

/-- Depth of the note tree. -/
def merkleTreeDepth : Nat := 32

/-- Domain tag of a leaf, "CL2LEAF\x01". -/
def merkleLeafDomain : FieldElement := 0x434c324c45414601

/-- Domain tag of an inner node, "CL2NODE\x01". -/
def merkleNodeDomain : FieldElement := 0x434c324e4f444501

/-- Number of leaves of a full tree. -/
def maxTreeSize : Nat := 2 ^ merkleTreeDepth

/-- A stored frontier: one decimal text or `null` for every level. -/
abbrev StoredFrontier := List (Option String)

/-- The tree state returned to callers and stored with a root. -/
structure MerkleTreeState where
  treeSize : Nat
  frontier : StoredFrontier
  root : String
deriving DecidableEq, Repr

section Hash

variable (poseidon3 : FieldElement → FieldElement → FieldElement → FieldElement)

/-- Leaf of a note commitment. -/
def merkleLeaf (commitmentX commitmentY : FieldElement) : FieldElement :=
  poseidon3 merkleLeafDomain commitmentX commitmentY

def merkleNode (left right : FieldElement) : FieldElement :=
  poseidon3 merkleNodeDomain left right

/-- Root of an empty subtree of each level, starting from the zero leaf. -/
def merkleZeros : Nat → FieldElement
  | 0 => 0
  | level + 1 => merkleNode poseidon3 (merkleZeros level) (merkleZeros level)

def parseTreeSize (value : Int) : Except Failure Nat := do
  throwIf (value < 0 ∨ maxTreeSize ≤ value)
    ⟨"INVALID_MERKLE_TREE_STATE", "tree size must be an integer in [0, 2^32)"⟩
  pure value.toNat

/-- One level of a stored frontier. A level is occupied exactly when its bit of
the tree size is set. -/
def parseLevel (size level : Nat) (entry : Option String) : Except Failure (Option FieldElement) :=
  if size.testBit level then
    rethrow (fun cause => ⟨"INVALID_MERKLE_TREE_STATE", cause.message⟩)
      (some <$> normalizeFieldElement (entry.getD "") s!"frontier[{level}]")
  else do
    throwIf (entry ≠ none)
      ⟨"INVALID_MERKLE_TREE_STATE", s!"frontier level {level} must be empty for this tree size"⟩
    pure none

/-- The levels of a stored frontier from `level` up. -/
def parseLevels (size : Nat) : Nat → StoredFrontier → Except Failure (List (Option FieldElement))
  | _, [] => pure []
  | level, entry :: entries => do
    let parsed ← parseLevel size level entry
    let rest ← parseLevels size (level + 1) entries
    pure (parsed :: rest)

def parseMerkleFrontier (treeSize : Int) (frontier : StoredFrontier) :
    Except Failure (List (Option FieldElement)) := do
  let size ← parseTreeSize treeSize
  throwIf (frontier.length ≠ merkleTreeDepth)
    ⟨"INVALID_MERKLE_TREE_STATE", s!"frontier must contain exactly {merkleTreeDepth} levels"⟩
  parseLevels size 0 frontier

/-- Root of the tree described by a size and a frontier. -/
def merkleRootFromFrontier (treeSize : Int) (frontier : StoredFrontier) : Except Failure FieldElement := do
  let size ← parseTreeSize treeSize
  let levels ← parseMerkleFrontier size frontier
  pure (padded_tree.foldFrontier (merkleNode poseidon3) (merkleZeros poseidon3) 0 levels
    (merkleZeros poseidon3 0))

def emptyMerkleTreeState : MerkleTreeState where
  treeSize := 0
  frontier := List.replicate merkleTreeDepth none
  root := toText (merkleZeros poseidon3 merkleTreeDepth)

/-- The carry loop for one leaf. Level 32 is written behind the last level when
the leaf completes the tree. -/
def carryLeaf : Nat → List (Option FieldElement) → FieldElement → Except Failure (List (Option FieldElement))
  | _, [], carry => pure [some carry]
  | size, slot :: levels, carry =>
    if size % 2 = 1 then do
      let left ← require slot ⟨"", "Cannot convert null to a BigInt"⟩
      let rest ← carryLeaf (size / 2) levels (merkleNode poseidon3 left carry)
      pure (none :: rest)
    else pure (some carry :: levels)

/-- The loop over the appended leaves. -/
def appendLeaves : Nat → List (Option FieldElement) → List String →
    Except Failure (Nat × List (Option FieldElement))
  | size, levels, [] => pure (size, levels)
  | size, levels, leaf :: leaves => do
    let carry ← normalizeFieldElement leaf "leaf"
    let carried ← carryLeaf poseidon3 size levels carry
    appendLeaves (size + 1) carried leaves

/-- The stored root is checked against the frontier when one is supplied. -/
def assertExpectedRoot (size : Nat) (frontier : StoredFrontier) : Option String → Except Failure Unit
  | none => pure ()
  | some expectedRoot => do
    let root ← merkleRootFromFrontier poseidon3 size frontier
    throwIf (toText root ≠ expectedRoot)
      ⟨"MERKLE_FRONTIER_ROOT_MISMATCH", "stored frontier does not reproduce its Merkle root"⟩

/-- Append leaves in order and return the new size, frontier and root. -/
def appendMerkleLeaves (treeSize : Int) (frontier : StoredFrontier) (expectedRoot : Option String)
    (leaves : List String) : Except Failure MerkleTreeState := do
  let size ← parseTreeSize treeSize
  let levels ← parseMerkleFrontier size frontier
  assertExpectedRoot poseidon3 size frontier expectedRoot
  throwIf (leaves.length = 0) ⟨"INVALID_MERKLE_APPEND", "at least one leaf is required"⟩
  throwIf (maxTreeSize < size + leaves.length)
    ⟨"MERKLE_TREE_FULL", "the confidential note tree has no remaining capacity"⟩
  let appended ← appendLeaves poseidon3 size levels leaves
  let serialized := appended.2.map (Option.map toText)
  let root ← merkleRootFromFrontier poseidon3 appended.1 serialized
  pure { treeSize := appended.1, frontier := serialized, root := toText root }

end Hash

end rwa.merkle
