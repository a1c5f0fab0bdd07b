import RwaControlPlane.Merkle.Reference
import Mathlib.Data.Nat.Bitwise

open rwa.security padded_tree

namespace rwa.merkle

section Int32

/-- `value ^ 1` -/
def xorOne (value : Int) : Int := (BitVec.ofInt 32 value ^^^ 1#32).toInt

/-- `value & 1` -/
def andOne (value : Int) : Int := (BitVec.ofInt 32 value &&& 1#32).toInt

/-- `value >> 1` -/
def shiftOne (value : Int) : Int := ((BitVec.ofInt 32 value).sshiftRight 1).toInt

variable {index : Nat}

theorem xorOne_natCast (h : index < 2 ^ 31) : xorOne index = (index ^^^ 1 : Nat) := by
  have hbound : index ^^^ 1 < 2 ^ 31 := Nat.xor_lt_two_pow h (by decide)
  rw [xorOne, BitVec.ofInt_natCast, BitVec.toInt_eq_toNat_of_lt]
  · simp [BitVec.toNat_xor, Nat.mod_eq_of_lt (show index < 4294967296 by omega)]
  · simp [BitVec.toNat_xor, Nat.mod_eq_of_lt (show index < 4294967296 by omega)]
    omega

theorem andOne_natCast (h : index < 2 ^ 31) : andOne index = (index % 2 : Nat) := by
  have hbit : index % 2 < 2 := Nat.mod_lt _ (by decide)
  rw [andOne, BitVec.ofInt_natCast, BitVec.toInt_eq_toNat_of_lt]
  · simp [BitVec.toNat_and, Nat.and_one_is_mod, Nat.mod_eq_of_lt (show index < 4294967296 by omega)]
  · simp [BitVec.toNat_and, Nat.and_one_is_mod, Nat.mod_eq_of_lt (show index < 4294967296 by omega)]
    omega

theorem shiftOne_natCast (h : index < 2 ^ 31) : shiftOne index = (index / 2 : Nat) := by
  rw [shiftOne, BitVec.toInt_sshiftRight, BitVec.ofInt_natCast, BitVec.toInt_eq_toNat_of_lt]
  · simp [Nat.mod_eq_of_lt (show index < 4294967296 by omega), Int.shiftRight_eq_div_pow]
  · simp [Nat.mod_eq_of_lt (show index < 4294967296 by omega)]
    omega

end Int32

/-- `layer[index]`, or nothing where that is undefined. -/
def nodeAt (layer : List FieldElement) (index : Int) : Option FieldElement :=
  if index < 0 then none else layer[index.toNat]?

/-- The sibling of a node and its direction: 1 where the node is the right child. -/
def proofStep (tree : BuiltTree) (level : Nat) (index : Int) : Option FieldElement × Int :=
  let layer := tree.layers.getD level []
  (if xorOne index < layer.length then nodeAt layer (xorOne index) else tree.zeros[level]?, andOne index)

/-- The steps from level `level` up. -/
def proofSteps (tree : BuiltTree) : Nat → Nat → Int → List (Option FieldElement × Int)
  | _, 0, _ => []
  | level, remaining + 1, index =>
    proofStep tree level index :: proofSteps tree (level + 1) remaining (shiftOne index)

/-- What `merkleProof` returns. An element is missing where the layer has none. -/
structure MerkleProof where
  pathElements : List (Option FieldElement)
  pathDirections : List Int
deriving DecidableEq

def merkleProof (tree : BuiltTree) (index : Nat) : MerkleProof where
  pathElements := (proofSteps tree 0 tree.depth index).map Prod.fst
  pathDirections := (proofSteps tree 0 tree.depth index).map Prod.snd

variable {poseidon3 : FieldElement → FieldElement → FieldElement → FieldElement} {leaves : List FieldElement}
  {depth : Nat}

/-- The path of an index in a padded tree. -/
def indexPath (poseidon3 : FieldElement → FieldElement → FieldElement → FieldElement) (leaves : List FieldElement) :
    Nat → Nat → Nat → List (Bool × FieldElement)
  | _, 0, _ => []
  | level, remaining + 1, index =>
    (decide (index % 2 = 1), subtreeRoot (merkleNode poseidon3) (padded 0 leaves) level (index ^^^ 1)) ::
      indexPath poseidon3 leaves (level + 1) remaining (index / 2)

theorem length_indexPath (remaining : Nat) :
    ∀ level index, (indexPath poseidon3 leaves level remaining index).length = remaining := by
  induction remaining with
  | zero => exact fun _ _ => rfl
  | succ remaining ih => exact fun level index => congrArg Nat.succ (ih (level + 1) (index / 2))

/-- The step of a node is its sibling in the padded tree. -/
theorem proofStep_buildTree {level index : Nat} (hlevel : level < depth) (hindex : index < 2 ^ 31) :
    proofStep (buildTree poseidon3 leaves depth) level index =
      (some (subtreeRoot (merkleNode poseidon3) (padded 0 leaves) level (index ^^^ 1)), ((index % 2 : Nat) : Int)) := by
  have hlayer : HoldsLevel poseidon3 (padded 0 leaves) (0 + level)
      ((buildTree poseidon3 leaves depth).layers.getD level []) :=
    buildLayers_holdsLevel (fun _ => rfl) level hlevel.le
  have hnode := hlayer (index ^^^ 1)
  rw [Nat.zero_add] at hnode
  rw [proofStep, xorOne_natCast hindex, andOne_natCast hindex, ← hnode]
  have hzero : (buildTree poseidon3 leaves depth).zeros[level]? = some (merkleZeros poseidon3 level) := by
    simp [buildTree, List.getElem?_range (show level < depth + 1 by omega)]
  simp only [Nat.cast_lt, nodeAt, hzero, Int.toNat_natCast]
  generalize (buildTree poseidon3 leaves depth).layers.getD level [] = layer
  split
  · next hinside =>
    rw [if_neg (by omega), List.getD_eq_getElem?_getD, List.getElem?_eq_getElem hinside, Option.getD_some]
  · next houtside =>
    rw [List.getD_eq_getElem?_getD, List.getElem?_eq_none (by omega), Option.getD_none]

/-- The proof of an index is its path in the padded tree. -/
theorem proofSteps_buildTree {remaining : Nat} :
    ∀ {level index : Nat}, level + remaining = depth → index < 2 ^ 31 →
      proofSteps (buildTree poseidon3 leaves depth) level remaining index =
        (indexPath poseidon3 leaves level remaining index).map fun step => (some step.2, (step.1.toNat : Int)) := by
  induction remaining with
  | zero => exact fun _ _ => rfl
  | succ remaining ih =>
    intro level index hdepth hindex
    rw [proofSteps, proofStep_buildTree (by omega) hindex, shiftOne_natCast hindex, ih (by omega) (by omega),
      indexPath, List.map_cons]
    obtain hbit | hbit := Nat.mod_two_eq_zero_or_one index <;> simp [hbit]

/-- Folding the path of an index from its node gives the node above. -/
theorem pathRoot_indexPath {remaining : Nat} :
    ∀ {level index : Nat}, pathRoot (merkleNode poseidon3) (indexPath poseidon3 leaves level remaining index)
        (subtreeRoot (merkleNode poseidon3) (padded 0 leaves) level index) =
      subtreeRoot (merkleNode poseidon3) (padded 0 leaves) (level + remaining) (index / 2 ^ remaining) := by
  induction remaining with
  | zero =>
    intro level index
    rw [pow_zero, Nat.div_one]
    rfl
  | succ remaining ih =>
    intro level index
    have hchildren : merkleNode poseidon3
        (pathChildren (decide (index % 2 = 1), subtreeRoot (merkleNode poseidon3) (padded 0 leaves) level (index ^^^ 1))
          (subtreeRoot (merkleNode poseidon3) (padded 0 leaves) level index)).1
        (pathChildren (decide (index % 2 = 1), subtreeRoot (merkleNode poseidon3) (padded 0 leaves) level (index ^^^ 1))
          (subtreeRoot (merkleNode poseidon3) (padded 0 leaves) level index)).2 =
        subtreeRoot (merkleNode poseidon3) (padded 0 leaves) (level + 1) (index / 2) := by
      rw [subtreeRoot]
      obtain hbit | hbit := Nat.mod_two_eq_zero_or_one index
      · have hsibling : index ^^^ 1 = 2 * (index / 2) + 1 := by
          rw [Nat.xor_one_of_even (Nat.even_iff.mpr hbit)]
          omega
        have hself : index = 2 * (index / 2) := by omega
        simp only [pathChildren, hbit, hsibling]
        rw [← hself]
        rfl
      · have hsibling : index ^^^ 1 = 2 * (index / 2) := by
          rw [Nat.xor_one_of_odd (Nat.odd_iff.mpr hbit)]
          omega
        have hself : index = 2 * (index / 2) + 1 := by omega
        simp only [pathChildren, hbit, hsibling]
        rw [← hself]
        rfl
    have hlevel : level + (remaining + 1) = level + 1 + remaining := by omega
    rw [indexPath, pathRoot, hchildren, ih, hlevel, pow_succ', Nat.div_div_eq_div_mul]

end rwa.merkle
