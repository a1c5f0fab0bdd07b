import RwaControlPlane.Merkle.NoteTree

open rwa.security padded_tree

namespace rwa.merkle

/-- What `buildTree` returns. -/
structure BuiltTree where
  layers : List (List FieldElement)
  zeros : List FieldElement
  depth : Nat
  root : FieldElement
deriving DecidableEq

section Build

variable (poseidon3 : FieldElement → FieldElement → FieldElement → FieldElement)

/-- The layer above a layer. A last node without sibling is paired with the
zero subtree of its level. -/
def nextLayer (zero : FieldElement) : List FieldElement → List FieldElement
  | [] => []
  | [last] => [merkleNode poseidon3 last zero]
  | left :: right :: rest => merkleNode poseidon3 left right :: nextLayer zero rest

/-- The layers from level `level` up. An empty layer is followed by the zero
subtree of the next level. -/
def buildLayers : Nat → Nat → List FieldElement → List (List FieldElement)
  | _, 0, layer => [layer]
  | level, remaining + 1, layer =>
    let next := nextLayer poseidon3 (merkleZeros poseidon3 level) layer
    layer :: buildLayers (level + 1) remaining (if next.length ≠ 0 then next else [merkleZeros poseidon3 (level + 1)])

def buildTree (leaves : List FieldElement) (depth : Nat) : BuiltTree :=
  let layers := buildLayers poseidon3 0 depth leaves
  { layers,
    zeros := (List.range (depth + 1)).map (merkleZeros poseidon3),
    depth,
    root := ((layers.getLastD []).head?).getD (merkleZeros poseidon3 depth) }

end Build

variable {poseidon3 : FieldElement → FieldElement → FieldElement → FieldElement}

/-- Node `index` of the next layer hashes nodes `2 * index` and `2 * index + 1`,
where the nodes behind the end of a layer are zero subtrees. -/
private theorem nextLayer_getD {zero : FieldElement} (layer : List FieldElement) :
    ∀ index : Nat, (nextLayer poseidon3 zero layer).getD index (merkleNode poseidon3 zero zero) =
      merkleNode poseidon3 (layer.getD (2 * index) zero) (layer.getD (2 * index + 1) zero) := by
  induction layer using nextLayer.induct with
  | case1 => simp [nextLayer]
  | case2 last =>
    intro index
    cases index <;> simp [nextLayer, Nat.mul_add]
  | case3 left right rest ih =>
    intro index
    cases index with
    | zero => simp [nextLayer]
    | succ index => simpa [nextLayer, Nat.mul_add] using ih index

/-- A layer holds the subtree roots of its level, continued by the zero subtree of
that level. -/
def HoldsLevel (poseidon3 : FieldElement → FieldElement → FieldElement → FieldElement) (leaf : Nat → FieldElement)
    (level : Nat) (layer : List FieldElement) : Prop :=
  ∀ index, layer.getD index (merkleZeros poseidon3 level) = subtreeRoot (merkleNode poseidon3) leaf level index

theorem HoldsLevel.next {leaf : Nat → FieldElement} {level : Nat} {layer : List FieldElement}
    (h : HoldsLevel poseidon3 leaf level layer) :
    HoldsLevel poseidon3 leaf (level + 1) (nextLayer poseidon3 (merkleZeros poseidon3 level) layer) := by
  intro index
  rw [merkleZeros, nextLayer_getD, h, h, subtreeRoot]

/-- Putting the zero subtree into an empty layer changes none of its nodes. -/
theorem HoldsLevel.orZero {leaf : Nat → FieldElement} {level : Nat} {layer : List FieldElement}
    (h : HoldsLevel poseidon3 leaf level layer) :
    HoldsLevel poseidon3 leaf level (if layer.length ≠ 0 then layer else [merkleZeros poseidon3 level]) := by
  intro index
  rw [← h index]
  split
  · rfl
  · next hempty =>
    obtain rfl : layer = [] := by simpa using hempty
    cases index <;> rfl

/-- Every layer holds the subtree roots of its level. -/
theorem buildLayers_holdsLevel {leaf : Nat → FieldElement} {remaining : Nat} :
    ∀ {level : Nat} {layer : List FieldElement}, HoldsLevel poseidon3 leaf level layer →
      ∀ offset ≤ remaining,
        HoldsLevel poseidon3 leaf (level + offset) ((buildLayers poseidon3 level remaining layer).getD offset []) := by
  induction remaining with
  | zero =>
    intro level layer h offset hoffset
    obtain rfl := Nat.le_zero.mp hoffset
    exact h
  | succ remaining ih =>
    intro level layer h offset hoffset
    cases offset with
    | zero => exact h
    | succ offset =>
      have hlevel : level + (offset + 1) = level + 1 + offset := by omega
      rw [hlevel]
      exact ih h.next.orZero offset (Nat.le_of_succ_le_succ hoffset)

/-- The last layer holds the root of its level. -/
private theorem getLast_buildLayers {leaf : Nat → FieldElement} {remaining : Nat} :
    ∀ {level : Nat} {layer : List FieldElement},
      (∀ index, layer.getD index (merkleZeros poseidon3 level) =
        subtreeRoot (merkleNode poseidon3) leaf level index) →
      ((buildLayers poseidon3 level remaining layer).getLastD []).getD 0 (merkleZeros poseidon3 (level + remaining)) =
        subtreeRoot (merkleNode poseidon3) leaf (level + remaining) 0 := by
  induction remaining with
  | zero =>
    intro level layer hlayer
    exact hlayer 0
  | succ remaining ih =>
    intro level layer hlayer
    have hlast : ∀ {layers : List (List FieldElement)} {first : List FieldElement}, layers ≠ [] →
        (first :: layers).getLastD [] = layers.getLastD [] := by
      intro layers first hlayers
      cases layers with
      | nil => exact absurd rfl hlayers
      | cons => rfl
    have hnonempty (rest : List FieldElement) : buildLayers poseidon3 (level + 1) remaining rest ≠ [] := by
      cases remaining <;> simp [buildLayers]
    have hlevel : level + (remaining + 1) = level + 1 + remaining := by omega
    simp only [buildLayers]
    rw [hlast (hnonempty _), hlevel]
    exact ih (HoldsLevel.next hlayer).orZero

/-- The pairs of children that one layer hashes, continued by a pair of zero
subtrees. -/
def layerPairs (zero : FieldElement) (layer : List FieldElement) : List (FieldElement × FieldElement) :=
  (List.range ((layer.length + 1) / 2 + 1)).map fun index =>
    (layer.getD (2 * index) zero, layer.getD (2 * index + 1) zero)

/-- The pairs of children that the layers from level `level` up hash. -/
def hashedPairs (poseidon3 : FieldElement → FieldElement → FieldElement → FieldElement) :
    Nat → Nat → List FieldElement → List (FieldElement × FieldElement)
  | _, 0, _ => []
  | level, remaining + 1, layer =>
    layerPairs (merkleZeros poseidon3 level) layer ++
      hashedPairs poseidon3 (level + 1) remaining (nextLayer poseidon3 (merkleZeros poseidon3 level) layer)

private theorem mem_layerPairs {zero : FieldElement} {layer : List FieldElement} (index : Nat) :
    (layer.getD (2 * index) zero, layer.getD (2 * index + 1) zero) ∈ layerPairs zero layer := by
  rw [layerPairs, List.mem_map]
  by_cases hinside : index < (layer.length + 1) / 2 + 1
  · exact ⟨index, List.mem_range.mpr hinside, rfl⟩
  · refine ⟨(layer.length + 1) / 2, List.mem_range.mpr (by omega), ?_⟩
    have hbehind {position : Nat} (hposition : layer.length ≤ position) : layer.getD position zero = zero := by
      rw [List.getD_eq_getElem?_getD, List.getElem?_eq_none hposition, Option.getD_none]
    rw [hbehind (by omega), hbehind (by omega), hbehind (by omega), hbehind (by omega)]

private theorem mem_hashedPairs {leaf : Nat → FieldElement} {remaining : Nat} :
    ∀ {level : Nat} {layer : List FieldElement},
      (∀ index, layer.getD index (merkleZeros poseidon3 level) =
        subtreeRoot (merkleNode poseidon3) leaf level index) →
      ∀ offset < remaining, ∀ index,
        (subtreeRoot (merkleNode poseidon3) leaf (level + offset) (2 * index),
          subtreeRoot (merkleNode poseidon3) leaf (level + offset) (2 * index + 1)) ∈
            hashedPairs poseidon3 level remaining layer := by
  induction remaining with
  | zero =>
    intro level layer _ offset hoffset
    omega
  | succ remaining ih =>
    intro level layer hlayer offset hoffset index
    rw [hashedPairs, List.mem_append]
    cases offset with
    | zero =>
      left
      rw [Nat.add_zero, ← hlayer, ← hlayer]
      exact mem_layerPairs index
    | succ offset =>
      right
      have hlevel : level + (offset + 1) = level + 1 + offset := by omega
      rw [hlevel]
      exact ih (HoldsLevel.next hlayer) offset (by omega) index

/-- Every pair that a padded tree hashes is found layer by layer. -/
theorem treeInputs_subset_hashedPairs {leaves : List FieldElement} {depth : Nat} {pair : FieldElement × FieldElement}
    (h : pair ∈ treeInputs (merkleNode poseidon3) (padded 0 leaves) depth) :
    pair ∈ hashedPairs poseidon3 0 depth leaves := by
  obtain ⟨level, hlevel, index, rfl⟩ := h
  have hmem := @mem_hashedPairs poseidon3 (padded 0 leaves) depth 0 leaves (fun index => rfl) level hlevel index
  rwa [Nat.zero_add] at hmem

/-- The builder computes the root of the padded tree. -/
theorem buildTree_root (leaves : List FieldElement) (depth : Nat) :
    (buildTree poseidon3 leaves depth).root = treeRoot (merkleNode poseidon3) 0 depth leaves := by
  have h := @getLast_buildLayers poseidon3 (padded 0 leaves) depth 0 leaves fun index => rfl
  rw [Nat.zero_add] at h
  rw [treeRoot, ← h, buildTree, List.head?_eq_getElem?, List.getD_eq_getElem?_getD]

end rwa.merkle
