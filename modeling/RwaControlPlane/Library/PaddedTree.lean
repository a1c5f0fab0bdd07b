import Mathlib.Data.Nat.Bits
import Mathlib.Data.Set.Function
import Mathlib.Tactic.Ring

namespace padded_tree

variable {α : Type*}

/-- Root of a perfect subtree of height `level` whose leaves are all `zero`. -/
def zeroRoot (node : α → α → α) (zero : α) : Nat → α
  | 0 => zero
  | level + 1 => node (zeroRoot node zero level) (zeroRoot node zero level)

/-- Root of the `index`-th perfect subtree of height `level` over an infinite
leaf sequence. -/
def subtreeRoot (node : α → α → α) (leaf : Nat → α) : Nat → Nat → α
  | 0, index => leaf index
  | level + 1, index =>
    node (subtreeRoot node leaf level (2 * index)) (subtreeRoot node leaf level (2 * index + 1))

/-- A finite leaf list continued by the zero leaf. -/
def padded (zero : α) (leaves : List α) (position : Nat) : α :=
  leaves.getD position zero

/-- Root of the tree of the given depth whose first leaves are `leaves` and
whose remaining leaves are the zero leaf. -/
def treeRoot (node : α → α → α) (zero : α) (depth : Nat) (leaves : List α) : α :=
  subtreeRoot node (padded zero leaves) depth 0

theorem padded_of_length_le {zero : α} {leaves : List α} {position : Nat}
    (h : leaves.length ≤ position) : padded zero leaves position = zero := by
  simp [padded, List.getD_eq_getElem?_getD, List.getElem?_eq_none h]

theorem padded_append_of_lt {zero : α} {leaves rest : List α} {position : Nat}
    (h : position < leaves.length) :
    padded zero (leaves ++ rest) position = padded zero leaves position := by
  simp [padded, List.getD_eq_getElem?_getD, List.getElem?_append_left h]

@[simp] theorem padded_append_length {zero : α} {leaves : List α} {leaf : α} :
    padded zero (leaves ++ [leaf]) leaves.length = leaf := by
  simp [padded, List.getD_eq_getElem?_getD]

/-- A subtree root depends only on the leaves below that subtree. -/
theorem subtreeRoot_congr (node : α → α → α) {f g : Nat → α} {level : Nat} :
    ∀ {index : Nat}, (∀ position, index * 2 ^ level ≤ position →
      position < (index + 1) * 2 ^ level → f position = g position) →
      subtreeRoot node f level index = subtreeRoot node g level index := by
  induction level with
  | zero =>
    intro index h
    exact h index (by simp) (by simp)
  | succ level ih =>
    intro index h
    have hsplit : (index + 1) * 2 ^ (level + 1) = (2 * index + 1 + 1) * 2 ^ level := by ring
    have hstart : index * 2 ^ (level + 1) = 2 * index * 2 ^ level := by ring
    have hmiddle : (2 * index + 1) * 2 ^ level = 2 * index * 2 ^ level + 2 ^ level := by ring
    have hend : (2 * index + 1 + 1) * 2 ^ level = 2 * index * 2 ^ level + 2 ^ level + 2 ^ level := by ring
    simp only [subtreeRoot]
    rw [@ih (2 * index) (fun position hlo hhi => h position (by omega) (by omega)),
      @ih (2 * index + 1) (fun position hlo hhi => h position (by omega) (by omega))]

/-- A subtree that starts at or behind the end of the leaf list is a zero
subtree. -/
theorem subtreeRoot_of_length_le (node : α → α → α) {zero : α} {leaves : List α} {level : Nat} :
    ∀ {index : Nat}, leaves.length ≤ index * 2 ^ level →
      subtreeRoot node (padded zero leaves) level index = zeroRoot node zero level := by
  induction level with
  | zero =>
    intro index h
    exact padded_of_length_le (by simpa using h)
  | succ level ih =>
    intro index h
    have hleft : leaves.length ≤ 2 * index * 2 ^ level := by
      rwa [pow_succ, Nat.mul_comm (2 ^ level), ← Nat.mul_assoc, Nat.mul_comm index] at h
    have hright : leaves.length ≤ (2 * index + 1) * 2 ^ level := by
      rw [Nat.add_mul]
      exact Nat.le_add_right_of_le hleft
    simp only [subtreeRoot, zeroRoot]
    rw [ih hleft, ih hright]

/-- Appending leaves does not change a subtree that was already full. -/
theorem subtreeRoot_append_of_full (node : α → α → α) {zero : α} {leaves rest : List α}
    {level index : Nat} (h : (index + 1) * 2 ^ level ≤ leaves.length) :
    subtreeRoot node (padded zero (leaves ++ rest)) level index =
      subtreeRoot node (padded zero leaves) level index :=
  subtreeRoot_congr node fun _ _ hhi => padded_append_of_lt (hhi.trans_le h)

section Frontier

variable (node : α → α → α) (zero : α)

/-- The frontier node of one level. -/
def frontierSlot (leaves : List α) (level : Nat) : Option α :=
  if leaves.length / 2 ^ level % 2 = 1 then
    some (subtreeRoot node (padded zero leaves) level (leaves.length / 2 ^ level - 1))
  else none

/-- The frontier nodes of `count` consecutive levels from `level` up. -/
def frontierFrom (leaves : List α) : Nat → Nat → List (Option α)
  | _, 0 => []
  | level, count + 1 => frontierSlot node zero leaves level :: frontierFrom leaves (level + 1) count

/-- The frontier of a tree of the given depth. -/
def frontier (depth : Nat) (leaves : List α) : List (Option α) :=
  frontierFrom node zero leaves 0 depth

/-- Carry a completed subtree into the frontier: an occupied level is emptied
and merged into the carry, the first empty level receives it. -/
def carryUp : Nat → List (Option α) → α → List (Option α)
  | _, [], carry => [some carry]
  | size, slot :: levels, carry =>
    match slot with
    | some left => if size % 2 = 1 then none :: carryUp (size / 2) levels (node left carry)
        else some carry :: levels
    | none => some carry :: levels

@[simp] theorem frontierFrom_length (leaves : List α) (level count : Nat) :
    (frontierFrom node zero leaves level count).length = count := by
  induction count generalizing level with
  | zero => rfl
  | succ count ih => simp [frontierFrom, ih]

@[simp] theorem frontier_length (depth : Nat) (leaves : List α) :
    (frontier node zero depth leaves).length = depth :=
  frontierFrom_length node zero leaves 0 depth

theorem frontierFrom_nil (level count : Nat) :
    frontierFrom node zero ([] : List α) level count = List.replicate count none := by
  induction count generalizing level with
  | zero => rfl
  | succ count ih => simp [frontierFrom, frontierSlot, ih, List.replicate_succ]

@[simp] theorem frontier_nil (depth : Nat) :
    frontier node zero depth ([] : List α) = List.replicate depth none :=
  frontierFrom_nil node zero 0 depth

variable {node zero}

/-- The root of the full subtree kept by an occupied slot survives an append. -/
private theorem subtreeRoot_slot_append {leaves rest : List α} {level : Nat}
    (hodd : leaves.length / 2 ^ level % 2 = 1) :
    subtreeRoot node (padded zero (leaves ++ rest)) level (leaves.length / 2 ^ level - 1) =
      subtreeRoot node (padded zero leaves) level (leaves.length / 2 ^ level - 1) := by
  apply subtreeRoot_append_of_full
  have hpos : 1 ≤ leaves.length / 2 ^ level := by
    cases hquot : leaves.length / 2 ^ level with
    | zero => simp [hquot] at hodd
    | succ _ => exact Nat.le_add_left 1 _
  rw [Nat.sub_add_cancel hpos]
  exact Nat.div_mul_le_self leaves.length (2 ^ level)

/-- Levels that the carry does not reach keep their slots. -/
theorem frontierFrom_append_of_div_eq {leaves : List α} {leaf : α} {count : Nat} :
    ∀ {level : Nat}, (leaves.length + 1) / 2 ^ level = leaves.length / 2 ^ level →
      frontierFrom node zero (leaves ++ [leaf]) level count = frontierFrom node zero leaves level count := by
  induction count with
  | zero =>
    intro level _
    rfl
  | succ count ih =>
    intro level h
    have hnext : (leaves.length + 1) / 2 ^ (level + 1) = leaves.length / 2 ^ (level + 1) := by
      rw [pow_succ, ← Nat.div_div_eq_div_mul, ← Nat.div_div_eq_div_mul, h]
    have hslot : frontierSlot node zero (leaves ++ [leaf]) level = frontierSlot node zero leaves level := by
      simp only [frontierSlot, List.length_append, List.length_singleton, h]
      split
      · next hodd => rw [subtreeRoot_slot_append hodd]
      · rfl
    simp only [frontierFrom, hslot, ih hnext]

/-- The carry loop turns the frontier of a leaf list into the frontier of the
list with one more leaf. The carry is the subtree that the new leaf completes;
every lower level has just been emptied. -/
theorem carryUp_frontierFrom {leaves : List α} {leaf : α} {count : Nat} :
    ∀ {level : Nat}, (leaves.length + 1) % 2 ^ level = 0 →
      leaves.length / 2 ^ level + 1 < 2 ^ count →
      carryUp node (leaves.length / 2 ^ level) (frontierFrom node zero leaves level count)
          (subtreeRoot node (padded zero (leaves ++ [leaf])) level (leaves.length / 2 ^ level)) =
        frontierFrom node zero (leaves ++ [leaf]) level count := by
  induction count with
  | zero =>
    intro level _ hroom
    simp at hroom
  | succ count ih =>
    intro level hlow hroom
    have hquot : (leaves.length + 1) / 2 ^ level = leaves.length / 2 ^ level + 1 := by
      rw [Nat.succ_div, if_pos (Nat.dvd_of_mod_eq_zero hlow)]
    have hhalf (size : Nat) : size / 2 ^ (level + 1) = size / 2 ^ level / 2 := by
      rw [pow_succ, Nat.div_div_eq_div_mul]
    simp only [frontierFrom]
    by_cases hodd : leaves.length / 2 ^ level % 2 = 1
    · -- the slot is occupied: it merges with the carry into the next level
      have hslot : frontierSlot node zero leaves level =
          some (subtreeRoot node (padded zero leaves) level (leaves.length / 2 ^ level - 1)) := by
        simp [frontierSlot, hodd]
      have hempty : frontierSlot node zero (leaves ++ [leaf]) level = none := by
        simp only [frontierSlot, List.length_append, List.length_singleton, hquot]
        rw [if_neg (by omega)]
      have hmerge : node (subtreeRoot node (padded zero leaves) level (leaves.length / 2 ^ level - 1))
          (subtreeRoot node (padded zero (leaves ++ [leaf])) level (leaves.length / 2 ^ level)) =
          subtreeRoot node (padded zero (leaves ++ [leaf])) (level + 1) (leaves.length / 2 ^ (level + 1)) := by
        rw [← @subtreeRoot_slot_append _ node zero _ [leaf] _ hodd, subtreeRoot, hhalf]
        have hleft : 2 * (leaves.length / 2 ^ level / 2) = leaves.length / 2 ^ level - 1 := by omega
        have hright : leaves.length / 2 ^ level - 1 + 1 = leaves.length / 2 ^ level := by omega
        rw [hleft, hright]
      have hnextLow : (leaves.length + 1) % 2 ^ (level + 1) = 0 := by
        rw [pow_succ, Nat.mod_mul, hlow, hquot]
        have : (leaves.length / 2 ^ level + 1) % 2 = 0 := by omega
        simp [this]
      have hnextRoom : leaves.length / 2 ^ (level + 1) + 1 < 2 ^ count := by
        rw [hhalf]
        rw [pow_succ] at hroom
        omega
      rw [hslot, hempty]
      simp only [carryUp, if_pos hodd]
      rw [← hhalf, hmerge, ih hnextLow hnextRoom]
    · -- the slot is empty: the carry settles here and no higher level changes
      have hslot : frontierSlot node zero leaves level = none := by simp [frontierSlot, hodd]
      have hfilled : frontierSlot node zero (leaves ++ [leaf]) level =
          some (subtreeRoot node (padded zero (leaves ++ [leaf])) level (leaves.length / 2 ^ level)) := by
        simp only [frontierSlot, List.length_append, List.length_singleton, hquot]
        rw [if_pos (by omega), Nat.add_sub_cancel]
      have hhigher : (leaves.length + 1) / 2 ^ (level + 1) = leaves.length / 2 ^ (level + 1) := by
        rw [hhalf, hhalf, hquot]
        omega
      rw [hslot, hfilled]
      simp only [carryUp]
      rw [frontierFrom_append_of_div_eq hhigher]

/-- One appended leaf moves the frontier of the list to the frontier of the
longer list, as long as the tree has room. -/
theorem carryUp_frontier {depth : Nat} {leaves : List α} {leaf : α}
    (hroom : leaves.length + 1 < 2 ^ depth) :
    carryUp node leaves.length (frontier node zero depth leaves) leaf =
      frontier node zero depth (leaves ++ [leaf]) := by
  have h := @carryUp_frontierFrom _ node zero leaves leaf depth 0 (by simp [Nat.mod_one]) (by simpa using hroom)
  simpa [subtreeRoot, frontier] using h

/-- Fold a frontier into the root of its tree: an occupied level is the left
sibling of the hash built so far, an empty level has a zero subtree on the
right. -/
def foldFrontier (node : α → α → α) (zeros : Nat → α) : Nat → List (Option α) → α → α
  | _, [], hash => hash
  | level, slot :: levels, hash =>
    foldFrontier node zeros (level + 1) levels
      (match slot with
      | none => node hash (zeros level)
      | some left => node left hash)

/-- Folding the frontier from a level up computes the subtree root: the hash
entering level `k` is the root of the partial subtree of height `k` in which
the next leaf will go. -/
theorem foldFrontier_frontierFrom {leaves : List α} {count : Nat} :
    ∀ {level : Nat}, foldFrontier node (zeroRoot node zero) level (frontierFrom node zero leaves level count)
        (subtreeRoot node (padded zero leaves) level (leaves.length / 2 ^ level)) =
      subtreeRoot node (padded zero leaves) (level + count) (leaves.length / 2 ^ (level + count)) := by
  induction count with
  | zero =>
    intro level
    rfl
  | succ count ih =>
    intro level
    have hhalf : leaves.length / 2 ^ (level + 1) = leaves.length / 2 ^ level / 2 := by
      rw [pow_succ, Nat.div_div_eq_div_mul]
    have hstep : (match frontierSlot node zero leaves level with
        | none => node (subtreeRoot node (padded zero leaves) level (leaves.length / 2 ^ level))
            (zeroRoot node zero level)
        | some left => node left (subtreeRoot node (padded zero leaves) level (leaves.length / 2 ^ level))) =
        subtreeRoot node (padded zero leaves) (level + 1) (leaves.length / 2 ^ (level + 1)) := by
      rw [subtreeRoot, hhalf]
      by_cases hodd : leaves.length / 2 ^ level % 2 = 1
      · have hleft : 2 * (leaves.length / 2 ^ level / 2) = leaves.length / 2 ^ level - 1 := by omega
        have hright : leaves.length / 2 ^ level - 1 + 1 = leaves.length / 2 ^ level := by omega
        simp only [frontierSlot, if_pos hodd, hleft, hright]
      · have hleft : 2 * (leaves.length / 2 ^ level / 2) = leaves.length / 2 ^ level := by omega
        have hbeyond : leaves.length ≤ (leaves.length / 2 ^ level + 1) * 2 ^ level := by
          have := Nat.lt_div_mul_add (a := leaves.length) (b := 2 ^ level) (Nat.two_pow_pos level)
          rw [Nat.add_mul, Nat.one_mul]
          omega
        simp only [frontierSlot, if_neg hodd, hleft]
        rw [subtreeRoot_of_length_le node hbeyond]
    have hnext := @ih (level + 1)
    rw [Nat.add_right_comm, Nat.add_assoc level count 1] at hnext
    simp only [frontierFrom, foldFrontier]
    rw [hstep, hnext]

/-- The fold over a whole frontier is the root of the padded tree. -/
theorem foldFrontier_frontier {depth : Nat} {leaves : List α} (hroom : leaves.length < 2 ^ depth) :
    foldFrontier node (zeroRoot node zero) 0 (frontier node zero depth leaves) zero =
      treeRoot node zero depth leaves := by
  have h := @foldFrontier_frontierFrom _ node zero leaves depth 0
  simp only [Nat.zero_add, pow_zero, Nat.div_one, Nat.div_eq_of_lt hroom] at h
  rw [treeRoot, ← h]
  simp only [frontier, subtreeRoot, padded_of_length_le le_rfl]

end Frontier

section Path

variable (node : α → α → α)

/-- The ordered children hashed at one step of a path. -/
def pathChildren (step : Bool × α) (current : α) : α × α :=
  if step.1 then (step.2, current) else (current, step.2)

/-- Root computed from a leaf and its path. -/
def pathRoot : List (Bool × α) → α → α
  | [], current => current
  | step :: path, current =>
    pathRoot path (node (pathChildren step current).1 (pathChildren step current).2)

/-- Every pair of children hashed along a path. -/
def pathInputs : List (Bool × α) → α → List (α × α)
  | [], _ => []
  | step :: path, current =>
    pathChildren step current ::
      pathInputs path (node (pathChildren step current).1 (pathChildren step current).2)

/-- Leaf position selected by the directions, least significant bit first. -/
def pathPosition : List (Bool × α) → Nat
  | [] => 0
  | step :: path => step.1.toNat + 2 * pathPosition path

/-- Every pair of children hashed in a tree of the given depth. -/
def treeInputs (leaf : Nat → α) (depth : Nat) : Set (α × α) :=
  {pair | ∃ level < depth, ∃ index,
    pair = (subtreeRoot node leaf level (2 * index), subtreeRoot node leaf level (2 * index + 1))}

variable {node}

theorem pathRoot_concat {path : List (Bool × α)} {step : Bool × α} {current : α} :
    pathRoot node (path ++ [step]) current =
      node (pathChildren step (pathRoot node path current)).1 (pathChildren step (pathRoot node path current)).2 := by
  induction path generalizing current with
  | nil => rfl
  | cons first path ih => exact ih

/-- A path that reaches the root of a subtree starts at the node of that
subtree which its directions select, when no two hashed pairs collide. -/
theorem pathRoot_binding {leaf : Nat → α} {inputs : Set (α × α)}
    (hinjective : Set.InjOn (fun pair : α × α => node pair.1 pair.2) inputs) :
    ∀ {path : List (Bool × α)} {current : α} {level index : Nat},
      (∀ pair ∈ pathInputs node path current, pair ∈ inputs) →
      treeInputs node leaf (level + path.length) ⊆ inputs →
      pathRoot node path current = subtreeRoot node leaf (level + path.length) index →
      current = subtreeRoot node leaf level (index * 2 ^ path.length + pathPosition path) := by
  intro path
  induction path with
  | nil =>
    intro current level index _ _ hroot
    simpa [pathRoot, pathPosition] using hroot
  | cons step path ih =>
    intro current level index hpath htree hroot
    have hlength : level + (step :: path).length = level + 1 + path.length := by
      simp only [List.length_cons]
      omega
    rw [hlength] at htree hroot
    have hmerged := ih (fun pair hpair => hpath pair (List.mem_cons_of_mem _ hpair)) htree hroot
    have hhere : pathChildren step current ∈ inputs := hpath _ (by simp [pathInputs])
    have hthere := htree ⟨level, by omega, index * 2 ^ path.length + pathPosition path, rfl⟩
    have hpair := hinjective hhere hthere hmerged
    have hposition : index * 2 ^ (step :: path).length + pathPosition (step :: path) =
        2 * (index * 2 ^ path.length + pathPosition path) + step.1.toNat := by
      simp only [List.length_cons, pathPosition, pow_succ]
      ring
    rw [hposition]
    obtain ⟨direction, sibling⟩ := step
    cases direction with
    | false => exact congrArg Prod.fst hpair
    | true => exact congrArg Prod.snd hpair

/-- A full path to the root of a padded tree starts at the leaf it selects. -/
theorem pathRoot_treeRoot {zero : α} {leaves : List α} {inputs : Set (α × α)} {path : List (Bool × α)}
    {current : α} (hinjective : Set.InjOn (fun pair : α × α => node pair.1 pair.2) inputs)
    (hpath : ∀ pair ∈ pathInputs node path current, pair ∈ inputs)
    (htree : treeInputs node (padded zero leaves) path.length ⊆ inputs)
    (hroot : pathRoot node path current = treeRoot node zero path.length leaves) :
    current = padded zero leaves (pathPosition path) := by
  have h := @pathRoot_binding _ _ _ _ hinjective path current 0 0 hpath (by simpa using htree)
    (by simpa [treeRoot] using hroot)
  simpa [subtreeRoot] using h

/-- The leaf under a path is one of the tree's leaves unless it is the zero
leaf. -/
theorem mem_of_pathRoot_treeRoot {zero : α} {leaves : List α} {inputs : Set (α × α)}
    {path : List (Bool × α)} {current : α}
    (hinjective : Set.InjOn (fun pair : α × α => node pair.1 pair.2) inputs)
    (hpath : ∀ pair ∈ pathInputs node path current, pair ∈ inputs)
    (htree : treeInputs node (padded zero leaves) path.length ⊆ inputs)
    (hroot : pathRoot node path current = treeRoot node zero path.length leaves)
    (hnonzero : current ≠ zero) : current ∈ leaves := by
  have hcurrent := pathRoot_treeRoot hinjective hpath htree hroot
  have hinside : pathPosition path < leaves.length := by
    by_contra houtside
    exact hnonzero (hcurrent.trans (padded_of_length_le (by omega)))
  rw [hcurrent, padded, List.getD_eq_getElem?_getD, List.getElem?_eq_getElem hinside]
  exact List.getElem_mem hinside

end Path

end padded_tree
