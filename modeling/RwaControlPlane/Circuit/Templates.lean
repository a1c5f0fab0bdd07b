import RwaControlPlane.Circuit.Note

open rwa.security bit_decomposition padded_tree

namespace rwa.circuit

/-- `Num2Bits(n)`: bits whose weighted sum in the field is the input. -/
structure Num2Bits where
  input : FieldElement
  out : List FieldElement
deriving Inhabited

structure Num2Bits.Constraints (n : Nat) (signals : Num2Bits) : Prop where
  length : signals.out.length = n
  bits : ∀ bit ∈ signals.out, IsBit bit
  sum : fieldValue signals.out = signals.input

/-- `Num2Bits_strict()`: 254 bits with the alias check, so that the integer sum
is the canonical representative of the input. -/
structure Num2Bits.StrictConstraints (signals : Num2Bits) : Prop where
  bits : signals.Constraints 254
  aliasCheck : natValue signals.out < bn254ScalarField

/-- `IsEqual()`. -/
structure IsEqual where
  left : FieldElement
  right : FieldElement
  out : FieldElement
deriving Inhabited

def IsEqual.Constraints (signals : IsEqual) : Prop :=
  signals.out = if signals.left = signals.right then 1 else 0

theorem Num2Bits.Constraints.range {n : Nat} {signals : Num2Bits} (h : signals.Constraints n) (hfits : n ≤ 253) :
    signals.input.val < 2 ^ n ∧ signals.out = bitsOf bn254ScalarField n signals.input.val :=
  range_of_decomposition h.length h.bits h.sum (two_pow_le_bn254ScalarField hfits)

theorem Num2Bits.StrictConstraints.out_eq {signals : Num2Bits} (h : signals.StrictConstraints) :
    signals.out = bitsOf bn254ScalarField 254 signals.input.val := by
  rw [val_eq_natValue h.bits.sum h.aliasCheck, ← h.bits.length]
  exact eq_bitsOf_natValue h.bits.bits

/-- Signals of `NoteCommitment`. `pedersenIn` is the input array of the
Pedersen component. -/
structure NoteCommitment where
  amount : FieldElement
  assetType : FieldElement
  ownerPubKey : FieldElement
  nonce : FieldElement
  blinding : FieldElement
  out : FieldElement × FieldElement
  amountBits : Num2Bits
  assetBits : Num2Bits
  pkBits : Num2Bits
  nonceBits : Num2Bits
  blindBits : Num2Bits
  pedersenIn : List FieldElement
deriving Inhabited

section Hashes

variable (poseidon : List FieldElement → FieldElement)
variable (pedersen : List FieldElement → FieldElement × FieldElement)

structure NoteCommitment.Constraints (NOTE_DOMAIN : Nat) (signals : NoteCommitment) : Prop where
  amountBits : signals.amountBits.Constraints 64
  assetBits : signals.assetBits.Constraints 32
  pkBits : signals.pkBits.StrictConstraints
  nonceBits : signals.nonceBits.Constraints 128
  blindBits : signals.blindBits.Constraints 248
  amountBits_in : signals.amountBits.input = signals.amount
  assetBits_in : signals.assetBits.input = signals.assetType
  pkBits_in : signals.pkBits.input = signals.ownerPubKey
  nonceBits_in : signals.nonceBits.input = signals.nonce
  blindBits_in : signals.blindBits.input = signals.blinding
  pedersen_in : signals.pedersenIn =
    bitsOf bn254ScalarField 64 NOTE_DOMAIN ++ signals.amountBits.out ++ signals.assetBits.out ++
      signals.pkBits.out ++ [0, 0] ++ signals.nonceBits.out ++ signals.blindBits.out
  out : signals.out = pedersen signals.pedersenIn

/-- Signals of `MerklePath(DEPTH)`. -/
structure MerklePath (DEPTH : Nat) where
  leaf : FieldElement
  pathElements : Fin DEPTH → FieldElement
  pathDirections : Fin DEPTH → FieldElement
  root : FieldElement
  level : Fin (DEPTH + 1) → FieldElement
  left : Fin DEPTH → FieldElement
  right : Fin DEPTH → FieldElement
deriving Inhabited

structure MerklePath.Constraints {DEPTH : Nat} (NODE_DOMAIN : FieldElement) (signals : MerklePath DEPTH) : Prop where
  level_zero : signals.level 0 = signals.leaf
  direction (i : Fin DEPTH) : IsBit (signals.pathDirections i)
  left (i : Fin DEPTH) : signals.left i =
    signals.level i.castSucc + signals.pathDirections i * (signals.pathElements i - signals.level i.castSucc)
  right (i : Fin DEPTH) : signals.right i =
    signals.pathElements i + signals.pathDirections i * (signals.level i.castSucc - signals.pathElements i)
  level_succ (i : Fin DEPTH) : signals.level i.succ = poseidon [NODE_DOMAIN, signals.left i, signals.right i]
  root : signals.root = signals.level (Fin.last DEPTH)

variable {poseidon pedersen}

/-- The note that satisfying commitment signals open to. Every field is the
canonical representative of its signal. -/
def NoteCommitment.Constraints.note {NOTE_DOMAIN : Nat} {signals : NoteCommitment}
    (h : signals.Constraints pedersen NOTE_DOMAIN) : Note where
  amount := signals.amount.val
  assetType := signals.assetType.val
  ownerPubKey := signals.ownerPubKey
  nonce := signals.nonce.val
  blinding := signals.blinding.val
  amount_lt := h.amountBits_in ▸ (h.amountBits.range (by decide)).1
  assetType_lt := h.assetBits_in ▸ (h.assetBits.range (by decide)).1
  nonce_lt := h.nonceBits_in ▸ (h.nonceBits.range (by decide)).1
  blinding_lt := h.blindBits_in ▸ (h.blindBits.range (by decide)).1

/-- Satisfying commitment signals hash the message of their note. -/
theorem NoteCommitment.Constraints.pedersenIn_eq {signals : NoteCommitment}
    (h : signals.Constraints pedersen noteDomain) : signals.pedersenIn = h.note.message := by
  rw [h.pedersen_in, (h.amountBits.range (by decide)).2, (h.assetBits.range (by decide)).2, h.pkBits.out_eq,
    (h.nonceBits.range (by decide)).2, (h.blindBits.range (by decide)).2, h.amountBits_in, h.assetBits_in,
    h.pkBits_in, h.nonceBits_in, h.blindBits_in]
  rfl

/-- Satisfying commitment signals commit to exactly one note. -/
theorem NoteCommitment.Constraints.out_eq {signals : NoteCommitment}
    (h : signals.Constraints pedersen noteDomain) : signals.out = h.note.commitment pedersen := by
  rw [h.out, h.pedersenIn_eq]
  rfl

/-- The directions and siblings of a path, leaf first. -/
def MerklePath.steps {DEPTH : Nat} (signals : MerklePath DEPTH) : List (Bool × FieldElement) :=
  List.ofFn fun i => (decide (signals.pathDirections i = 1), signals.pathElements i)

@[simp] theorem MerklePath.length_steps {DEPTH : Nat} (signals : MerklePath DEPTH) :
    signals.steps.length = DEPTH := by
  simp [MerklePath.steps]

/-- The children of a node do not depend on how its selector is written. -/
private theorem selector_eq {direction sibling current : FieldElement} (hbit : IsBit direction) :
    (current + direction * (sibling - current), sibling + direction * (current - sibling)) =
      pathChildren (decide (direction = 1), sibling) current := by
  rcases hbit.eq_zero_or_one with rfl | rfl
  · simp [pathChildren]
  · simp [pathChildren]

private theorem level_last_eq {NODE_DOMAIN : FieldElement} {DEPTH : Nat} :
    ∀ {level : Fin (DEPTH + 1) → FieldElement} {left right directions elements : Fin DEPTH → FieldElement},
      (∀ i, IsBit (directions i)) →
      (∀ i, left i = level i.castSucc + directions i * (elements i - level i.castSucc)) →
      (∀ i, right i = elements i + directions i * (level i.castSucc - elements i)) →
      (∀ i, level i.succ = poseidon [NODE_DOMAIN, left i, right i]) →
      level (Fin.last DEPTH) =
        pathRoot (poseidon3 poseidon NODE_DOMAIN) (List.ofFn fun i => (decide (directions i = 1), elements i))
          (level 0) := by
  induction DEPTH with
  | zero =>
    intro level left right directions elements _ _ _ _
    simp [pathRoot]
  | succ DEPTH ih =>
    intro level left right directions elements hdirection hleft hright hlevel
    have hrest := @ih (fun i => level i.succ) (fun i => left i.succ) (fun i => right i.succ)
      (fun i => directions i.succ) (fun i => elements i.succ) (fun i => hdirection i.succ) (fun i => hleft i.succ)
      (fun i => hright i.succ) (fun i => hlevel i.succ)
    have hchildren := @selector_eq _ (elements 0) (level 0) (hdirection 0)
    have hfirst : level (Fin.succ 0) = poseidon3 poseidon NODE_DOMAIN
        (pathChildren (decide (directions 0 = 1), elements 0) (level 0)).1
        (pathChildren (decide (directions 0 = 1), elements 0) (level 0)).2 := by
      rw [hlevel 0, hleft 0, hright 0, ← hchildren]
      rfl
    rw [List.ofFn_succ, pathRoot, ← hfirst, ← hrest]
    rfl

private theorem pathInputs_ofFn {NODE_DOMAIN : FieldElement} {DEPTH : Nat} :
    ∀ {level : Fin (DEPTH + 1) → FieldElement} {left right directions elements : Fin DEPTH → FieldElement},
      (∀ i, IsBit (directions i)) →
      (∀ i, left i = level i.castSucc + directions i * (elements i - level i.castSucc)) →
      (∀ i, right i = elements i + directions i * (level i.castSucc - elements i)) →
      (∀ i, level i.succ = poseidon [NODE_DOMAIN, left i, right i]) →
      pathInputs (poseidon3 poseidon NODE_DOMAIN) (List.ofFn fun i => (decide (directions i = 1), elements i))
          (level 0) =
        List.ofFn fun i => (left i, right i) := by
  induction DEPTH with
  | zero =>
    intro level left right directions elements _ _ _ _
    simp [pathInputs]
  | succ DEPTH ih =>
    intro level left right directions elements hdirection hleft hright hlevel
    have hrest := @ih (fun i => level i.succ) (fun i => left i.succ) (fun i => right i.succ)
      (fun i => directions i.succ) (fun i => elements i.succ) (fun i => hdirection i.succ) (fun i => hleft i.succ)
      (fun i => hright i.succ) (fun i => hlevel i.succ)
    have hchildren := @selector_eq _ (elements 0) (level 0) (hdirection 0)
    have hpair : pathChildren (decide (directions 0 = 1), elements 0) (level 0) = (left 0, right 0) := by
      rw [← hchildren, hleft 0, hright 0]
      rfl
    have hfirst : poseidon3 poseidon NODE_DOMAIN (left 0) (right 0) = level (Fin.succ 0) := (hlevel 0).symm
    rw [List.ofFn_succ, pathInputs, hpair, hfirst, hrest, List.ofFn_succ]

/-- The pairs hashed along a path are the inputs of its Poseidon components. -/
theorem MerklePath.Constraints.pathInputs_eq {DEPTH : Nat} {NODE_DOMAIN : FieldElement} {signals : MerklePath DEPTH}
    (h : signals.Constraints poseidon NODE_DOMAIN) :
    pathInputs (poseidon3 poseidon NODE_DOMAIN) signals.steps signals.leaf =
      List.ofFn fun i => (signals.left i, signals.right i) := by
  rw [← h.level_zero]
  exact pathInputs_ofFn h.direction h.left h.right h.level_succ

/-- The root of satisfying path signals is the root computed from the leaf. -/
theorem MerklePath.Constraints.root_eq {DEPTH : Nat} {NODE_DOMAIN : FieldElement} {signals : MerklePath DEPTH}
    (h : signals.Constraints poseidon NODE_DOMAIN) :
    signals.root = pathRoot (poseidon3 poseidon NODE_DOMAIN) signals.steps signals.leaf := by
  rw [h.root, level_last_eq h.direction h.left h.right h.level_succ, h.level_zero]
  rfl

end Hashes

end rwa.circuit
