import RwaControlPlane.Gate.Acceptance
import RwaControlPlane.Merkle.Equivalence

open checked keyed_rows rwa.security rwa.merkle

namespace rwa.gate

variable {Proof : Type} {poseidon3 : FieldElement → FieldElement → FieldElement → FieldElement}

/-- The receipt that an event finalizes in a context. -/
def Event.finalized? (contextId : FieldElement) : Event → Option String
  | .finalized context receiptId => if context = contextId then some receiptId else none
  | _ => none

/-- The receipts of a context in the order in which they were finalized. -/
def finalizedReceipts (contextId : FieldElement) (history : List Event) : List String :=
  history.filterMap (Event.finalized? contextId)

/-- The leaves that the finalized receipts of a context have added to its
tree. -/
def Database.publishedLeaves (poseidon3 : FieldElement → FieldElement → FieldElement → FieldElement) (db : Database)
    (contextId : FieldElement) (receipts : List String) : List FieldElement :=
  receipts.flatMap fun receiptId => outputLeaves poseidon3 (db.outputsOf receiptId contextId)

theorem finalizedReceipts_append {contextId : FieldElement} {history events : List Event} :
    finalizedReceipts contextId (history ++ events) =
      finalizedReceipts contextId history ++ finalizedReceipts contextId events :=
  List.filterMap_append

@[simp] theorem finalizedReceipts_nil {contextId : FieldElement} : finalizedReceipts contextId [] = [] := rfl

@[simp] theorem finalizedReceipts_genesis {contextId context : FieldElement} :
    finalizedReceipts contextId [.genesis context] = [] := rfl

@[simp] theorem finalizedReceipts_accepted {contextId : FieldElement} {acceptance : Acceptance} :
    finalizedReceipts contextId [.accepted acceptance] = [] := rfl

theorem finalizedReceipts_finalized {contextId context : FieldElement} {receiptId : String} :
    finalizedReceipts contextId [.finalized context receiptId] = if context = contextId then [receiptId] else [] := by
  by_cases hcontext : context = contextId
  · simp [finalizedReceipts, Event.finalized?, hcontext]
  · simp [finalizedReceipts, Event.finalized?, hcontext]

/-- The CURRENT rows of a context. -/
def currentRows (rows : List MerkleRoot) (contextId : FieldElement) : List MerkleRoot :=
  rows.filter fun root => root.contextId = contextId && root.status = .current

theorem mem_currentRows {rows : List MerkleRoot} {contextId : FieldElement} {row : MerkleRoot} :
    row ∈ currentRows rows contextId ↔ row ∈ rows ∧ row.contextId = contextId ∧ row.status = .current := by
  simp [currentRows, List.mem_filter]

theorem currentRows_insert_other {rows : List MerkleRoot} {contextId : FieldElement} {row : MerkleRoot}
    (hother : row.contextId ≠ contextId) : currentRows (rows ++ [row]) contextId = currentRows rows contextId := by
  simp [currentRows, List.filter_append, hother]

/-- Rewriting rows keeps the CURRENT rows of a context when it keeps contexts
and touches no CURRENT row. -/
theorem currentRows_map {rows : List MerkleRoot} {contextId : FieldElement} {change : MerkleRoot → MerkleRoot}
    (hcontext : ∀ row, (change row).contextId = row.contextId)
    (hstatus : ∀ row, row.contextId = contextId → ((change row).status = .current ↔ row.status = .current))
    (hfixed : ∀ row, row.contextId = contextId → row.status = .current → change row = row) :
    currentRows (rows.map change) contextId = currentRows rows contextId := by
  apply filter_map_of_fixed
  · intro row
    by_cases hsame : row.contextId = contextId
    · simp [hcontext row, hsame, hstatus row hsame]
    · simp [hcontext row, hsame]
  · intro row hselected
    simp only [Bool.and_eq_true, decide_eq_true_eq] at hselected
    exact hfixed row hselected.1 hselected.2

theorem currentRows_publish_other {db : Database} {contextId : FieldElement} {publication : Publication}
    (hother : publication.contextId ≠ contextId) :
    currentRows (db.publish publication).roots contextId = currentRows db.roots contextId := by
  have hnot : ∀ row : MerkleRoot, row.contextId = contextId →
      ¬(row.contextId = publication.contextId ∧ row.status = .current) := by
    intro row hrow hselected
    exact hother (hselected.1.symm.trans hrow)
  refine (currentRows_insert_other hother).trans (currentRows_map (fun row => ?_) (fun row hrow => ?_)
    (fun row hrow _ => ?_))
  · split <;> rfl
  · rw [if_neg (hnot row hrow)]
  · rw [if_neg (hnot row hrow)]

theorem currentRows_revoke {rows : List MerkleRoot} {contextId revoked merkleRoot : FieldElement} :
    currentRows (rows.map (setRevoked revoked merkleRoot)) contextId = currentRows rows contextId := by
  refine currentRows_map (fun row => ?_) (fun row _ => ?_) (fun row _ hcurrent => ?_)
  · unfold setRevoked
    split <;> rfl
  · unfold setRevoked
    split
    · next hselected => simp [hselected.2.2]
    · rfl
  · apply if_neg
    rintro ⟨_, _, hhistorical⟩
    rw [hcurrent] at hhistorical
    cases hhistorical

/-- The stored tree depends on the CURRENT rows only. -/
theorem currentTree_congr {db next : Database} {contextId : FieldElement}
    (h : currentRows next.roots contextId = currentRows db.roots contextId) :
    next.currentTree contextId = db.currentTree contextId := by
  unfold currentRows at h
  simp only [Database.currentTree, h]

/-- The roots of a context commit to a list of leaves: the one CURRENT row
stores the whole list, and every other row the root of a prefix. -/
structure CommitsTo (poseidon3 : FieldElement → FieldElement → FieldElement → FieldElement) (rows : List MerkleRoot)
    (contextId : FieldElement) (leaves : List FieldElement) : Prop where
  current : ∃ row, currentRows rows contextId = [row] ∧
    row.merkleRoot = noteRoot poseidon3 leaves ∧ row.treeSize = leaves.length ∧
    row.frontier = some (noteTree poseidon3 leaves).frontier
  known : ∀ row ∈ rows, row.contextId = contextId → ∃ count, row.merkleRoot = noteRoot poseidon3 (leaves.take count)
  room : leaves.length < maxTreeSize

namespace CommitsTo

variable {rows : List MerkleRoot} {contextId : FieldElement} {leaves : List FieldElement}

/-- A row of another context changes nothing. -/
theorem insert_other (h : CommitsTo poseidon3 rows contextId leaves) {row : MerkleRoot}
    (hother : row.contextId ≠ contextId) : CommitsTo poseidon3 (rows ++ [row]) contextId leaves := by
  constructor
  case current => rw [currentRows_insert_other hother]; exact h.current
  case known =>
    intro known hknown hcontext
    rcases List.mem_append.mp hknown with hold | hnew
    · exact h.known known hold hcontext
    · exact absurd (List.mem_singleton.mp hnew ▸ hcontext) hother
  case room => exact h.room

/-- Rewriting rows changes nothing when the CURRENT rows stay and every row
keeps its context and root. -/
theorem rewrite (h : CommitsTo poseidon3 rows contextId leaves) {change : MerkleRoot → MerkleRoot}
    (hroot : ∀ row, (change row).contextId = row.contextId ∧ (change row).merkleRoot = row.merkleRoot)
    (hcurrent : currentRows (rows.map change) contextId = currentRows rows contextId) :
    CommitsTo poseidon3 (rows.map change) contextId leaves := by
  constructor
  case current => rw [hcurrent]; exact h.current
  case known =>
    intro row hrow hcontext
    obtain ⟨old, hold, rfl⟩ := List.mem_map.mp hrow
    rw [(hroot old).1] at hcontext
    rw [(hroot old).2]
    exact h.known old hold hcontext
  case room => exact h.room

/-- Superseding the CURRENT row of the context by one that commits to more
leaves. -/
theorem extend (h : CommitsTo poseidon3 rows contextId leaves) {more : List FieldElement}
    {change : MerkleRoot → MerkleRoot} {row : MerkleRoot}
    (hroot : ∀ row, (change row).contextId = row.contextId ∧ (change row).merkleRoot = row.merkleRoot)
    (hsuperseded : ∀ row, row.contextId = contextId → (change row).status ≠ .current)
    (hcontext : row.contextId = contextId) (hstatus : row.status = .current)
    (hmerkleRoot : row.merkleRoot = noteRoot poseidon3 (leaves ++ more))
    (htreeSize : row.treeSize = (leaves ++ more).length)
    (hfrontier : row.frontier = some (noteTree poseidon3 (leaves ++ more)).frontier)
    (hroom : (leaves ++ more).length < maxTreeSize) :
    CommitsTo poseidon3 (rows.map change ++ [row]) contextId (leaves ++ more) := by
  have hnone : currentRows (rows.map change) contextId = [] := by
    rw [List.eq_nil_iff_forall_not_mem]
    intro changed hchanged
    obtain ⟨hmem, hchangedContext, hcurrent⟩ := mem_currentRows.mp hchanged
    obtain ⟨old, _, rfl⟩ := List.mem_map.mp hmem
    exact hsuperseded old ((hroot old).1.symm.trans hchangedContext) hcurrent
  constructor
  case current =>
    refine ⟨row, ?_, hmerkleRoot, htreeSize, hfrontier⟩
    rw [currentRows, List.filter_append, ← currentRows, hnone]
    simp [hcontext, hstatus]
  case known =>
    intro known hknown hknownContext
    rcases List.mem_append.mp hknown with hchanged | hnew
    · obtain ⟨old, hold, rfl⟩ := List.mem_map.mp hchanged
      rw [(hroot old).1] at hknownContext
      obtain ⟨count, hcount⟩ := h.known old hold hknownContext
      refine ⟨min count leaves.length, ?_⟩
      rw [(hroot old).2, hcount, List.take_append_of_le_length (Nat.min_le_right _ _), List.take_eq_take_min]
    · obtain rfl := List.mem_singleton.mp hnew
      exact ⟨(leaves ++ more).length, by rw [hmerkleRoot, List.take_length]⟩
  case room => exact hroom

end CommitsTo

/-- A context that has never been opened gets the root of the empty tree. -/
theorem commitsTo_genesis {rows : List MerkleRoot} {contextId : FieldElement} {sourceReference : String}
    (hunused : contextId ∉ rows.map MerkleRoot.contextId) :
    CommitsTo poseidon3 (rows ++ [genesisRoot poseidon3 contextId sourceReference]) contextId [] := by
  have hnone : currentRows rows contextId = [] := by
    rw [List.eq_nil_iff_forall_not_mem]
    intro row hrow
    obtain ⟨hmem, hcontext, _⟩ := mem_currentRows.mp hrow
    exact hunused (List.mem_map.mpr ⟨row, hmem, hcontext⟩)
  constructor
  case current =>
    refine ⟨genesisRoot poseidon3 contextId sourceReference, ?_, rfl, rfl, rfl⟩
    rw [currentRows, List.filter_append, ← currentRows, hnone]
    simp [genesisRoot]
  case known =>
    intro row hrow hcontext
    rcases List.mem_append.mp hrow with hold | hnew
    · exact absurd (List.mem_map.mpr ⟨row, hold, hcontext⟩) hunused
    · exact ⟨0, by rw [List.mem_singleton.mp hnew]; rfl⟩
  case room => decide

namespace CommitsTo

variable {db : Database} {contextId : FieldElement} {leaves : List FieldElement}

/-- The tree that the gate extends is the tree of the leaves. -/
theorem currentTree (h : CommitsTo poseidon3 db.roots contextId leaves) :
    db.currentTree contextId = some
      { root := noteRoot poseidon3 leaves
        treeSize := leaves.length
        frontier := (noteTree poseidon3 leaves).frontier } := by
  obtain ⟨row, hfilter, hroot, hsize, hfrontier⟩ := h.current
  rw [← hroot, ← hsize]
  unfold currentRows at hfilter
  simp [Database.currentTree, hfilter, single, hfrontier]

/-- A publication extends the tree by the leaves of its receipt. -/
theorem publish (h : CommitsTo poseidon3 db.roots contextId leaves) {publication : Publication}
    (hpublishes : db.Publishes poseidon3 publication) (hcontext : publication.contextId = contextId) :
    CommitsTo poseidon3 (db.publish publication).roots contextId
      (leaves ++ outputLeaves poseidon3 (db.outputsOf publication.receiptId contextId)) := by
  obtain ⟨hbase, _, happend⟩ := verifiedTreeExtension_ok hpublishes.extension
  rw [hcontext] at hbase happend
  have hbaseEq := Option.some.inj (hbase.symm.trans h.currentTree)
  rw [hbaseEq] at happend
  obtain ⟨hroom, hnext⟩ := appendMerkleLeaves_noteTree_ok (Or.inr rfl) happend
  have hroot := hpublishes.root
  have hsize := hpublishes.treeSize
  rw [hnext] at hroot hsize
  refine h.extend (fun row => ?_) (fun row hrow => ?_) hcontext rfl ?_ ?_ ?_ ?_
  · split <;> exact ⟨rfl, rfl⟩
  · by_cases hcurrent : row.status = .current
    · rw [if_pos ⟨hrow.trans hcontext.symm, hcurrent⟩]
      exact RootStatus.noConfusion
    · rw [if_neg fun hselected => hcurrent hselected.2]
      exact hcurrent
  · exact (toText_injective hroot).symm
  · exact hsize.symm
  · show some publication.extension.next.frontier = _
    rw [hnext]
  · rw [List.length_append]
    exact hroom

/-- A publication in another context leaves the tree alone. -/
theorem publish_other (h : CommitsTo poseidon3 db.roots contextId leaves) {publication : Publication}
    (hcontext : publication.contextId ≠ contextId) :
    CommitsTo poseidon3 (db.publish publication).roots contextId leaves := by
  have hrows := @currentRows_publish_other db contextId publication hcontext
  refine insert_other (h.rewrite (fun row => ?_) ?_) hcontext
  · split <;> exact ⟨rfl, rfl⟩
  · exact (@currentRows_insert_other _ _ publication.root hcontext).symm.trans hrows

/-- Revoking a HISTORICAL root leaves the tree alone. -/
theorem revoke (h : CommitsTo poseidon3 db.roots contextId leaves) {revoked merkleRoot : FieldElement} :
    CommitsTo poseidon3 (db.roots.map (setRevoked revoked merkleRoot)) contextId leaves := by
  refine h.rewrite (fun row => ?_) currentRows_revoke
  unfold setRevoked
  split <;> exact ⟨rfl, rfl⟩

end CommitsTo

/-- The invariant of a context that started with a list of leaves. Its roots
commit to those leaves and to the outputs of its FINAL settlements, each once,
in the order of finalization; every proof was accepted against a root that was
published by then. -/
structure NoteTreeChain (poseidon3 : FieldElement → FieldElement → FieldElement → FieldElement)
    (contextId : FieldElement) (base : List FieldElement) (accepted : List Acceptance) (db : Database)
    (history : List Event) : Prop where
  tree : contextId ∈ db.roots.map MerkleRoot.contextId →
    CommitsTo poseidon3 db.roots contextId
      (base ++ db.publishedLeaves poseidon3 contextId (finalizedReceipts contextId history))
  unopened : contextId ∉ db.roots.map MerkleRoot.contextId → base = []
  distinct : (finalizedReceipts contextId history).Nodup
  recorded : ∀ receiptId ∈ finalizedReceipts contextId history, ∃ acceptance ∈ accepted,
    acceptance.receiptId = receiptId ∧ acceptance.inputs.contextId = contextId
  final : ∀ row ∈ db.settlements, row.contextId = contextId →
    (row.finality ≠ none ↔ row.proofReceiptId ∈ finalizedReceipts contextId history)
  genesis : history.count (.genesis contextId) ≤ 1 ∧
    (contextId ∉ db.roots.map MerkleRoot.contextId → .genesis contextId ∉ history)
  spentUnder : ∀ before acceptance after, history = before ++ .accepted acceptance :: after →
    acceptance.inputs.contextId = contextId →
    ∃ count, acceptance.inputs.merkleRoot = noteRoot poseidon3
      ((base ++ db.publishedLeaves poseidon3 contextId (finalizedReceipts contextId before)).take count)

section Leaves

variable {db : Database} {contextId : FieldElement} {acceptance : Acceptance}

/-- New outputs belong to a new receipt, so published leaves stay. -/
theorem publishedLeaves_record {receipts : List String} (hfresh : acceptance.receiptId ∉ receipts) :
    (db.record acceptance).publishedLeaves poseidon3 contextId receipts =
      db.publishedLeaves poseidon3 contextId receipts := by
  unfold Database.publishedLeaves
  apply List.flatMap_congr
  intro receiptId hreceipt
  have hne : acceptance.receiptId ≠ receiptId := fun heq => hfresh (heq ▸ hreceipt)
  have hnone : acceptance.outputs.filter
      (fun output => output.proofReceiptId = receiptId && output.contextId = contextId) = [] := by
    rw [List.filter_eq_nil_iff]
    intro output houtput hselected
    simp only [Bool.and_eq_true, decide_eq_true_eq] at hselected
    exact hne ((Acceptance.proofReceiptId_of_mem_outputs houtput).symm.trans hselected.1)
  simp only [Database.outputsOf, Database.record, List.filter_append, hnone, List.append_nil]

/-- The recorded outputs of an accepted proof, in their order. -/
theorem Records.outputsOf_of_mem {adapter : Groth16JoinSplitProofAdapter Proof} {accepted : List Acceptance}
    (h : Records adapter db accepted) (hmem : acceptance ∈ accepted) :
    db.outputsOf acceptance.receiptId acceptance.inputs.contextId = acceptance.outputs := by
  have hrows : db.outputs.filter (fun output => output.proofReceiptId = acceptance.receiptId &&
      output.contextId = acceptance.inputs.contextId) = acceptance.outputs := by
    rw [h.outputs]
    refine filter_flatMap_of_mem h.receiptIds hmem fun other hother row hrow => ?_
    have hreceipt := Acceptance.proofReceiptId_of_mem_outputs hrow
    constructor
    · intro hselected
      simp only [Bool.and_eq_true, decide_eq_true_eq] at hselected
      exact hreceipt.symm.trans hselected.1
    · intro hsame
      obtain rfl := h.eq_of_receiptId hother hmem hsame
      have hcontext : row.contextId = other.inputs.contextId := by
        simp only [Acceptance.outputs, List.mem_cons, List.not_mem_nil, or_false] at hrow
        rcases hrow with rfl | rfl <;> rfl
      simp [hreceipt, hcontext]
  simp only [Database.outputsOf, hrows]
  simp [Acceptance.outputs]

end Leaves

namespace NoteTreeChain

variable {gate : ZkSettlementGate Proof} {contextId : FieldElement} {base : List FieldElement}
  {accepted : List Acceptance} {db : Database} {history : List Event}

/-- Recording a proof adds no leaf; the proof was made against a published
root. -/
private theorem record (h : NoteTreeChain gate.poseidon3 contextId base accepted db history)
    (hrecords : Records gate.adapter db accepted) {acceptance : Acceptance} (hadmits : db.Admits acceptance) :
    NoteTreeChain gate.poseidon3 contextId base (accepted ++ [acceptance]) (db.record acceptance)
      (history ++ [.accepted acceptance]) := by
  have hreceipts : finalizedReceipts contextId (history ++ [.accepted acceptance]) =
      finalizedReceipts contextId history := by
    rw [finalizedReceipts_append, finalizedReceipts_accepted, List.append_nil]
  have hfresh : acceptance.receiptId ∉ finalizedReceipts contextId history := by
    intro hmem
    obtain ⟨other, hother, hsame, _⟩ := h.recorded _ hmem
    have hadmitted := hadmits.receipt_id
    rw [hrecords.receipts, List.map_map] at hadmitted
    exact hadmitted (List.mem_map.mpr ⟨other, hother, hsame⟩)
  have hstable {receipts : List String}
    (hinitial : ∀ receiptId ∈ receipts, receiptId ∈ finalizedReceipts contextId history) :
      (db.record acceptance).publishedLeaves gate.poseidon3 contextId receipts =
        db.publishedLeaves gate.poseidon3 contextId receipts :=
    publishedLeaves_record fun hmem => hfresh (hinitial _ hmem)
  constructor
  case tree =>
    intro hopened
    rw [hreceipts, hstable fun _ hmem => hmem]
    exact h.tree hopened
  case unopened => exact h.unopened
  case distinct => rw [hreceipts]; exact h.distinct
  case recorded =>
    intro receiptId hmem
    rw [hreceipts] at hmem
    obtain ⟨other, hother, hrest⟩ := h.recorded receiptId hmem
    exact ⟨other, List.mem_append_left _ hother, hrest⟩
  case final =>
    intro row hrow hcontext
    rw [hreceipts]
    rcases List.mem_append.mp hrow with hold | hnew
    · exact h.final row hold hcontext
    · obtain rfl := List.mem_singleton.mp hnew
      exact iff_of_false (fun hfinal => hfinal rfl) hfresh
  case genesis =>
    refine ⟨?_, fun hunopened hmem => ?_⟩
    · rw [List.count_append, List.count_singleton]
      simpa using h.genesis.1
    · rcases List.mem_append.mp hmem with hold | hnew
      · exact h.genesis.2 hunopened hold
      · cases List.mem_singleton.mp hnew
  case spentUnder =>
    intro before spent after hsplit hcontext
    rcases runs.split_concat hsplit with ⟨rfl, hlast⟩ | ⟨rest, hsplit⟩
    · cases hlast
      obtain ⟨row, hrow, hrowContext, hroot⟩ := hadmits.root
      have hopened : contextId ∈ db.roots.map MerkleRoot.contextId :=
        List.mem_map.mpr ⟨row, hrow, hrowContext.trans hcontext⟩
      obtain ⟨count, hcount⟩ := (h.tree hopened).known row hrow (hrowContext.trans hcontext)
      refine ⟨count, ?_⟩
      rw [hstable fun _ hmem => hmem, ← hcount, hroot]
    · obtain ⟨count, hcount⟩ := h.spentUnder before spent rest hsplit hcontext
      refine ⟨count, ?_⟩
      rw [hstable fun receiptId hmem => ?_, hcount]
      rw [hsplit, finalizedReceipts_append]
      exact List.mem_append_left _ hmem

/-- Events other than acceptances do not touch the roots that proofs were
accepted against. -/
private theorem spentUnder_concat (h : NoteTreeChain poseidon3 contextId base accepted db history) (event : Event)
    (hevent : ∀ acceptance, event ≠ .accepted acceptance) (before : List Event) (acceptance : Acceptance)
    (after : List Event) (hsplit : history ++ [event] = before ++ .accepted acceptance :: after)
    (hcontext : acceptance.inputs.contextId = contextId) :
    ∃ count, acceptance.inputs.merkleRoot = noteRoot poseidon3
      ((base ++ db.publishedLeaves poseidon3 contextId (finalizedReceipts contextId before)).take count) := by
  rcases runs.split_concat hsplit with ⟨_, hlast⟩ | ⟨rest, hsplit⟩
  · exact absurd hlast.symm (hevent acceptance)
  · exact h.spentUnder before acceptance rest hsplit hcontext

/-- The acceptance behind a publication. -/
private theorem exists_published {adapter : Groth16JoinSplitProofAdapter Proof} (hrecords : Records adapter db accepted)
    {publication : Publication} (hpublishes : db.Publishes poseidon3 publication) :
    ∃ acceptance ∈ accepted, acceptance.receiptId = publication.receiptId ∧
      acceptance.transactionId = publication.transactionId ∧
      acceptance.inputs.contextId = publication.contextId := by
  obtain ⟨row, hrow, htransaction, hreceipt, hcontext, _⟩ := hpublishes.settlement
  obtain ⟨acceptance, hmem, hopened⟩ := hrecords.settlement_of_mem hrow
  refine ⟨acceptance, hmem, ?_, ?_, ?_⟩
  · rw [← hreceipt]
    exact (congrArg Settlement.proofReceiptId hopened).symm
  · rw [← htransaction]
    exact (congrArg Settlement.transactionId hopened).symm
  · rw [← hcontext]
    exact (congrArg Settlement.contextId hopened).symm

/-- The settlement of a publication becomes FINAL and no other settlement
changes. -/
private theorem final_publish {adapter : Groth16JoinSplitProofAdapter Proof} (hrecords : Records adapter db accepted)
    {publication : Publication} (hpublishes : db.Publishes poseidon3 publication) {row : Settlement}
    (hrow : row ∈ (db.publish publication).settlements) :
    (row.proofReceiptId = publication.receiptId ∧ row.contextId = publication.contextId ∧ row.finality ≠ none) ∨
      (row.proofReceiptId ≠ publication.receiptId ∧ row ∈ db.settlements) := by
  obtain ⟨acceptance, hmem, hreceipt, htransaction, hcontext⟩ := exists_published hrecords hpublishes
  obtain ⟨old, hold, rfl⟩ := List.mem_map.mp hrow
  obtain ⟨other, hother, hopened⟩ := hrecords.settlement_of_mem hold
  by_cases hid : old.transactionId = publication.transactionId
  · left
    have hsame : other = acceptance := by
      apply hrecords.eq_of_transactionId hother hmem
      rw [htransaction, ← hid]
      exact (congrArg Settlement.transactionId hopened).symm
    rw [if_pos hid]
    refine ⟨?_, ?_, Option.some_ne_none _⟩
    · rw [← hreceipt, ← hsame]
      exact congrArg Settlement.proofReceiptId hopened
    · rw [← hcontext, ← hsame]
      exact congrArg Settlement.contextId hopened
  · right
    rw [if_neg hid]
    refine ⟨fun hsame => hid ?_, hold⟩
    have hequal : other = acceptance := by
      apply hrecords.eq_of_receiptId hother hmem
      rw [hreceipt, ← hsame]
      exact (congrArg Settlement.proofReceiptId hopened).symm
    rw [← htransaction, ← hequal]
    exact congrArg Settlement.transactionId hopened

/-- A context with a CURRENT tree has been opened. -/
theorem opened_of_currentTree {tree : StoredTree} (h : db.currentTree contextId = some tree) :
    contextId ∈ db.roots.map MerkleRoot.contextId := by
  simp only [Database.currentTree, bind, Option.bind_eq_some_iff] at h
  obtain ⟨row, hrow, _⟩ := h
  obtain ⟨hmem, hselected⟩ := mem_of_single_filter hrow
  simp only [Bool.and_eq_true, decide_eq_true_eq] at hselected
  exact List.mem_map.mpr ⟨row, hmem, hselected.1⟩

theorem mem_publish_roots {publication : Publication} :
    contextId ∈ (db.publish publication).roots.map MerkleRoot.contextId ↔
      contextId ∈ db.roots.map MerkleRoot.contextId ∨ contextId = publication.contextId := by
  have hsame : (db.supersedeRoots publication.contextId publication.expiresAt).roots.map MerkleRoot.contextId =
      db.roots.map MerkleRoot.contextId := by
    simp only [Database.supersedeRoots, List.map_map]
    refine List.map_congr_left fun row _ => ?_
    simp only [Function.comp_apply]
    split <;> rfl
  simp only [Database.publish, List.map_append, List.mem_append, hsame]
  simp [Publication.root]

/-- A publication appends the outputs of one settlement that was not FINAL. -/
private theorem publish (h : NoteTreeChain poseidon3 contextId base accepted db history)
    {adapter : Groth16JoinSplitProofAdapter Proof} (hrecords : Records adapter db accepted)
    {publication : Publication} (hpublishes : db.Publishes poseidon3 publication) :
    NoteTreeChain poseidon3 contextId base accepted (db.publish publication)
      (history ++ [.finalized publication.contextId publication.receiptId]) := by
  have hbaseOpened : publication.contextId ∈ db.roots.map MerkleRoot.contextId :=
    opened_of_currentTree (verifiedTreeExtension_ok hpublishes.extension).1
  have hopenedIff : contextId ∈ (db.publish publication).roots.map MerkleRoot.contextId ↔
      contextId ∈ db.roots.map MerkleRoot.contextId := by
    rw [mem_publish_roots]
    constructor
    · rintro (hopened | rfl)
      · exact hopened
      · exact hbaseOpened
    · exact Or.inl
  obtain ⟨settlement, hsettlement, _, hsettlementReceipt, hsettlementContext, hunsettled⟩ := hpublishes.settlement
  have hfresh : publication.contextId = contextId → publication.receiptId ∉ finalizedReceipts contextId history := by
    intro hcontext hmem
    have hiff := h.final settlement hsettlement (hsettlementContext.trans hcontext)
    rw [hsettlementReceipt] at hiff
    exact hiff.mpr hmem hunsettled
  have hspent := h.spentUnder_concat (.finalized publication.contextId publication.receiptId) (by simp)
  have hgenesis : (history ++ [Event.finalized publication.contextId publication.receiptId]).count
        (Event.genesis contextId) ≤ 1 ∧
      (contextId ∉ (db.publish publication).roots.map MerkleRoot.contextId →
        Event.genesis contextId ∉ history ++ [.finalized publication.contextId publication.receiptId]) := by
    rw [hopenedIff]
    simpa [List.count_append, List.count_singleton] using h.genesis
  by_cases hcontext : publication.contextId = contextId
  · have hreceipts : finalizedReceipts contextId (history ++ [.finalized publication.contextId publication.receiptId]) =
        finalizedReceipts contextId history ++ [publication.receiptId] := by
      rw [finalizedReceipts_append, finalizedReceipts_finalized, if_pos hcontext]
    constructor
    case tree =>
      intro hopened
      have htree := (h.tree (hopenedIff.mp hopened)).publish hpublishes hcontext
      rw [hreceipts, Database.publishedLeaves, List.flatMap_append, List.flatMap_singleton, ← List.append_assoc]
      exact htree
    case unopened => exact fun hunopened => h.unopened fun hopened => hunopened (hopenedIff.mpr hopened)
    case distinct =>
      rw [hreceipts]
      simpa [List.nodup_append] using ⟨h.distinct, fun receiptId hmem heq => hfresh hcontext (heq ▸ hmem)⟩
    case recorded =>
      intro receiptId hmem
      rw [hreceipts] at hmem
      rcases List.mem_append.mp hmem with hold | hnew
      · exact h.recorded receiptId hold
      · obtain rfl := List.mem_singleton.mp hnew
        obtain ⟨acceptance, haccepted, hreceipt, _, hacceptedContext⟩ := exists_published hrecords hpublishes
        exact ⟨acceptance, haccepted, hreceipt, hacceptedContext.trans hcontext⟩
    case final =>
      intro row hrow hrowContext
      rw [hreceipts, List.mem_append, List.mem_singleton]
      rcases final_publish hrecords hpublishes hrow with ⟨hreceipt, _, hfinal⟩ | ⟨hother, hold⟩
      · exact iff_of_true hfinal (Or.inr hreceipt)
      · rw [h.final row hold hrowContext]
        simp [hother]
    case genesis => exact hgenesis
    case spentUnder => exact hspent
  · have hreceipts : finalizedReceipts contextId (history ++ [.finalized publication.contextId publication.receiptId]) =
        finalizedReceipts contextId history := by
      rw [finalizedReceipts_append, finalizedReceipts_finalized, if_neg hcontext, List.append_nil]
    constructor
    case tree =>
      intro hopened
      rw [hreceipts]
      exact (h.tree (hopenedIff.mp hopened)).publish_other hcontext
    case unopened => exact fun hunopened => h.unopened fun hopened => hunopened (hopenedIff.mpr hopened)
    case distinct => rw [hreceipts]; exact h.distinct
    case recorded => rw [hreceipts]; exact h.recorded
    case final =>
      intro row hrow hrowContext
      rw [hreceipts]
      rcases final_publish hrecords hpublishes hrow with ⟨_, hpublished, _⟩ | ⟨_, hold⟩
      · exact absurd (hpublished.symm.trans hrowContext) hcontext
      · exact h.final row hold hrowContext
    case genesis => exact hgenesis
    case spentUnder => exact hspent

/-- No receipt of a context is FINAL before the context is opened. -/
private theorem finalizedReceipts_unopened (h : NoteTreeChain poseidon3 contextId base accepted db history)
    {adapter : Groth16JoinSplitProofAdapter Proof} (hrecords : Records adapter db accepted)
    (hunopened : contextId ∉ db.roots.map MerkleRoot.contextId) : finalizedReceipts contextId history = [] := by
  rw [List.eq_nil_iff_forall_not_mem]
  intro receiptId hmem
  obtain ⟨acceptance, hacceptance, _, hcontext⟩ := h.recorded receiptId hmem
  obtain ⟨row, hrow, hrowContext, _⟩ := hrecords.root acceptance hacceptance
  exact hunopened (List.mem_map.mpr ⟨row, hrow, hrowContext.trans hcontext⟩)

/-- The genesis of a context that was unused opens its empty tree. -/
private theorem openContext (h : NoteTreeChain poseidon3 contextId base accepted db history)
    {adapter : Groth16JoinSplitProofAdapter Proof} (hrecords : Records adapter db accepted)
    {context : ProductContext} {sourceReference : String} {parameterProposals : List ParameterProposal}
    (hunused : db.Unused context.contextId) :
    NoteTreeChain poseidon3 contextId base accepted
      { db with
        contexts := db.contexts ++ [context]
        roots := db.roots ++ [genesisRoot poseidon3 context.contextId sourceReference]
        parameterProposals }
      (history ++ [.genesis context.contextId]) := by
  have hreceipts : finalizedReceipts contextId (history ++ [.genesis context.contextId]) =
      finalizedReceipts contextId history := by
    rw [finalizedReceipts_append, finalizedReceipts_genesis, List.append_nil]
  have hopenedIff : contextId ∈ (db.roots ++ [genesisRoot poseidon3 context.contextId sourceReference]).map
      MerkleRoot.contextId ↔ contextId ∈ db.roots.map MerkleRoot.contextId ∨ contextId = context.contextId := by
    simp [genesisRoot]
  constructor
  case tree =>
    intro hopened
    rw [hreceipts]
    by_cases hcontext : context.contextId = contextId
    · have hunopened : contextId ∉ db.roots.map MerkleRoot.contextId := hcontext ▸ hunused.2
      rw [h.unopened hunopened, h.finalizedReceipts_unopened hrecords hunopened, hcontext]
      exact commitsTo_genesis hunopened
    · have hold := (hopenedIff.mp hopened).resolve_right (Ne.symm hcontext)
      exact (h.tree hold).insert_other hcontext
  case unopened => exact fun hunopened => h.unopened fun hopened => hunopened (hopenedIff.mpr (Or.inl hopened))
  case distinct => rw [hreceipts]; exact h.distinct
  case recorded => rw [hreceipts]; exact h.recorded
  case final => rw [hreceipts]; exact h.final
  case genesis =>
    rw [hopenedIff, List.count_append]
    by_cases hcontext : context.contextId = contextId
    · have hnone : Event.genesis contextId ∉ history := h.genesis.2 (hcontext ▸ hunused.2)
      simp [List.count_eq_zero.mpr hnone, hcontext]
    · refine ⟨?_, fun hunopened hmem => ?_⟩
      · simpa [List.count_singleton, hcontext] using h.genesis.1
      · rcases List.mem_append.mp hmem with hold | hnew
        · exact h.genesis.2 (fun hopened => hunopened (Or.inl hopened)) hold
        · cases List.mem_singleton.mp hnew
          exact hcontext rfl
  case spentUnder => exact h.spentUnder_concat (.genesis context.contextId) (by simp)

/-- Revoking a HISTORICAL root keeps the chain. -/
private theorem revoke (h : NoteTreeChain poseidon3 contextId base accepted db history)
    {revoked merkleRoot : FieldElement} :
    NoteTreeChain poseidon3 contextId base accepted
      { db with roots := db.roots.map (setRevoked revoked merkleRoot) } history := by
  have hcontexts : (db.roots.map (setRevoked revoked merkleRoot)).map MerkleRoot.contextId =
      db.roots.map MerkleRoot.contextId := by
    rw [List.map_map]
    refine List.map_congr_left fun row _ => ?_
    simp only [Function.comp_apply, setRevoked]
    split <;> rfl
  exact
    { h with
      tree := fun hopened => (h.tree (hcontexts ▸ hopened)).revoke
      unopened := by rw [hcontexts]; exact h.unopened
      genesis := by rw [hcontexts]; exact h.genesis }

/-- Every change keeps the chain. -/
theorem commit (h : NoteTreeChain gate.poseidon3 contextId base accepted db history)
    (hrecords : Records gate.adapter db accepted) {calls : List (AcceptCall Proof)} {next : Database}
    {events : List Event} (hcommit : Commit gate calls db next events) :
    NoteTreeChain gate.poseidon3 contextId base (accepted ++ acceptances events) next (history ++ events) := by
  cases hcommit with
  | record acceptance call hcall htransaction htenant hinputs hverification hadmits => exact h.record hrecords hadmits
  | publish publication hpublishes => simpa using h.publish hrecords hpublishes
  | genesis context sourceReference parameterProposals hunused => simpa using h.openContext hrecords hunused
  | revokeRoot contextId merkleRoot => simpa using h.revoke
  | _ => simpa using { h with }

end NoteTreeChain

end rwa.gate
