import RwaControlPlane.Circuit.Spending
import RwaControlPlane.Gate.NoDoubleSpend
import RwaControlPlane.Gate.NoteTreeRuns

open checked keyed_rows rwa.security rwa.merkle rwa.circuit coin_ledger

namespace rwa.gate

variable {Proof : Type} {poseidon : List FieldElement → FieldElement}
variable {pedersen : List FieldElement → FieldElement × FieldElement}

/-- The accepted proofs of a context. -/
def acceptedIn (contextId : FieldElement) (history : List Event) : List Acceptance :=
  (acceptances history).filter fun acceptance => acceptance.inputs.contextId = contextId

theorem mem_acceptedIn {contextId : FieldElement} {history : List Event} {acceptance : Acceptance} :
    acceptance ∈ acceptedIn contextId history ↔
      .accepted acceptance ∈ history ∧ acceptance.inputs.contextId = contextId := by
  simp [acceptedIn, List.mem_filter, mem_acceptances]

section Start

variable {adapter : Groth16JoinSplitProofAdapter Proof} {db : Database} {before : List Acceptance}
  {contextId : FieldElement}

/-- No proof has been accepted in a context without spent nullifiers. -/
private theorem Records.contextId_ne (h : Records adapter db before)
    (hunspent : ∀ row ∈ db.nullifiers, row.contextId ≠ contextId) {acceptance : Acceptance}
    (hmem : acceptance ∈ before) : acceptance.inputs.contextId ≠ contextId := by
  intro hcontext
  obtain ⟨row, hrow, hkey⟩ := List.mem_map.mp (acceptance.mem_nullifierKeys 0)
  have hspent : row ∈ db.nullifiers := by
    rw [h.nullifiers]
    exact List.mem_flatMap.mpr ⟨acceptance, hmem, hrow⟩
  exact hunspent row hspent ((congrArg Prod.fst hkey).trans hcontext)

/-- The chain of a context that starts with a committed list of leaves and
without spent nullifiers. -/
theorem NoteTreeChain.ofCommitted {poseidon3 : FieldElement → FieldElement → FieldElement → FieldElement}
    {leaves : List FieldElement} (h : Records adapter db before) (htree : CommitsTo poseidon3 db.roots contextId leaves)
    (hunspent : ∀ row ∈ db.nullifiers, row.contextId ≠ contextId) :
    NoteTreeChain poseidon3 contextId leaves before db [] := by
  have hopened : contextId ∈ db.roots.map MerkleRoot.contextId := by
    obtain ⟨row, hrow, _⟩ := htree.current
    have hmem : row ∈ currentRows db.roots contextId := hrow ▸ List.mem_singleton_self row
    obtain ⟨hroot, hcontext, _⟩ := mem_currentRows.mp hmem
    exact List.mem_map.mpr ⟨row, hroot, hcontext⟩
  constructor
  case tree => simpa [Database.publishedLeaves] using fun _ _ _ => htree
  case unopened => exact fun hunopened => absurd hopened hunopened
  case distinct => exact List.nodup_nil
  case recorded => simp
  case final =>
    intro row hrow hcontext
    obtain ⟨acceptance, hmem, hopenedRow⟩ := h.settlement_of_mem hrow
    have hsame : row.contextId = acceptance.inputs.contextId := congrArg Settlement.contextId hopenedRow
    exact absurd (hsame.symm.trans hcontext) (h.contextId_ne hunspent hmem)
  case genesis => simp
  case spentUnder => simp

end Start

section Origin

variable {adapter : Groth16JoinSplitProofAdapter Proof} {db : Database} {before : List Acceptance}
  {contextId : FieldElement} {history : List Event} {initial : List Note}
  {witness : Acceptance → ConfidentialLedgerJoinSplit merkleTreeDepth}

/-- The coordinates of the output at one of the two positions. -/
private theorem mem_outputLeaves {poseidon3 : FieldElement → FieldElement → FieldElement → FieldElement}
    {acceptance : Acceptance} {signals : ConfidentialLedgerJoinSplit merkleTreeDepth}
    (hinputs : signals.publicInputs = acceptance.inputs) {leaf : FieldElement}
    (hleaf : leaf ∈ outputLeaves poseidon3 acceptance.outputs) :
    ∃ j, leaf = merkleLeaf poseidon3 (signals.outputCommitmentX j) (signals.outputCommitmentY j) := by
  simp only [outputLeaves, Acceptance.outputs, List.map_cons, List.map_nil, List.mem_cons, List.not_mem_nil,
    or_false, ← hinputs] at hleaf
  rcases hleaf with hleaf | hleaf
  · exact ⟨0, hleaf⟩
  · exact ⟨1, hleaf⟩

/-- Every consumed input is an initial coin or an output that was FINAL when the
proof was accepted. -/
private theorem origin (hrecords : Records adapter db (before ++ acceptances history))
    (hbefore : ∀ acceptance ∈ before, acceptance.inputs.contextId ≠ contextId)
    (hchain : NoteTreeChain (poseidon3 poseidon) contextId (initial.map (Note.commitmentHash poseidon pedersen))
      (before ++ acceptances history) db history)
    (hexplains : Explains poseidon pedersen witness (acceptedIn contextId history))
    (hfree : LedgerCollisionFree poseidon pedersen initial
      (initial.map (Note.commitmentHash poseidon pedersen) ++
        db.publishedLeaves (poseidon3 poseidon) contextId (finalizedReceipts contextId history))
      ((acceptedIn contextId history).map witness))
    {earlier later : List Event} {acceptance : Acceptance}
    (hsplit : history = earlier ++ .accepted acceptance :: later) (hcontext : acceptance.inputs.contextId = contextId)
    (i : Fin 2) :
    (witness acceptance).inputCoin i ∈ initial.map (Note.coin pedersen) ∨
      ∃ source ∈ acceptedIn contextId history, source.receiptId ∈ finalizedReceipts contextId earlier ∧
        ∃ j, (witness acceptance).inputCoin i = (witness source).outputCoin j := by
  have hmem : acceptance ∈ acceptedIn contextId history :=
    mem_acceptedIn.mpr ⟨by simp [hsplit], hcontext⟩
  have hused : ∀ {other : Acceptance}, other ∈ acceptedIn contextId history →
      witness other ∈ (acceptedIn contextId history).map witness := List.mem_map_of_mem
  have hconstraints := hexplains.constraints acceptance hmem
  -- the leaves published before this proof are a prefix of all leaves
  have hfinalized : ∃ rest, finalizedReceipts contextId history = finalizedReceipts contextId earlier ++ rest := by
    rw [hsplit, finalizedReceipts_append]
    exact ⟨_, rfl⟩
  obtain ⟨rest, hrest⟩ := hfinalized
  obtain ⟨count, hroot⟩ := hchain.spentUnder earlier acceptance later hsplit hcontext
  generalize hpublished : initial.map (Note.commitmentHash poseidon pedersen) ++
    db.publishedLeaves (poseidon3 poseidon) contextId (finalizedReceipts contextId earlier) = published at hroot
  have hleaves : initial.map (Note.commitmentHash poseidon pedersen) ++
      db.publishedLeaves (poseidon3 poseidon) contextId (finalizedReceipts contextId history) =
        published ++ db.publishedLeaves (poseidon3 poseidon) contextId rest := by
    rw [← hpublished, hrest, Database.publishedLeaves, List.flatMap_append, List.append_assoc]
    rfl
  have htake : published.take count = (published ++ db.publishedLeaves (poseidon3 poseidon) contextId rest).take
      (min count published.length) := by
    rw [List.take_append_of_le_length (Nat.min_le_right _ _), List.take_eq_take_min]
  have hsignalsRoot : (witness acceptance).merkleRoot = acceptance.inputs.merkleRoot :=
    congrArg JoinSplitPublicInputs.merkleRoot (hexplains.publicInputs acceptance hmem)
  rw [hleaves] at hfree
  rw [← hsignalsRoot, htake] at hroot
  have hleaf := inputLeaf_mem hfree (hused hmem) hconstraints hroot i
  rw [← htake] at hleaf
  have hknown := List.mem_of_mem_take hleaf
  rw [← hpublished, List.mem_append] at hknown
  rcases hknown with hinitial | houtput
  · obtain ⟨note, hnote, hsame⟩ := List.mem_map.mp hinitial
    refine Or.inl (List.mem_map.mpr ⟨note, hnote, ?_⟩)
    exact (inputCoin_eq_initial hfree (hused hmem) hconstraints hnote hsame.symm).symm
  · obtain ⟨receiptId, hreceipt, hpair⟩ := List.mem_flatMap.mp houtput
    have hreceiptHistory : receiptId ∈ finalizedReceipts contextId history := by
      rw [hrest]
      exact List.mem_append_left _ hreceipt
    obtain ⟨source, hsource, rfl, hsourceContext⟩ := hchain.recorded receiptId hreceiptHistory
    rw [← hsourceContext, hrecords.outputsOf_of_mem hsource] at hpair
    have hsourceMem : source ∈ acceptedIn contextId history := by
      rcases List.mem_append.mp hsource with hold | hnew
      · exact absurd hsourceContext (hbefore source hold)
      · exact mem_acceptedIn.mpr ⟨mem_acceptances.mp hnew, hsourceContext⟩
    obtain ⟨j, hj⟩ := mem_outputLeaves (hexplains.publicInputs source hsourceMem) hpair
    refine Or.inr ⟨source, hsourceMem, hreceipt, j, ?_⟩
    exact inputCoin_eq_output hfree (hused hmem) hconstraints (hused hsourceMem)
      (hexplains.constraints source hsourceMem) hj

/-- No commitment of a context is consumed twice. -/
private theorem nodup_consumed (hrecords : Records adapter db (before ++ acceptances history))
    (hexplains : Explains poseidon pedersen witness (acceptedIn contextId history))
    (hfree : CollisionFree poseidon pedersen ((acceptedIn contextId history).map witness)) :
    ((consumed ((acceptedIn contextId history).map fun acceptance => (witness acceptance).transfer)).map
      Prod.fst).Nodup := by
  have hsubset : acceptedIn contextId history ⊆ before ++ acceptances history := by
    intro acceptance hmem
    exact List.mem_append_right _ (mem_acceptances.mpr (mem_acceptedIn.mp hmem).1)
  have hkeys : (consumed ((acceptedIn contextId history).map fun acceptance => (witness acceptance).transfer)).map
      Prod.fst = (acceptedIn contextId history).flatMap fun acceptance =>
        [((witness acceptance).inputNote 0).out, ((witness acceptance).inputNote 1).out] := by
    rw [consumed, List.flatMap_map, List.map_flatMap]
    rfl
  have hunique : ∀ {first second : Acceptance} {i j : Fin 2}, first ∈ acceptedIn contextId history →
      second ∈ acceptedIn contextId history →
      ((witness first).inputNote i).out = ((witness second).inputNote j).out → first = second ∧ i = j := by
    intro first second i j hfirst hsecond hsame
    have hcontext := (mem_acceptedIn.mp hfirst).2.trans (mem_acceptedIn.mp hsecond).2.symm
    exact hrecords.note_unique hsubset hexplains hfree hfirst hsecond hcontext hsame
  have hnodup : (acceptedIn contextId history).Nodup := by
    have hall : (before ++ acceptances history).Nodup := List.Nodup.of_map _ hrecords.receiptIds
    exact ((List.nodup_append.mp hall).2.1).filter _
  rw [hkeys, List.nodup_flatMap]
  constructor
  · intro acceptance hmem
    have hdistinct : ((witness acceptance).inputNote 0).out ≠ ((witness acceptance).inputNote 1).out := by
      intro hsame
      exact absurd (hunique hmem hmem hsame).2 (by decide)
    simpa using hdistinct
  · refine hnodup.imp_of_mem fun hfirst hsecond hne => ?_
    intro commitment hleft hright
    simp only [List.mem_cons, List.not_mem_nil, or_false] at hleft hright
    rcases hleft with hleft | hleft <;> rcases hright with hright | hright <;>
      exact hne (hunique hfirst hsecond (hleft.symm.trans hright)).1

end Origin

/-- No inflation on the confidential rail. Take a context whose roots commit to
the leaves of some initial notes and in which no nullifier is spent. In every
reachable state, every input consumed by an accepted proof is the coin of an
initial note or an output of a settlement that was FINAL by then, and the coins
that are not consumed together with all fees amount to no more than the initial
notes. -/
theorem no_inflation (gate : ZkSettlementGate Proof) (poseidon : List FieldElement → FieldElement)
    (pedersen : List FieldElement → FieldElement × FieldElement) (hhash : gate.poseidon3 = poseidon3 poseidon)
    (hproofs : ProofSound gate.adapter poseidon pedersen) (db : Database) (before : List Acceptance)
    (hrecords : Records gate.adapter db before) (contextId : FieldElement) (initial : List Note)
    (htree : CommitsTo gate.poseidon3 db.roots contextId (initial.map (Note.commitmentHash poseidon pedersen)))
    (hunspent : ∀ row ∈ db.nullifiers, row.contextId ≠ contextId) (actions : List (Action Proof)) :
    (∃ witness, Explains poseidon pedersen witness (acceptedIn contextId (run gate db actions).history)) ∧
    ∀ witness, Explains poseidon pedersen witness (acceptedIn contextId (run gate db actions).history) →
      LedgerCollisionFree poseidon pedersen initial
        (initial.map (Note.commitmentHash poseidon pedersen) ++
          (run gate db actions).db.publishedLeaves gate.poseidon3 contextId
            (finalizedReceipts contextId (run gate db actions).history))
        ((acceptedIn contextId (run gate db actions).history).map witness) →
      (∀ earlier acceptance later, (run gate db actions).history = earlier ++ .accepted acceptance :: later →
        acceptance.inputs.contextId = contextId → ∀ i,
          (witness acceptance).inputCoin i ∈ initial.map (Note.coin pedersen) ∨
          ∃ source ∈ acceptedIn contextId (run gate db actions).history,
            source.receiptId ∈ finalizedReceipts contextId earlier ∧
            ∃ j, (witness acceptance).inputCoin i = (witness source).outputCoin j) ∧
      total (unspent (initial.map (Note.coin pedersen))
          ((acceptedIn contextId (run gate db actions).history).map fun acceptance => (witness acceptance).transfer)) +
        fees ((acceptedIn contextId (run gate db actions).history).map fun acceptance =>
          (witness acceptance).transfer) ≤ (initial.map Note.amount).sum := by
  have hstart := Sound.start hrecords
  have hsound := run_sound hrecords actions
  have hbefore : ∀ acceptance ∈ before, acceptance.inputs.contextId ≠ contextId :=
    fun acceptance hmem => hrecords.contextId_ne hunspent hmem
  have hchainStart := NoteTreeChain.ofCommitted hrecords htree hunspent
  rw [← List.append_nil before] at hchainStart
  have hchain := NoteTreeChain.run hstart hchainStart actions
  rw [hhash] at hchain
  have hsubset : acceptedIn contextId (run gate db actions).history ⊆
      before ++ acceptances (run gate db actions).history := by
    intro acceptance hmem
    exact List.mem_append_right _ (mem_acceptances.mpr (mem_acceptedIn.mp hmem).1)
  constructor
  · obtain ⟨witness, hwitness⟩ := hsound.records.exists_explains hproofs
    exact ⟨witness, hwitness.mono hsubset⟩
  intro witness hexplains hfree
  rw [hhash] at hfree
  have horigin := fun {earlier later} {acceptance} => @origin _ _ _ _ _ _ _ _ _ _ hsound.records hbefore hchain
    hexplains hfree earlier later acceptance
  refine ⟨fun earlier acceptance later hsplit hcontext i => horigin hsplit hcontext i, ?_⟩
  have hinitial : total (initial.map (Note.coin pedersen)) = (initial.map Note.amount).sum := by
    rw [total, List.map_map]
    rfl
  rw [← hinitial]
  apply total_unspent_add_fees_le
  · intro transfer htransfer
    obtain ⟨acceptance, hmem, rfl⟩ := List.mem_map.mp htransfer
    exact (hexplains.constraints acceptance hmem).balanced
  · intro coin hcoin
    obtain ⟨transfer, htransfer, hinput⟩ := List.mem_flatMap.mp hcoin
    obtain ⟨acceptance, hmem, rfl⟩ := List.mem_map.mp htransfer
    have hposition : ∃ i, coin = (witness acceptance).inputCoin i := by
      simp only [ConfidentialLedgerJoinSplit.transfer, List.mem_cons, List.not_mem_nil, or_false] at hinput
      rcases hinput with hinput | hinput
      · exact ⟨0, hinput⟩
      · exact ⟨1, hinput⟩
    obtain ⟨i, rfl⟩ := hposition
    obtain ⟨hevent, hcontext⟩ := mem_acceptedIn.mp hmem
    obtain ⟨earlier, later, hsplit⟩ := List.append_of_mem hevent
    rw [List.mem_append]
    rcases horigin hsplit hcontext i with hnote | ⟨source, hsource, _, j, houtput⟩
    · exact Or.inl hnote
    · right
      rw [created, List.flatMap_map, List.mem_flatMap]
      refine ⟨source, hsource, ?_⟩
      rw [houtput]
      fin_cases j
      · simp [ConfidentialLedgerJoinSplit.transfer]
      · simp [ConfidentialLedgerJoinSplit.transfer]
  · exact nodup_consumed hsound.records hexplains hfree.collisionFree

/-- The tree of the sample context holds the initial notes. -/
theorem unspentDatabase_commitsTo : CommitsTo (poseidon3 sampleHash) unspentDatabase.roots 1 sampleLeaves where
  current := ⟨_, rfl, sampleInitial_root, rfl, rfl⟩
  known := by
    intro row hrow _
    obtain rfl := List.mem_singleton.mp hrow
    exact ⟨2, sampleInitial_root⟩
  room := by decide

/-- The assignment behind every accepted proof of the sample run. -/
def sampleProver (_ : Acceptance) : ConfidentialLedgerJoinSplit merkleTreeDepth := sampleSignals

/-- What the accepted transfer of the sample notes leaves unspent, and its fee,
do not exceed the 705 units of the initial notes. -/
theorem no_inflation_sample :
    (acceptedIn 1 spentState.history).length = 1 ∧
      total (unspent (sampleInitial.map (Note.coin samplePedersen))
          ((acceptedIn 1 spentState.history).map fun acceptance => (sampleProver acceptance).transfer)) +
        fees ((acceptedIn 1 spentState.history).map fun acceptance => (sampleProver acceptance).transfer) ≤ 705 := by
  obtain ⟨acceptance, hinputs, hhistory⟩ := spentState_history
  have hbound := no_inflation (sampleGate (poseidon3 sampleHash) samplePublicInputs) sampleHash samplePedersen rfl
    (sampleGate_sound sampleSignals_constraints sampleSignals_publicInputs) unspentDatabase []
    ((sampleDatabase_fresh _ _ _).records _) 1 sampleInitial unspentDatabase_commitsTo
    (by simp [unspentDatabase, sampleDatabase]) (sampleAcceptance samplePublicInputs)
  rw [← spentState] at hbound
  -- only the history matters from here on, and the state is not evaluated again
  generalize spentState = state at hhistory hbound ⊢
  have haccepted : acceptedIn 1 state.history = [acceptance] := by
    rw [hhistory]
    apply List.filter_eq_self.mpr
    intro other hother
    rw [List.mem_singleton.mp hother, hinputs]
    rfl
  have hpublished : state.db.publishedLeaves (poseidon3 sampleHash) 1 (finalizedReceipts 1 state.history) =
      [] := by
    rw [hhistory]
    rfl
  have hexplains : Explains sampleHash samplePedersen sampleProver (acceptedIn 1 state.history) := by
    rw [haccepted]
    exact ⟨fun _ _ => sampleSignals_constraints,
      fun other hother => by rw [List.mem_singleton.mp hother, hinputs, sampleProver, sampleSignals_publicInputs]⟩
  have hfree : LedgerCollisionFree sampleHash samplePedersen sampleInitial
      (sampleInitial.map (Note.commitmentHash sampleHash samplePedersen) ++
        state.db.publishedLeaves (poseidon3 sampleHash) 1 (finalizedReceipts 1 state.history))
      ((acceptedIn 1 state.history).map sampleProver) := by
    rw [hpublished, haccepted, List.append_nil]
    exact sampleInitial_collisionFree
  have hsum : (sampleInitial.map Note.amount).sum = 705 := rfl
  rw [← hsum]
  refine ⟨?_, (hbound.2 sampleProver hexplains hfree).2⟩
  rw [haccepted]
  rfl

end rwa.gate
