import RwaControlPlane.Audit.System
import RwaControlPlane.Audit.Verification

open checked rwa.storage paging

namespace rwa.audit

variable {service : AuditService} {state next : AuditState} {action : Action}

/-- A checkpoint without its anchor. -/
def AuditChainCheckpoint.core (row : AuditChainCheckpoint) : AuditChainCheckpoint := { row with externalAnchor := none }

@[simp] theorem core_throughSequenceId {row : AuditChainCheckpoint} :
    row.core.throughSequenceId = row.throughSequenceId := rfl

@[simp] theorem core_eventCount {row : AuditChainCheckpoint} : row.core.eventCount = row.eventCount := rfl

@[simp] theorem core_digest {row : AuditChainCheckpoint} : row.core.digest = row.digest := rfl

@[simp] theorem core_previousDigest {row : AuditChainCheckpoint} :
    row.core.previousDigest = row.previousDigest := rfl

/-- What a step can do to the state. -/
inductive Moves (service : AuditService) (state : AuditState) (action : Action) : AuditState → Prop
  | kept : Moves service state action state
  | started {id : Nat} {checkpoint : Option CheckpointCall} (hnew : state.find id = none) :
      Moves service state action
        { state with
          transactions := state.transactions ++
            [{ id, snapshot := state.tables, inserted := [], sharedLocks := [], exclusiveLocks := [], checkpoint }] }
  | shared {transaction : Transaction} {tenantId : String} (hfound : state.find transaction.id = some transaction)
      (hfree : state.SharedFree transaction.id (auditChainLockKey tenantId)) :
      Moves service state action (state.update transaction.id fun transaction =>
        { transaction with sharedLocks := auditChainLockKey tenantId :: transaction.sharedLocks })
  | excluded {transaction : Transaction} {key : String} (hfound : state.find transaction.id = some transaction)
      (hfree : state.ExclusiveFree transaction.id key) :
      Moves service state action (state.update transaction.id fun transaction =>
        { transaction with exclusiveLocks := key :: transaction.exclusiveLocks })
  | lost {transaction : Transaction} (hfound : state.find transaction.id = some transaction) :
      Moves service state action
        (AuditState.finish { state with nextSequenceId := state.nextSequenceId + 1 } transaction.id)
  | inserted {transaction : Transaction} {event : AuditInput} {row : AuditEvent}
      (hfound : state.find transaction.id = some transaction) (hcheckpoint : transaction.checkpoint = none)
      (hlocked : auditChainLockKey event.tenantId ∈ transaction.sharedLocks)
      (hfree : state.ExclusiveFree transaction.id (aggregateLockKey event))
      (hrow : auditRow service.platform
        (transaction.snapshot.events ++ transaction.inserted) state.nextSequenceId event =
        .ok row)
      (hroom : state.nextSequenceId ≤ maxBigint)
      (hfresh : ∀ other ∈ state.tables.events ++ transaction.inserted, ¬row.Conflicts other) :
      Moves service state action
        (AuditState.update { state with nextSequenceId := state.nextSequenceId + 1 } transaction.id fun transaction =>
          { transaction with
            inserted := transaction.inserted ++ [row]
            exclusiveLocks := aggregateLockKey event :: transaction.exclusiveLocks })
  | finished {transaction : Transaction} (hfound : state.find transaction.id = some transaction) :
      Moves service state action (state.finish transaction.id)
  | committed {transaction : Transaction} (hfound : state.find transaction.id = some transaction)
      (hfresh : ∀ row ∈ transaction.inserted, ∀ other ∈ state.tables.events, ¬row.Conflicts other) :
      Moves service state action
        { state.finish transaction.id with
          tables := { state.tables with events := state.tables.events ++ transaction.inserted } }
  | checkpointed {transaction : Transaction} {call : CheckpointCall} {tables : Tables}
      (haction : action = .commitCheckpoint transaction.id) (hfound : state.find transaction.id = some transaction)
      (hcall : transaction.checkpoint = some call)
      (hlocked : auditChainLockKey call.tenantId ∈ transaction.exclusiveLocks)
      (htables : checkpointed service state transaction call = .ok tables) :
      Moves service state action { state.finish transaction.id with tables }
  | anchored {tables : Tables} (hevents : tables.events = state.tables.events)
      (hcheckpoints : tables.checkpoints.map AuditChainCheckpoint.core =
        state.tables.checkpoints.map AuditChainCheckpoint.core) : Moves service state action { state with tables }

theorem moves_start {id : Nat} {checkpoint : Option CheckpointCall} :
    Moves service state action (startTransaction state id checkpoint) := by
  unfold startTransaction
  cases hfind : state.find id with
  | none => exact .started hfind
  | some transaction => exact .kept

theorem moves_insert {transaction : Transaction} {event : AuditInput}
    (hfound : state.find transaction.id = some transaction) (hcheckpoint : transaction.checkpoint = none) :
    Moves service state action (insertEvent service state transaction event) := by
  unfold insertEvent
  dsimp only
  split
  · exact .kept
  · rename_i hlocks
    obtain ⟨hlocked, hfree⟩ := not_or.mp hlocks
    split
    · exact .finished hfound
    · rename_i row hrow
      split
      · exact .finished hfound
      · rename_i hroom
        split
        · exact .lost hfound
        · rename_i hfresh
          refine .inserted hfound hcheckpoint (not_not.mp hlocked) (not_not.mp hfree) hrow (not_lt.mp hroom) ?_
          exact fun other hother hconflict => hfresh ⟨other, hother, hconflict⟩

theorem moves_commitEvents {transaction : Transaction} (hfound : state.find transaction.id = some transaction) :
    Moves service state action (commitEvents state transaction) := by
  unfold commitEvents
  split
  · exact .finished hfound
  · rename_i hfresh
    exact .committed hfound fun row hrow other hother hconflict => hfresh ⟨row, hrow, other, hother, hconflict⟩

theorem moves_commitCheckpoint {transaction : Transaction} {call : CheckpointCall}
    (haction : action = .commitCheckpoint transaction.id) (hfound : state.find transaction.id = some transaction)
    (hcall : transaction.checkpoint = some call) :
    Moves service state action (commitCheckpoint service state transaction call) := by
  unfold commitCheckpoint
  split
  · exact .kept
  · rename_i hlocked
    split
    · rename_i tables htables
      exact .checkpointed haction hfound hcall (not_not.mp hlocked) htables
    · exact .finished hfound

theorem find_id {id : Nat} {transaction : Transaction} (h : state.find id = some transaction) :
    transaction.id = id := by
  simpa using List.find?_some h

theorem moves_advance {transaction : Transaction} (hfound : state.find transaction.id = some transaction)
    (haction : ∀ id, action = .commitCheckpoint id → id = transaction.id) :
    Moves service state action (advance service state transaction action) := by
  unfold advance
  split
  · split
    · exact .shared hfound ‹_›
    · exact .kept
  · exact moves_insert hfound ‹_›
  · exact moves_commitEvents hfound
  · split
    · exact .excluded hfound ‹_›
    · exact .kept
  · rename_i id call hcall
    exact moves_commitCheckpoint (by rw [haction id rfl]) hfound hcall
  · exact .finished hfound
  · exact .kept

theorem recordExternalAnchor_ok {tables anchored : Tables} {now checkpointNumber : Int} {tenantId : String}
    {anchor : js_value.JsValue}
    (h : recordExternalAnchor service.platform tables now tenantId checkpointNumber anchor = .ok anchored) :
    anchored.events = tables.events ∧
      anchored.checkpoints.map AuditChainCheckpoint.core = tables.checkpoints.map AuditChainCheckpoint.core := by
  simp only [recordExternalAnchor, bind_eq_ok_iff, throwIf_eq_ok_iff, pure_eq_ok_iff, exists_unit] at h
  obtain ⟨-, members, -, -, recorded, -, -, rfl⟩ := h
  refine ⟨rfl, ?_⟩
  rw [List.map_map]
  refine List.map_congr_left fun row _ => ?_
  rw [Function.comp_apply]
  split <;> rfl

theorem step_moves : Moves service state action (step service state action) := by
  unfold step
  split
  · exact moves_start
  · split
    · exact moves_start
    · exact .kept
  · split
    · rename_i tables htables
      obtain ⟨hevents, hcheckpoints⟩ := recordExternalAnchor_ok htables
      exact .anchored hevents hcheckpoints
    · exact .kept
  all_goals
    split
    · rename_i transaction hfound
      have hid := find_id hfound
      refine moves_advance (hid ▸ hfound) fun id heq => ?_
      cases heq <;> exact hid.symm
    · exact .kept

theorem find_mem {id : Nat} {transaction : Transaction} (h : state.find id = some transaction) :
    transaction ∈ state.transactions :=
  List.mem_of_find?_eq_some h

/-- Splits the transactions in flight at one of them, where their ids differ. -/
theorem split_of_find {transaction : Transaction} (hids : (state.transactions.map Transaction.id).Nodup)
    (hfound : state.find transaction.id = some transaction) :
    ∃ before after, state.transactions = before ++ transaction :: after ∧
      state.others transaction.id = before ++ after ∧
      ∀ change, (state.update transaction.id change).transactions = before ++ change transaction :: after := by
  obtain ⟨before, after, hsplit⟩ := List.append_of_mem (find_mem hfound)
  rw [hsplit, List.map_append, List.map_cons] at hids
  obtain ⟨-, hrest, hdisjoint⟩ := List.nodup_append.mp hids
  have hbefore : ∀ row ∈ before, row.id ≠ transaction.id := fun row hrow =>
    hdisjoint row.id (List.mem_map_of_mem hrow) transaction.id List.mem_cons_self
  have hafter : ∀ row ∈ after, row.id ≠ transaction.id := fun row hrow heq =>
    (List.nodup_cons.mp hrest).1 (heq ▸ List.mem_map_of_mem hrow)
  refine ⟨before, after, hsplit, ?_, fun change => ?_⟩
  · rw [AuditState.others, hsplit, List.filter_append, List.filter_cons_of_neg (by simp),
      List.filter_eq_self.mpr (by simpa using hbefore), List.filter_eq_self.mpr (by simpa using hafter)]
  · have hkeep : ∀ rows : List Transaction, (∀ row ∈ rows, row.id ≠ transaction.id) →
        rows.map (fun row => if row.id = transaction.id then change row else row) = rows := by
      intro rows hrows
      conv_rhs => rw [← List.map_id rows]
      exact List.map_congr_left fun row hrow => if_neg (hrows row hrow)
    rw [AuditState.update, hsplit, List.map_append, List.map_cons, if_pos rfl, hkeep before hbefore, hkeep after hafter]

/-- The audit events that transactions in flight have inserted. -/
def AuditState.inFlight (state : AuditState) : List AuditEvent := state.transactions.flatMap Transaction.inserted

/-- What holds of every state that is reached. -/
structure AuditState.Sound (state : AuditState) : Prop where
  positive : 1 ≤ state.nextSequenceId
  distinct : DistinctIds (state.tables.events ++ state.inFlight)
  drawn : ∀ row ∈ state.tables.events ++ state.inFlight,
    1 ≤ row.sequenceId ∧ row.sequenceId < state.nextSequenceId ∧ row.sequenceId ≤ maxBigint
  started : (state.transactions.map Transaction.id).Nodup
  seen : ∀ transaction ∈ state.transactions, transaction.snapshot.events <+: state.tables.events ∧
    transaction.snapshot.checkpoints.map AuditChainCheckpoint.core <+:
      state.tables.checkpoints.map AuditChainCheckpoint.core
  locked : ∀ transaction ∈ state.transactions, ∀ row ∈ transaction.inserted,
    auditChainLockKey row.tenantId ∈ transaction.sharedLocks
  excluded : ∀ transaction ∈ state.transactions, ∀ other ∈ state.transactions, other.id ≠ transaction.id →
    ∀ key ∈ transaction.exclusiveLocks, key ∉ other.sharedLocks
  idle : ∀ transaction ∈ state.transactions, transaction.checkpoint.isSome → transaction.inserted = []
  hashes : (state.tables.events.map AuditEvent.eventHash).Nodup ∧
    ∀ transaction ∈ state.transactions, (transaction.inserted.map AuditEvent.eventHash).Nodup
  hashed : ∀ row ∈ state.tables.events ++ state.inFlight, IsHash row.eventHash
  constrained : ∀ row ∈ state.tables.checkpoints, row.InRange ∧ row.Valid
  numbered : ∀ tenantId, ∃ count,
    (state.tables.checkpoints.filter (·.tenantId = tenantId)).map AuditChainCheckpoint.checkpointNumber =
      List.range' 1 count

namespace AuditState

theorem mem_others {id : Nat} {transaction : Transaction} :
    transaction ∈ state.others id ↔ transaction ∈ state.transactions ∧ transaction.id ≠ id := by
  simp [others]

/-- A transaction after an update is the changed one or another one. -/
theorem mem_update {transaction row : Transaction} {change : Transaction → Transaction}
    (hids : (state.transactions.map Transaction.id).Nodup) (hfound : state.find transaction.id = some transaction)
    (hrow : row ∈ (state.update transaction.id change).transactions) :
    row = change transaction ∨ row ∈ state.others transaction.id := by
  obtain ⟨before, after, -, hothers, hupdate⟩ := split_of_find hids hfound
  rw [hupdate change] at hrow
  rw [hothers]
  simp only [List.mem_append, List.mem_cons] at hrow ⊢
  tauto

end AuditState

namespace AuditState.Sound

theorem empty : AuditState.empty.Sound where
  positive := le_refl _
  distinct := List.nodup_nil
  drawn := nofun
  started := List.nodup_nil
  seen := nofun
  locked := nofun
  excluded := nofun
  idle := nofun
  hashes := ⟨List.nodup_nil, nofun⟩
  hashed := nofun
  constrained := nofun
  numbered := fun _ => ⟨0, rfl⟩

theorem inFlight_start {id : Nat} {checkpoint : Option CheckpointCall} :
    inFlight { state with
      transactions := state.transactions ++
        [{ id, snapshot := state.tables, inserted := [], sharedLocks := [], exclusiveLocks := [], checkpoint }] } =
      state.inFlight := by
  simp [inFlight]

theorem start (h : state.Sound) {id : Nat} {checkpoint : Option CheckpointCall} (hnew : state.find id = none) :
    Sound { state with
      transactions := state.transactions ++
        [{ id, snapshot := state.tables, inserted := [], sharedLocks := [], exclusiveLocks := [], checkpoint }] } := by
  have hids : ∀ transaction ∈ state.transactions, transaction.id ≠ id := by
    simpa [find] using hnew
  have hcases : ∀ {row}, row ∈ state.transactions ++ [Transaction.mk id state.tables [] [] [] checkpoint] →
      row ∈ state.transactions ∨ row = Transaction.mk id state.tables [] [] [] checkpoint := by
    intro row hrow
    simpa using hrow
  refine { positive := h.positive, distinct := ?_, drawn := ?_, started := ?_, seen := ?_,
           locked := ?_, excluded := ?_, idle := ?_
           hashes := ⟨h.hashes.1, ?_⟩, hashed := ?_, constrained := h.constrained, numbered := h.numbered }
  · rw [inFlight_start]
    exact h.distinct
  · rw [inFlight_start]
    exact h.drawn
  · rw [List.map_append, List.nodup_append]
    refine ⟨h.started, by simp, fun first hfirst second hsecond => ?_⟩
    obtain ⟨transaction, hmem, rfl⟩ := List.mem_map.mp hfirst
    obtain rfl : second = id := by simpa using hsecond
    exact hids transaction hmem
  · intro transaction hmem
    obtain hold | rfl := hcases hmem
    · exact h.seen transaction hold
    · exact ⟨List.prefix_rfl, List.prefix_rfl⟩
  · intro transaction hmem row hrow
    obtain hold | rfl := hcases hmem
    · exact h.locked transaction hold row hrow
    · cases hrow
  · intro transaction hmem other hother hne key hkey
    obtain hold | rfl := hcases hmem
    · obtain hold' | rfl := hcases hother
      · exact h.excluded transaction hold other hold' hne key hkey
      · exact List.not_mem_nil
    · cases hkey
  · intro transaction hmem hcheckpoint
    obtain hold | rfl := hcases hmem
    · exact h.idle transaction hold hcheckpoint
    · rfl
  · intro transaction hmem
    obtain hold | rfl := hcases hmem
    · exact h.hashes.2 transaction hold
    · exact List.nodup_nil
  · rw [inFlight_start]
    exact h.hashed

/-- A transaction takes a lock. -/
theorem lock (h : state.Sound) {transaction : Transaction} (hfound : state.find transaction.id = some transaction)
    {change : Transaction → Transaction} (hid : (change transaction).id = transaction.id)
    (hsnapshot : (change transaction).snapshot = transaction.snapshot)
    (hinserted : (change transaction).inserted = transaction.inserted)
    (hcheckpoint : (change transaction).checkpoint = transaction.checkpoint)
    (hshared : transaction.sharedLocks ⊆ (change transaction).sharedLocks)
    (hexclusive : ∀ other ∈ state.others transaction.id,
      (∀ key ∈ (change transaction).exclusiveLocks, key ∉ other.sharedLocks) ∧
      ∀ key ∈ other.exclusiveLocks, key ∉ (change transaction).sharedLocks) :
    (state.update transaction.id change).Sound := by
  obtain ⟨before, after, hsplit, hothers, hupdate⟩ := split_of_find h.started hfound
  have hflight : (state.update transaction.id change).inFlight = state.inFlight := by
    simp only [inFlight, hupdate change, hsplit, List.flatMap_append, List.flatMap_cons, hinserted]
  have hmem := find_mem hfound
  have hcases : ∀ row ∈ (state.update transaction.id change).transactions,
      row = change transaction ∨ row ∈ state.transactions ∧ row.id ≠ transaction.id := fun row hrow =>
    (mem_update h.started hfound hrow).imp id mem_others.mp
  refine { positive := h.positive, distinct := ?_, drawn := ?_, started := ?_, seen := ?_,
           locked := ?_, excluded := ?_, idle := ?_
           hashes := ⟨h.hashes.1, ?_⟩, hashed := ?_, constrained := h.constrained, numbered := h.numbered }
  · rw [hflight]
    exact h.distinct
  · rw [hflight]
    exact h.drawn
  · rw [hupdate change, List.map_append, List.map_cons, hid, ← List.map_cons, ← List.map_append, ← hsplit]
    exact h.started
  · intro row hrow
    obtain rfl | ⟨hold, -⟩ := hcases row hrow
    · rw [hsnapshot]
      exact h.seen transaction hmem
    · exact h.seen row hold
  · intro row hrow event hevent
    obtain rfl | ⟨hold, -⟩ := hcases row hrow
    · rw [hinserted] at hevent
      exact hshared (h.locked transaction hmem event hevent)
    · exact h.locked row hold event hevent
  · intro row hrow other hother hne key hkey
    obtain rfl | ⟨hold, hrowne⟩ := hcases row hrow
    · obtain rfl | hold' := hcases other hother
      · exact absurd rfl hne
      · exact (hexclusive other (mem_others.mpr hold')).1 key hkey
    · obtain rfl | ⟨hold', -⟩ := hcases other hother
      · exact (hexclusive row (mem_others.mpr ⟨hold, hrowne⟩)).2 key hkey
      · exact h.excluded row hold other hold' hne key hkey
  · intro row hrow hcall
    obtain rfl | ⟨hold, -⟩ := hcases row hrow
    · rw [hinserted]
      exact h.idle transaction hmem (hcheckpoint ▸ hcall)
    · exact h.idle row hold hcall
  · intro row hrow
    obtain rfl | ⟨hold, -⟩ := hcases row hrow
    · rw [hinserted]
      exact h.hashes.2 transaction hmem
    · exact h.hashes.2 row hold
  · rw [hflight]
    exact h.hashed

theorem share (h : state.Sound) {transaction : Transaction} {tenantId : String}
    (hfound : state.find transaction.id = some transaction)
    (hfree : state.SharedFree transaction.id (auditChainLockKey tenantId)) :
    (state.update transaction.id fun transaction =>
      { transaction with sharedLocks := auditChainLockKey tenantId :: transaction.sharedLocks }).Sound := by
  refine h.lock hfound rfl rfl rfl rfl (List.subset_cons_self _ _) fun other hother => ?_
  obtain ⟨hmem, hne⟩ := mem_others.mp hother
  refine ⟨h.excluded transaction (find_mem hfound) other hmem hne, fun key hkey hshared => ?_⟩
  obtain rfl | hold := List.mem_cons.mp hshared
  · exact hfree other hother hkey
  · exact h.excluded other hmem transaction (find_mem hfound) hne.symm key hkey hold

theorem exclude (h : state.Sound) {transaction : Transaction} {key : String}
    (hfound : state.find transaction.id = some transaction) (hfree : state.ExclusiveFree transaction.id key) :
    (state.update transaction.id fun transaction =>
      { transaction with exclusiveLocks := key :: transaction.exclusiveLocks }).Sound := by
  refine h.lock hfound rfl rfl rfl rfl (List.Subset.refl _) fun other hother => ?_
  obtain ⟨hmem, hne⟩ := mem_others.mp hother
  refine ⟨fun held hheld => ?_, h.excluded other hmem transaction (find_mem hfound) hne.symm⟩
  obtain rfl | hold := List.mem_cons.mp hheld
  · exact (hfree other hother).2
  · exact h.excluded transaction (find_mem hfound) other hmem hne held hold

theorem inFlight_others {id : Nat} :
    ((state.others id).flatMap Transaction.inserted).Sublist state.inFlight := by
  rw [inFlight, List.flatMap_def, List.flatMap_def]
  exact (List.filter_sublist.map _).flatten

/-- A transaction ends without a commit, and may have drawn a sequence id. -/
theorem leave (h : state.Sound) {id : Nat} {drawnId : Int} (hdrawn : state.nextSequenceId ≤ drawnId) :
    (AuditState.finish { state with nextSequenceId := drawnId } id).Sound := by
  have hsub : (state.tables.events ++ (state.others id).flatMap Transaction.inserted).Sublist
      (state.tables.events ++ state.inFlight) := (List.Sublist.refl _).append inFlight_others
  have hcases : ∀ {row}, row ∈ state.others id → row ∈ state.transactions := fun hrow => (mem_others.mp hrow).1
  refine { positive := h.positive.trans hdrawn, distinct := h.distinct.sublist (hsub.map _), drawn := fun row hrow => ?_
           started := h.started.sublist (List.filter_sublist.map _)
           seen := fun row hrow => h.seen row (hcases hrow)
           locked := fun row hrow => h.locked row (hcases hrow)
           excluded := fun row hrow other hother => h.excluded row (hcases hrow) other (hcases hother)
           idle := fun row hrow => h.idle row (hcases hrow)
           hashes := ⟨h.hashes.1, fun row hrow => h.hashes.2 row (hcases hrow)⟩
           hashed := fun row hrow => h.hashed row (hsub.subset hrow), constrained := h.constrained
           numbered := h.numbered }
  obtain ⟨hpositive, hless, hmax⟩ := h.drawn row (hsub.subset hrow)
  exact ⟨hpositive, hless.trans_le hdrawn, hmax⟩

/-- The rows of a transaction that ends are the rest of those in flight. -/
theorem inFlight_perm (h : state.Sound) {transaction : Transaction}
    (hfound : state.find transaction.id = some transaction) :
    (transaction.inserted ++ (state.others transaction.id).flatMap Transaction.inserted).Perm state.inFlight := by
  obtain ⟨before, after, hsplit, hothers, -⟩ := split_of_find h.started hfound
  rw [inFlight, hsplit, hothers, List.flatMap_append, List.flatMap_append, List.flatMap_cons]
  exact (List.perm_append_comm_assoc _ _ _)

/-- A transaction commits its audit events. -/
theorem commit (h : state.Sound) {transaction : Transaction} (hfound : state.find transaction.id = some transaction)
    (hfresh : ∀ row ∈ transaction.inserted, ∀ other ∈ state.tables.events, ¬row.Conflicts other) :
    Sound { state.finish transaction.id with
      tables := { state.tables with events := state.tables.events ++ transaction.inserted } } := by
  have hleft : (state.finish transaction.id).Sound := h.leave (le_refl state.nextSequenceId)
  have hperm : (state.tables.events ++ transaction.inserted ++
      (state.others transaction.id).flatMap Transaction.inserted).Perm (state.tables.events ++ state.inFlight) := by
    rw [List.append_assoc]
    exact (h.inFlight_perm hfound).append_left _
  have hmem := find_mem hfound
  refine { positive := h.positive, distinct := (hperm.map _).nodup_iff.mpr h.distinct
           drawn := fun row hrow => h.drawn row (hperm.subset hrow)
           started := hleft.started, seen := fun row hrow => ?_, locked := hleft.locked, excluded := hleft.excluded
           idle := hleft.idle, hashes := ⟨?_, hleft.hashes.2⟩
           hashed := fun row hrow => h.hashed row (hperm.subset hrow), constrained := h.constrained
           numbered := h.numbered }
  · obtain ⟨hevents, hcheckpoints⟩ := hleft.seen row hrow
    exact ⟨hevents.trans (List.prefix_append _ _), hcheckpoints⟩
  · rw [List.map_append, List.nodup_append]
    refine ⟨h.hashes.1, h.hashes.2 transaction hmem, fun first hfirst second hsecond heq => ?_⟩
    obtain ⟨old, hold, rfl⟩ := List.mem_map.mp hfirst
    obtain ⟨row, hrow, rfl⟩ := List.mem_map.mp hsecond
    exact hfresh row hrow old hold (Or.inl heq.symm)

/-- The event a transaction has inserted. -/
theorem auditRow_ok {view : List AuditEvent} {sequenceId : Int} {event : AuditInput} {row : AuditEvent}
    (h : auditRow service.platform view sequenceId event = .ok row) :
    row.sequenceId = sequenceId ∧ row.tenantId = event.tenantId ∧ IsHash row.eventHash := by
  simp only [auditRow, bind_eq_ok_iff, throwIf_eq_ok_iff, pure_eq_ok_iff, exists_unit, not_not] at h
  obtain ⟨eventHash, -, metadata, -, hhash, rfl⟩ := h
  exact ⟨rfl, rfl, hhash⟩

/-- A transaction inserts an audit event under a fresh sequence id. -/
theorem insert (h : state.Sound) {transaction : Transaction} {event : AuditInput} {row : AuditEvent}
    (hfound : state.find transaction.id = some transaction) (hcheckpoint : transaction.checkpoint = none)
    (hlocked : auditChainLockKey event.tenantId ∈ transaction.sharedLocks)
    (hfree : state.ExclusiveFree transaction.id (aggregateLockKey event))
    (hrow : auditRow service.platform (transaction.snapshot.events ++ transaction.inserted) state.nextSequenceId event =
      .ok row)
    (hroom : state.nextSequenceId ≤ maxBigint)
    (hfresh : ∀ other ∈ state.tables.events ++ transaction.inserted, ¬row.Conflicts other) :
    (AuditState.update { state with nextSequenceId := state.nextSequenceId + 1 } transaction.id fun transaction =>
      { transaction with
        inserted := transaction.inserted ++ [row]
        exclusiveLocks := aggregateLockKey event :: transaction.exclusiveLocks }).Sound := by
  obtain ⟨hid, htenant, hhash⟩ := auditRow_ok hrow
  obtain ⟨before, after, hsplit, -, hupdate⟩ := split_of_find h.started hfound
  have hmem := find_mem hfound
  set change : Transaction → Transaction := fun transaction =>
    { transaction with
      inserted := transaction.inserted ++ [row]
      exclusiveLocks := aggregateLockKey event :: transaction.exclusiveLocks } with hchange
  have hcases : ∀ other ∈ (state.update transaction.id change).transactions,
      other = change transaction ∨ other ∈ state.transactions ∧ other.id ≠ transaction.id := fun other hother =>
    (mem_update h.started hfound hother).imp id mem_others.mp
  have hperm : (state.tables.events ++ (state.update transaction.id change).inFlight).Perm
      (row :: (state.tables.events ++ state.inFlight)) := by
    have hafter : (state.update transaction.id change).inFlight = before.flatMap Transaction.inserted ++
        transaction.inserted ++ row :: after.flatMap Transaction.inserted := by
      rw [inFlight, hupdate change, List.flatMap_append, List.flatMap_cons]
      simp [hchange]
    have hbefore : state.inFlight = before.flatMap Transaction.inserted ++ transaction.inserted ++
        after.flatMap Transaction.inserted := by
      rw [inFlight, hsplit, List.flatMap_append, List.flatMap_cons, List.append_assoc]
    rw [hafter, hbefore]
    simpa only [List.append_assoc] using (List.perm_middle : (state.tables.events ++
      before.flatMap Transaction.inserted ++ transaction.inserted ++ row :: after.flatMap Transaction.inserted).Perm _)
  have hless : ∀ other ∈ state.tables.events ++ state.inFlight, other.sequenceId < row.sequenceId := fun other hother =>
    hid ▸ (h.drawn other hother).2.1
  refine { positive := h.positive.trans (Int.lt_succ _).le, distinct := ?_, drawn := ?_, started := ?_, seen := ?_,
           locked := ?_, excluded := ?_, idle := ?_
           hashes := ⟨h.hashes.1, ?_⟩, hashed := ?_, constrained := h.constrained, numbered := h.numbered }
  · refine (hperm.map _).nodup_iff.mpr (List.nodup_cons.mpr ⟨fun hrow => ?_, h.distinct⟩)
    obtain ⟨other, hother, heq⟩ := List.mem_map.mp hrow
    exact absurd heq (hless other hother).ne
  · intro other hother
    obtain rfl | hold := List.mem_cons.mp (hperm.subset hother)
    · rw [hid]
      exact ⟨h.positive, Int.lt_succ _, hroom⟩
    · obtain ⟨hpositive, hbelow, hmax⟩ := h.drawn other hold
      exact ⟨hpositive, hbelow.trans (Int.lt_succ _), hmax⟩
  · change ((state.update transaction.id change).transactions.map Transaction.id).Nodup
    rw [hupdate change, List.map_append, List.map_cons]
    simpa only [hsplit, List.map_append, List.map_cons] using h.started
  · intro other hother
    obtain rfl | ⟨hold, -⟩ := hcases other hother
    · exact h.seen transaction hmem
    · exact h.seen other hold
  · intro other hother added hadded
    obtain rfl | ⟨hold, -⟩ := hcases other hother
    · obtain hold | hnew := List.mem_append.mp hadded
      · exact h.locked transaction hmem added hold
      · rw [List.mem_singleton.mp hnew, htenant]
        exact hlocked
    · exact h.locked other hold added hadded
  · intro first hfirst second hsecond hne key hkey
    obtain rfl | ⟨hold, hfirstne⟩ := hcases first hfirst
    · obtain rfl | ⟨hold', hsecondne⟩ := hcases second hsecond
      · exact absurd rfl hne
      · obtain rfl | hbefore := List.mem_cons.mp hkey
        · exact (hfree second (mem_others.mpr ⟨hold', hsecondne⟩)).2
        · exact h.excluded transaction hmem second hold' hsecondne key hbefore
    · obtain rfl | ⟨hold', -⟩ := hcases second hsecond
      · exact h.excluded first hold transaction hmem hfirstne.symm key hkey
      · exact h.excluded first hold second hold' hne key hkey
  · intro other hother hcall
    obtain rfl | ⟨hold, -⟩ := hcases other hother
    · rw [hchange] at hcall
      simp [hcheckpoint] at hcall
    · exact h.idle other hold hcall
  · intro other hother
    obtain rfl | ⟨hold, -⟩ := hcases other hother
    · rw [hchange, List.map_append, List.nodup_append]
      refine ⟨h.hashes.2 transaction hmem, List.nodup_singleton _, fun first hfirst second hsecond heq => ?_⟩
      obtain ⟨old, hold, rfl⟩ := List.mem_map.mp hfirst
      obtain rfl : second = row.eventHash := by simpa using hsecond
      exact hfresh old (List.mem_append_right _ hold) (Or.inl heq.symm)
    · exact h.hashes.2 other hold
  · intro other hother
    obtain rfl | hold := List.mem_cons.mp (hperm.subset hother)
    · exact hhash
    · exact h.hashed other hold

end AuditState.Sound

variable {checkpoints seen : List AuditChainCheckpoint} {tenantId : String} {count : Nat}

/-- Checkpoints of a tenant that are numbered in the order in which they were
inserted. -/
theorem checkpointsOf_eq (hnumbers : (checkpoints.filter (·.tenantId = tenantId)).map
    AuditChainCheckpoint.checkpointNumber = List.range' 1 count) :
    checkpointsOf checkpoints tenantId = checkpoints.filter (·.tenantId = tenantId) := by
  refine Ordered.inOrder_eq (List.pairwise_map.mp ?_)
  rw [hnumbers]
  exact List.pairwise_lt_range'

theorem last_number {rows : List AuditChainCheckpoint}
    (hnumbers : rows.map AuditChainCheckpoint.checkpointNumber = List.range' 1 count) :
    (rows.getLast?.map AuditChainCheckpoint.checkpointNumber).getD 0 = count := by
  rw [← List.getLast?_map, hnumbers, List.getLast?_range']
  by_cases hcount : count = 0
  · simp [hcount]
  · simp only [hcount, if_false, Option.getD_some]
    omega

/-- Filtering by tenant looks at no anchor. -/
theorem filter_core {property : AuditChainCheckpoint → Bool}
    (hproperty : ∀ row, property row.core = property row) :
    (checkpoints.filter property).map AuditChainCheckpoint.core =
      (checkpoints.map AuditChainCheckpoint.core).filter property := by
  rw [List.filter_map]
  congr 1
  exact List.filter_congr fun row _ => (hproperty row).symm

theorem numbers_core {rows : List AuditChainCheckpoint} :
    (rows.map AuditChainCheckpoint.core).map AuditChainCheckpoint.checkpointNumber =
      rows.map AuditChainCheckpoint.checkpointNumber := by
  rw [List.map_map]
  rfl

theorem tenant_core (tenantId : String) :
    (checkpoints.filter (·.tenantId = tenantId)).map AuditChainCheckpoint.core =
      (checkpoints.map AuditChainCheckpoint.core).filter (·.tenantId = tenantId) :=
  filter_core fun _ => rfl

/-- A transaction has seen the first checkpoints of a tenant. -/
theorem seen_numbers (hseen : seen.map AuditChainCheckpoint.core <+: checkpoints.map AuditChainCheckpoint.core)
    (hnumbers : (checkpoints.filter (·.tenantId = tenantId)).map AuditChainCheckpoint.checkpointNumber =
      List.range' 1 count) :
    ∃ known, known ≤ count ∧
      (seen.filter (·.tenantId = tenantId)).map AuditChainCheckpoint.checkpointNumber = List.range' 1 known := by
  have hprefix : (seen.filter (·.tenantId = tenantId)).map AuditChainCheckpoint.checkpointNumber <+:
      List.range' 1 count := by
    have hfiltered := (hseen.filter (·.tenantId = tenantId)).map AuditChainCheckpoint.checkpointNumber
    rwa [← tenant_core, ← tenant_core, numbers_core, numbers_core, hnumbers] at hfiltered
  have hle : ((seen.filter (·.tenantId = tenantId)).map AuditChainCheckpoint.checkpointNumber).length ≤ count :=
    hprefix.length_le.trans (by simp)
  refine ⟨_, hle, (List.prefix_iff_eq_take.mp hprefix).trans ?_⟩
  exact List.take_range'_of_length_ge hle

/-- A checkpoint that commits was made of the snapshot and has a number that no
checkpoint of its tenant has. -/
theorem checkpointed_ok {transaction : Transaction} {call : CheckpointCall} {tables : Tables}
    (h : checkpointed service state transaction call = .ok tables) :
    ∃ row, createCheckpoint service.platform service.batch transaction.snapshot call.tenantId call.createdBy = .ok row ∧
      row.InRange ∧ row.Valid ∧
      (∀ other ∈ state.tables.checkpoints, other.tenantId = row.tenantId →
        other.checkpointNumber ≠ row.checkpointNumber) ∧
      tables = { state.tables with checkpoints := state.tables.checkpoints ++ [row] } := by
  simp only [checkpointed, insertCheckpoint, bind_eq_ok_iff, throwIf_eq_ok_iff, pure_eq_ok_iff, exists_unit, not_not,
    List.mem_map, not_exists, not_and, Prod.mk.injEq] at h
  obtain ⟨-, row, hrow, hrange, hvalid, hnumber, -, rfl⟩ := h
  exact ⟨row, hrow, hrange, hvalid, hnumber, rfl⟩

theorem createCheckpoint_numbered {platform : Platform} {batch : Nat} {view : Tables} {createdBy : String}
    {row : AuditChainCheckpoint} (h : createCheckpoint platform batch view tenantId createdBy = .ok row) :
    row.tenantId = tenantId ∧ row.checkpointNumber =
      ((lastCheckpoint view.checkpoints tenantId).map AuditChainCheckpoint.checkpointNumber).getD 0 + 1 := by
  simp only [createCheckpoint, bind_eq_ok_iff, throwIf_eq_ok_iff, pure_eq_ok_iff, exists_unit] at h
  obtain ⟨-, rfl⟩ := h
  exact ⟨rfl, rfl⟩

/-- A checkpoint that commits has seen all checkpoints of its tenant, and has the
next number. -/
theorem checkpoint_next {transaction : Transaction} {call : CheckpointCall} {row : AuditChainCheckpoint}
    (hseen : transaction.snapshot.checkpoints.map AuditChainCheckpoint.core <+:
      state.tables.checkpoints.map AuditChainCheckpoint.core)
    (hnumbers : (state.tables.checkpoints.filter (·.tenantId = call.tenantId)).map
      AuditChainCheckpoint.checkpointNumber = List.range' 1 count)
    (hrow : createCheckpoint service.platform service.batch transaction.snapshot call.tenantId call.createdBy = .ok row)
    (hfresh : ∀ other ∈ state.tables.checkpoints, other.tenantId = row.tenantId →
      other.checkpointNumber ≠ row.checkpointNumber) :
    row.checkpointNumber = count + 1 ∧
      (transaction.snapshot.checkpoints.filter (·.tenantId = call.tenantId)).map AuditChainCheckpoint.core =
        (state.tables.checkpoints.filter (·.tenantId = call.tenantId)).map AuditChainCheckpoint.core := by
  obtain ⟨known, hknown, hknown_numbers⟩ := seen_numbers hseen hnumbers
  obtain ⟨htenant, hnumber⟩ := createCheckpoint_numbered hrow
  rw [lastCheckpoint, checkpointsOf_eq hknown_numbers, last_number hknown_numbers] at hnumber
  have hall : count ≤ known := by
    by_contra hless
    have hmem : row.checkpointNumber ∈ List.range' 1 count := by
      rw [List.mem_range'_1]
      omega
    rw [← hnumbers] at hmem
    obtain ⟨other, hother, heq⟩ := List.mem_map.mp hmem
    obtain ⟨hin, hsame⟩ := List.mem_filter.mp hother
    exact hfresh other hin (by simpa [htenant] using hsame) heq
  obtain rfl : known = count := le_antisymm hknown hall
  refine ⟨hnumber, ?_⟩
  have hprefix := hseen.filter (·.tenantId = call.tenantId)
  rw [← tenant_core, ← tenant_core] at hprefix
  refine hprefix.eq_of_length ?_
  have hlengths := congrArg List.length (hknown_numbers.trans hnumbers.symm)
  simpa using hlengths

namespace AuditState.Sound

theorem checkpoint (h : state.Sound) {transaction : Transaction} {call : CheckpointCall} {tables : Tables}
    (hfound : state.find transaction.id = some transaction)
    (htables : checkpointed service state transaction call = .ok tables) :
    Sound { state.finish transaction.id with tables } := by
  have hleft : (state.finish transaction.id).Sound := h.leave (le_refl state.nextSequenceId)
  obtain ⟨row, hrow, hrange, hvalid, hfresh, rfl⟩ := checkpointed_ok htables
  refine { hleft with seen := fun other hother => ?_, constrained := fun other hother => ?_
                      numbered := fun tenantId => ?_ }
  · obtain ⟨hevents, hcheckpoints⟩ := hleft.seen other hother
    refine ⟨hevents, hcheckpoints.trans ?_⟩
    rw [List.map_append]
    exact List.prefix_append _ _
  · obtain hold | rfl := (List.mem_append.mp hother).imp_right List.mem_singleton.mp
    · exact h.constrained other hold
    · exact ⟨hrange, hvalid⟩
  · obtain ⟨count, hnumbers⟩ := h.numbered tenantId
    by_cases htenant : row.tenantId = tenantId
    · obtain ⟨hcall, -⟩ := createCheckpoint_numbered hrow
      obtain rfl : call.tenantId = tenantId := hcall.symm.trans htenant
      have hnext := (checkpoint_next (h.seen transaction (find_mem hfound)).2 hnumbers hrow hfresh).1
      refine ⟨count + 1, ?_⟩
      rw [List.filter_append, List.filter_cons_of_pos (by simpa using hcall), List.map_append, hnumbers,
        List.range'_concat]
      simp [hnext, add_comm]
    · refine ⟨count, ?_⟩
      rw [List.filter_append, List.filter_cons_of_neg (by simpa using htenant), List.filter_nil, List.append_nil]
      exact hnumbers

theorem anchor (h : state.Sound) {tables : Tables} (hevents : tables.events = state.tables.events)
    (hcheckpoints : tables.checkpoints.map AuditChainCheckpoint.core =
      state.tables.checkpoints.map AuditChainCheckpoint.core) : Sound { state with tables } := by
  refine
    { h with
      distinct := by rw [hevents]; exact h.distinct
      drawn := by rw [hevents]; exact h.drawn
      seen := by rw [hevents, hcheckpoints]; exact h.seen
      hashes := by rw [hevents]; exact h.hashes
      hashed := by rw [hevents]; exact h.hashed
      constrained := fun row hrow => ?_
      numbered := fun tenantId => ?_ }
  · have hmem : row.core ∈ state.tables.checkpoints.map AuditChainCheckpoint.core := by
      rw [← hcheckpoints]
      exact List.mem_map_of_mem hrow
    obtain ⟨other, hother, hcore⟩ := List.mem_map.mp hmem
    have hconstrained : other.core.InRange ∧ other.core.Valid := h.constrained other hother
    rw [hcore] at hconstrained
    exact hconstrained
  obtain ⟨count, hnumbers⟩ := h.numbered tenantId
  refine ⟨count, ?_⟩
  rw [← numbers_core, tenant_core, hcheckpoints, ← tenant_core, numbers_core]
  exact hnumbers

end AuditState.Sound

theorem step_sound (h : state.Sound) : (step service state action).Sound := by
  have hmoves := @step_moves service state action
  generalize step service state action = next at hmoves ⊢
  cases hmoves with
  | kept => exact h
  | started hnew => exact h.start hnew
  | shared hfound hfree => exact h.share hfound hfree
  | excluded hfound hfree => exact h.exclude hfound hfree
  | lost hfound => exact h.leave (Int.lt_succ _).le
  | inserted hfound hcheckpoint hlocked hfree hrow hroom hfresh =>
    exact h.insert hfound hcheckpoint hlocked hfree hrow hroom hfresh
  | finished hfound => exact h.leave (le_refl _)
  | committed hfound hfresh => exact h.commit hfound hfresh
  | checkpointed haction hfound hcall hlocked htables => exact h.checkpoint hfound htables
  | anchored hevents hcheckpoints => exact h.anchor hevents hcheckpoints

theorem run_sound (actions : List Action) : (run service actions).Sound :=
  runs.run_invariant .empty (fun _ _ => step_sound) actions

end rwa.audit
