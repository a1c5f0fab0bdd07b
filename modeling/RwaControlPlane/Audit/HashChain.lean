import RwaControlPlane.Audit.Reachable
import RwaControlPlane.Library.DigestChain

open checked js_value rwa.storage paging digest_chain

namespace rwa.audit

/-- What audit events are chained by. -/
structure Aggregate where
  tenantId : String
  aggregateType : String
  aggregateId : String
deriving DecidableEq

def AuditEvent.aggregate (row : AuditEvent) : Aggregate := ⟨row.tenantId, row.aggregateType, row.aggregateId⟩

def AuditInput.aggregate (event : AuditInput) : Aggregate := ⟨event.tenantId, event.aggregateType, event.aggregateId⟩

def Aggregate.lockKey (aggregate : Aggregate) : String :=
  aggregate.tenantId ++ "\u001f" ++ aggregate.aggregateType ++ "\u001f" ++ aggregate.aggregateId

/-- The body that an event hash is made of. -/
def auditBody (event : AuditInput) (previousHash : Option String) : JsValue :=
  .object [("tenantId", .string event.tenantId), ("eventType", .string event.eventType),
    ("aggregateType", .string event.aggregateType), ("aggregateId", .string event.aggregateId),
    ("metadata", event.metadata), ("previousHash", (previousHash.map JsValue.string).getD .null)]

/-- A row holds the hash of the body that it was recorded with. -/
def AuditEvent.Recorded (platform : Platform) (row : AuditEvent) : Prop :=
  ∃ event : AuditInput, event.aggregate = row.aggregate ∧ event.eventType = row.eventType ∧
    jsonParameter platform event.metadata = .ok row.metadata ∧
    sha256Canonical platform (auditBody event row.previousHash) = .ok row.eventHash

theorem lockKey_eq {event : AuditInput} : event.aggregate.lockKey = aggregateLockKey event := rfl

/-- The rows of an aggregate in a table. -/
def chainOf (aggregate : Aggregate) (events : List AuditEvent) : List AuditEvent :=
  events.filter (·.aggregate = aggregate)

variable {service : AuditService} {state : AuditState} {action : Action} {aggregate : Aggregate}

theorem mem_chainOf {events : List AuditEvent} {row : AuditEvent} :
    row ∈ chainOf aggregate events ↔ row ∈ events ∧ row.aggregate = aggregate := by
  simp [chainOf]

theorem chainOf_append {first second : List AuditEvent} :
    chainOf aggregate (first ++ second) = chainOf aggregate first ++ chainOf aggregate second :=
  List.filter_append _ _

theorem chainOf_eq_nil {events : List AuditEvent} (h : ∀ row ∈ events, row.aggregate ≠ aggregate) :
    chainOf aggregate events = [] := by
  rw [chainOf, List.filter_eq_nil_iff]
  simpa using h

/-- The order of `ORDER BY sequence_id DESC` is the other way round. -/
private theorem head_descending {rows : List AuditEvent} (h : Ordered AuditEvent.sequenceId rows) :
    (rows.insertionSort fun later earlier => earlier.sequenceId ≤ later.sequenceId).head? = rows.getLast? := by
  have htotal : Std.Total fun later earlier : AuditEvent => earlier.sequenceId ≤ later.sequenceId :=
    ⟨fun first second => le_total second.sequenceId first.sequenceId⟩
  have htrans : IsTrans AuditEvent fun later earlier => earlier.sequenceId ≤ later.sequenceId :=
    ⟨fun first second third hfirst hsecond => hsecond.trans hfirst⟩
  have hperm := (List.perm_insertionSort
    (fun later earlier : AuditEvent => earlier.sequenceId ≤ later.sequenceId) rows).trans (List.reverse_perm rows).symm
  have hreverse : rows.reverse.Pairwise fun later earlier => earlier.sequenceId ≤ later.sequenceId :=
    List.pairwise_reverse.mpr (h.imp fun hlt => hlt.le)
  have hsame : (rows.insertionSort fun later earlier => earlier.sequenceId ≤ later.sequenceId) = rows.reverse := by
    refine hperm.eq_of_pairwise ?_ (List.pairwise_insertionSort _ rows) hreverse
    intro first second hfirst hsecond hle hge
    have hkeys : (rows.map AuditEvent.sequenceId).Nodup := List.pairwise_map.mpr (h.imp fun hlt => hlt.ne)
    exact List.inj_on_of_nodup_map hkeys ((List.mem_insertionSort _).mp hfirst) (List.mem_reverse.mp hsecond)
      (le_antisymm hge hle)
  rw [hsame, List.head?_reverse]

/-- The hash that `recordAuditEvent` chains to is that of the last row it sees. -/
theorem previousHash_eq {events : List AuditEvent} {event : AuditInput}
    (hordered : Ordered AuditEvent.sequenceId (chainOf event.aggregate events)) :
    previousHash events event = (chainOf event.aggregate events).getLast?.map AuditEvent.eventHash := by
  have hrows : (events.filter fun row => row.tenantId = event.tenantId ∧ row.aggregateType = event.aggregateType ∧
      row.aggregateId = event.aggregateId) = chainOf event.aggregate events := by
    refine List.filter_congr fun row _ => ?_
    simp [AuditEvent.aggregate, AuditInput.aggregate]
  unfold previousHash
  simp only [hrows, head_descending hordered]

/-- A row that `recordAuditEvent` makes. -/
theorem auditRow_recorded {view : List AuditEvent} {sequenceId : Int} {event : AuditInput} {row : AuditEvent}
    (h : auditRow service.platform view sequenceId event = .ok row) :
    row.aggregate = event.aggregate ∧ row.previousHash = previousHash view event ∧ row.Recorded service.platform := by
  simp only [auditRow, bind_eq_ok_iff, throwIf_eq_ok_iff, pure_eq_ok_iff, exists_unit] at h
  obtain ⟨eventHash, hhash, metadata, hmetadata, -, rfl⟩ := h
  exact ⟨rfl, rfl, event, rfl, rfl, hmetadata, hhash⟩

/-- Rows of one aggregate that name the same row conflict. -/
theorem conflicts_of_previous {row other : AuditEvent} (haggregate : row.aggregate = other.aggregate)
    (hprevious : row.previousHash = other.previousHash) : row.Conflicts other := by
  simp only [AuditEvent.aggregate, Aggregate.mk.injEq] at haggregate
  exact Or.inr ⟨haggregate.1, haggregate.2.1, haggregate.2.2, by rw [hprevious]⟩

/-- The chains of all aggregates, with the rows in flight behind the others, and
the locks that keep each of them in one transaction. -/
structure AuditState.Chained (platform : Platform) (state : AuditState) : Prop where
  linked : ∀ aggregate,
    Linked AuditEvent.previousHash AuditEvent.eventHash (chainOf aggregate (state.tables.events ++ state.inFlight))
  ordered : ∀ aggregate, Ordered AuditEvent.sequenceId (chainOf aggregate (state.tables.events ++ state.inFlight))
  locked : ∀ transaction ∈ state.transactions, ∀ row ∈ transaction.inserted,
    row.aggregate.lockKey ∈ transaction.exclusiveLocks
  alone : ∀ transaction ∈ state.transactions, ∀ other ∈ state.transactions, other.id ≠ transaction.id →
    ∀ key ∈ transaction.exclusiveLocks, key ∉ other.exclusiveLocks
  recorded : ∀ row ∈ state.tables.events ++ state.inFlight, row.Recorded platform

namespace AuditState.Chained

variable {platform : Platform} {transaction : Transaction}

theorem empty : AuditState.empty.Chained platform where
  linked := fun _ => linked_nil
  ordered := fun _ => List.Pairwise.nil
  locked := nofun
  alone := nofun
  recorded := nofun

/-- No other transaction has rows of an aggregate whose lock one holds. -/
theorem others_nil (h : state.Chained platform) (hmem : transaction ∈ state.transactions)
    (hlock : aggregate.lockKey ∈ transaction.exclusiveLocks) :
    chainOf aggregate ((state.others transaction.id).flatMap Transaction.inserted) = [] := by
  refine chainOf_eq_nil fun row hrow => ?_
  obtain ⟨other, hother, hinserted⟩ := List.mem_flatMap.mp hrow
  obtain ⟨hin, hne⟩ := mem_others.mp hother
  rintro rfl
  exact h.alone transaction hmem other hin hne _ hlock (h.locked other hin row hinserted)

/-- The rows of an aggregate in flight are those of one transaction. -/
theorem inFlight_chain (h : state.Chained platform) (hsound : state.Sound)
    (hfound : state.find transaction.id = some transaction) :
    chainOf aggregate state.inFlight = chainOf aggregate transaction.inserted ++
      chainOf aggregate ((state.others transaction.id).flatMap Transaction.inserted) := by
  obtain ⟨before, after, hsplit, hothers, -⟩ := split_of_find hsound.started hfound
  have hrest : aggregate.lockKey ∈ transaction.exclusiveLocks →
      chainOf aggregate ((state.others transaction.id).flatMap Transaction.inserted) = [] :=
    h.others_nil (find_mem hfound)
  rw [inFlight, hsplit, List.flatMap_append, List.flatMap_cons, chainOf_append, chainOf_append]
  rw [hothers, List.flatMap_append, chainOf_append] at hrest ⊢
  cases hinserted : chainOf aggregate transaction.inserted with
  | nil => rfl
  | cons row rest =>
    obtain ⟨hrow, rfl⟩ : row ∈ transaction.inserted ∧ row.aggregate = aggregate := by
      rw [← mem_chainOf, hinserted]
      exact List.mem_cons_self
    obtain ⟨hbefore, hafter⟩ := List.append_eq_nil_iff.mp (hrest (h.locked transaction (find_mem hfound) row hrow))
    rw [hbefore, hafter, List.nil_append, List.nil_append]

/-- A transaction starts. -/
theorem start (h : state.Chained platform) {id : Nat} {checkpoint : Option CheckpointCall} :
    Chained platform { state with
      transactions := state.transactions ++
        [{ id, snapshot := state.tables, inserted := [], sharedLocks := [], exclusiveLocks := [], checkpoint }] } := by
  have hflight := @Sound.inFlight_start state id checkpoint
  have hcases : ∀ {row}, row ∈ state.transactions ++ [Transaction.mk id state.tables [] [] [] checkpoint] →
      row ∈ state.transactions ∨ row = Transaction.mk id state.tables [] [] [] checkpoint := by
    intro row hrow
    simpa using hrow
  refine { linked := ?_, ordered := ?_, locked := ?_, alone := ?_, recorded := ?_ }
  · rw [hflight]
    exact h.linked
  · rw [hflight]
    exact h.ordered
  · intro transaction hmem row hrow
    obtain hold | rfl := hcases hmem
    · exact h.locked transaction hold row hrow
    · cases hrow
  · intro transaction hmem other hother hne key hkey
    obtain hold | rfl := hcases hmem
    · obtain hold' | rfl := hcases hother
      · exact h.alone transaction hold other hold' hne key hkey
      · exact List.not_mem_nil
    · cases hkey
  · rw [hflight]
    exact h.recorded

/-- A transaction takes locks that no other one holds, and inserts rows behind the
last ones of their aggregates. -/
theorem extend (h : state.Chained platform) (hids : (state.transactions.map Transaction.id).Nodup)
    (hfound : state.find transaction.id = some transaction) {change : Transaction → Transaction}
    {added : List AuditEvent} (hinserted : (change transaction).inserted = transaction.inserted ++ added)
    (hexclusive : transaction.exclusiveLocks ⊆ (change transaction).exclusiveLocks)
    (hfree : ∀ key ∈ (change transaction).exclusiveLocks, key ∉ transaction.exclusiveLocks →
      ∀ other ∈ state.others transaction.id, key ∉ other.exclusiveLocks)
    (hlocked : ∀ row ∈ added, row.aggregate.lockKey ∈ (change transaction).exclusiveLocks)
    (hlinked : ∀ aggregate, Linked AuditEvent.previousHash AuditEvent.eventHash
      (chainOf aggregate (state.tables.events ++ state.inFlight) ++ chainOf aggregate added))
    (hordered : ∀ aggregate, Ordered AuditEvent.sequenceId
      (chainOf aggregate (state.tables.events ++ state.inFlight) ++ chainOf aggregate added))
    (hrecorded : ∀ row ∈ added, row.Recorded platform) :
    (state.update transaction.id change).Chained platform := by
  obtain ⟨before, after, hsplit, hothers, hupdate⟩ := split_of_find hids hfound
  have hmem := find_mem hfound
  have hcases : ∀ row ∈ (state.update transaction.id change).transactions,
      row = change transaction ∨ row ∈ state.transactions ∧ row.id ≠ transaction.id := fun row hrow =>
    (mem_update hids hfound hrow).imp id mem_others.mp
  have hkeys : ∀ key ∈ (change transaction).exclusiveLocks, ∀ other ∈ state.transactions,
      other.id ≠ transaction.id → key ∉ other.exclusiveLocks := by
    intro key hkey other hother hne
    by_cases hold : key ∈ transaction.exclusiveLocks
    · exact h.alone transaction hmem other hother hne key hold
    · exact hfree key hkey hold other (mem_others.mpr ⟨hother, hne⟩)
  have hbefore : state.inFlight =
      before.flatMap Transaction.inserted ++ (transaction.inserted ++ after.flatMap Transaction.inserted) := by
    rw [inFlight, hsplit, List.flatMap_append, List.flatMap_cons]
  have hafter : (state.update transaction.id change).inFlight = before.flatMap Transaction.inserted ++
      (transaction.inserted ++ (added ++ after.flatMap Transaction.inserted)) := by
    rw [inFlight, hupdate change, List.flatMap_append, List.flatMap_cons, hinserted, List.append_assoc]
  have hnext (aggregate : Aggregate) : chainOf aggregate
      (state.tables.events ++ (state.update transaction.id change).inFlight) =
      chainOf aggregate (state.tables.events ++ state.inFlight) ++ chainOf aggregate added := by
    rw [hbefore, hafter]
    simp only [chainOf_append]
    cases hadded : chainOf aggregate added with
    | nil => rw [List.nil_append, List.append_nil]
    | cons row rest =>
      obtain ⟨hrow, hsame⟩ : row ∈ added ∧ row.aggregate = aggregate := by
        rw [← mem_chainOf, hadded]
        exact List.mem_cons_self
      have hnone : chainOf aggregate ((state.others transaction.id).flatMap Transaction.inserted) = [] := by
        refine chainOf_eq_nil fun other hother heq => ?_
        obtain ⟨holder, hholder, hheld⟩ := List.mem_flatMap.mp hother
        obtain ⟨hin, hne⟩ := mem_others.mp hholder
        refine hkeys _ (hlocked row hrow) holder hin hne ?_
        rw [hsame, ← heq]
        exact h.locked holder hin other hheld
      rw [hothers, List.flatMap_append, chainOf_append, List.append_eq_nil_iff] at hnone
      simp only [hnone.1, hnone.2, List.nil_append, List.append_nil, List.append_assoc]
  refine { linked := ?_, ordered := ?_, locked := ?_, alone := ?_, recorded := ?_ }
  · intro aggregate
    exact (hnext aggregate).symm ▸ hlinked aggregate
  · intro aggregate
    exact (hnext aggregate).symm ▸ hordered aggregate
  · intro row hrow event hevent
    obtain rfl | ⟨hold, -⟩ := hcases row hrow
    · rw [hinserted] at hevent
      obtain hold | hnew := List.mem_append.mp hevent
      · exact hexclusive (h.locked transaction hmem event hold)
      · exact hlocked event hnew
    · exact h.locked row hold event hevent
  · intro row hrow other hother hne key hkey
    obtain rfl | ⟨hold, hrowne⟩ := hcases row hrow
    · obtain rfl | ⟨hold', hne'⟩ := hcases other hother
      · exact absurd rfl hne
      · exact hkeys key hkey other hold' hne'
    · obtain rfl | ⟨hold', -⟩ := hcases other hother
      · exact fun hheld => hkeys key hheld row hold hrowne hkey
      · exact h.alone row hold other hold' hne key hkey
  · intro row hrow
    obtain hold | hflying := List.mem_append.mp hrow
    · exact h.recorded row (List.mem_append_left _ hold)
    · rw [hafter] at hflying
      have hrows : row ∈ added ∨ row ∈ state.inFlight := by
        rw [hbefore]
        simp only [List.mem_append] at hflying ⊢
        tauto
      obtain hnew | hold := hrows
      · exact hrecorded row hnew
      · exact h.recorded row (List.mem_append_right _ hold)

/-- A transaction takes a lock. -/
theorem lock (h : state.Chained platform) (hsound : state.Sound)
    (hfound : state.find transaction.id = some transaction) {change : Transaction → Transaction}
    (hinserted : (change transaction).inserted = transaction.inserted)
    (hexclusive : transaction.exclusiveLocks ⊆ (change transaction).exclusiveLocks)
    (hfree : ∀ key ∈ (change transaction).exclusiveLocks, key ∉ transaction.exclusiveLocks →
      ∀ other ∈ state.others transaction.id, key ∉ other.exclusiveLocks) :
    (state.update transaction.id change).Chained platform := by
  have hnone (aggregate : Aggregate) : chainOf aggregate [] = [] := rfl
  refine h.extend hsound.started hfound (hinserted.trans (List.append_nil _).symm) hexclusive hfree nofun ?_ ?_ nofun
  · intro aggregate
    rw [hnone, List.append_nil]
    exact h.linked aggregate
  · intro aggregate
    rw [hnone, List.append_nil]
    exact h.ordered aggregate

/-- A transaction ends without a commit. -/
theorem leave (h : state.Chained platform) (hsound : state.Sound)
    (hfound : state.find transaction.id = some transaction) {drawnId : Int} :
    (AuditState.finish { state with nextSequenceId := drawnId } transaction.id).Chained platform := by
  have hcases : ∀ {row}, row ∈ state.others transaction.id → row ∈ state.transactions := fun hrow =>
    (mem_others.mp hrow).1
  have hprefix (aggregate : Aggregate) : ∃ rest, chainOf aggregate (state.tables.events ++ state.inFlight) =
      chainOf aggregate (state.tables.events ++ (state.others transaction.id).flatMap Transaction.inserted) ++
        rest := by
    rw [chainOf_append, h.inFlight_chain hsound hfound, chainOf_append]
    cases hinserted : chainOf aggregate transaction.inserted with
    | nil => exact ⟨[], by rw [List.nil_append, List.append_nil]⟩
    | cons row rest =>
      obtain ⟨hrow, rfl⟩ : row ∈ transaction.inserted ∧ row.aggregate = aggregate := by
        rw [← mem_chainOf, hinserted]
        exact List.mem_cons_self
      rw [h.others_nil (find_mem hfound) (h.locked transaction (find_mem hfound) row hrow)]
      exact ⟨row :: rest, by rw [List.append_nil, List.append_nil]⟩
  refine { linked := fun aggregate => ?_, ordered := fun aggregate => ?_
           locked := fun row hrow => h.locked row (hcases hrow)
           alone := fun row hrow other hother => h.alone row (hcases hrow) other (hcases hother)
           recorded := fun row hrow => h.recorded row ?_ }
  · obtain ⟨rest, hrest⟩ := hprefix aggregate
    have hlinked := h.linked aggregate
    rw [hrest] at hlinked
    exact hlinked.of_append
  · obtain ⟨rest, hrest⟩ := hprefix aggregate
    have hordered := h.ordered aggregate
    rw [hrest] at hordered
    exact (List.pairwise_append.mp hordered).1
  · exact ((List.Sublist.refl _).append Sound.inFlight_others).subset hrow

/-- A transaction commits its rows. -/
theorem commit (h : state.Chained platform) (hsound : state.Sound)
    (hfound : state.find transaction.id = some transaction) :
    Chained platform { state.finish transaction.id with
      tables := { state.tables with events := state.tables.events ++ transaction.inserted } } := by
  have hleft : (AuditState.finish { state with nextSequenceId := state.nextSequenceId }
      transaction.id).Chained platform := h.leave hsound hfound
  have hsame (aggregate : Aggregate) : chainOf aggregate (state.tables.events ++ transaction.inserted ++
      (state.others transaction.id).flatMap Transaction.inserted) =
      chainOf aggregate (state.tables.events ++ state.inFlight) := by
    rw [List.append_assoc, chainOf_append, chainOf_append, chainOf_append, h.inFlight_chain hsound hfound]
  refine { linked := fun aggregate => ?_, ordered := fun aggregate => ?_, locked := hleft.locked
           alone := hleft.alone, recorded := fun row hrow => h.recorded row ?_ }
  · exact (hsame aggregate).symm ▸ h.linked aggregate
  · exact (hsame aggregate).symm ▸ h.ordered aggregate
  · have hperm := (hsound.inFlight_perm hfound).append_left state.tables.events
    rw [← List.append_assoc] at hperm
    exact hperm.subset hrow

/-- The rows that a transaction sees of an aggregate it has locked end with the
last row of its chain, or another row names the same one. -/
theorem last_seen (h : state.Chained platform) (hsound : state.Sound)
    (hfound : state.find transaction.id = some transaction)
    (hfree : ∀ other ∈ state.others transaction.id, aggregate.lockKey ∉ other.exclusiveLocks) {row : AuditEvent}
    (haggregate : row.aggregate = aggregate)
    (hprevious :
      row.previousHash = (chainOf aggregate (transaction.snapshot.events ++ transaction.inserted)).getLast?.map
      AuditEvent.eventHash)
    (hfresh : ∀ other ∈ state.tables.events ++ transaction.inserted, ¬row.Conflicts other) :
    chainOf aggregate (state.tables.events ++ state.inFlight) =
        chainOf aggregate (state.tables.events ++ transaction.inserted) ∧
      row.previousHash = (chainOf aggregate (state.tables.events ++ transaction.inserted)).getLast?.map
        AuditEvent.eventHash := by
  have hothers : chainOf aggregate ((state.others transaction.id).flatMap Transaction.inserted) = [] := by
    refine chainOf_eq_nil fun other hother => ?_
    obtain ⟨holder, hholder, hinserted⟩ := List.mem_flatMap.mp hother
    rintro rfl
    exact hfree holder hholder (h.locked holder (mem_others.mp hholder).1 other hinserted)
  have hchain : chainOf aggregate (state.tables.events ++ state.inFlight) =
      chainOf aggregate (state.tables.events ++ transaction.inserted) := by
    rw [chainOf_append, chainOf_append, h.inFlight_chain hsound hfound, hothers, List.append_nil]
  refine ⟨hchain, ?_⟩
  obtain ⟨missed, hmissed⟩ := (hsound.seen transaction (find_mem hfound)).1
  have hlinked := h.linked aggregate
  rw [hchain, ← hmissed, chainOf_append, chainOf_append] at hlinked
  rw [hprevious, ← hmissed, chainOf_append, chainOf_append, chainOf_append]
  cases hinserted : chainOf aggregate transaction.inserted with
  | cons other rest =>
    simp only [List.getLast?_append, Option.or_of_isSome, List.getLast?_isSome, ne_eq, reduceCtorEq, not_false_eq_true]
  | nil =>
    cases hrest : chainOf aggregate missed with
    | nil => rw [List.append_nil, List.append_nil]
    | cons next rest =>
      -- a row that the snapshot misses names the row that the new one names
      obtain ⟨hnext, hsame⟩ : next ∈ missed ∧ next.aggregate = aggregate := by
        rw [← mem_chainOf, hrest]
        exact List.mem_cons_self
      rw [hrest, hinserted, List.append_nil] at hlinked
      have hnamed := hlinked _ next rest rfl
      rw [chainOf_append, hinserted, List.append_nil] at hprevious
      refine absurd (conflicts_of_previous (haggregate.trans hsame.symm) (hprevious.trans hnamed.symm)) (hfresh next ?_)
      rw [← hmissed]
      exact List.mem_append_left _ (List.mem_append_right _ hnext)

/-- A transaction inserts a row behind the last one of its aggregate. -/
theorem insert (h : state.Chained service.platform) (hsound : state.Sound) {event : AuditInput} {row : AuditEvent}
    (hfound : state.find transaction.id = some transaction)
    (hfree : state.ExclusiveFree transaction.id (aggregateLockKey event))
    (hrow : auditRow service.platform (transaction.snapshot.events ++ transaction.inserted) state.nextSequenceId event =
      .ok row)
    (hfresh : ∀ other ∈ state.tables.events ++ transaction.inserted, ¬row.Conflicts other) :
    (AuditState.update { state with nextSequenceId := state.nextSequenceId + 1 } transaction.id fun transaction =>
      { transaction with
        inserted := transaction.inserted ++ [row]
        exclusiveLocks := aggregateLockKey event :: transaction.exclusiveLocks }).Chained service.platform := by
  obtain ⟨haggregate, hprevious, hrecorded⟩ := auditRow_recorded hrow
  have hmem := find_mem hfound
  have hview : Ordered AuditEvent.sequenceId
      (chainOf event.aggregate (transaction.snapshot.events ++ transaction.inserted)) := by
    obtain ⟨missed, hmissed⟩ := (hsound.seen transaction hmem).1
    have hordered := h.ordered event.aggregate
    rw [← hmissed, List.append_assoc, chainOf_append, chainOf_append, h.inFlight_chain hsound hfound] at hordered
    rw [chainOf_append]
    exact hordered.sublist
      ((List.Sublist.refl _).append ((List.sublist_append_left _ _).trans (List.sublist_append_right _ _)))
  rw [previousHash_eq hview] at hprevious
  have hunlocked : ∀ other ∈ state.others transaction.id, event.aggregate.lockKey ∉ other.exclusiveLocks :=
    fun other hother => (hfree other hother).1
  obtain ⟨hchain, hlast⟩ := h.last_seen hsound hfound hunlocked haggregate hprevious hfresh
  have hlinked (aggregate : Aggregate) : Linked AuditEvent.previousHash AuditEvent.eventHash
      (chainOf aggregate (state.tables.events ++ state.inFlight) ++ chainOf aggregate [row]) ∧
      Ordered AuditEvent.sequenceId
        (chainOf aggregate (state.tables.events ++ state.inFlight) ++ chainOf aggregate [row]) := by
    by_cases hsame : row.aggregate = aggregate
    · have hone : chainOf aggregate [row] = [row] := by simp [chainOf, hsame]
      obtain rfl := haggregate.symm.trans hsame
      rw [hone]
      refine ⟨(h.linked event.aggregate).concat (hlast.trans (by rw [hchain])), ?_⟩
      refine List.pairwise_append.mpr ⟨h.ordered event.aggregate, List.pairwise_singleton _ _, ?_⟩
      intro other hother next hnextRow
      rw [List.mem_singleton.mp hnextRow, (Sound.auditRow_ok hrow).1]
      exact (hsound.drawn other (mem_chainOf.mp hother).1).2.1
    · have hnone : chainOf aggregate [row] = [] := by simp [chainOf, hsame]
      rw [hnone, List.append_nil]
      exact ⟨h.linked aggregate, h.ordered aggregate⟩
  have hupdated : (state.update transaction.id fun transaction =>
      { transaction with
        inserted := transaction.inserted ++ [row]
        exclusiveLocks := aggregateLockKey event :: transaction.exclusiveLocks }).Chained service.platform := by
    refine h.extend hsound.started hfound rfl (List.subset_cons_self _ _) ?_ ?_ (fun aggregate => (hlinked aggregate).1)
      (fun aggregate => (hlinked aggregate).2) (by simpa using hrecorded)
    · intro key hkey hnot other hother
      obtain rfl | hold := List.mem_cons.mp hkey
      · exact (hfree other hother).1
      · exact absurd hold hnot
    · intro added hadded
      rw [List.mem_singleton.mp hadded, haggregate, lockKey_eq]
      exact List.mem_cons_self
  exact ⟨hupdated.linked, hupdated.ordered, hupdated.locked, hupdated.alone, hupdated.recorded⟩

end AuditState.Chained

theorem step_chained (hsound : state.Sound) (h : state.Chained service.platform) :
    (step service state action).Chained service.platform := by
  have hmoves := @step_moves service state action
  generalize step service state action = next at hmoves ⊢
  cases hmoves with
  | kept => exact h
  | started hnew => exact h.start
  | shared hfound hfree =>
    exact h.lock hsound hfound rfl (List.Subset.refl _) fun key hkey hnot => absurd hkey hnot
  | excluded hfound hfree =>
    refine h.lock hsound hfound rfl (List.subset_cons_self _ _) fun key hkey hnot other hother => ?_
    obtain rfl | hold := List.mem_cons.mp hkey
    · exact (hfree other hother).1
    · exact absurd hold hnot
  | lost hfound => exact h.leave hsound hfound
  | inserted hfound hcheckpoint hlocked hfree hrow hroom hfresh => exact h.insert hsound hfound hfree hrow hfresh
  | finished hfound => exact h.leave hsound hfound
  | committed hfound hfresh => exact h.commit hsound hfound
  | @checkpointed transaction call tables haction hfound hcall hlocked htables =>
    obtain ⟨row, -, -, -, -, rfl⟩ := checkpointed_ok htables
    have hleft : (AuditState.finish { state with nextSequenceId := state.nextSequenceId }
        transaction.id).Chained service.platform := h.leave hsound hfound
    exact ⟨hleft.linked, hleft.ordered, hleft.locked, hleft.alone, hleft.recorded⟩
  | anchored hevents hcheckpoints =>
    refine ⟨?_, ?_, h.locked, h.alone, ?_⟩
    · intro aggregate
      rw [hevents]
      exact h.linked aggregate
    · intro aggregate
      rw [hevents]
      exact h.ordered aggregate
    · rw [hevents]
      exact h.recorded

theorem run_chained (actions : List Action) : (run service actions).Chained service.platform := by
  have hboth := @runs.run_invariant _ _ (step service) .empty
    (fun state : AuditState => state.Sound ∧ state.Chained service.platform) ⟨.empty, .empty⟩
    (fun state action h => ⟨step_sound h.1, step_chained h.1 h.2⟩) actions
  exact hboth.2

/-- In every state that concurrent transactions reach, the committed events of an
aggregate in the order of their sequence ids are one chain without a fork: the
first names no event, each later one the event before it, and each holds the hash
of the body it was recorded with. -/
theorem audit_chain_linear (service : AuditService) (actions : List Action) (aggregate : Aggregate) :
    let rows := inOrder AuditEvent.sequenceId (chainOf aggregate (run service actions).tables.events)
    Ordered AuditEvent.sequenceId rows ∧ Linked AuditEvent.previousHash AuditEvent.eventHash rows ∧
      (rows.map AuditEvent.previousHash).Nodup ∧ ∀ row ∈ rows, row.Recorded service.platform := by
  have hsound : (run service actions).Sound := run_sound actions
  have hchained : (run service actions).Chained service.platform := run_chained actions
  have hlinked := hchained.linked aggregate
  have hordered := hchained.ordered aggregate
  rw [chainOf_append] at hlinked hordered
  have hrows := (List.pairwise_append.mp hordered).1
  dsimp only
  rw [Ordered.inOrder_eq hrows]
  have hhashes : ((chainOf aggregate (run service actions).tables.events).map AuditEvent.eventHash).Nodup :=
    hsound.hashes.1.sublist (List.filter_sublist.map _)
  refine ⟨hrows, hlinked.of_append, hlinked.of_append.nodup_previous hhashes, fun row hrow => ?_⟩
  exact hchained.recorded row (List.mem_append_left _ (mem_chainOf.mp hrow).1)

end rwa.audit
