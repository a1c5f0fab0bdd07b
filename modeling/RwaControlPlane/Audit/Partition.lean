import Mathlib.Data.List.GetD
import RwaControlPlane.Audit.Reachable

open checked rwa.storage paging

namespace rwa.audit

/-- What the checkpoints of a tenant promise: consecutive disjoint ranges that
hold every event at or below the last boundary once, exact counts, and a
verification that goes through. -/
structure Partitioned (service : AuditService) (state : AuditState) (tenantId : String) : Prop where
  numbered : (checkpointsOf state.tables.checkpoints tenantId).map AuditChainCheckpoint.checkpointNumber =
    List.range' 1 (checkpointsOf state.tables.checkpoints tenantId).length
  increasing : (boundaries (checkpointsOf state.tables.checkpoints tenantId)).Pairwise (· < ·)
  covered : ∀ event ∈ state.tables.events, event.tenantId = tenantId →
    event.sequenceId ≤ boundary state.tables.checkpoints tenantId →
    ∃! position, position < (checkpointsOf state.tables.checkpoints tenantId).length ∧
      (boundaries (checkpointsOf state.tables.checkpoints tenantId)).getD position 0 < event.sequenceId ∧
      event.sequenceId ≤ (boundaries (checkpointsOf state.tables.checkpoints tenantId)).getD (position + 1) 0
  counted : ∀ row ∈ checkpointsOf state.tables.checkpoints tenantId,
    row.eventCount = (eventsThrough state.tables.events tenantId row.throughSequenceId).length
  verified : ∀ batch, 0 < batch →
    (verifyCheckpoints service.platform batch state.tables.events tenantId state.tables.checkpoints).isValid = true

/-- A checkpoint of a tenant commits although an event above the last boundary,
with a lower sequence id than one in its snapshot, has committed since the
snapshot was taken. -/
def StepsOver (service : AuditService) (state : AuditState) (action : Action) (tenantId : String) : Prop :=
  ∃ transaction call tables, action = .commitCheckpoint transaction.id ∧
    state.find transaction.id = some transaction ∧ transaction.checkpoint = some call ∧ call.tenantId = tenantId ∧
    auditChainLockKey tenantId ∈ transaction.exclusiveLocks ∧
    checkpointed service state transaction call = .ok tables ∧
    ∃ event ∈ state.tables.events, event.tenantId = tenantId ∧
      boundary state.tables.checkpoints tenantId < event.sequenceId ∧ event ∉ transaction.snapshot.events ∧
      ∃ newest ∈ transaction.snapshot.events, newest.tenantId = tenantId ∧ event.sequenceId < newest.sequenceId

variable {service : AuditService} {state : AuditState} {action : Action} {tenantId : String}

/-- What holds of a tenant as long as no event of it is stepped over. -/
structure AuditState.Folded (service : AuditService) (state : AuditState) (tenantId : String) : Prop where
  reproduced : ∃ progress, Reproduced service.platform state.tables.events tenantId
    (checkpointsOf state.tables.checkpoints tenantId) progress
  increasing : (boundaries (checkpointsOf state.tables.checkpoints tenantId)).Pairwise (· < ·)
  above : ∀ row ∈ state.inFlight, row.tenantId = tenantId →
    boundary state.tables.checkpoints tenantId < row.sequenceId
  below : boundary state.tables.checkpoints tenantId < state.nextSequenceId

/-- A position among increasing bounds. -/
theorem existsUnique_between {bounds : Nat → Int} {count : Nat} {value : Int}
    (hbounds : ∀ position < count, bounds position < bounds (position + 1)) (hlow : bounds 0 < value)
    (hhigh : value ≤ bounds count) :
    ∃! position, position < count ∧ bounds position < value ∧ value ≤ bounds (position + 1) := by
  induction count with
  | zero => omega
  | succ count ih =>
    by_cases hle : value ≤ bounds count
    · obtain ⟨position, ⟨hless, hrange⟩, hunique⟩ := ih (fun position h => hbounds position (by omega)) hle
      refine ⟨position, ⟨by omega, hrange⟩, ?_⟩
      rintro other ⟨hother, habove, hbelow⟩
      refine hunique other ⟨?_, habove, hbelow⟩
      by_contra hnot
      obtain rfl : other = count := by omega
      omega
    · refine ⟨count, ⟨by omega, by omega, hhigh⟩, ?_⟩
      rintro other ⟨hother, habove, hbelow⟩
      by_contra hne
      have hmono : ∀ steps, other + 1 + steps ≤ count → bounds (other + 1) ≤ bounds (other + 1 + steps) := by
        intro steps
        induction steps with
        | zero => exact fun _ => le_refl _
        | succ steps ih =>
          intro hsteps
          exact (ih (by omega)).trans (hbounds (other + 1 + steps) (by omega)).le
      have hcount := hmono (count - (other + 1)) (by omega)
      rw [show other + 1 + (count - (other + 1)) = count by omega] at hcount
      omega

theorem boundary_eq_last : boundary state.tables.checkpoints tenantId =
    (boundaries (checkpointsOf state.tables.checkpoints tenantId)).getD
      (checkpointsOf state.tables.checkpoints tenantId).length 0 := by
  rw [boundary, lastCheckpoint, List.getD_eq_getElem?_getD]
  have hlast := @getLast_boundaries (checkpointsOf state.tables.checkpoints tenantId)
  rw [List.getLast?_eq_getElem?] at hlast
  have hlength : (boundaries (checkpointsOf state.tables.checkpoints tenantId)).length - 1 =
      (checkpointsOf state.tables.checkpoints tenantId).length := by simp [boundaries]
  rw [← hlength, hlast]
  rfl

theorem AuditState.Folded.partitioned (h : state.Folded service tenantId) (hsound : state.Sound) :
    Partitioned service state tenantId := by
  obtain ⟨count, hnumbers⟩ := hsound.numbered tenantId
  obtain ⟨progress, hreproduced⟩ := h.reproduced
  have hids : DistinctIds state.tables.events :=
    hsound.distinct.sublist ((List.sublist_append_left _ _).map _)
  have hpositive : ∀ row ∈ state.tables.events, 1 ≤ row.sequenceId := fun row hrow =>
    (hsound.drawn row (List.mem_append_left _ hrow)).1
  refine ⟨?_, h.increasing, ?_, (hreproduced.counted hids hpositive h.increasing).2, ?_⟩
  · have hlength := congrArg List.length hnumbers
    rw [List.length_map, List.length_range'] at hlength
    rw [checkpointsOf_eq hnumbers, hlength]
    exact hnumbers
  · intro event hevent htenant hle
    rw [boundary_eq_last] at hle
    refine @existsUnique_between
      (fun position => (boundaries (checkpointsOf state.tables.checkpoints tenantId)).getD position 0) _ _ ?_ ?_ hle
    · intro position hposition
      have hlength : (boundaries (checkpointsOf state.tables.checkpoints tenantId)).length =
          (checkpointsOf state.tables.checkpoints tenantId).length + 1 := by simp [boundaries]
      rw [List.getD_eq_getElem _ _ (by omega), List.getD_eq_getElem _ _ (by omega)]
      exact List.pairwise_iff_getElem.mp h.increasing _ _ _ _ (Nat.lt_succ_self _)
    · have := hpositive event hevent
      simp only [boundaries, List.getD_cons_zero]
      omega
  · exact fun batch hbatch => (verifyCheckpoints_isValid_iff hids hbatch).mpr ⟨progress, hreproduced⟩

/-- The checkpoint made of a snapshot ends at the newest event in it. -/
theorem createCheckpoint_ok {view : Tables} {createdBy : String} {row : AuditChainCheckpoint}
    (hids : DistinctIds view.events)
    (h : createCheckpoint service.platform service.batch view tenantId createdBy = .ok row) :
    ∃ newest, (selected view.events tenantId (boundary view.checkpoints tenantId + 1) none).getLast? = some newest ∧
      row.throughSequenceId = newest.sequenceId ∧
      row.previousDigest = (lastCheckpoint view.checkpoints tenantId).map AuditChainCheckpoint.digest ∧
      row.eventCount = ((lastCheckpoint view.checkpoints tenantId).map AuditChainCheckpoint.eventCount).getD 0 +
        (selected view.events tenantId (boundary view.checkpoints tenantId + 1) none).length ∧
      row.digest = digestOf service.platform row.previousDigest row.throughSequenceId row.eventCount
        ((selected view.events tenantId (boundary view.checkpoints tenantId + 1) none).map AuditEvent.eventHash) := by
  simp only [createCheckpoint, eventRange_eq hids service.paged, bind_eq_ok_iff, throwIf_eq_ok_iff, pure_eq_ok_iff,
    exists_unit, ← boundary.eq_1] at h
  obtain ⟨hsome, rfl⟩ := h
  obtain ⟨newest, hnewest⟩ : ∃ newest,
      (selected view.events tenantId (boundary view.checkpoints tenantId + 1) none).getLast? = some newest := by
    rw [← Option.isSome_iff_exists, List.getLast?_isSome]
    rintro hnil
    exact hsome (by rw [hnil]; rfl)
  refine ⟨newest, hnewest, ?_, rfl, ?_, rfl⟩
  · simp [hnewest]
  · simp

/-- Checkpoints that differ in their anchors only have the same last row, up to
its anchor. -/
theorem last_core {β : Type} {property : AuditChainCheckpoint → β} {rows others : List AuditChainCheckpoint}
    (hproperty : ∀ row, property row.core = property row)
    (h : rows.map AuditChainCheckpoint.core = others.map AuditChainCheckpoint.core) :
    rows.getLast?.map property = others.getLast?.map property := by
  have hmaps : ∀ rows : List AuditChainCheckpoint,
      rows.getLast?.map property = (rows.map AuditChainCheckpoint.core).getLast?.map property := by
    intro rows
    rw [List.getLast?_map, Option.map_map]
    exact congrArg (fun view => rows.getLast?.map view) (funext fun row => (hproperty row).symm)
  rw [hmaps rows, h, ← hmaps others]

theorem boundaries_core {rows others : List AuditChainCheckpoint}
    (h : rows.map AuditChainCheckpoint.core = others.map AuditChainCheckpoint.core) :
    boundaries rows = boundaries others := by
  have hmaps : ∀ rows : List AuditChainCheckpoint, rows.map AuditChainCheckpoint.throughSequenceId =
      (rows.map AuditChainCheckpoint.core).map AuditChainCheckpoint.throughSequenceId := by
    intro rows
    rw [List.map_map]
    rfl
  rw [boundaries, boundaries, hmaps rows, h, ← hmaps others]

/-- No anchor is read by a verification. -/
theorem Reproduced.core {platform : Platform} {events : List AuditEvent} {rows others : List AuditChainCheckpoint}
    {progress : Progress} (h : Reproduced platform events tenantId rows progress)
    (hsame : rows.map AuditChainCheckpoint.core = others.map AuditChainCheckpoint.core) :
    Reproduced platform events tenantId others progress := by
  induction h generalizing others with
  | start =>
    obtain rfl : others = [] := by simpa using hsame.symm
    exact .start
  | @concat rows progress row hrows hprevious hcount hdigest ih =>
    obtain ⟨before, last, rfl⟩ : ∃ before last, others = before ++ [last] := by
      rcases List.eq_nil_or_concat others with rfl | ⟨before, last, rfl⟩
      · simp at hsame
      · exact ⟨before, last, by simp⟩
    rw [List.map_append, List.map_append] at hsame
    obtain ⟨hbefore, hlast⟩ := List.append_inj' hsame rfl
    have hcore : row.core = last.core := by simpa using hlast
    have hthrough : row.throughSequenceId = last.throughSequenceId := by
      simpa using congrArg AuditChainCheckpoint.throughSequenceId hcore
    have hcounts : row.eventCount = last.eventCount := by
      simpa using congrArg AuditChainCheckpoint.eventCount hcore
    have hdigests : row.digest = last.digest := by
      simpa using congrArg AuditChainCheckpoint.digest hcore
    have hprev : row.previousDigest = last.previousDigest := by
      simpa using congrArg AuditChainCheckpoint.previousDigest hcore
    rw [hdigests, hthrough, hcounts]
    refine .concat (ih hbefore) (hprev ▸ hprevious) ?_ ?_
    · rw [← hcounts, ← hthrough]
      exact hcount
    · rw [← hdigests, ← hcounts, ← hthrough]
      exact hdigest

/-- The newest event of an open range bounds it. -/
theorem filter_newest {snapshot : List AuditEvent} {lower : Int} {newest : AuditEvent} (hids : DistinctIds snapshot)
    (hnewest : (selected snapshot tenantId (lower + 1) none).getLast? = some newest) :
    (snapshot.filter fun row => row.tenantId = tenantId ∧ lower + 1 ≤ row.sequenceId ∧
        (some newest.sequenceId).all (fun last => row.sequenceId ≤ last)) =
      snapshot.filter fun row => row.tenantId = tenantId ∧ lower + 1 ≤ row.sequenceId ∧
        (none : Option Int).all (fun last => row.sequenceId ≤ last) := by
  have htop : ∀ row ∈ selected snapshot tenantId (lower + 1) none, row.sequenceId ≤ newest.sequenceId := by
    obtain ⟨rest, hrest⟩ := List.getLast?_eq_some_iff.mp hnewest
    have hordered : Ordered AuditEvent.sequenceId (selected snapshot tenantId (lower + 1) none) :=
      selected_ordered hids
    rw [hrest] at hordered ⊢
    intro row hrow
    obtain hold | rfl := (List.mem_append.mp hrow).imp_right List.mem_singleton.mp
    · exact ((List.pairwise_append.mp hordered).2.2 row hold newest (by simp)).le
    · exact le_refl _
  refine List.filter_congr fun row hrow => ?_
  refine decide_eq_decide.mpr ⟨fun ⟨htenant, hlow, _⟩ => ⟨htenant, hlow, rfl⟩, fun ⟨htenant, hlow, _⟩ => ?_⟩
  have hbelow := htop row (mem_selected.mpr ⟨hrow, htenant, hlow, nofun⟩)
  exact ⟨htenant, hlow, by simpa using hbelow⟩

/-- The range that a checkpoint folds holds the same events in its snapshot and in
the tables, where no event is stepped over. -/
theorem selected_snapshot {snapshot events : List AuditEvent} {lower : Int} {newest : AuditEvent}
    (hids : DistinctIds events) (hseen : snapshot <+: events)
    (hnewest : (selected snapshot tenantId (lower + 1) none).getLast? = some newest)
    (hkept : ∀ event ∈ events, event.tenantId = tenantId → lower < event.sequenceId →
      event.sequenceId < newest.sequenceId → event ∈ snapshot) :
    selected events tenantId (lower + 1) (some newest.sequenceId) = selected snapshot tenantId (lower + 1) none := by
  obtain ⟨later, rfl⟩ := hseen
  have hsnapshot_ids : DistinctIds snapshot := hids.sublist ((List.sublist_append_left _ _).map _)
  have hmem := mem_selected.mp (List.mem_of_getLast? hnewest)
  rw [selected, selected, List.filter_append]
  have hlater : later.filter (fun row => row.tenantId = tenantId ∧ lower + 1 ≤ row.sequenceId ∧
      (some newest.sequenceId).all (fun last => row.sequenceId ≤ last)) = [] := by
    rw [List.filter_eq_nil_iff]
    intro row hrow hcondition
    obtain ⟨htenant, hlow, hhigh⟩ := of_decide_eq_true hcondition
    have hhigh : row.sequenceId ≤ newest.sequenceId := by simpa using hhigh
    have hdisjoint : ∀ first ∈ snapshot.map AuditEvent.sequenceId, ∀ second ∈ later.map AuditEvent.sequenceId,
        first ≠ second := by
      rw [DistinctIds, List.map_append] at hids
      exact (List.nodup_append.mp hids).2.2
    have hne : newest.sequenceId ≠ row.sequenceId :=
      hdisjoint _ (List.mem_map_of_mem hmem.1) _ (List.mem_map_of_mem hrow)
    have hin := hkept row (List.mem_append_right _ hrow) htenant (by omega) (by omega)
    exact hdisjoint _ (List.mem_map_of_mem hin) _ (List.mem_map_of_mem hrow) rfl
  rw [hlater, List.append_nil, filter_newest hsnapshot_ids hnewest]

/-- A snapshot that misses an event of the range has fewer events in it. -/
theorem length_selected_lt {snapshot events : List AuditEvent} {lower : Int} {newest event : AuditEvent}
    (hids : DistinctIds events) (hseen : snapshot <+: events)
    (hnewest : (selected snapshot tenantId (lower + 1) none).getLast? = some newest)
    (hevent : event ∈ selected events tenantId (lower + 1) (some newest.sequenceId)) (hmissed : event ∉ snapshot) :
    (selected snapshot tenantId (lower + 1) none).length <
      (selected events tenantId (lower + 1) (some newest.sequenceId)).length := by
  obtain ⟨later, rfl⟩ := hseen
  have hsnapshot_ids : DistinctIds snapshot := hids.sublist ((List.sublist_append_left _ _).map _)
  rw [selected, mem_inOrder, List.filter_append] at hevent
  have hlater := (List.mem_append.mp hevent).resolve_left fun hold => hmissed (List.mem_filter.mp hold).1
  rw [selected, selected, length_inOrder, length_inOrder, List.filter_append, List.length_append,
    filter_newest hsnapshot_ids hnewest]
  have := List.length_pos_of_mem hlater
  omega

/-- The checkpoint that a transaction has committed, and the newest event that it
has folded. -/
structure Made (service : AuditService) (state : AuditState) (transaction : Transaction) (tenantId : String)
    (tables : Tables) (row : AuditChainCheckpoint) (newest : AuditEvent) : Prop where
  tables_eq : tables = { state.tables with checkpoints := state.tables.checkpoints ++ [row] }
  valid : row.InRange ∧ row.Valid
  rows : checkpointsOf tables.checkpoints tenantId = checkpointsOf state.tables.checkpoints tenantId ++ [row]
  others : ∀ other, other ≠ tenantId →
    checkpointsOf tables.checkpoints other = checkpointsOf state.tables.checkpoints other
  last : (selected transaction.snapshot.events tenantId
    (boundary state.tables.checkpoints tenantId + 1) none).getLast? =
    some newest
  through : row.throughSequenceId = newest.sequenceId
  previous : row.previousDigest = (lastCheckpoint state.tables.checkpoints tenantId).map AuditChainCheckpoint.digest
  count : row.eventCount =
    ((lastCheckpoint state.tables.checkpoints tenantId).map AuditChainCheckpoint.eventCount).getD 0 +
      (selected transaction.snapshot.events tenantId (boundary state.tables.checkpoints tenantId + 1) none).length
  digest : row.digest = digestOf service.platform row.previousDigest row.throughSequenceId row.eventCount
    ((selected transaction.snapshot.events tenantId (boundary state.tables.checkpoints tenantId + 1) none).map
      AuditEvent.eventHash)

theorem AuditState.Sound.ids (h : state.Sound) : DistinctIds state.tables.events :=
  h.distinct.sublist ((List.sublist_append_left _ _).map _)

/-- Every checkpoint that commits extends the checkpoints of its tenant. -/
theorem made {transaction : Transaction} {call : CheckpointCall} {tables : Tables} (hsound : state.Sound)
    (hfound : state.find transaction.id = some transaction)
    (htables : checkpointed service state transaction call = .ok tables) :
    ∃ row newest, Made service state transaction call.tenantId tables row newest := by
  obtain ⟨row, hrow, hrange, hvalid, hfresh, rfl⟩ := checkpointed_ok htables
  obtain ⟨hevents, hseen⟩ := hsound.seen transaction (find_mem hfound)
  obtain ⟨count, hnumbers⟩ := hsound.numbered call.tenantId
  obtain ⟨known, -, hknown⟩ := seen_numbers hseen hnumbers
  obtain ⟨htenant, -⟩ := createCheckpoint_numbered hrow
  obtain ⟨-, hcore⟩ := checkpoint_next hseen hnumbers hrow hfresh
  have hnext := hsound.checkpoint hfound htables
  obtain ⟨newest, hlast, hthrough, hprevious, hcount, hdigest⟩ :=
    createCheckpoint_ok (hsound.ids.sublist (hevents.sublist.map _)) hrow
  have hview {β : Type} {property : AuditChainCheckpoint → β} (hproperty : ∀ row, property row.core = property row) :
      (lastCheckpoint transaction.snapshot.checkpoints call.tenantId).map property =
        (lastCheckpoint state.tables.checkpoints call.tenantId).map property := by
    rw [lastCheckpoint, lastCheckpoint, checkpointsOf_eq hknown, checkpointsOf_eq hnumbers]
    exact last_core hproperty hcore
  have hboundary : boundary transaction.snapshot.checkpoints call.tenantId =
      boundary state.tables.checkpoints call.tenantId := by
    rw [boundary, boundary, hview fun _ => rfl]
  rw [hboundary] at hlast hcount hdigest
  rw [hview fun _ => rfl] at hprevious hcount
  have hrows (tenantId : String) : checkpointsOf (state.tables.checkpoints ++ [row]) tenantId =
      checkpointsOf state.tables.checkpoints tenantId ++ [row].filter (·.tenantId = tenantId) := by
    obtain ⟨before, hbefore⟩ := hsound.numbered tenantId
    obtain ⟨after, hafter⟩ := hnext.numbered tenantId
    rw [checkpointsOf_eq hafter, checkpointsOf_eq hbefore, List.filter_append]
  refine ⟨row, newest, rfl, ⟨hrange, hvalid⟩, ?_, fun other hother => ?_, hlast, hthrough, hprevious, hcount, hdigest⟩
  · rw [hrows, List.filter_cons_of_pos (by simpa using htenant)]
    rfl
  · rw [hrows, List.filter_cons_of_neg (by simpa [htenant] using hother.symm), List.filter_nil, List.append_nil]

theorem Made.newest_mem {transaction : Transaction} {tables : Tables} {row : AuditChainCheckpoint}
    {newest : AuditEvent} (h : Made service state transaction tenantId tables row newest) :
    newest ∈ transaction.snapshot.events ∧ newest.tenantId = tenantId ∧
      boundary state.tables.checkpoints tenantId < newest.sequenceId := by
  obtain ⟨hmem, htenant, hlow, -⟩ := mem_selected.mp (List.mem_of_getLast? h.last)
  exact ⟨hmem, htenant, by omega⟩

/-- The boundaries stay increasing. -/
theorem Made.increasing {transaction : Transaction} {tables : Tables} {row : AuditChainCheckpoint}
    {newest : AuditEvent} (h : Made service state transaction tenantId tables row newest)
    (hincreasing : (boundaries (checkpointsOf state.tables.checkpoints tenantId)).Pairwise (· < ·)) :
    (boundaries (checkpointsOf tables.checkpoints tenantId)).Pairwise (· < ·) := by
  rw [h.rows, boundaries, List.map_append, ← List.cons_append, ← boundaries, List.pairwise_append]
  refine ⟨hincreasing, List.pairwise_singleton _ _, fun lower hlower upper hupper => ?_⟩
  obtain rfl : upper = row.throughSequenceId := by simpa using hupper
  rw [h.through]
  refine lt_of_le_of_lt ?_ h.newest_mem.2.2
  obtain ⟨rest, hrest⟩ := List.getLast?_eq_some_iff.mp
    (@getLast_boundaries (checkpointsOf state.tables.checkpoints tenantId))
  rw [hrest] at hlower hincreasing
  obtain hold | heq := (List.mem_append.mp hlower).imp_right List.mem_singleton.mp
  · exact ((List.pairwise_append.mp hincreasing).2.2 lower hold _ (List.mem_singleton.mpr rfl)).le
  · exact heq.le

/-- A checkpoint that steps over no event folds exactly the events of its range. -/
theorem Made.reproduced {transaction : Transaction} {tables : Tables} {row : AuditChainCheckpoint}
    {newest : AuditEvent} {progress : Progress} (h : Made service state transaction tenantId tables row newest)
    (hsound : state.Sound) (hfound : state.find transaction.id = some transaction)
    (hreproduced : Reproduced service.platform state.tables.events tenantId
      (checkpointsOf state.tables.checkpoints tenantId) progress)
    (hkept : ∀ event ∈ state.tables.events, event.tenantId = tenantId →
      boundary state.tables.checkpoints tenantId < event.sequenceId → event.sequenceId < newest.sequenceId →
      event ∈ transaction.snapshot.events) :
    Reproduced service.platform state.tables.events tenantId (checkpointsOf tables.checkpoints tenantId)
      ⟨some row.digest, row.throughSequenceId, row.eventCount⟩ := by
  have hrange := selected_snapshot hsound.ids (hsound.seen transaction (find_mem hfound)).1 h.last hkept
  have hprogress := hreproduced.progress_eq
  rw [h.rows]
  refine .concat hreproduced ?_ ?_ ?_
  · rw [hprogress]
    exact h.previous
  · rw [hprogress, hashesBetween, h.through, List.length_map]
    show _ = _ + (selected _ _ (boundary state.tables.checkpoints tenantId + 1) _).length
    rw [hrange]
    exact h.count
  · rw [hprogress, hashesBetween]
    show _ = digestOf _ _ _ _ ((selected _ _ (boundary state.tables.checkpoints tenantId + 1) _).map _)
    rw [h.digest, h.through, hrange, h.previous]
    rfl

variable {next : AuditState}

/-- Audit events above the boundaries leave all ranges as they are. -/
theorem Reproduced.grow {platform : Platform} {events added : List AuditEvent} {rows : List AuditChainCheckpoint}
    {progress : Progress} {bound : Int} (h : Reproduced platform events tenantId rows progress)
    (habove : ∀ row ∈ added, row.tenantId = tenantId → bound < row.sequenceId)
    (hbound : ∀ row ∈ rows, row.throughSequenceId ≤ bound) :
    Reproduced platform (events ++ added) tenantId rows progress := by
  refine h.congr (fun lower upper hupper => ?_) hbound
  have hnone : added.filter (fun row => row.tenantId = tenantId ∧ lower + 1 ≤ row.sequenceId ∧
      (some upper).all (fun last => row.sequenceId ≤ last)) = [] := by
    rw [List.filter_eq_nil_iff]
    intro row hrow hcondition
    obtain ⟨htenant, -, hhigh⟩ := of_decide_eq_true hcondition
    have hle : row.sequenceId ≤ upper := by simpa using hhigh
    have := habove row hrow htenant
    omega
  rw [hashesBetween, hashesBetween, selected, List.filter_append, hnone, List.append_nil, selected]

theorem le_boundary {rows : List AuditChainCheckpoint} {row : AuditChainCheckpoint}
    (hincreasing : (boundaries rows).Pairwise (· < ·)) (hrow : row ∈ rows) :
    row.throughSequenceId ≤ (rows.getLast?.map AuditChainCheckpoint.throughSequenceId).getD 0 := by
  obtain ⟨rest, hrest⟩ := List.getLast?_eq_some_iff.mp (@getLast_boundaries rows)
  have hmem : row.throughSequenceId ∈ boundaries rows := List.mem_cons_of_mem _ (List.mem_map_of_mem hrow)
  rw [hrest] at hmem hincreasing
  obtain hold | heq := (List.mem_append.mp hmem).imp_right List.mem_singleton.mp
  · exact ((List.pairwise_append.mp hincreasing).2.2 _ hold _ (List.mem_singleton.mpr rfl)).le
  · exact heq.le

theorem AuditState.Folded.empty : AuditState.empty.Folded service tenantId where
  reproduced := ⟨_, .start⟩
  increasing := List.pairwise_singleton _ _
  above := nofun
  below := Int.zero_lt_one

/-- Steps that write no table keep the checkpoints in line with the events. -/
theorem AuditState.Folded.frame (h : state.Folded service tenantId) (htables : next.tables = state.tables)
    (hnext : state.nextSequenceId ≤ next.nextSequenceId)
    (hflight : ∀ row ∈ next.inFlight, row ∈ state.inFlight ∨ state.nextSequenceId ≤ row.sequenceId) :
    next.Folded service tenantId where
  reproduced := by
    rw [htables]
    exact h.reproduced
  increasing := by
    rw [htables]
    exact h.increasing
  above := by
    intro row hrow htenant
    rw [htables]
    obtain hold | hnew := hflight row hrow
    · exact h.above row hold htenant
    · exact h.below.trans_le hnew
  below := by
    rw [htables]
    exact h.below.trans_le hnext

/-- Rows in flight after an update are those of before, and those that the changed
transaction has now. -/
theorem mem_inFlight_update {transaction : Transaction} {change : Transaction → Transaction} {row : AuditEvent}
    (hsound : state.Sound) (hfound : state.find transaction.id = some transaction)
    (hrow : row ∈ (state.update transaction.id change).inFlight) :
    row ∈ state.inFlight ∨ row ∈ (change transaction).inserted := by
  obtain ⟨other, hother, hmem⟩ := List.mem_flatMap.mp hrow
  obtain rfl | hold := AuditState.mem_update hsound.started hfound hother
  · exact Or.inr hmem
  · exact Or.inl (List.mem_flatMap.mpr ⟨other, (AuditState.mem_others.mp hold).1, hmem⟩)

theorem AuditState.Folded.commit (h : state.Folded service tenantId) {transaction : Transaction}
    (hfound : state.find transaction.id = some transaction) :
    AuditState.Folded service { state.finish transaction.id with
      tables := { state.tables with events := state.tables.events ++ transaction.inserted } } tenantId where
  reproduced := by
    obtain ⟨progress, hreproduced⟩ := h.reproduced
    refine ⟨progress, hreproduced.grow (fun row hrow htenant => ?_) fun row => le_boundary h.increasing⟩
    exact h.above row (List.mem_flatMap.mpr ⟨transaction, find_mem hfound, hrow⟩) htenant
  increasing := h.increasing
  above := fun row hrow => h.above row (Sound.inFlight_others.subset hrow)
  below := h.below

/-- A committed checkpoint leaves no event of its tenant in flight: it holds the
exclusive lock. -/
theorem AuditState.Sound.none_inFlight (h : state.Sound) {transaction : Transaction} {call : CheckpointCall}
    (hfound : state.find transaction.id = some transaction) (hcall : transaction.checkpoint = some call)
    (hlocked : auditChainLockKey call.tenantId ∈ transaction.exclusiveLocks) {row : AuditEvent}
    (hrow : row ∈ state.inFlight) : row.tenantId ≠ call.tenantId := by
  intro htenant
  obtain ⟨other, hother, hmem⟩ := List.mem_flatMap.mp hrow
  have hshared := htenant ▸ h.locked other hother row hmem
  by_cases hself : other.id = transaction.id
  · obtain rfl : other = transaction :=
      List.inj_on_of_nodup_map h.started hother (find_mem hfound) hself
    rw [h.idle other hother (by rw [hcall]; rfl)] at hmem
    cases hmem
  · exact h.excluded transaction (find_mem hfound) other hother hself _ hlocked hshared

/-- The checkpoint of another tenant changes nothing. -/
theorem AuditState.Folded.others (h : state.Folded service tenantId) {transaction : Transaction} {call : CheckpointCall}
    {tables : Tables} {row : AuditChainCheckpoint} {newest : AuditEvent}
    (hmade : Made service state transaction call.tenantId tables row newest) (htenant : tenantId ≠ call.tenantId) :
    AuditState.Folded service { state.finish transaction.id with tables } tenantId where
  reproduced := by
    have hevents : tables.events = state.tables.events := by rw [hmade.tables_eq]
    rw [hmade.others tenantId htenant, hevents]
    exact h.reproduced
  increasing := by
    rw [hmade.others tenantId htenant]
    exact h.increasing
  above := by
    rw [boundary, lastCheckpoint, hmade.others tenantId htenant]
    exact fun event hevent => h.above event (Sound.inFlight_others.subset hevent)
  below := by
    rw [boundary, lastCheckpoint, hmade.others tenantId htenant]
    exact h.below

theorem AuditState.Folded.checkpoint {transaction : Transaction} {call : CheckpointCall} {tables : Tables}
    {row : AuditChainCheckpoint} {newest : AuditEvent} (h : state.Folded service call.tenantId) (hsound : state.Sound)
    (hfound : state.find transaction.id = some transaction) (hcall : transaction.checkpoint = some call)
    (hlocked : auditChainLockKey call.tenantId ∈ transaction.exclusiveLocks)
    (hmade : Made service state transaction call.tenantId tables row newest)
    (hkept : ∀ event ∈ state.tables.events, event.tenantId = call.tenantId →
      boundary state.tables.checkpoints call.tenantId < event.sequenceId → event.sequenceId < newest.sequenceId →
      event ∈ transaction.snapshot.events) :
    AuditState.Folded service { state.finish transaction.id with tables } call.tenantId where
  reproduced := by
    obtain ⟨progress, hreproduced⟩ := h.reproduced
    have hevents : tables.events = state.tables.events := by rw [hmade.tables_eq]
    rw [hevents]
    exact ⟨_, hmade.reproduced hsound hfound hreproduced hkept⟩
  increasing := hmade.increasing h.increasing
  above := fun event hevent htenant =>
    absurd htenant (hsound.none_inFlight hfound hcall hlocked (Sound.inFlight_others.subset hevent))
  below := by
    have hseen := (hsound.seen transaction (find_mem hfound)).1.subset hmade.newest_mem.1
    have hlast : boundary tables.checkpoints call.tenantId = newest.sequenceId := by
      rw [boundary, lastCheckpoint, hmade.rows, List.getLast?_concat]
      exact hmade.through
    rw [hlast]
    exact (hsound.drawn newest (List.mem_append_left _ hseen)).2.1

theorem AuditState.Folded.anchor (h : state.Folded service tenantId) (hsound : state.Sound) {tables : Tables}
    (hevents : tables.events = state.tables.events)
    (hcheckpoints : tables.checkpoints.map AuditChainCheckpoint.core =
      state.tables.checkpoints.map AuditChainCheckpoint.core) :
    AuditState.Folded service { state with tables } tenantId := by
  have hrows : (checkpointsOf state.tables.checkpoints tenantId).map AuditChainCheckpoint.core =
      (checkpointsOf tables.checkpoints tenantId).map AuditChainCheckpoint.core := by
    obtain ⟨before, hbefore⟩ := hsound.numbered tenantId
    obtain ⟨after, hafter⟩ := (hsound.anchor hevents hcheckpoints).numbered tenantId
    rw [checkpointsOf_eq hafter, checkpointsOf_eq hbefore, tenant_core, tenant_core, hcheckpoints]
  have hboundary : boundary tables.checkpoints tenantId = boundary state.tables.checkpoints tenantId := by
    rw [boundary, boundary, lastCheckpoint, lastCheckpoint,
      @last_core _ AuditChainCheckpoint.throughSequenceId _ _ (fun _ => rfl) hrows]
  refine { reproduced := ?_, increasing := ?_, above := fun row hrow => ?_, below := ?_ }
  · obtain ⟨progress, hreproduced⟩ := h.reproduced
    rw [hevents]
    exact ⟨progress, hreproduced.core hrows⟩
  · rw [← boundaries_core hrows]
    exact h.increasing
  · rw [hboundary]
    exact h.above row hrow
  · rw [hboundary]
    exact h.below

theorem step_folded (h : state.Folded service tenantId) (hsound : state.Sound)
    (hkept : ¬StepsOver service state action tenantId) : (step service state action).Folded service tenantId := by
  have hmoves := @step_moves service state action
  generalize step service state action = next at hmoves ⊢
  cases hmoves with
  | kept => exact h
  | started hnew =>
    exact h.frame rfl (le_refl _) fun row hrow => Or.inl (AuditState.Sound.inFlight_start ▸ hrow)
  | shared hfound hfree =>
    refine h.frame rfl (le_refl _) fun row hrow => Or.inl ?_
    exact (mem_inFlight_update hsound hfound hrow).elim id fun hmem =>
      List.mem_flatMap.mpr ⟨_, find_mem hfound, hmem⟩
  | excluded hfound hfree =>
    refine h.frame rfl (le_refl _) fun row hrow => Or.inl ?_
    exact (mem_inFlight_update hsound hfound hrow).elim id fun hmem =>
      List.mem_flatMap.mpr ⟨_, find_mem hfound, hmem⟩
  | lost hfound =>
    exact h.frame rfl (Int.lt_succ _).le fun row hrow => Or.inl (AuditState.Sound.inFlight_others.subset hrow)
  | @inserted transaction event row hfound hcheckpoint hlocked hfree hrow hroom hfresh =>
    refine h.frame rfl (Int.lt_succ _).le fun other hother => ?_
    obtain hold | hnew := mem_inFlight_update hsound hfound hother
    · exact Or.inl hold
    · obtain hbefore | rfl := (List.mem_append.mp hnew).imp_right List.mem_singleton.mp
      · exact Or.inl (List.mem_flatMap.mpr ⟨_, find_mem hfound, hbefore⟩)
      · exact Or.inr (AuditState.Sound.auditRow_ok hrow).1.ge
  | finished hfound =>
    exact h.frame rfl (le_refl _) fun row hrow => Or.inl (AuditState.Sound.inFlight_others.subset hrow)
  | committed hfound hfresh => exact h.commit hfound
  | @checkpointed transaction call tables haction hfound hcall hlocked htables =>
    obtain ⟨row, newest, hmade⟩ := made hsound hfound htables
    by_cases htenant : tenantId = call.tenantId
    · subst htenant
      refine h.checkpoint hsound hfound hcall hlocked hmade fun event hevent htenant hlow hhigh => ?_
      by_contra hmissed
      exact hkept ⟨transaction, call, tables, haction, hfound, hcall, rfl, hlocked, htables, event, hevent, htenant,
        hlow, hmissed, newest, hmade.newest_mem.1, hmade.newest_mem.2.1, hhigh⟩
    · exact h.others hmade htenant
  | anchored hevents hcheckpoints => exact h.anchor hsound hevents hcheckpoints

theorem step_commitCheckpoint {transaction : Transaction} {call : CheckpointCall} {tables : Tables}
    (hfound : state.find transaction.id = some transaction) (hcall : transaction.checkpoint = some call)
    (hlocked : auditChainLockKey call.tenantId ∈ transaction.exclusiveLocks)
    (htables : checkpointed service state transaction call = .ok tables) :
    step service state (.commitCheckpoint transaction.id) = { state.finish transaction.id with tables } := by
  simp only [step, hfound, advance, hcall, commitCheckpoint, hlocked, not_true_eq_false, if_false, htables]

/-- A checkpoint that steps over an event has a wrong count. -/
theorem not_stepsOver (hsound : state.Sound) (hbefore : Partitioned service state tenantId)
    (hafter : Partitioned service (step service state action) tenantId) :
    ¬StepsOver service state action tenantId := by
  rintro ⟨transaction, call, tables, rfl, hfound, hcall, rfl, hlocked, htables, event, hevent, htenant, hlow, hmissed,
    newest', hnewest', htenant', hhigh⟩
  obtain ⟨row, newest, hmade⟩ := made hsound hfound htables
  have hcounted := hafter.counted
  rw [step_commitCheckpoint hfound hcall hlocked htables] at hcounted
  have hseen := (hsound.seen transaction (find_mem hfound)).1
  have htop : newest'.sequenceId ≤ newest.sequenceId := by
    have hids : DistinctIds transaction.snapshot.events := hsound.ids.sublist (hseen.sublist.map _)
    have hmem : newest' ∈ transaction.snapshot.events.filter fun row => row.tenantId = call.tenantId ∧
        boundary state.tables.checkpoints call.tenantId + 1 ≤ row.sequenceId ∧
        (none : Option Int).all (fun last => row.sequenceId ≤ last) := by
      refine List.mem_filter.mpr ⟨hnewest', decide_eq_true ⟨htenant', ?_, rfl⟩⟩
      omega
    rw [← filter_newest hids hmade.last] at hmem
    simpa using (of_decide_eq_true (List.mem_filter.mp hmem).2).2.2
  have hrange : event ∈ selected state.tables.events call.tenantId
      (boundary state.tables.checkpoints call.tenantId + 1) (some newest.sequenceId) := by
    refine mem_selected.mpr ⟨hevent, htenant, by omega, fun bound hbound => ?_⟩
    cases hbound
    omega
  have hless := length_selected_lt hsound.ids hseen hmade.last hrange hmissed
  have hrow : row.eventCount = (eventsThrough state.tables.events call.tenantId row.throughSequenceId).length := by
    have hevents : tables.events = state.tables.events := by rw [hmade.tables_eq]
    have hin : row ∈ checkpointsOf tables.checkpoints call.tenantId := by
      rw [hmade.rows]
      exact List.mem_append_right _ (List.mem_singleton.mpr rfl)
    rw [← hevents]
    exact hcounted row hin
  have hlast : ((lastCheckpoint state.tables.checkpoints call.tenantId).map AuditChainCheckpoint.eventCount).getD 0 =
      (eventsThrough state.tables.events call.tenantId
        (boundary state.tables.checkpoints call.tenantId)).length := by
    rw [boundary]
    cases hlast : lastCheckpoint state.tables.checkpoints call.tenantId with
    | none =>
      have hnone : eventsThrough state.tables.events call.tenantId 0 = [] := by
        rw [List.eq_nil_iff_forall_not_mem]
        intro row hrow
        obtain ⟨hmem, -, hle⟩ := mem_eventsThrough.mp hrow
        have := (hsound.drawn row (List.mem_append_left _ hmem)).1
        omega
      simp [hnone]
    | some last => exact hbefore.counted last (List.mem_of_getLast? hlast)
  rw [hmade.count, hmade.through, eventsThrough_split hsound.ids hmade.newest_mem.2.2.le, List.length_append, hlast]
    at hrow
  omega

theorem createCheckpoint_paging {platform : Platform} {batch other : Nat} {view : Tables} {createdBy : String}
    (hids : DistinctIds view.events) (hbatch : 0 < batch) (hother : 0 < other) :
    createCheckpoint platform other view tenantId createdBy =
      createCheckpoint platform batch view tenantId createdBy := by
  simp only [createCheckpoint, eventRange_eq hids hbatch, eventRange_eq hids hother]

theorem step_paging {other : AuditService} (hsound : state.Sound) (hplatform : other.platform = service.platform) :
    step other state action = step service state action := by
  have hcheckpointed (transaction : Transaction) (call : CheckpointCall) (hmem : transaction ∈ state.transactions) :
      checkpointed other state transaction call = checkpointed service state transaction call := by
    have hids : DistinctIds transaction.snapshot.events :=
      hsound.ids.sublist ((hsound.seen transaction hmem).1.sublist.map _)
    rw [checkpointed, checkpointed, hplatform, createCheckpoint_paging hids service.paged other.paged]
  have hadvance (transaction : Transaction) (hmem : transaction ∈ state.transactions) :
      advance other state transaction action = advance service state transaction action := by
    cases hcall : transaction.checkpoint with
    | none =>
      cases action with
      | recordAuditEvent id event => simp only [advance, hcall, insertEvent, hplatform]
      | _ => simp only [advance, hcall]
    | some call =>
      cases action with
      | commitCheckpoint id => simp only [advance, hcall, commitCheckpoint, hcheckpointed transaction call hmem]
      | _ => simp only [advance, hcall]
  unfold step
  split
  · rfl
  · rfl
  · rw [hplatform]
  all_goals
    split
    · exact hadvance _ (find_mem ‹_›)
    · rfl

theorem run_paging {other : AuditService} (hplatform : other.platform = service.platform) (actions : List Action) :
    run other actions = run service actions := by
  induction actions using List.reverseRecOn with
  | nil => rfl
  | append_singleton actions action ih =>
    have hother : run other (actions ++ [action]) = step other (run other actions) action := runs.run_concat
    have hself : run service (actions ++ [action]) = step service (run service actions) action := runs.run_concat
    rw [hother, hself, ih, step_paging (run_sound actions) hplatform]

theorem run_folded {actions : List Action}
    (h : ∀ before action after, actions = before ++ action :: after →
      ¬StepsOver service (run service before) action tenantId) : (run service actions).Folded service tenantId :=
  (@runs.run_invariant_of_admissible _ _ (step service) (fun state => state.Sound ∧ state.Folded service tenantId)
    (fun state action => ¬StepsOver service state action tenantId)
    (fun _ _ hstate hkept => ⟨step_sound hstate.1, step_folded hstate.2 hstate.1 hkept⟩) .empty actions
    ⟨.empty, .empty⟩ h).2

/-- The checkpoints of a tenant partition its history in every state of a run
exactly when no checkpoint of the run steps over an event of it, and no page size
changes a run. -/
theorem partition_iff (service : AuditService) (actions : List Action) (tenantId : String) :
    ((∀ before, before <+: actions → Partitioned service (run service before) tenantId) ↔
      ∀ before action after, actions = before ++ action :: after →
        ¬StepsOver service (run service before) action tenantId) ∧
    ∀ other : AuditService, other.platform = service.platform → run other actions = run service actions := by
  refine ⟨⟨?_, ?_⟩, fun other hplatform => run_paging hplatform actions⟩
  · rintro h before action after rfl
    have hafter := h (before ++ [action]) ⟨after, by simp⟩
    rw [show run service (before ++ [action]) = step service (run service before) action from runs.run_concat] at hafter
    exact not_stepsOver (run_sound before) (h before (List.prefix_append _ _)) hafter
  · rintro h before ⟨rest, rfl⟩
    refine (run_folded fun earlier action after heq => ?_).partitioned (run_sound before)
    exact h earlier action (after ++ rest) (by simp [heq])

/-- A hash of 64 hexadecimal digits. -/
def sampleHash (text : String) : String :=
  let code := text.toList.foldl (fun code char => (code * 257 + char.toNat) % 2 ^ 256) 1
  String.ofList ((List.range 64).map fun place => Nat.digitChar (code / 16 ^ place % 16))

def samplePlatform : Platform where
  sha256 := sampleHash
  numberText := fun number => toString number.num
  isoText := fun time => toString time

def sampleService : AuditService := ⟨samplePlatform, 1000, by decide⟩

def sampleEvent (aggregateId : String) : AuditInput :=
  ⟨"tenant-1", "TRANSACTION_SETTLED", "transaction", aggregateId, .object [("units", .string "5")]⟩

/-- A transaction up to the audit event that it records. -/
def sampleWrite (id : Nat) (aggregateId : String) : List Action :=
  [.begin id, .lockAuditChain id "tenant-1", .recordAuditEvent id (sampleEvent aggregateId)]

def sampleOvertaken : List Action :=
  sampleWrite 1 "alpha" ++ sampleWrite 2 "beta" ++
    [.commit 2, .startCheckpoint 3 "tenant-1" (.string "ops"), .commit 1, .lockCheckpoint 3, .commitCheckpoint 3]

theorem waiting_checkpoint_steps_over :
    ¬∀ before, before <+: sampleOvertaken → Partitioned sampleService (run sampleService before) "tenant-1" := by
  intro h
  have hvalid := (h sampleOvertaken List.prefix_rfl).verified 1000 (by decide)
  have hinvalid : (verifyCheckpoints samplePlatform 1000 (run sampleService sampleOvertaken).tables.events "tenant-1"
      (run sampleService sampleOvertaken).tables.checkpoints).isValid = false := by
    decide +kernel
  rw [show sampleService.platform = samplePlatform from rfl, hinvalid] at hvalid
  exact Bool.false_ne_true hvalid

end rwa.audit
