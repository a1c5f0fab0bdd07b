import RwaControlPlane.Audit.Checkpoints

open checked rwa.storage paging

namespace rwa.audit

variable {platform : Platform} {batch : Nat} {events : List AuditEvent} {tenantId : String}
  {first cursor : Int} {last : Option Int}

theorem mem_selected {row : AuditEvent} :
    row ∈ selected events tenantId first last ↔ row ∈ events ∧ row.tenantId = tenantId ∧
      first ≤ row.sequenceId ∧ ∀ bound ∈ last, row.sequenceId ≤ bound := by
  simp only [selected, mem_inOrder, List.mem_filter, Bool.decide_and, Bool.and_eq_true, decide_eq_true_eq,
    Option.all_eq_true, Option.mem_def]

theorem selected_from (h : first ≤ cursor) :
    selected events tenantId cursor last =
      (selected events tenantId first last).filter fun row => cursor ≤ row.sequenceId := by
  rw [selected, selected, filter_inOrder, List.filter_filter]
  congr 1
  refine List.filter_congr fun row _ => ?_
  by_cases hcursor : cursor ≤ row.sequenceId
  · have hfirst : first ≤ row.sequenceId := h.trans hcursor
    simp [hcursor, hfirst]
  · simp [hcursor]

/-- Sequence ids are the primary key of the table. -/
def DistinctIds (events : List AuditEvent) : Prop := (events.map AuditEvent.sequenceId).Nodup

theorem selected_ordered (hids : DistinctIds events) :
    Ordered AuditEvent.sequenceId (selected events tenantId first last) :=
  ordered_inOrder (hids.sublist (List.filter_sublist.map _))

/-- The loop collects the rows of the range, whatever the size of its pages is. -/
theorem eventPages_eq (hids : DistinctIds events) (hbatch : 0 < batch) {fuel : Nat} {eventHashes : List String}
    {through : Int} (hfuel : (selected events tenantId cursor last).length < fuel) :
    eventPages batch events tenantId last fuel eventHashes cursor through =
      some (eventHashes ++ (selected events tenantId cursor last).map AuditEvent.eventHash,
        ((selected events tenantId cursor last).getLast?.map AuditEvent.sequenceId).getD through) := by
  induction fuel generalizing eventHashes cursor through with
  | zero => omega
  | succ fuel ih =>
    unfold eventPages
    generalize hrows : selected events tenantId cursor last = rows at hfuel ⊢
    have hordered : Ordered AuditEvent.sequenceId rows := hrows ▸ selected_ordered hids
    by_cases hshort : rows.length < batch
    · have htake : rows.take batch = rows := List.take_of_length_le hshort.le
      simp only [htake, hshort, if_true]
    · have hfull : (rows.take batch).length = batch := List.length_take_of_le (not_lt.mp hshort)
      obtain ⟨row, hrow⟩ : ∃ row, (rows.take batch).getLast? = some row := by
        rw [← Option.isSome_iff_exists, List.getLast?_isSome, ← List.length_pos_iff]
        omega
      have hnext : selected events tenantId (row.sequenceId + 1) last = rows.drop batch := by
        have hmem : row ∈ rows := List.mem_of_mem_take (List.mem_of_getLast? hrow)
        rw [← hrows] at hmem
        have hcursor : cursor ≤ row.sequenceId + 1 := by
          have := (mem_selected.mp hmem).2.2.1
          omega
        rw [selected_from hcursor, hrows, hordered.rest_of_page hrow]
      have hless : (rows.drop batch).length < fuel := by
        rw [List.length_drop]
        omega
      simp only [hfull, lt_irrefl, if_false, hrow, Option.map_some, Option.getD_some]
      rw [ih (by rw [hnext]; exact hless), hnext, List.append_assoc, ← List.map_append, List.take_append_drop]
      congr 2
      have hlast : rows.getLast? = ((rows.drop batch).getLast?).or (some row) := by
        rw [← hrow, ← List.getLast?_append, List.take_append_drop]
      rw [hlast]
      cases (rows.drop batch).getLast? <;> rfl

theorem length_selected_le : (selected events tenantId first last).length ≤ events.length := by
  rw [selected, length_inOrder]
  exact List.length_filter_le _ _

/-- A range scan reads all hashes of its range and ends at its last event. -/
theorem eventRange_eq (hids : DistinctIds events) (hbatch : 0 < batch) :
    eventRange batch events tenantId first last =
      ((selected events tenantId first last).map AuditEvent.eventHash,
        ((selected events tenantId first last).getLast?.map AuditEvent.sequenceId).getD (first - 1)) := by
  rw [eventRange, eventPages_eq hids hbatch (Nat.lt_succ_of_le length_selected_le)]
  rfl

/-- The hashes of the events above one boundary and at or below another. -/
def hashesBetween (events : List AuditEvent) (tenantId : String) (lower upper : Int) : List String :=
  (selected events tenantId (lower + 1) (some upper)).map AuditEvent.eventHash

/-- Checkpoints that the events of a tenant reproduce, and what the loop of
`verifyCheckpoints` carries after them. -/
inductive Reproduced (platform : Platform) (events : List AuditEvent) (tenantId : String) :
    List AuditChainCheckpoint → Progress → Prop
  | start : Reproduced platform events tenantId [] .start
  | concat {rows : List AuditChainCheckpoint} {progress : Progress} {row : AuditChainCheckpoint}
      (hrows : Reproduced platform events tenantId rows progress)
      (hprevious : row.previousDigest = progress.previousDigest)
      (hcount : row.eventCount = progress.eventCount +
        (hashesBetween events tenantId progress.previousThrough row.throughSequenceId).length)
      (hdigest : row.digest = digestOf platform progress.previousDigest row.throughSequenceId row.eventCount
        (hashesBetween events tenantId progress.previousThrough row.throughSequenceId)) :
      Reproduced platform events tenantId (rows ++ [row]) ⟨some row.digest, row.throughSequenceId, row.eventCount⟩

theorem verifyRow_eq_ok_iff (hids : DistinctIds events) (hbatch : 0 < batch) {progress next : Progress}
    {row : AuditChainCheckpoint} :
    verifyRow platform batch events tenantId progress row = .ok next ↔
      row.previousDigest = progress.previousDigest ∧
      row.eventCount = progress.eventCount +
        (hashesBetween events tenantId progress.previousThrough row.throughSequenceId).length ∧
      row.digest = digestOf platform progress.previousDigest row.throughSequenceId row.eventCount
        (hashesBetween events tenantId progress.previousThrough row.throughSequenceId) ∧
      next = ⟨some row.digest, row.throughSequenceId, row.eventCount⟩ := by
  have hrange : (eventRange batch events tenantId (progress.previousThrough + 1) (some row.throughSequenceId)).1 =
      hashesBetween events tenantId progress.previousThrough row.throughSequenceId := by
    rw [eventRange_eq hids hbatch]
    rfl
  simp only [verifyRow, hrange, bind_eq_ok_iff, throwIf_eq_ok_iff, pure_eq_ok_iff, exists_unit, not_not]
  constructor
  · rintro ⟨hprevious, hcount, hdigest, rfl⟩
    rw [← hcount] at hdigest ⊢
    exact ⟨hprevious, rfl, hdigest.symm, rfl⟩
  · rintro ⟨hprevious, hcount, hdigest, rfl⟩
    rw [← hcount]
    exact ⟨hprevious, rfl, hdigest.symm, rfl⟩

/-- The loop goes through exactly over the checkpoints that are reproduced. -/
theorem verifyRows_eq_ok_iff (hids : DistinctIds events) (hbatch : 0 < batch) {rows : List AuditChainCheckpoint}
    {final : Progress} :
    rows.foldlM (verifyRow platform batch events tenantId) .start = .ok final ↔
      Reproduced platform events tenantId rows final := by
  constructor
  · intro h
    induction rows using List.reverseRecOn generalizing final with
    | nil =>
      obtain rfl : Progress.start = final := Except.ok.inj h
      exact .start
    | append_singleton rows row ih =>
      rw [List.foldlM_append, bind_eq_ok_iff] at h
      obtain ⟨progress, hrows, hrow⟩ := h
      simp only [List.foldlM_cons, List.foldlM_nil, bind_eq_ok_iff, pure_eq_ok_iff, exists_eq_right] at hrow
      obtain ⟨hprevious, hcount, hdigest, rfl⟩ := (verifyRow_eq_ok_iff hids hbatch).mp hrow
      exact .concat (ih hrows) hprevious hcount hdigest
  · intro h
    induction h with
    | start => rfl
    | @concat rows progress row hrows hprevious hcount hdigest ih =>
      rw [List.foldlM_append, bind_eq_ok_iff]
      refine ⟨progress, ih, ?_⟩
      simp only [List.foldlM_cons, List.foldlM_nil, bind_eq_ok_iff, pure_eq_ok_iff, exists_eq_right]
      exact (verifyRow_eq_ok_iff hids hbatch).mpr ⟨hprevious, hcount, hdigest, rfl⟩

theorem verifyCheckpoints_isValid_iff (hids : DistinctIds events) (hbatch : 0 < batch)
    {checkpoints : List AuditChainCheckpoint} :
    (verifyCheckpoints platform batch events tenantId checkpoints).isValid = true ↔
      ∃ final, Reproduced platform events tenantId (checkpointsOf checkpoints tenantId) final := by
  simp only [← verifyRows_eq_ok_iff hids hbatch, verifyCheckpoints]
  cases hrows : (checkpointsOf checkpoints tenantId).foldlM (verifyRow platform batch events tenantId) .start with
  | error mismatch => simp [Verification.isValid]
  | ok final => simp [Verification.isValid]

namespace Reproduced

variable {rows : List AuditChainCheckpoint} {progress : Progress}

/-- What the loop carries is read off the last checkpoint. -/
theorem progress_eq (h : Reproduced platform events tenantId rows progress) :
    progress = ⟨rows.getLast?.map AuditChainCheckpoint.digest,
      (rows.getLast?.map AuditChainCheckpoint.throughSequenceId).getD 0,
      (rows.getLast?.map AuditChainCheckpoint.eventCount).getD 0⟩ := by
  cases h with
  | start => rfl
  | concat => simp

/-- Checkpoints stay reproduced where their ranges keep their events. -/
theorem congr {others : List AuditEvent} {bound : Int} (h : Reproduced platform events tenantId rows progress)
    (hsame : ∀ lower upper, upper ≤ bound →
      hashesBetween others tenantId lower upper = hashesBetween events tenantId lower upper)
    (hbound : ∀ row ∈ rows, row.throughSequenceId ≤ bound) : Reproduced platform others tenantId rows progress := by
  induction h with
  | start => exact .start
  | @concat rows progress row hrows hprevious hcount hdigest ih =>
    have hrange := hsame progress.previousThrough row.throughSequenceId (hbound row (by simp))
    refine .concat (ih fun earlier hearlier => hbound earlier (by simp [hearlier])) hprevious ?_ ?_
    · rw [hrange]
      exact hcount
    · rw [hrange]
      exact hdigest

end Reproduced

/-- The events of a tenant at or below a sequence id, in the order of sequence
ids. -/
def eventsThrough (events : List AuditEvent) (tenantId : String) (upper : Int) : List AuditEvent :=
  inOrder AuditEvent.sequenceId (events.filter fun row => row.tenantId = tenantId ∧ row.sequenceId ≤ upper)

theorem mem_eventsThrough {row : AuditEvent} {upper : Int} :
    row ∈ eventsThrough events tenantId upper ↔ row ∈ events ∧ row.tenantId = tenantId ∧ row.sequenceId ≤ upper := by
  simp [eventsThrough]

theorem eventsThrough_filter {upper : Int} {keep : AuditEvent → Bool} :
    eventsThrough (events.filter keep) tenantId upper = (eventsThrough events tenantId upper).filter keep := by
  rw [eventsThrough, eventsThrough, filter_inOrder, List.filter_filter, List.filter_filter]
  congr 1
  exact List.filter_congr fun row _ => Bool.and_comm _ _

/-- The events up to a boundary are those up to an earlier one and those of the
range between. -/
theorem eventsThrough_split (hids : DistinctIds events) {lower upper : Int} (hle : lower ≤ upper) :
    eventsThrough events tenantId upper =
      eventsThrough events tenantId lower ++ selected events tenantId (lower + 1) (some upper) := by
  have hordered : Ordered AuditEvent.sequenceId (inOrder AuditEvent.sequenceId
      (events.filter fun row => row.tenantId = tenantId)) :=
    ordered_inOrder (hids.sublist (List.filter_sublist.map _))
  have hthrough (bound : Int) : eventsThrough events tenantId bound = (inOrder AuditEvent.sequenceId
      (events.filter fun row => row.tenantId = tenantId)).filter fun row => row.sequenceId ≤ bound := by
    rw [filter_inOrder, List.filter_filter, eventsThrough]
    congr 1
    exact List.filter_congr fun row _ => by simp [Bool.and_comm]
  have hrange : selected events tenantId (lower + 1) (some upper) = (inOrder AuditEvent.sequenceId
      (events.filter fun row => row.tenantId = tenantId)).filter
        fun row => lower < row.sequenceId ∧ row.sequenceId ≤ upper := by
    rw [filter_inOrder, List.filter_filter, selected]
    congr 1
    refine List.filter_congr fun row _ => ?_
    simp only [Option.all_some, decide_eq_true_eq, ← Bool.decide_and, Int.add_one_le_iff]
    exact decide_eq_decide.mpr ⟨fun h => ⟨h.2, h.1⟩, fun h => ⟨h.2, h.1⟩⟩
  rw [hthrough, hthrough, hrange]
  exact hordered.split hle

/-- Boundaries of checkpoints, from zero on. -/
def boundaries (rows : List AuditChainCheckpoint) : List Int := 0 :: rows.map AuditChainCheckpoint.throughSequenceId

/-- The last boundary of a tenant. -/
def boundary (checkpoints : List AuditChainCheckpoint) (tenantId : String) : Int :=
  ((lastCheckpoint checkpoints tenantId).map AuditChainCheckpoint.throughSequenceId).getD 0

theorem getLast_boundaries {rows : List AuditChainCheckpoint} :
    (boundaries rows).getLast? = some ((rows.getLast?.map AuditChainCheckpoint.throughSequenceId).getD 0) := by
  induction rows using List.reverseRecOn with
  | nil => rfl
  | append_singleton rows row ih => simp [boundaries, List.getLast?_cons]

namespace Reproduced

variable {rows : List AuditChainCheckpoint} {progress : Progress}

/-- A checkpoint counts all events at or below its boundary, where the boundaries
increase and all events stand above zero. -/
theorem counted (hids : DistinctIds events) (hpositive : ∀ row ∈ events, 1 ≤ row.sequenceId)
    (h : Reproduced platform events tenantId rows progress) (hincreasing : (boundaries rows).Pairwise (· < ·)) :
    progress.eventCount = (eventsThrough events tenantId progress.previousThrough).length ∧
      ∀ row ∈ rows, row.eventCount = (eventsThrough events tenantId row.throughSequenceId).length := by
  induction h with
  | start =>
    refine ⟨?_, nofun⟩
    have hnone : eventsThrough events tenantId 0 = [] := by
      rw [List.eq_nil_iff_forall_not_mem]
      intro row hrow
      obtain ⟨hmem, -, hle⟩ := mem_eventsThrough.mp hrow
      have := hpositive row hmem
      omega
    simp [Progress.start, hnone]
  | @concat rows progress row hrows hprevious hcount hdigest ih =>
    rw [boundaries, List.map_append, ← List.cons_append, ← boundaries, List.pairwise_append] at hincreasing
    obtain ⟨hbefore, -, hlast⟩ := hincreasing
    obtain ⟨hprogress, hearlier⟩ := ih hbefore
    have hless : progress.previousThrough < row.throughSequenceId := by
      have hmem : progress.previousThrough ∈ boundaries rows := by
        rw [hrows.progress_eq]
        exact List.mem_of_getLast? getLast_boundaries
      exact hlast _ hmem _ (by simp)
    have hnew : row.eventCount = (eventsThrough events tenantId row.throughSequenceId).length := by
      rw [eventsThrough_split hids hless.le, List.length_append, ← hprogress, hcount]
      simp [hashesBetween]
    refine ⟨hnew, fun other hother => ?_⟩
    obtain hold | rfl := (List.mem_append.mp hother).imp_right List.mem_singleton.mp
    · exact hearlier other hold
    · exact hnew

end Reproduced

end rwa.audit
