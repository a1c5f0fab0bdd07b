import RwaControlPlane.Callbacks.Verdict

open checked js_value

namespace rwa.callbacks

variable {service : CallbackService} {registry : Registry} {tables after : Tables} {now createdAt : Int}
  {clock : Nat → Int} {next : Stream → Nat} {applied : List CallbackReceipt} {row : CallbackReceipt}
  {callback : Callback}

/-- The effect of a callback that was received. -/
def effectOf (row : CallbackReceipt) : CallbackEffect where
  callbackId := row.callbackId
  subjectRef := row.payload.subjectRef
  outcome := row.payload.outcome
  details := row.payload.details

/-- The application of a callback that was received, when its stream expects `next`. -/
def applicationOf (next : Stream → Nat) (row : CallbackReceipt) : CallbackApplication where
  callbackId := row.callbackId
  outcome := if row.streamSequence < next row.stream then some row.payload.outcome else none

/-- The positions after the next callbacks of a stream were applied. -/
def advance (next : Stream → Nat) (stream : Stream) (count : Nat) : Stream → Nat :=
  fun other => if other = stream then next stream + count else next other

/-- The tables record the callbacks that were received, and that `applied` are those of
them that took effect, in order. Of each stream these are the callbacks numbered from
one up to the position of the stream, once each and in this order. -/
structure Tables.Logged (tables : Tables) (next : Stream → Nat) (applied : List CallbackReceipt) : Prop where
  positive : ∀ stream, 0 < next stream
  receiptIds : (tables.receipts.map (·.callbackId)).Nodup
  numbers : (tables.receipts.map fun row => (row.stream, row.streamSequence)).Nodup
  received : applied ⊆ tables.receipts
  inOrder : ∀ stream, (applied.filter (·.stream = stream)).map (·.streamSequence) = List.range' 1 (next stream - 1)
  effects : tables.effects = applied.map effectOf
  evidence : tables.evidence.map (·.callbackId) = applied.map (·.callbackId)
  confirmations : tables.confirmations.map (·.callbackId) = applied.map (·.callbackId)
  applications : tables.applications = tables.receipts.map (applicationOf next)
  incidents : ∀ incident ∈ tables.incidents,
    incident.callbackId ∈ applied.map (·.callbackId) ∨ incident.id = blockedIncidentId incident.callbackId

/-- A callback that was received, has the number that its stream expects, and still is
not applied. -/
def Tables.Holds (tables : Tables) (next : Stream → Nat) (row : CallbackReceipt) : Prop :=
  row ∈ tables.receipts ∧ row.streamSequence = next row.stream

/-- The incident that was opened when a buffered callback could not be applied. -/
def Tables.BlockedAt (tables : Tables) (row : CallbackReceipt) : Prop :=
  ∃ incident ∈ tables.incidents, incident.callbackId = row.callbackId ∧
    incident.id = blockedIncidentId row.callbackId

/-- The effects that the callbacks of a stream have had. -/
def Tables.effectsOf (tables : Tables) (stream : Stream) : List CallbackEffect :=
  tables.effects.filter fun effect =>
    tables.receipts.any fun row => row.callbackId = effect.callbackId ∧ row.stream = stream

@[simp] theorem advance_same {stream : Stream} {count : Nat} : advance next stream count stream = next stream + count :=
  if_pos rfl

theorem advance_other {stream other : Stream} {count : Nat} (h : other ≠ stream) :
    advance next stream count other = next other :=
  if_neg h

@[simp] theorem advance_zero {stream : Stream} : advance next stream 0 = next := by
  funext other
  unfold advance
  split <;> simp_all

theorem advance_advance {stream : Stream} {first second : Nat} :
    advance (advance next stream first) stream second = advance next stream (first + second) := by
  funext other
  by_cases hother : other = stream
  · subst hother
    simp [Nat.add_assoc]
  · simp [advance_other hother]

section Receipts

theorem Tables.Logged.same_number (h : tables.Logged next applied) {first second : CallbackReceipt}
    (hfirst : first ∈ tables.receipts) (hsecond : second ∈ tables.receipts) (hstream : first.stream = second.stream)
    (hsequence : first.streamSequence = second.streamSequence) : first = second :=
  List.inj_on_of_nodup_map h.numbers hfirst hsecond (Prod.ext hstream hsequence)

theorem Tables.Logged.same_id (h : tables.Logged next applied) {first second : CallbackReceipt}
    (hfirst : first ∈ tables.receipts) (hsecond : second ∈ tables.receipts)
    (hid : first.callbackId = second.callbackId) : first = second :=
  List.inj_on_of_nodup_map h.receiptIds hfirst hsecond hid

/-- The applied callbacks are those that are numbered below the positions. -/
theorem Tables.Logged.lt_next (h : tables.Logged next applied) (hrow : row ∈ applied) :
    row.streamSequence < next row.stream := by
  have hnumber : row.streamSequence ∈ (applied.filter (·.stream = row.stream)).map (·.streamSequence) :=
    List.mem_map_of_mem (List.mem_filter.mpr ⟨hrow, decide_eq_true rfl⟩)
  rw [h.inOrder, List.mem_range'_1] at hnumber
  omega

theorem Tables.Logged.effectsOf (h : tables.Logged next applied) (stream : Stream) :
    tables.effectsOf stream = (applied.filter (·.stream = stream)).map effectOf := by
  rw [Tables.effectsOf, h.effects, List.filter_map]
  congr 1
  refine List.filter_congr fun row hrow => ?_
  rw [Function.comp_apply, List.any_eq]
  refine decide_eq_decide.mpr ⟨?_, fun hstream => ⟨row, h.received hrow, ?_⟩⟩
  · rintro ⟨other, hother, hsame⟩
    obtain ⟨hid, hstream⟩ := of_decide_eq_true hsame
    rw [← h.same_id hother (h.received hrow) hid]
    exact hstream
  · exact decide_eq_true ⟨rfl, hstream⟩

theorem Tables.Logged.isBuffered (h : tables.Logged next applied) (hholds : tables.Holds next row) :
    tables.isBuffered row.callbackId = true := by
  rw [Tables.isBuffered, List.any_eq_true]
  refine ⟨applicationOf next row, ?_, ?_⟩
  · rw [h.applications]
    exact List.mem_map_of_mem hholds.1
  · simp [applicationOf, hholds.2]

end Receipts

section Applying

/-- What applying a callback adds to the tables. -/
structure Adds (tables after : Tables) (callback : Callback) : Prop where
  positions : after.positions = tables.positions
  receipts : after.receipts = tables.receipts
  applications : after.applications = tables.applications
  effects : after.effects = tables.effects ++
    [⟨callback.callbackId, callback.payload.subjectRef, callback.payload.outcome, callback.payload.details⟩]
  evidence : after.evidence.map (·.callbackId) = tables.evidence.map (·.callbackId) ++ [callback.callbackId]
  confirmations : after.confirmations.map (·.callbackId) =
    tables.confirmations.map (·.callbackId) ++ [callback.callbackId]
  incidents : ∃ opened, after.incidents = tables.incidents ++ opened ∧
    ∀ incident ∈ opened, incident.callbackId = callback.callbackId

theorem apply_adds (h : apply service registry createdAt tables callback = .ok after) : Adds tables after callback := by
  simp only [apply, recordEvidenceAndReconciliation, bind_eq_ok_iff, exists_unit] at h
  obtain ⟨-, ⟨transactionId, reconciliation⟩, -, h⟩ := h
  cases hincident : incidentOf callback transactionId reconciliation with
  | some incident =>
    simp only [hincident, Tables.openIncident, bind_eq_ok_iff, exists_unit, pure_eq_ok_iff] at h
    obtain ⟨-, rfl⟩ := h
    refine ⟨rfl, rfl, rfl, rfl, List.map_append, List.map_append, [incident], rfl, ?_⟩
    intro opened hopened
    obtain rfl := List.mem_singleton.mp hopened
    obtain ⟨reason, -, rfl⟩ := Option.map_eq_some_iff.mp hincident
    rfl
  | none =>
    simp only [hincident] at h
    obtain rfl := Except.ok.inj h
    refine ⟨rfl, rfl, rfl, rfl, List.map_append, List.map_append, [], (List.append_nil _).symm, ?_⟩
    exact List.forall_mem_nil _

theorem applicationOf_advance (h : tables.Logged next applied) (hholds : tables.Holds next row)
    {other : CallbackReceipt} (hother : other ∈ tables.receipts) :
    applicationOf (advance next row.stream 1) other =
      if other.callbackId = row.callbackId then { applicationOf next other with outcome := some row.payload.outcome }
      else applicationOf next other := by
  by_cases hid : other.callbackId = row.callbackId
  · obtain rfl := h.same_id hother hholds.1 hid
    rw [if_pos rfl]
    simp [applicationOf, hholds.2]
  · rw [if_neg hid]
    by_cases hstream : other.stream = row.stream
    · have hnumber : other.streamSequence ≠ next row.stream := by
        intro hnumber
        exact hid (congrArg _ (h.same_number hother hholds.1 hstream (hnumber.trans hholds.2.symm)))
      simp only [applicationOf, hstream, advance_same]
      congr 1
      exact if_congr (by omega) rfl rfl
    · simp only [applicationOf, advance_other hstream]

/-- A buffered callback that its stream expects is applied. -/
theorem Tables.Logged.apply (h : tables.Logged next applied) (hholds : tables.Holds next row)
    (hid : callback.callbackId = row.callbackId) (hpayload : callback.payload = row.payload)
    (happly : apply service registry createdAt (markApplied tables callback) callback = .ok after) :
    after.Logged (advance next row.stream 1) (applied ++ [row]) := by
  have hadds := apply_adds happly
  refine ⟨?_, ?_, ?_, ?_, ?_, ?_, ?_, ?_, ?_, ?_⟩
  · intro stream
    unfold advance
    have hpositive := h.positive stream
    split <;> omega
  · rw [hadds.receipts]
    exact h.receiptIds
  · rw [hadds.receipts]
    exact h.numbers
  · rw [hadds.receipts]
    exact List.append_subset.mpr ⟨h.received, List.cons_subset.mpr ⟨hholds.1, List.nil_subset _⟩⟩
  · intro stream
    rw [List.filter_append, List.map_append, h.inOrder]
    by_cases hstream : row.stream = stream
    · subst hstream
      have hpositive := h.positive row.stream
      rw [advance_same, List.filter_singleton, Nat.add_sub_cancel]
      simp only [decide_true, cond_true, List.map_singleton, hholds.2]
      obtain ⟨count, hcount⟩ := Nat.exists_eq_succ_of_ne_zero hpositive.ne'
      rw [hcount, Nat.succ_sub_one, Nat.succ_eq_add_one, List.range'_1_concat, Nat.add_comm 1 count]
    · rw [advance_other (Ne.symm hstream), List.filter_singleton]
      simp [hstream]
  · rw [hadds.effects, markApplied, h.effects, List.map_append, hid, hpayload]
    rfl
  · rw [hadds.evidence, markApplied, h.evidence, List.map_append, hid]
    rfl
  · rw [hadds.confirmations, markApplied, h.confirmations, List.map_append, hid]
    rfl
  · rw [hadds.applications, hadds.receipts, markApplied, h.applications, List.map_map]
    refine List.map_congr_left fun other hother => ?_
    rw [applicationOf_advance h hholds hother, Function.comp_apply, hid, hpayload]
    rfl
  · obtain ⟨opened, hopened, hopenedIds⟩ := hadds.incidents
    rw [hopened, List.map_append]
    intro incident hincident
    rcases List.mem_append.mp hincident with hold | hnew
    · rcases h.incidents incident hold with happlied | hblocked
      · exact Or.inl (List.mem_append_left _ happlied)
      · exact Or.inr hblocked
    · left
      rw [hopenedIds incident hnew, hid]
      exact List.mem_append_right _ (List.mem_singleton_self _)

end Applying

section Receiving

/-- A callback whose id and number are new is received. -/
theorem Tables.Logged.insert (h : tables.Logged next applied)
    (hid : ∀ other ∈ tables.receipts, other.callbackId ≠ row.callbackId)
    (hnumber : ∀ other ∈ tables.receipts, other.stream = row.stream → other.streamSequence ≠ row.streamSequence)
    (hnext : next row.stream ≤ row.streamSequence) :
    Tables.Logged
      { tables with
        receipts := tables.receipts ++ [row], applications := tables.applications ++ [⟨row.callbackId, none⟩] }
      next applied := by
  refine ⟨h.positive, ?_, ?_, ?_, h.inOrder, h.effects, h.evidence, h.confirmations, ?_, h.incidents⟩
  · rw [List.map_append]
    refine List.Nodup.append h.receiptIds (List.nodup_singleton _) ?_
    rw [List.map_singleton, List.disjoint_singleton]
    intro hmem
    obtain ⟨other, hother, heq⟩ := List.mem_map.mp hmem
    exact hid other hother heq
  · rw [List.map_append]
    refine List.Nodup.append h.numbers (List.nodup_singleton _) ?_
    rw [List.map_singleton, List.disjoint_singleton]
    intro hmem
    obtain ⟨other, hother, heq⟩ := List.mem_map.mp hmem
    exact hnumber other hother (congrArg Prod.fst heq) (congrArg Prod.snd heq)
  · exact fun other hother => List.mem_append_left _ (h.received hother)
  · rw [List.map_append, h.applications, List.map_singleton, applicationOf, if_neg (by omega)]

private theorem find?_repositioned {positions : List StreamPosition} {stream other : Stream} {sequence : Nat} :
    (positions.map fun row => if row.stream = stream then { row with nextSequence := sequence } else row).find?
        (·.stream = other) =
      (positions.find? (·.stream = other)).map fun row =>
        if row.stream = stream then { row with nextSequence := sequence } else row := by
  rw [List.find?_map]
  congr 2
  funext row
  rw [Function.comp_apply]
  split <;> rfl

theorem nextSequence_setPosition {stream other : Stream} {sequence : Nat} :
    (tables.setPosition stream sequence).nextSequence other =
      if other = stream then sequence else tables.nextSequence other := by
  unfold Tables.setPosition Tables.nextSequence
  by_cases hknown : tables.positions.any (·.stream = stream) = true
  · rw [if_pos hknown]
    dsimp only
    rw [find?_repositioned]
    cases hfound : tables.positions.find? (·.stream = other) with
    | none =>
      have hother : other ≠ stream := by
        rintro rfl
        obtain ⟨position, hposition, hstream⟩ := List.any_eq_true.mp hknown
        exact absurd hstream (List.find?_eq_none.mp hfound position hposition)
      rw [if_neg hother]
      rfl
    | some position =>
      have hstream : position.stream = other := by simpa using List.find?_some hfound
      simp only [Option.map_some, hstream]
      split <;> rfl
  · rw [if_neg hknown]
    dsimp only
    rw [List.find?_append]
    by_cases hother : other = stream
    · subst hother
      have hnone : tables.positions.find? (·.stream = other) = none := by
        rw [List.find?_eq_none]
        exact fun position hposition hstream => hknown (List.any_eq_true.mpr ⟨position, hposition, hstream⟩)
      simp [hnone]
    · rw [if_neg hother]
      cases tables.positions.find? (·.stream = other) <;> simp [Ne.symm hother]

theorem nextSequence_repositioned {stream : Stream} (h : after.positions = tables.positions) :
    (after.setPosition stream (tables.nextSequence stream)).nextSequence = tables.nextSequence := by
  funext other
  rw [nextSequence_setPosition]
  split
  · next hsame => rw [hsame]
  · unfold Tables.nextSequence
    rw [h]

@[simp] theorem setPosition_receipts {stream : Stream} {sequence : Nat} :
    (tables.setPosition stream sequence).receipts = tables.receipts := by
  unfold Tables.setPosition
  split <;> rfl

@[simp] theorem setPosition_effects {stream : Stream} {sequence : Nat} :
    (tables.setPosition stream sequence).effects = tables.effects := by
  unfold Tables.setPosition
  split <;> rfl

@[simp] theorem setPosition_incidents {stream : Stream} {sequence : Nat} :
    (tables.setPosition stream sequence).incidents = tables.incidents := by
  unfold Tables.setPosition
  split <;> rfl

theorem Tables.Logged.positioned (h : tables.Logged next applied) {stream : Stream} {sequence : Nat} :
    (tables.setPosition stream sequence).Logged next applied := by
  unfold Tables.setPosition
  split <;> exact ⟨h.1, h.2, h.3, h.4, h.5, h.6, h.7, h.8, h.9, h.10⟩

/-- A stream has not passed more callbacks than were received. -/
theorem Tables.Logged.next_le (h : tables.Logged next applied) (stream : Stream) :
    next stream ≤ tables.receipts.length + 1 := by
  have hnodup : (applied.filter (·.stream = stream)).Nodup := by
    apply List.Nodup.of_map (·.streamSequence)
    rw [h.inOrder]
    exact List.nodup_range'
  have hsubset : applied.filter (·.stream = stream) ⊆ tables.receipts :=
    fun row hrow => h.received (List.mem_filter.mp hrow).1
  have hlength := (hnodup.subperm hsubset).length_le
  rw [← List.length_map (f := (·.streamSequence)), h.inOrder, List.length_range'] at hlength
  omega

/-- A buffered callback without authority is not applied, and has its incident. -/
theorem Tables.Logged.block {reasonCode : String} (h : tables.Logged next applied) (hholds : tables.Holds next row)
    (hid : callback.callbackId = row.callbackId)
    (hblock : openBlockedStreamIncident tables callback reasonCode = .ok after) :
    after.Logged next applied ∧ after.BlockedAt row ∧ after.receipts = tables.receipts ∧
      after.positions = tables.positions ∧ tables.incidents ⊆ after.incidents := by
  unfold openBlockedStreamIncident at hblock
  split at hblock
  · next hknown =>
    obtain rfl := Except.ok.inj hblock
    obtain ⟨incident, hincident, hsame⟩ := List.any_eq_true.mp hknown
    have hincidentId : incident.callbackId = row.callbackId := (of_decide_eq_true hsame).trans hid
    refine ⟨h, ⟨incident, hincident, hincidentId, ?_⟩, rfl, rfl, List.Subset.refl _⟩
    rcases h.incidents incident hincident with happlied | hblocked
    · -- an applied callback is numbered below the position
      obtain ⟨other, hother, hotherId⟩ := List.mem_map.mp happlied
      obtain rfl := h.same_id (h.received hother) hholds.1 (hotherId.trans hincidentId)
      exact absurd (h.lt_next hother) (by rw [hholds.2]; omega)
    · rw [hblocked, hincidentId]
  · simp only [Tables.openIncident, bind_eq_ok_iff, exists_unit, pure_eq_ok_iff] at hblock
    obtain ⟨-, rfl⟩ := hblock
    refine ⟨⟨h.1, h.2, h.3, h.4, h.5, h.6, h.7, h.8, h.9, ?_⟩, ?_, rfl, rfl, List.subset_append_left _ _⟩
    · refine List.forall_mem_append.mpr ⟨h.incidents, List.forall_mem_singleton.mpr (Or.inr rfl)⟩
    · exact ⟨_, List.mem_append_right _ (List.mem_singleton_self _), hid, congrArg blockedIncidentId hid⟩

/-- What the loop of `receive` leaves behind: the next callbacks of the stream are applied.
If one that was received is expected then, it is blocked, or the fuel is used up. -/
structure Drains (tables : Tables) (next : Stream → Nat) (applied : List CallbackReceipt) (stream : Stream) (fuel : Nat)
    (drained : Drained) : Prop where
  logged : ∃ rows, rows.length = drained.applied.length ∧
    drained.tables.Logged (advance next stream drained.applied.length) (applied ++ rows)
  blocked : ∀ row, drained.tables.Holds (advance next stream drained.applied.length) row → row.stream = stream →
    drained.tables.BlockedAt row ∨ drained.applied.length = fuel
  receipts : drained.tables.receipts = tables.receipts
  positions : drained.tables.positions = tables.positions
  incidents : tables.incidents ⊆ drained.tables.incidents

theorem drain_drains {stream : Stream} {fuel : Nat} :
    ∀ {sequence : Nat} {tables : Tables} {next : Stream → Nat} {applied : List CallbackReceipt} {drained : Drained},
      tables.Logged next applied → next stream = sequence →
      drain service registry now clock stream fuel sequence tables = .ok drained →
      Drains tables next applied stream fuel drained := by
  induction fuel with
  | zero =>
    intro sequence tables next applied drained h hnext hdrain
    obtain rfl := Except.ok.inj hdrain
    refine ⟨⟨[], rfl, ?_⟩, fun _ _ _ => Or.inr rfl, rfl, rfl, List.Subset.refl _⟩
    simpa using h
  | succ fuel ih =>
    intro sequence tables next applied drained h hnext hdrain
    unfold drain at hdrain
    split at hdrain
    · next hnone =>
      obtain rfl := Except.ok.inj hdrain
      refine ⟨⟨[], rfl, ?_⟩, fun row hholds hstream => ?_, rfl, rfl, List.Subset.refl _⟩
      · simpa using h
      · rw [List.length_nil, advance_zero] at hholds
        have hnot := List.find?_eq_none.mp hnone row hholds.1
        simp only [hstream, hholds.2, hnext, h.isBuffered hholds, true_and, decide_true, not_true_eq_false] at hnot
    · next row hfound =>
      have hrow := List.find?_some hfound
      simp only [decide_eq_true_eq] at hrow
      obtain ⟨hstream, hsequence, -⟩ := hrow
      have hholds : tables.Holds next row := by
        refine ⟨List.mem_of_find?_eq_some hfound, ?_⟩
        rw [hstream, hnext, hsequence]
      dsimp only at hdrain
      split at hdrain
      · obtain ⟨blocked, hblocked, hdrain⟩ := bind_eq_ok_iff.mp hdrain
        obtain rfl := pure_eq_ok_iff.mp hdrain
        obtain ⟨hlogged, hat, hreceipts, hpositions, hincidents⟩ := h.block hholds rfl hblocked
        refine ⟨⟨[], rfl, ?_⟩, fun other hother hsame => Or.inl ?_, hreceipts, hpositions, hincidents⟩
        · simpa using hlogged
        · rw [List.length_nil, advance_zero] at hother
          have hmem := hother.1
          rw [hreceipts] at hmem
          obtain rfl := h.same_number hmem hholds.1 (hsame.trans hstream.symm)
            (by rw [hother.2, hsame, hnext, hsequence])
          exact hat
      · obtain ⟨recorded, hrecorded, hdrain⟩ := bind_eq_ok_iff.mp hdrain
        obtain ⟨rest, hrest, hdrain⟩ := bind_eq_ok_iff.mp hdrain
        obtain rfl := pure_eq_ok_iff.mp hdrain
        have hadds := apply_adds hrecorded
        have hlogged := h.apply hholds rfl rfl hrecorded
        rw [hstream] at hlogged
        have hdrains := ih hlogged (by rw [advance_same, hnext]) hrest
        obtain ⟨rows, hlength, hrows⟩ := hdrains.logged
        obtain ⟨opened, hopened, -⟩ := hadds.incidents
        rw [advance_advance, Nat.add_comm] at hrows
        refine ⟨⟨row :: rows, congrArg _ hlength, ?_⟩, fun other hother hsame => ?_, ?_, ?_, ?_⟩
        · rw [List.append_cons]
          exact hrows
        · rw [List.length_cons, Nat.add_comm, ← advance_advance] at hother
          rw [List.length_cons, Nat.succ_inj]
          exact hdrains.blocked other hother hsame
        · exact hdrains.receipts.trans hadds.receipts
        · exact hdrains.positions.trans hadds.positions
        · refine List.Subset.trans ?_ hdrains.incidents
          rw [hopened]
          exact List.subset_append_left _ _

/-- The log at rest: a callback that its stream expects, and that was received, is
blocked. -/
structure Tables.Sound (tables : Tables) (applied : List CallbackReceipt) : Prop where
  logged : tables.Logged tables.nextSequence applied
  blocked : ∀ row, tables.Holds tables.nextSequence row → tables.BlockedAt row

/-- Positions are those of the tables. -/
private theorem Tables.Sound.of_positions {stream : Stream} {sequence : Nat} (h : tables.Logged next applied)
    (hnext : (tables.setPosition stream sequence).nextSequence = next)
    (hblocked : ∀ row, tables.Holds next row → tables.BlockedAt row) :
    (tables.setPosition stream sequence).Sound applied := by
  refine ⟨?_, fun row hholds => ?_⟩
  · rw [hnext]
    exact h.positioned
  · rw [hnext, Tables.Holds, setPosition_receipts] at hholds
    rw [Tables.BlockedAt, setPosition_incidents]
    exact hblocked row hholds

/-- What a call leaves of a stream: its log goes on, and what was received stays. A
stream that holds a callback stays where it is. -/
structure Continues (tables after : Tables) (applied later : List CallbackReceipt) : Prop where
  sound : after.Sound (applied ++ later)
  receipts : tables.receipts ⊆ after.receipts
  stalled : ∀ row, tables.Holds tables.nextSequence row → after.nextSequence row.stream = tables.nextSequence row.stream

theorem Continues.refl (h : tables.Sound applied) : Continues tables tables applied [] := by
  refine ⟨?_, List.Subset.refl _, fun _ _ => rfl⟩
  rw [List.append_nil]
  exact h

theorem Continues.trans {last : Tables} {later more : List CallbackReceipt} (h : Continues tables after applied later)
    (h' : Continues after last (applied ++ later) more) : Continues tables last applied (later ++ more) := by
  refine ⟨?_, List.Subset.trans h.receipts h'.receipts, fun row hholds => ?_⟩
  · rw [← List.append_assoc]
    exact h'.sound
  · rw [h'.stalled row ⟨h.receipts hholds.1, hholds.2.trans (h.stalled row hholds).symm⟩, h.stalled row hholds]

/-- The callback that a stream expects is applied, with those buffered behind it. -/
private theorem receiveExpected_continues {received : Received} (h : tables.Sound applied)
    (hid : ∀ other ∈ tables.receipts, other.callbackId ≠ row.callbackId)
    (hnumber : ∀ other ∈ tables.receipts, other.stream = row.stream → other.streamSequence ≠ row.streamSequence)
    (hexpected : row.streamSequence = tables.nextSequence row.stream)
    (hcallbackId : callback.callbackId = row.callbackId)
    (hstream : callback.stream = row.stream) (hsequence : callback.sequence = row.streamSequence)
    (hpayload : callback.payload = row.payload)
    (hreceived : receiveExpected service registry now clock { tables with receipts := tables.receipts ++ [row] }
      callback = .ok received) :
    ∃ later, Continues tables received.tables applied later := by
  simp only [receiveExpected, bind_eq_ok_iff, pure_eq_ok_iff] at hreceived
  obtain ⟨recorded, hrecorded, drained, hdrained, rfl⟩ := hreceived
  have hinserted := h.logged.insert hid hnumber hexpected.ge
  have hholds : Tables.Holds
      { tables with
        receipts := tables.receipts ++ [row], applications := tables.applications ++ [⟨row.callbackId, none⟩] }
      tables.nextSequence row := ⟨List.mem_append_right _ (List.mem_singleton_self _), hexpected⟩
  have hmarked : { tables with
      receipts := tables.receipts ++ [row]
      applications := tables.applications ++ [⟨callback.callbackId, some callback.payload.outcome⟩] } =
      markApplied { tables with
        receipts := tables.receipts ++ [row], applications := tables.applications ++ [⟨row.callbackId, none⟩] }
        callback := by
    rw [markApplied]
    dsimp only
    congr 1
    rw [List.map_append, h.logged.applications, List.map_map, hcallbackId]
    congr 1
    · refine (List.map_congr_left fun other hother => ?_).symm
      exact if_neg (hid other hother)
    · simp
  rw [hmarked] at hrecorded
  have hadds := apply_adds hrecorded
  have hfirst := hinserted.apply hholds hcallbackId hpayload hrecorded
  rw [hstream] at hdrained
  have hdrains := drain_drains hfirst (by rw [advance_same, hsequence, hexpected]) hdrained
  obtain ⟨rows, hlength, hlogged⟩ := hdrains.logged
  rw [advance_advance] at hlogged
  have hreceipts : drained.tables.receipts = tables.receipts ++ [row] := hdrains.receipts.trans hadds.receipts
  have hpositions : drained.tables.nextSequence = tables.nextSequence := by
    funext other
    rw [Tables.nextSequence, Tables.nextSequence, hdrains.positions, hadds.positions]
    rfl
  have hnext : (drained.tables.setPosition callback.stream
      (callback.sequence + 1 + drained.applied.length)).nextSequence =
      advance tables.nextSequence row.stream (1 + drained.applied.length) := by
    funext other
    rw [nextSequence_setPosition, advance, hpositions, hstream, hsequence, hexpected, Nat.add_assoc]
  refine ⟨row :: rows, Tables.Sound.of_positions ?_ hnext fun other hother => ?_, ?_, fun other hother => ?_⟩
  · rw [List.append_cons]
    exact hlogged
  · by_cases hsame : other.stream = row.stream
    · rw [← advance_advance] at hother
      refine (hdrains.blocked other hother hsame).resolve_right fun hfuel => ?_
      -- more callbacks would be applied than were received
      have hle := hlogged.next_le row.stream
      have hpositive := h.logged.positive row.stream
      rw [advance_same, hfuel, hadds.receipts, hreceipts] at hle
      simp only [markApplied, List.length_append, List.length_singleton] at hle
      omega
    · rw [Tables.Holds, advance_other hsame, hreceipts] at hother
      obtain ⟨hmem, hheld⟩ := hother
      have hold : other ∈ tables.receipts := by
        refine (List.mem_append.mp hmem).resolve_right fun hnew => hsame ?_
        rw [List.mem_singleton.mp hnew]
      obtain ⟨incident, hincident, hfacts⟩ := h.blocked other ⟨hold, hheld⟩
      obtain ⟨opened, hopened, -⟩ := hadds.incidents
      refine ⟨incident, hdrains.incidents ?_, hfacts⟩
      rw [hopened]
      exact List.mem_append_left _ hincident
  · rw [setPosition_receipts, hreceipts]
    exact List.subset_append_left _ _
  · rw [hnext, advance_other]
    intro hsame
    exact hnumber other hother.1 hsame (by rw [hother.2, hsame, hexpected])

/-- A callback whose id is new is applied, buffered or refused. -/
private theorem receiveNew_continues {envelope : Envelope} {payload : Payload} {envelopeHash : String}
    {received : Received} (h : tables.Sound applied)
    (hid : ∀ other ∈ tables.receipts, other.callbackId ≠ envelope.callbackId)
    (hreceived : receiveNew service registry now clock tables envelope payload envelopeHash = .ok received) :
    ∃ later, Continues tables received.tables applied later := by
  simp only [receiveNew, bind_eq_ok_iff, throwIf_eq_ok_iff, exists_unit, not_exists, not_and, not_lt] at hreceived
  obtain ⟨hposition, ⟨occurredAt, expiresAt⟩, -, hnumber, hreceived⟩ := hreceived
  split at hreceived
  · next hexpected => exact receiveExpected_continues h hid hnumber hexpected rfl rfl rfl rfl hreceived
  · next hlater =>
    obtain rfl := pure_eq_ok_iff.mp hreceived
    refine ⟨[], ?_, ?_, fun row _ => ?_⟩
    · rw [List.append_nil]
      refine Tables.Sound.of_positions (h.logged.insert hid hnumber hposition) ?_ fun row hholds => ?_
      · exact nextSequence_repositioned rfl
      · obtain ⟨hmem, hheld⟩ := hholds
        rcases List.mem_append.mp hmem with hold | hnew
        · exact h.blocked row ⟨hold, hheld⟩
        · obtain rfl := List.mem_singleton.mp hnew
          exact absurd hheld hlater
    · rw [setPosition_receipts]
      exact List.subset_append_left _ _
    · exact congrFun (nextSequence_repositioned rfl) row.stream

/-- A call of `receive` continues the log. -/
theorem receive_continues {posted : PostedCallback} {received : Received} (h : tables.Sound applied)
    (hreceived : receive service registry now clock tables posted = .ok received) :
    ∃ later, Continues tables received.tables applied later := by
  simp only [receive, bind_eq_ok_iff, exists_unit] at hreceived
  obtain ⟨envelope, -, -, payload, -, envelopeHash, -, hreceived⟩ := hreceived
  split at hreceived
  · obtain ⟨_, -, hreceived⟩ := bind_eq_ok_iff.mp hreceived
    obtain rfl := pure_eq_ok_iff.mp hreceived
    exact ⟨[], Continues.refl h⟩
  · next hnone =>
    refine receiveNew_continues h (fun other hother hsame => ?_) hreceived
    exact absurd (decide_eq_true hsame) (List.find?_eq_none.mp hnone other hother)

end Receiving

theorem Tables.Sound.empty : Tables.empty.Sound [] := by
  refine ⟨⟨fun _ => Nat.one_pos, List.nodup_nil, List.nodup_nil, List.Subset.refl _, fun _ => rfl, rfl, rfl, rfl, rfl,
    ?_⟩, ?_⟩
  · exact List.forall_mem_nil _
  · exact fun row hholds => absurd hholds.1 List.not_mem_nil

end rwa.callbacks

namespace rwa.reconciliation

open rwa.callbacks
open rwa.security (EconomicCommitter)

variable {mac : String → String → String} (services : Services)

section Runs

variable {services} {state : State mac} {applied : List CallbackReceipt}

/-- A step of any service continues the log. -/
theorem step_continues (action : Action mac) (h : state.tables.Sound applied) :
    ∃ later, Continues state.tables (step services state action).tables applied later := by
  cases action with
  | workflow tenantId action => exact ⟨[], Continues.refl h⟩
  | receive tenantId now clock posted =>
    simp only [step]
    split
    · next received hreceived => exact receive_continues h hreceived
    · exact ⟨[], Continues.refl h⟩
  | deploy committer => exact ⟨[], Continues.refl h⟩
  | changeRegistry institutions roleAssignments signingKeys catalogProducts => exact ⟨[], Continues.refl h⟩
  | recordConfidential row => exact ⟨[], Continues.refl h⟩

theorem run_continues (actions : List (Action mac)) (h : state.tables.Sound applied) :
    ∃ later, Continues state.tables (runs.run (step services) state actions).tables applied later := by
  induction actions generalizing state applied with
  | nil => exact ⟨[], Continues.refl h⟩
  | cons action rest ih =>
    obtain ⟨first, hfirst⟩ := step_continues action h
    obtain ⟨later, hlater⟩ := ih hfirst.sound
    exact ⟨first ++ later, hfirst.trans hlater⟩

end Runs

/-- In every run of the callback service, whatever the order in which envelopes arrive and
whatever happens between them, each stream takes effect callback by callback: those that
it has applied are numbered from one up to its position, each of them once and in this
order, and the log of what was applied only grows. -/
theorem callbacks_applied_in_order (committer : EconomicCommitter mac) (actions : List (Action mac)) :
    ∃ applied,
      (run services committer actions).tables.Logged (run services committer actions).tables.nextSequence applied ∧
      ∀ more, ∃ later,
        (run services committer (actions ++ more)).tables.Logged
          (run services committer (actions ++ more)).tables.nextSequence (applied ++ later) := by
  obtain ⟨applied, hstart⟩ := @run_continues _ services (State.initial committer) [] actions Tables.Sound.empty
  refine ⟨applied, hstart.sound.logged, fun more => ?_⟩
  obtain ⟨later, hlater⟩ := run_continues more hstart.sound
  refine ⟨later, ?_⟩
  rw [run, runs.run_append]
  exact hlater.sound.logged

/-- When the next callback of a stream was received and is not applied, an incident about it
was opened, and the stream never moves again: whatever happens later, it expects this
callback, and none of its callbacks has an effect. -/
theorem stalled_stream_never_moves (committer : EconomicCommitter mac) (actions : List (Action mac))
    {row : CallbackReceipt}
    (hholds : (run services committer actions).tables.Holds (run services committer actions).tables.nextSequence row) :
    (run services committer actions).tables.BlockedAt row ∧
      ∀ more, (run services committer (actions ++ more)).tables.Holds
          (run services committer (actions ++ more)).tables.nextSequence row ∧
        (run services committer (actions ++ more)).tables.effectsOf row.stream =
          (run services committer actions).tables.effectsOf row.stream := by
  obtain ⟨applied, hstart⟩ := @run_continues _ services (State.initial committer) [] actions Tables.Sound.empty
  refine ⟨hstart.sound.blocked row hholds, fun more => ?_⟩
  obtain ⟨later, hlater⟩ := run_continues more hstart.sound
  have hnext := hlater.stalled row hholds
  rw [run, runs.run_append]
  refine ⟨⟨hlater.receipts hholds.1, hholds.2.trans hnext.symm⟩, ?_⟩
  have hbefore := hstart.sound.logged
  have hafter := hlater.sound.logged
  have hnone : later.filter (·.stream = row.stream) = [] := by
    have hnumbers := hafter.inOrder row.stream
    rw [hnext, ← hbefore.inOrder, List.filter_append, List.map_append, List.append_right_eq_self] at hnumbers
    exact List.map_eq_nil_iff.mp hnumbers
  rw [hafter.effectsOf, run, hbefore.effectsOf, List.filter_append, hnone, List.append_nil]

section Sample

/-- A statement of the sample's custodian. -/
def custodyStatement (callbackId keyId : String) (sequence : Nat) : PostedCallback :=
  let payload : JsValue := .object
    [("subjectType", .string "POSITION"), ("subjectRef", .string "vault-1"), ("outcome", .string "CONFIRMED"),
      ("details", .object [("statementId", .string callbackId), ("assetCode", .string "UNIT:fund"),
        ("balanceUnits", .string "5"), ("asOf", .string "2")])]
  { members :=
      [("schema", .string callbackSchema), ("callbackId", .string callbackId), ("tenantId", .string "sandbox-hk"),
        ("institutionId", .string "vault"), ("productId", .string "fund"), ("channel", .string "CUSTODY"),
        ("eventType", .string "CUSTODY.CONFIRMED"), ("occurredAt", .string "2"), ("expiresAt", .string "1000"),
        ("keyId", .string keyId), ("sequence", .number sequence), ("payload", payload),
        ("payloadHash", .string ((storage.sha256Canonical deployment.callbacks.platform payload).toOption.getD "")),
        ("signature", .string "c2lnbmF0dXJl")]
    json := fun _ => rfl }

/-- The registry of the sample, with the keys of the custodian. -/
def custodian (keyIds : List String) : Action sampleMac :=
  .changeRegistry [⟨"vault", "Vault", "HK", .active, "key"⟩] [⟨"fund", "custodian", "vault", 0, none⟩]
    (keyIds.map fun keyId => ⟨"vault", keyId, "Ed25519", "key", .active, 0, none, none⟩) []

/-- The second statement comes first, and its key is revoked before the first one comes. -/
private def revokedMeanwhile : List (Action sampleMac) :=
  [custodian ["key-1", "key-2"], .receive "sandbox-hk" 5 (fun _ => 5) (custodyStatement "statement-2" "key-2" 2),
    custodian ["key-1"], .receive "sandbox-hk" 5 (fun _ => 5) (custodyStatement "statement-1" "key-1" 1)]

theorem stalled_stream_never_moves_sample :
    ∃ row ∈ (run deployment firstCommitter revokedMeanwhile).tables.receipts, row.streamSequence = 2 ∧
      ∀ more, ((run deployment firstCommitter (revokedMeanwhile ++ more)).tables.effectsOf row.stream).map
        (·.callbackId) = ["statement-1"] := by
  have hheld : ∃ row ∈ (run deployment firstCommitter revokedMeanwhile).tables.receipts,
      row.streamSequence = (run deployment firstCommitter revokedMeanwhile).tables.nextSequence row.stream ∧
      row.streamSequence = 2 ∧
      ((run deployment firstCommitter revokedMeanwhile).tables.effectsOf row.stream).map (·.callbackId) =
        ["statement-1"] := by
    decide +kernel
  obtain ⟨row, hmem, hnext, hsequence, heffects⟩ := hheld
  refine ⟨row, hmem, hsequence, fun more => ?_⟩
  rw [((stalled_stream_never_moves deployment firstCommitter revokedMeanwhile ⟨hmem, hnext⟩).2 more).2, heffects]

end Sample

end rwa.reconciliation
