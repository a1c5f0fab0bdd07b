import RwaControlPlane.Callbacks.Accepted
import RwaControlPlane.Callbacks.Receive

open checked js_value

namespace rwa.callbacks

variable {service : CallbackService} {registry : Registry} {tables after : Tables} {callback : Callback} {now : Int}
  {clock : Nat → Int}

/-- The confirmation of a callback says how the callback reconciles, and the incident
that this calls for is open. -/
structure RecordedAs (service : CallbackService) (registry : Registry) (tables : Tables) (callback : Callback)
    (row : Confirmation) : Prop where
  callbackId : row.callbackId = callback.callbackId
  channel : row.channel = callback.stream.channel
  outcome : row.outcome = callback.payload.outcome
  reconciled : reconcile service registry callback = .ok (row.transactionId, row.reconciliation)
  incident : ∀ incident ∈ incidentOf callback row.transactionId row.reconciliation, incident ∈ tables.incidents

/-- What applying callbacks does to the tables: one confirmation for each of them, in
order. Nothing that was recorded before is lost. -/
structure Applies (service : CallbackService) (registry : Registry) (before after : Tables)
    (applied : List Callback) : Prop where
  receipts : after.receipts = before.receipts
  incidents : before.incidents ⊆ after.incidents
  confirmed : ∃ rows, after.confirmations = before.confirmations ++ rows ∧
    List.Forall₂ (RecordedAs service registry after) applied rows

section Applying

theorem RecordedAs.mono {row : Confirmation} (h : RecordedAs service registry tables callback row)
    (hincidents : tables.incidents ⊆ after.incidents) : RecordedAs service registry after callback row :=
  ⟨h.callbackId, h.channel, h.outcome, h.reconciled, fun incident hincident =>
    hincidents (h.incident incident hincident)⟩

theorem Applies.refl : Applies service registry tables tables [] :=
  ⟨rfl, List.Subset.refl _, [], by rw [List.append_nil], .nil⟩

theorem Applies.trans {last : Tables} {first second : List Callback} (h : Applies service registry tables after first)
    (h' : Applies service registry after last second) : Applies service registry tables last (first ++ second) := by
  obtain ⟨rows, hrows, hrecorded⟩ := h.confirmed
  obtain ⟨more, hmore, hrecorded'⟩ := h'.confirmed
  refine ⟨h'.receipts.trans h.receipts, List.Subset.trans h.incidents h'.incidents, rows ++ more, ?_, ?_⟩
  · rw [hmore, hrows, List.append_assoc]
  · exact List.rel_append (hrecorded.imp fun _ _ hrow => hrow.mono h'.incidents) hrecorded'

/-- Tables that differ in positions, applications and effects only. -/
theorem Applies.of_eq {applied : List Callback} {next : Tables} (h : Applies service registry tables after applied)
    (hreceipts : next.receipts = after.receipts) (hincidents : next.incidents = after.incidents)
    (hconfirmations : next.confirmations = after.confirmations) : Applies service registry tables next applied := by
  obtain ⟨rows, hrows, hrecorded⟩ := h.confirmed
  refine ⟨hreceipts.trans h.receipts, ?_, rows, hconfirmations.trans hrows, ?_⟩
  · rw [hincidents]
    exact h.incidents
  · refine hrecorded.imp fun _ _ hrow => hrow.mono ?_
    rw [hincidents]
    exact List.Subset.refl _

theorem Applies.setPosition {applied : List Callback} (h : Applies service registry tables after applied)
    (stream : Stream) (nextSequence : Nat) :
    Applies service registry tables (after.setPosition stream nextSequence) applied := by
  unfold Tables.setPosition
  split <;> exact h.of_eq rfl rfl rfl

private theorem openIncident_ok {incident : Incident} (h : tables.openIncident incident = .ok after) :
    after = { tables with incidents := tables.incidents ++ [incident] } := by
  simp only [Tables.openIncident, bind_eq_ok_iff, exists_unit, pure_eq_ok_iff] at h
  exact h.2.symm

theorem openBlockedStreamIncident_applies {reasonCode : String}
    (h : openBlockedStreamIncident tables callback reasonCode = .ok after) :
    Applies service registry tables after [] := by
  unfold openBlockedStreamIncident at h
  split at h
  · obtain rfl := Except.ok.inj h
    exact Applies.refl
  · obtain rfl := openIncident_ok h
    exact ⟨rfl, List.subset_append_left _ _, [], by rw [List.append_nil], .nil⟩

/-- A callback that is applied has one confirmation more. -/
theorem apply_applies {createdAt : Int} (h : apply service registry createdAt tables callback = .ok after) :
    Applies service registry tables after [callback] := by
  simp only [apply, recordEvidenceAndReconciliation, bind_eq_ok_iff, exists_unit] at h
  obtain ⟨-, ⟨transactionId, reconciliation⟩, hreconciled, h⟩ := h
  have hrow (incidents : List Incident)
      (hincident : ∀ incident ∈ incidentOf callback transactionId reconciliation, incident ∈ incidents) :
      RecordedAs service registry { tables with incidents } callback
        { transactionId, reconciliation, createdAt, callbackId := callback.callbackId
          productId := callback.stream.productId, channel := callback.stream.channel
          outcome := callback.payload.outcome, evidenceId := "callback:" ++ callback.callbackId } :=
    ⟨rfl, rfl, rfl, hreconciled, hincident⟩
  cases hincident : incidentOf callback transactionId reconciliation with
  | some incident =>
    simp only [hincident] at h
    obtain rfl := openIncident_ok h
    refine ⟨rfl, List.subset_append_left _ _, _, rfl, .cons ?_ .nil⟩
    exact (hrow (tables.incidents ++ [incident]) (by simp [hincident])).mono (List.Subset.refl _)
  | none =>
    simp only [hincident] at h
    obtain rfl := Except.ok.inj h
    refine ⟨rfl, List.Subset.refl _, _, rfl, .cons ?_ .nil⟩
    exact (hrow tables.incidents (by simp [hincident])).mono (List.Subset.refl _)

end Applying

/-- The loop applies callbacks that were received before. -/
theorem drain_applies {stream : Stream} {fuel : Nat} :
    ∀ {sequence : Nat} {tables : Tables} {drained : Drained},
      drain service registry now clock stream fuel sequence tables = .ok drained →
      Applies service registry tables drained.tables drained.applied ∧
        ∀ callback ∈ drained.applied, ∃ row ∈ tables.receipts, callback = fromReceipt row := by
  induction fuel with
  | zero =>
    intro sequence tables drained h
    obtain rfl := Except.ok.inj h
    exact ⟨Applies.refl, nofun⟩
  | succ fuel ih =>
    intro sequence tables drained h
    unfold drain at h
    split at h
    · obtain rfl := Except.ok.inj h
      exact ⟨Applies.refl, nofun⟩
    · next row hrow =>
      dsimp only at h
      split at h
      · obtain ⟨blocked, hblocked, h⟩ := bind_eq_ok_iff.mp h
        obtain rfl := pure_eq_ok_iff.mp h
        exact ⟨openBlockedStreamIncident_applies hblocked, nofun⟩
      · obtain ⟨recorded, hrecorded, h⟩ := bind_eq_ok_iff.mp h
        obtain ⟨rest, hrest, h⟩ := bind_eq_ok_iff.mp h
        obtain rfl := pure_eq_ok_iff.mp h
        have hmarked : Applies service registry tables (markApplied tables (fromReceipt row)) [] :=
          Applies.refl.of_eq rfl rfl rfl
        have hfirst := hmarked.trans (apply_applies hrecorded)
        obtain ⟨happlies, hreceived⟩ := ih hrest
        refine ⟨hfirst.trans happlies, List.forall_mem_cons.mpr ⟨?_, ?_⟩⟩
        · exact ⟨row, List.mem_of_find?_eq_some hrow, rfl⟩
        · rw [hfirst.receipts] at hreceived
          exact hreceived

/-- The details of every callback that was received are those that a callback of its
channel may have. -/
def Tables.Checked (service : CallbackService) (tables : Tables) : Prop :=
  ∀ row ∈ tables.receipts, checkDetails service (.known row.stream.channel) row.payload.details = .ok ()

/-- What `receive` does to the tables. -/
structure Receives (service : CallbackService) (registry : Registry) (tables : Tables) (received : Received) :
    Prop where
  receipts : ∃ more, received.tables.receipts = tables.receipts ++ more ∧
    ∀ row ∈ more, checkDetails service (.known row.stream.channel) row.payload.details = .ok ()
  incidents : tables.incidents ⊆ received.tables.incidents
  confirmed : ∃ rows, received.tables.confirmations = tables.confirmations ++ rows ∧
    List.Forall₂ (RecordedAs service registry received.tables) received.applied rows
  applied : ∀ callback ∈ received.applied, ∃ row ∈ received.tables.receipts,
    row.stream = callback.stream ∧ row.payload = callback.payload

private theorem Receives.of_applies {before : Tables} {received : Received} {row : CallbackReceipt}
    (h : Applies service registry before received.tables received.applied)
    (hreceipts : before.receipts = tables.receipts ++ [row]) (hincidents : before.incidents = tables.incidents)
    (hconfirmations : before.confirmations = tables.confirmations)
    (hrow : checkDetails service (.known row.stream.channel) row.payload.details = .ok ())
    (happlied : ∀ callback ∈ received.applied, ∃ row ∈ received.tables.receipts,
      row.stream = callback.stream ∧ row.payload = callback.payload) :
    Receives service registry tables received :=
  ⟨⟨[row], h.receipts.trans hreceipts, by simpa using hrow⟩, hincidents ▸ h.incidents, hconfirmations ▸ h.confirmed,
    happlied⟩

theorem checkBusinessRules_ok {envelope : Envelope} {payload : Payload}
    (hchannel : envelope.channel = .known envelope.stream.channel)
    (h : checkBusinessRules service envelope = .ok payload) :
    checkDetails service (.known envelope.stream.channel) payload.details = .ok () := by
  simp only [checkBusinessRules, bind_eq_ok_iff, exists_unit, pure_eq_ok_iff] at h
  obtain ⟨details, -, hdetails, rfl⟩ := h
  rw [← hchannel]
  exact hdetails

theorem checkEnvelope_ok {members : List (String × JsValue)} {envelope : Envelope}
    (h : checkEnvelope service now members = .ok envelope) : envelope.channel = .known envelope.stream.channel := by
  obtain ⟨form, -, h⟩ := bind_eq_ok_iff.mp h
  split at h
  · cases h
  · next channel hchannel =>
    obtain rfl := pure_eq_ok_iff.mp h
    exact hchannel

/-- A new callback is applied with the buffered ones behind it, or is buffered. -/
private theorem receiveNew_receives {envelope : Envelope} {payload : Payload} {envelopeHash : String}
    {received : Received}
    (hdetails : checkDetails service (.known envelope.stream.channel) payload.details = .ok ())
    (h : receiveNew service registry now clock tables envelope payload envelopeHash = .ok received) :
    Receives service registry tables received := by
  simp only [receiveNew, bind_eq_ok_iff, exists_unit] at h
  obtain ⟨-, ⟨occurredAt, expiresAt⟩, -, -, h⟩ := h
  split at h
  · simp only [receiveExpected, bind_eq_ok_iff, pure_eq_ok_iff] at h
    obtain ⟨recorded, hrecorded, drained, hdrained, rfl⟩ := h
    have hfirst := apply_applies hrecorded
    obtain ⟨hrest, hbuffered⟩ := drain_applies hdrained
    have hall := (hfirst.trans hrest).setPosition envelope.stream (envelope.sequence + 1 + drained.applied.length)
    refine Receives.of_applies hall rfl rfl rfl hdetails ?_
    rw [hall.receipts]
    refine List.forall_mem_cons.mpr ⟨⟨_, List.mem_append_right _ (List.mem_singleton_self _), rfl, rfl⟩, ?_⟩
    intro callback hcallback
    obtain ⟨row, hrow, rfl⟩ := hbuffered callback hcallback
    rw [hfirst.receipts] at hrow
    exact ⟨row, hrow, rfl, rfl⟩
  · obtain rfl := pure_eq_ok_iff.mp h
    exact Receives.of_applies (Applies.refl.setPosition envelope.stream (tables.nextSequence envelope.stream)) rfl rfl
      rfl hdetails (List.forall_mem_nil _)

/-- What `receive` records, when it does not fail. -/
theorem receive_receives {posted : PostedCallback} {received : Received}
    (h : receive service registry now clock tables posted = .ok received) :
    Receives service registry tables received := by
  simp only [receive, bind_eq_ok_iff, exists_unit] at h
  obtain ⟨envelope, henvelope, -, payload, hpayload, envelopeHash, -, h⟩ := h
  split at h
  · obtain ⟨_, -, h⟩ := bind_eq_ok_iff.mp h
    obtain rfl := pure_eq_ok_iff.mp h
    exact ⟨⟨[], (List.append_nil _).symm, List.forall_mem_nil _⟩, List.Subset.refl _,
      ⟨[], (List.append_nil _).symm, .nil⟩, List.forall_mem_nil _⟩
  · exact receiveNew_receives (checkBusinessRules_ok (checkEnvelope_ok henvelope) hpayload) h

theorem Receives.checked {received : Received} (h : Receives service registry tables received)
    (htables : tables.Checked service) : received.tables.Checked service := by
  obtain ⟨more, hmore, hchecked⟩ := h.receipts
  rw [Tables.Checked, hmore]
  exact List.forall_mem_append.mpr ⟨htables, hchecked⟩

/-- The details of every callback that is applied are those that a callback of its
channel may have. -/
theorem Receives.details {received : Received} (h : Receives service registry tables received)
    (htables : tables.Checked service) :
    ∀ callback ∈ received.applied,
      checkDetails service (.known callback.stream.channel) callback.payload.details = .ok () := by
  intro callback hcallback
  obtain ⟨row, hrow, hstream, hpayload⟩ := h.applied callback hcallback
  rw [← hstream, ← hpayload]
  exact h.checked htables row hrow

end rwa.callbacks
