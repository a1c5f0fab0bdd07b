import RwaControlPlane.ReadModel.SupervisorEvents

open checked js_value runs
open rwa.storage (Platform)

namespace rwa.transaction_evidence

variable {platform : Platform} {jsonText : JsValue → String} {state next : State} {action : Action}
  {tenantId productId : String}

section Accounting

variable {writes : Additions}

theorem Added.mem_keys (h : Added tenantId state next writes) {key : String × String × String}
    (hkey : key ∈ state.keys) :
    key ∈ next.keys := by
  rw [h.created]
  exact List.mem_append_left _ hkey

/-- The cases and the events of a settlement are of the transaction that it creates. -/
private theorem settlement_origins (hwrites : SettlementAdditions action.tenantId writes)
    (hcreated : ∀ key ∈ writes.created, key ∈ next.keys) :
    (∀ key ∈ writes.opened, ∃ tenantId, (key.1, tenantId, key.2) ∈ next.keys) ∧ writes.proposed = [] ∧
      ∀ event ∈ writes.events, Origin jsonText state next action event := by
  cases hwrites with
  | replayed => simp
  | @created transactionId productId event registerFailure hevent hown =>
    have hkey : (transactionId, action.tenantId, productId) ∈ next.keys := hcreated _ (List.mem_singleton_self _)
    refine ⟨fun key hopened => ?_, rfl, fun recorded hrecorded => ?_⟩
    · dsimp only at hopened
      split at hopened
      · rw [List.mem_singleton.mp hopened]
        exact ⟨action.tenantId, hkey⟩
      · cases hopened
    · rw [List.mem_singleton.mp hrecorded]
      exact Origin.labelled hkey ((label_eq hown).trans hevent)

private theorem settlement_accounted (hwrites : SettlementAdditions action.tenantId writes)
    (hwrote : Added action.tenantId state next writes) (hdecided : action.call.decidedOn state = none)
    (hunlabelled : action.call.unlabelled = none) : Accounted jsonText state next action writes := by
  obtain ⟨hopened, hproposed, hevents⟩ := @settlement_origins jsonText state next _ _ hwrites fun key hkey => by
    rw [hwrote.created]
    exact List.mem_append_right _ hkey
  refine ⟨hwrote, hopened, by simp [hproposed], hevents, fun id hid => ?_, fun id hid => ?_⟩
  · exact absurd (hdecided.symm.trans hid) nofun
  · rw [hunlabelled] at hid
    cases hid

private theorem own_accounted (h : RecordsOwn action.tenantId state next writes)
    (hdecided : action.call.decidedOn state = none) (hunlabelled : action.call.unlabelled = none) :
    Accounted jsonText state next action writes := by
  refine ⟨h.wrote, by simp [h.opened], by simp [h.proposed], fun recorded hrecorded => ?_, fun id hid => ?_,
    fun id hid => ?_⟩
  · obtain hnone | ⟨id, productId, event, hsome, hkey, hevent, hown⟩ := h.events
    · rw [hnone] at hrecorded
      cases hrecorded
    · rw [hsome, List.mem_singleton] at hrecorded
      rw [hrecorded]
      exact Origin.labelled (h.wrote.mem_keys hkey) ((label_eq hown).trans hevent)
  · exact absurd (hdecided.symm.trans hid) nofun
  · rw [hunlabelled] at hid
    cases hid

private theorem cancellation_accounted (hconsistent : state.Consistent) {transactionId : String}
    (h : RecordsCancellation action.tenantId transactionId state next writes)
    (hdecided : action.call.decidedOn state = none) (hunlabelled : action.call.unlabelled = some transactionId) :
    Accounted jsonText state next action writes := by
  obtain ⟨proposal, hmem, rfl⟩ := h.proposal
  obtain ⟨tenantId, productId, hkey⟩ := hconsistent.proposals proposal hmem
  obtain ⟨proposalId, cancelledBy, reason, hevents⟩ := h.events
  have hlabel : (Event.finalityCancelled proposalId proposal.transactionId cancelledBy reason).label jsonText = none :=
    label_eq (by simp)
  refine ⟨h.wrote, by simp [h.opened], by simp [h.proposed], fun recorded hrecorded => ?_, fun id hid => ?_,
    fun id hid => ?_⟩
  · rw [hevents, List.mem_singleton] at hrecorded
    rw [hrecorded]
    exact Origin.unlabelled hunlabelled hkey hlabel
  · exact absurd (hdecided.symm.trans hid) nofun
  · obtain rfl := Option.some.inj (hunlabelled.symm.trans hid)
    exact ⟨_, by rw [hevents]; exact List.mem_singleton_self _, hlabel⟩

/-- A decision on an exception, after what a settlement writes. -/
private theorem decision_accounted (hconsistent : state.Consistent) {first : Additions} {row : durable.ExceptionCase}
    {event : Event} (hrow : row ∈ state.db.exceptionCases)
    (hdecided : action.call.decidedOn state = some row.transactionId) (hunlabelled : action.call.unlabelled = none)
    (hfirst : SettlementAdditions action.tenantId first) (hevent : event.productId = some row.productId)
    (hown : ∀ eventType metadata, event ≠ .other eventType metadata)
    (hwrote : Added action.tenantId state next (first.append
      { events := [("transaction", row.transactionId, event)] })) :
    Accounted jsonText state next action (first.append { events := [("transaction", row.transactionId, event)] }) := by
  obtain ⟨tenantId, hkey⟩ := hconsistent.cases (row.transactionId, row.productId)
    (List.mem_map.mpr ⟨row, hrow, rfl⟩)
  have hlabel : event.label jsonText = some row.productId := (label_eq hown).trans hevent
  obtain ⟨hopened, hproposed, hevents⟩ := @settlement_origins jsonText state next _ _ hfirst fun key hkey => by
    rw [hwrote.created]
    exact List.mem_append_right _ (List.mem_append_left _ hkey)
  refine ⟨hwrote, ?_, by simp [Additions.append, hproposed], ?_, fun id hid => ?_, fun id hid => ?_⟩
  · simpa [Additions.append] using hopened
  · refine List.forall_mem_append.mpr ⟨hevents, List.forall_mem_singleton.mpr ?_⟩
    exact Origin.decision hdecided hkey hlabel
  · obtain rfl := Option.some.inj (hdecided.symm.trans hid)
    exact ⟨event, List.mem_append_right _ (List.mem_singleton_self _)⟩
  · rw [hunlabelled] at hid
    cases hid

/-- Every accepted call accounts for what it writes. -/
theorem execute_accounted (hconsistent : state.Consistent) (h : execute platform action state = .ok next) :
    ∃ writes, Accounted jsonText state next action writes := by
  obtain ⟨actor, now, call⟩ := action
  cases call with
  | settle settlement registerFailure =>
    obtain ⟨writes, hwrites, hwrote⟩ := settleInTransaction_wrote h
    exact ⟨writes, settlement_accounted hwrites hwrote rfl rfl⟩
  | proposeExceptionResolution caseId makerId decision replacementTransactionId =>
    obtain ⟨row, event, hfound, hevent, hown, hwrote⟩ := proposeExceptionResolution_wrote h
    exact ⟨_, decision_accounted hconsistent (findCase_mem hfound) (by simp [Call.decidedOn, hfound]) rfl .replayed
      hevent hown hwrote⟩
  | approveExceptionResolution caseId checkerId decision retry =>
    obtain ⟨row, first, event, hfound, hfirst, hevent, hown, hwrote⟩ := approveExceptionResolution_wrote h
    exact ⟨_, decision_accounted hconsistent (findCase_mem hfound) (by simp [Call.decidedOn, hfound]) rfl hfirst
      hevent hown hwrote⟩
  | prepare transfer =>
    obtain ⟨writes, hwrites, hwrote⟩ := prepare_wrote h
    exact ⟨writes, settlement_accounted hwrites hwrote rfl rfl⟩
  | enqueueProverJob transactionId jobId =>
    obtain ⟨writes, hrecords⟩ := enqueueProverJob_records h
    exact ⟨writes, own_accounted hrecords rfl rfl⟩
  | acceptProof transactionId receiptId contextId merkleRoot verification =>
    obtain ⟨writes, hrecords⟩ := acceptProof_records h
    exact ⟨writes, own_accounted hrecords rfl rfl⟩
  | proposeFinalization proposal =>
    obtain ⟨⟨productId, hkey⟩, other, hwrote⟩ := proposeFinalization_wrote h
    have hlabel : (Event.finalityProposed other).label jsonText = none := label_eq (by simp)
    refine ⟨_, hwrote, by simp, ?_, ?_, nofun, fun id hid => ?_⟩
    · exact List.forall_mem_singleton.mpr ⟨actor, productId, hwrote.mem_keys hkey⟩
    · exact List.forall_mem_singleton.mpr (Origin.unlabelled rfl hkey hlabel)
    · obtain rfl := Option.some.inj hid
      exact ⟨_, List.mem_singleton_self _, hlabel⟩
  | cancelFinalization transactionId cancelledBy reason =>
    obtain ⟨writes, hrecords⟩ := cancelFinalization_records h
    exact ⟨writes, cancellation_accounted hconsistent hrecords rfl rfl⟩
  | finalize transactionId finalizedBy stale =>
    obtain ⟨writes, hrecords⟩ := finalize_records h
    cases stale with
    | true => exact ⟨writes, cancellation_accounted hconsistent hrecords rfl rfl⟩
    | false => exact ⟨writes, own_accounted hrecords rfl rfl⟩
  | recordOther aggregateType aggregateId eventType metadata =>
    obtain ⟨_, htype, h⟩ := bind_eq_ok_iff.mp h
    obtain ⟨_, -, h⟩ := bind_eq_ok_iff.mp h
    obtain rfl := pure_eq_ok_iff.mp h
    refine ⟨_, recordAuditEvent_wrote, by simp, by simp, ?_, nofun, nofun⟩
    exact List.forall_mem_singleton.mpr (Origin.other (throwIf_eq_ok_iff.mp htype))
  | reconcile row =>
    obtain rfl := pure_eq_ok_iff.mp h
    exact ⟨{}, Added.of_same rfl rfl rfl rfl, by simp, by simp, by simp, nofun,
      nofun⟩

end Accounting

section Steps

variable {writes : Additions}

/-- The rows of what a call records. -/
private theorem recorded_row (h : Accounted jsonText state next action writes) : ∃ rows : List AuditRow,
    next.audit = state.audit ++ rows ∧ rows.map (·.sequenceId) = List.range' (state.audit.length + 1) rows.length ∧
      (∀ row ∈ rows, row.tenantId = action.tenantId ∧ (row.aggregateType, row.aggregateId, row.event) ∈ writes.events) ∧
        ∀ event ∈ writes.events, ∃ row ∈ rows, row.tenantId = action.tenantId ∧
          (row.aggregateType, row.aggregateId, row.event) = event := by
  obtain ⟨rows, haudit, hsequence, hevents⟩ := h.wrote.events
  refine ⟨rows, haudit, hsequence, fun row hrow => ?_, fun event hevent => ?_⟩
  · have hmem := List.mem_map_of_mem
      (f := fun row : AuditRow => (row.tenantId, row.aggregateType, row.aggregateId, row.event)) hrow
    rw [hevents] at hmem
    obtain ⟨event, hevent, hsame⟩ := List.mem_map.mp hmem
    obtain ⟨htenant, hrest⟩ := Prod.mk.inj hsame
    exact ⟨htenant.symm, hrest ▸ hevent⟩
  · have hmem := List.mem_map_of_mem (f := fun event => (action.tenantId, event)) hevent
    rw [← hevents] at hmem
    obtain ⟨row, hrow, hsame⟩ := List.mem_map.mp hmem
    obtain ⟨htenant, hrest⟩ := Prod.mk.inj hsame
    exact ⟨row, hrow, htenant, hrest⟩

theorem Accounted.consistent (h : Accounted jsonText state next action writes) (hconsistent : state.Consistent) :
    next.Consistent := by
  obtain ⟨rows, haudit, hsequence, hrows, -⟩ := recorded_row h
  refine ⟨h.wrote.ids hconsistent.ids, fun key hkey => ?_, fun proposal hproposal => ?_, fun row hrow htype => ?_, ?_⟩
  · rw [h.wrote.opened] at hkey
    obtain hold | hnew := List.mem_append.mp hkey
    · obtain ⟨tenantId, hmem⟩ := hconsistent.cases key hold
      exact ⟨tenantId, h.wrote.mem_keys hmem⟩
    · exact h.opened key hnew
  · have hmem := List.mem_map_of_mem (f := fun proposal : Proposal => proposal.transactionId) hproposal
    rw [h.wrote.proposed] at hmem
    obtain hold | hnew := List.mem_append.mp hmem
    · obtain ⟨earlier, hearlier, hsame⟩ := List.mem_map.mp hold
      obtain ⟨tenantId, productId, hkey⟩ := hconsistent.proposals earlier hearlier
      exact ⟨tenantId, productId, h.wrote.mem_keys (hsame ▸ hkey)⟩
    · exact h.proposed _ hnew
  · rw [haudit] at hrow
    obtain hold | hnew := List.mem_append.mp hrow
    · obtain ⟨tenantId, productId, hkey⟩ := hconsistent.rows row hold htype
      exact ⟨tenantId, productId, h.wrote.mem_keys hkey⟩
    · obtain ⟨-, hevent⟩ := hrows row hnew
      have horigin := h.events _ hevent
      rw [htype] at horigin
      cases horigin with
      | other hother => exact absurd rfl hother
      | labelled hkey => exact ⟨_, _, hkey⟩
      | decision _ hkey => exact ⟨_, _, h.wrote.mem_keys hkey⟩
      | unlabelled _ hkey => exact ⟨_, _, h.wrote.mem_keys hkey⟩
  · rw [haudit, List.map_append, hconsistent.sequence, hsequence, List.length_append, Nat.add_comm state.audit.length 1,
      List.range'_append_1]

/-- A call that hides an event from the supervisor of a product. It is accepted, and
proposes or cancels the finality of a transaction of the product, or decides on the
exception of one for another tenant. -/
def Hides (platform : Platform) (tenantId productId : String) (state : State) (action : Action) : Prop :=
  (∃ next, execute platform action state = .ok next) ∧ ∃ id, (id, tenantId, productId) ∈ state.keys ∧
    (action.call.unlabelled = some id ∨ (action.call.decidedOn state = some id ∧ action.tenantId ≠ tenantId))

/-- A step keeps the view complete exactly if it hides no event. -/
theorem step_supervised (hconsistent : state.Consistent) (hsupervised : Supervised jsonText state tenantId productId) :
    Supervised jsonText (step platform state action) tenantId productId ↔
      ¬Hides platform tenantId productId state action := by
  cases hexecute : execute platform action state with
  | error failure =>
    have hkept : step platform state action = state := by rw [step, hexecute]
    rw [hkept]
    refine iff_of_true hsupervised ?_
    rintro ⟨⟨next, hnext⟩, -⟩
    exact absurd (hexecute.symm.trans hnext) nofun
  | ok next =>
    have hstep : step platform state action = next := by rw [step, hexecute]
    obtain ⟨writes, haccounted⟩ := @execute_accounted platform jsonText state next action hconsistent hexecute
    have hnext := haccounted.consistent hconsistent
    obtain ⟨rows, haudit, -, hrows, hevents⟩ := recorded_row haccounted
    rw [hstep, supervised_iff hnext]
    rw [supervised_iff hconsistent] at hsupervised
    constructor
    · rintro hvisible ⟨-, id, hkey, hcause⟩
      have hlater := haccounted.wrote.mem_keys hkey
      obtain hunlabelled | ⟨hdecided, hforeign⟩ := hcause
      · obtain ⟨event, hevent, hlabel⟩ := haccounted.unlabelled id hunlabelled
        obtain ⟨row, hrow, -, hsame⟩ := hevents _ hevent
        obtain ⟨htype, hsame⟩ := Prod.mk.inj hsame
        obtain ⟨hid, hsame⟩ := Prod.mk.inj hsame
        obtain ⟨-, hnamed⟩ := hvisible row (haudit ▸ List.mem_append_right _ hrow) htype (hid ▸ hlater)
        rw [hsame, hlabel] at hnamed
        cases hnamed
      · obtain ⟨event, hevent⟩ := haccounted.decided id hdecided
        obtain ⟨row, hrow, htenant, hsame⟩ := hevents _ hevent
        obtain ⟨htype, hsame⟩ := Prod.mk.inj hsame
        obtain ⟨hid, -⟩ := Prod.mk.inj hsame
        obtain ⟨howner, -⟩ := hvisible row (haudit ▸ List.mem_append_right _ hrow) htype (hid ▸ hlater)
        exact hforeign (htenant.symm.trans howner)
    · intro hshown row hrow htype hkey
      rw [haudit] at hrow
      obtain hold | hnew := List.mem_append.mp hrow
      · -- the transaction of an earlier event was there before the step
        obtain ⟨tenant, product, hearlier⟩ := hconsistent.rows row hold htype
        obtain ⟨rfl, rfl⟩ := Prod.mk.inj (hnext.key_eq (haccounted.wrote.mem_keys hearlier) hkey)
        exact hsupervised row hold htype hearlier
      · obtain ⟨htenant, hevent⟩ := hrows row hnew
        have horigin := haccounted.events _ hevent
        rw [htype] at horigin
        cases horigin with
        | other hother => exact absurd rfl hother
        | labelled howned hlabel =>
          obtain ⟨rfl, rfl⟩ := Prod.mk.inj (hnext.key_eq howned hkey)
          exact ⟨htenant, hlabel⟩
        | decision hcase howned hlabel =>
          obtain ⟨rfl, rfl⟩ := Prod.mk.inj (hnext.key_eq (haccounted.wrote.mem_keys howned) hkey)
          refine ⟨?_, hlabel⟩
          by_contra hforeign
          exact hshown ⟨⟨next, hexecute⟩, row.aggregateId, howned,
            Or.inr ⟨hcase, fun hsame => hforeign (htenant.trans hsame)⟩⟩
        | unlabelled hcall howned hlabel =>
          obtain ⟨rfl, rfl⟩ := Prod.mk.inj (hnext.key_eq (haccounted.wrote.mem_keys howned) hkey)
          exact absurd ⟨⟨next, hexecute⟩, row.aggregateId, howned, Or.inl hcall⟩ hshown

theorem run_consistent (actions : List Action) : (run (step platform) State.empty actions).Consistent := by
  refine run_invariant empty_consistent (fun state action hconsistent => ?_) actions
  cases hexecute : execute platform action state with
  | error failure =>
    rw [step, hexecute]
    exact hconsistent
  | ok next =>
    rw [step, hexecute]
    obtain ⟨writes, haccounted⟩ := @execute_accounted platform (fun _ => "") state next action hconsistent hexecute
    exact haccounted.consistent hconsistent

end Steps

/-- The supervisor's view of a product has every audit event of its transactions, in the
order of the sequence and once each, in every state of a run exactly if no step of the
run proposes or cancels the finality of one of them, or decides on the exception of one
for another tenant. -/
theorem supervisor_sees_events {actions : List Action} :
    (∀ before, before <+: actions → Supervised jsonText (run (step platform) State.empty before) tenantId productId) ↔
      ∀ before action after, actions = before ++ action :: after →
        ¬Hides platform tenantId productId (run (step platform) State.empty before) action := by
  refine run_invariant_iff ?_ run_consistent (fun state action => step_supervised) actions
  exact (supervised_iff empty_consistent).mpr fun row hrow => nomatch hrow

section Sample

private def samplePlane : Platform := ⟨fun text => text, fun _ => "1", fun _ => "now"⟩

private def sampleVerification : Verification := ⟨"join-split", "1", "vk", "proof", "signals"⟩

/-- A confidential transfer that is proven, proposed for finality, and whose proposal is
cancelled. -/
private def cancelledProposal : List Action :=
  [⟨"hk", "now", .prepare
      { transactionId := "t1", idempotencyKey := "k1", requestHash := "r1", productId := "p1", ruleVersion := 1
        policySnapshotHash := "h1", privatePayloadCiphertext := "c1", originatingInstitutionId := "broker"
        authorizedBy := "alice", contextId := "7", assetType := "1", circuitId := "join-split", circuitVersion := "1"
        expiresAt := "later" }⟩,
    ⟨"hk", "now", .acceptProof "t1" "receipt-1" "7" "0" sampleVerification⟩,
    ⟨"hk", "now", .proposeFinalization ⟨"proposal-1", "t1", "hk", "9", 2, "0", 0, "source", "execution",
      .pending, "bob"⟩⟩,
    ⟨"hk", "now", .cancelFinalization "t1" "carol" "wrong root"⟩]

/-- The events of the proposal and of its cancellation are not in the view. -/
theorem finality_events_hidden :
    ¬Supervised (fun _ => "") (run (step samplePlane) State.empty cancelledProposal) "hk" "p1" := by
  rintro ⟨hcontained, -⟩
  have hlengths : (transactionRows (run (step samplePlane) State.empty cancelledProposal) "hk" "p1").length = 4 ∧
      (auditEvents (fun _ => "") (run (step samplePlane) State.empty cancelledProposal) "hk" "p1").length = 2 := by
    decide +kernel
  have hle := hcontained.length_le
  rw [List.length_map, hlengths.1, hlengths.2] at hle
  omega

end Sample

end rwa.transaction_evidence
