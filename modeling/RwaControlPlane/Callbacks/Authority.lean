import RwaControlPlane.Callbacks.StreamLog

open checked js_value
open rwa.catalog (SigningKey lookup)

namespace rwa.callbacks

variable {service : CallbackService} {registry : Registry} {tables after : Tables} {now createdAt : Int}
  {clock : Nat → Int} {stream : Stream} {keyId : String}

/-- A key that a source may use for a stream: the institution is active and assigned to
the product, and the key is in force. -/
structure KeyInForce (registry : Registry) (now : Int) (stream : Stream) (keyId : String) (key : SigningKey) :
    Prop where
  active : ∃ row ∈ registry.institutions, row.id = stream.institutionId ∧ row.status = .active
  assigned : ∃ row ∈ registry.roleAssignments, row.productId = stream.productId ∧ row.role = stream.channel.role ∧
    row.institutionId = stream.institutionId ∧ row.endedAt = none
  known : key ∈ registry.signingKeys
  owner : key.institutionId = stream.institutionId ∧ key.keyId = keyId
  inForce : key.algorithm = "Ed25519" ∧ key.status = .active ∧ key.revokedAt = none ∧
    ∀ ending ∈ key.validUntil, now < ending

/-- The source of a callback that was received may sign for its stream. -/
def Authorized (registry : Registry) (now : Int) (row : CallbackReceipt) : Prop :=
  ∃ key, KeyInForce registry now row.stream row.signingKeyId key

/-- A callback was posted with the content that was received of it, signed with a key of
its source. -/
structure Signed (service : CallbackService) (registry : Registry) (now : Int) (members : List (String × JsValue))
    (row : CallbackReceipt) : Prop where
  tenant : row.stream.tenantId = service.tenantId
  callbackId : lookup members "callbackId" = some (.string row.callbackId)
  tenantId : lookup members "tenantId" = some (.string row.stream.tenantId)
  institutionId : lookup members "institutionId" = some (.string row.stream.institutionId)
  productId : lookup members "productId" = some (.string row.stream.productId)
  channel : lookup members "channel" = some (.string row.stream.channel.text)
  sequence : lookup members "sequence" = some (.number row.streamSequence)
  payload : lookup members "payload" = some (.object row.payload.members)
  subjectRef : lookup row.payload.members "subjectRef" = some (.string row.payload.subjectRef)
  outcome : lookup row.payload.members "outcome" = some (.string row.payload.outcome.text)
  details : lookup row.payload.members "details" = some (.object row.payload.details)
  verified : ∃ key, KeyInForce registry now row.stream row.signingKeyId key ∧
    signatureValid service members row.signature key.publicKeyPem = true

theorem authorizedSource_ok {signedAt : Int} {publicKeyPem : String}
    (h : authorizedSource service registry now stream keyId signedAt = .ok publicKeyPem) :
    ∃ key, KeyInForce registry now stream keyId key ∧ key.publicKeyPem = publicKeyPem := by
  simp only [authorizedSource, bind_eq_ok_iff, throwIf_eq_ok_iff, require_eq_ok_iff, exists_unit, pure_eq_ok_iff, ne_eq,
    not_not, not_or] at h
  obtain ⟨hactive, hassigned, key, hkey, ⟨halgorithm, hstatus, hrevoked, -, hending⟩, rfl⟩ := h
  refine ⟨key, ⟨?_, ?_, List.mem_of_find?_eq_some hkey, ?_, halgorithm, hstatus, ?_, ?_⟩, rfl⟩
  · obtain ⟨row, hrow, hsame⟩ := Option.map_eq_some_iff.mp hactive
    exact ⟨row, List.mem_of_find?_eq_some hrow, by simpa using List.find?_some hrow, hsame⟩
  · obtain ⟨row, hrow⟩ := List.length_eq_one_iff.mp hassigned
    have hmem : row ∈ _ := hrow ▸ List.mem_singleton_self row
    obtain ⟨hmem, hfacts⟩ := List.mem_filter.mp hmem
    exact ⟨row, hmem, of_decide_eq_true hfacts⟩
  · simpa using List.find?_some hkey
  · simpa using hrevoked
  · intro ending hmem
    by_contra hlate
    exact hending ⟨ending, hmem, Or.inr (by omega)⟩

/-- What an authenticated envelope was signed with. -/
theorem authenticate_ok {members : List (String × JsValue)} {envelope : Envelope}
    (h : authenticate service registry now members envelope = .ok ()) :
    envelope.stream.tenantId = service.tenantId ∧
      ∃ key, KeyInForce registry now envelope.stream (envelope.keyId.getD defaultCallbackKeyId) key ∧
        signatureValid service members envelope.signature key.publicKeyPem = true := by
  simp only [authenticate, throwIf_eq_ok_iff, not_not] at h
  obtain ⟨htenant, hsource, hvalid⟩ := h
  cases hauthorized : authorizedSource service registry now envelope.stream
      (envelope.keyId.getD defaultCallbackKeyId) envelope.signedAt with
  | error failure =>
    rw [hauthorized] at hsource
    cases hsource
  | ok publicKeyPem =>
    obtain ⟨key, hkey, rfl⟩ := authorizedSource_ok hauthorized
    rw [hauthorized, if_pos htenant] at hvalid
    exact ⟨htenant, key, hkey, hvalid⟩

/-- The effects that a call adds are those of callbacks that were received and whose
sources are authorized. -/
def AddsAuthorized (registry : Registry) (now : Int) (tables after : Tables) : Prop :=
  ∃ rows, rows ⊆ after.receipts ∧ after.effects = tables.effects ++ rows.map effectOf ∧
    ∀ row ∈ rows, Authorized registry now row

theorem AddsAuthorized.refl : AddsAuthorized registry now tables tables :=
  ⟨[], List.nil_subset _, (List.append_nil _).symm, List.forall_mem_nil _⟩

theorem drain_authorized {fuel : Nat} :
    ∀ {sequence : Nat} {tables : Tables} {drained : Drained},
      drain service registry now clock stream fuel sequence tables = .ok drained →
      drained.tables.receipts = tables.receipts ∧ AddsAuthorized registry now tables drained.tables := by
  induction fuel with
  | zero =>
    intro sequence tables drained h
    obtain rfl := Except.ok.inj h
    exact ⟨rfl, AddsAuthorized.refl⟩
  | succ fuel ih =>
    intro sequence tables drained h
    unfold drain at h
    split at h
    · obtain rfl := Except.ok.inj h
      exact ⟨rfl, AddsAuthorized.refl⟩
    · next row hfound =>
      dsimp only at h
      split at h
      · obtain ⟨blocked, hblocked, h⟩ := bind_eq_ok_iff.mp h
        obtain rfl := pure_eq_ok_iff.mp h
        unfold openBlockedStreamIncident at hblocked
        split at hblocked
        · obtain rfl := Except.ok.inj hblocked
          exact ⟨rfl, AddsAuthorized.refl⟩
        · simp only [Tables.openIncident, bind_eq_ok_iff, exists_unit, pure_eq_ok_iff] at hblocked
          obtain ⟨-, rfl⟩ := hblocked
          exact ⟨rfl, [], List.nil_subset _, (List.append_nil _).symm, List.forall_mem_nil _⟩
      · next publicKeyPem hsource =>
        obtain ⟨recorded, hrecorded, h⟩ := bind_eq_ok_iff.mp h
        obtain ⟨rest, hrest, h⟩ := bind_eq_ok_iff.mp h
        obtain rfl := pure_eq_ok_iff.mp h
        have hadds := apply_adds hrecorded
        obtain ⟨hreceipts, rows, hrows, heffects, hauthorized⟩ := ih hrest
        obtain ⟨key, hkey, -⟩ := authorizedSource_ok hsource
        have hreceived : rest.tables.receipts = tables.receipts := hreceipts.trans hadds.receipts
        refine ⟨hreceived, row :: rows, List.cons_subset.mpr ⟨?_, hrows⟩, ?_,
          List.forall_mem_cons.mpr ⟨⟨key, hkey⟩, hauthorized⟩⟩
        · rw [hreceived]
          exact List.mem_of_find?_eq_some hfound
        · rw [heffects, hadds.effects, List.append_assoc]
          rfl

/-- The receipts that a call adds were signed, and the effects that it adds are
authorized. -/
structure Accepts (service : CallbackService) (registry : Registry) (now : Int) (posted : PostedCallback)
    (tables after : Tables) : Prop where
  receipts : ∃ rows, after.receipts = tables.receipts ++ rows ∧
    ∀ row ∈ rows, Signed service registry now posted.members row
  effects : AddsAuthorized registry now tables after

/-- A callback whose id is new is received, and its effect comes first when its turn has
come. -/
private theorem receiveNew_accepts {envelope : Envelope} {payload : Payload} {envelopeHash : String}
    {received : Received}
    (hkey : ∃ key, KeyInForce registry now envelope.stream (envelope.keyId.getD defaultCallbackKeyId) key)
    (h : receiveNew service registry now clock tables envelope payload envelopeHash = .ok received) :
    ∃ row : CallbackReceipt, row.callbackId = envelope.callbackId ∧ row.stream = envelope.stream ∧
      row.streamSequence = envelope.sequence ∧ row.payload = payload ∧ row.signature = envelope.signature ∧
      row.signingKeyId = envelope.keyId.getD defaultCallbackKeyId ∧
      received.tables.receipts = tables.receipts ++ [row] ∧ AddsAuthorized registry now tables received.tables := by
  simp only [receiveNew, bind_eq_ok_iff, exists_unit] at h
  obtain ⟨-, ⟨occurredAt, expiresAt⟩, -, -, h⟩ := h
  let row : CallbackReceipt :=
    { payload, occurredAt, expiresAt, envelopeHash, callbackId := envelope.callbackId, stream := envelope.stream
      streamSequence := envelope.sequence, eventType := envelope.eventType, payloadHash := envelope.payloadHash
      signature := envelope.signature, signingKeyId := envelope.keyId.getD defaultCallbackKeyId }
  split at h
  · simp only [receiveExpected, bind_eq_ok_iff, pure_eq_ok_iff] at h
    obtain ⟨recorded, hrecorded, drained, hdrained, rfl⟩ := h
    have hadds := apply_adds hrecorded
    obtain ⟨hreceipts, rows, hrows, heffects, hauthorized⟩ := drain_authorized hdrained
    refine ⟨row, rfl, rfl, rfl, rfl, rfl, rfl, ?_, ?_⟩
    · rw [setPosition_receipts, hreceipts, hadds.receipts]
    · refine ⟨row :: rows, List.cons_subset.mpr ⟨?_, ?_⟩, ?_, List.forall_mem_cons.mpr ⟨hkey, hauthorized⟩⟩
      · rw [setPosition_receipts, hreceipts, hadds.receipts]
        exact List.mem_append_right _ (List.mem_singleton_self _)
      · rw [setPosition_receipts]
        exact hrows
      · rw [setPosition_effects, heffects, hadds.effects, List.append_assoc]
        rfl
  · obtain rfl := pure_eq_ok_iff.mp h
    refine ⟨row, rfl, rfl, rfl, rfl, rfl, rfl, ?_, [], List.nil_subset _, ?_, List.forall_mem_nil _⟩
    · rw [setPosition_receipts]
    · rw [setPosition_effects, List.map_nil, List.append_nil]

theorem receive_accepts {posted : PostedCallback} {received : Received}
    (h : receive service registry now clock tables posted = .ok received) :
    Accepts service registry now posted tables received.tables := by
  simp only [receive, bind_eq_ok_iff, exists_unit] at h
  obtain ⟨envelope, henvelope, hauthentic, payload, hpayload, envelopeHash, -, h⟩ := h
  split at h
  · obtain ⟨_, -, h⟩ := bind_eq_ok_iff.mp h
    obtain rfl := pure_eq_ok_iff.mp h
    exact ⟨⟨[], (List.append_nil _).symm, List.forall_mem_nil _⟩, AddsAuthorized.refl⟩
  · obtain ⟨htenant, key, hkey, hverified⟩ := authenticate_ok hauthentic
    obtain ⟨row, hid, hstream, hsequence, hrowPayload, hsignature, hkeyId, hreceipts, heffects⟩ :=
      receiveNew_accepts ⟨key, hkey⟩ h
    refine ⟨⟨[row], hreceipts, List.forall_mem_singleton.mpr ?_⟩, heffects⟩
    obtain ⟨form, hform, henvelope⟩ := bind_eq_ok_iff.mp henvelope
    have hchecked := checkForm_eq_ok_iff.mp hform
    split at henvelope
    · cases henvelope
    · next channel hchannel =>
      obtain rfl := pure_eq_ok_iff.mp henvelope
      simp only [checkBusinessRules, bind_eq_ok_iff, exists_unit, pure_eq_ok_iff] at hpayload
      obtain ⟨details, hsubject, -, rfl⟩ := hpayload
      have hdetails := (checkSubject_eq_ok_iff.mp hsubject).details
      have hnumber := (positiveInteger_eq_some_iff.mp hchecked.sequence).1
      have hname := hchecked.channel.1
      rw [hchannel] at hname
      refine ⟨by rw [hstream]; exact htenant, ?_, ?_, ?_, ?_, ?_, ?_, ?_, ?_, ?_, ?_, key, ?_, ?_⟩ <;>
        simp only [hid, hstream, hsequence, hrowPayload, hsignature, hkeyId]
      · exact hchecked.callbackId.1
      · exact hchecked.tenantId.1
      · exact hchecked.institutionId.1
      · exact hchecked.productId.1
      · exact hname
      · exact hnumber
      · exact hchecked.payload
      · exact hchecked.subjectRef
      · exact hchecked.outcome
      · exact hdetails
      · exact hkey
      · exact hverified

end rwa.callbacks

namespace rwa.reconciliation

open rwa.callbacks
open rwa.security (EconomicCommitter)

variable {mac : String → String → String} (services : Services) (committer : EconomicCommitter mac)
  (actions : List (Action mac))

/-- The step of a run that recorded a receipt posted its callback, under a signature of
its source. -/
def PostedIn (row : CallbackReceipt) : Prop :=
  ∃ before tenantId now clock posted after, actions = before ++ .receive tenantId now clock posted :: after ∧
    row ∉ (run services committer before).tables.receipts ∧
    row ∈ (run services committer (before ++ [.receive tenantId now clock posted])).tables.receipts ∧
    Signed (callbackService services (run services committer before).committer tenantId)
      (run services committer before).registry now posted.members row

/-- In the step of a run that recorded the effect of a callback, its source was
authorized. -/
def AppliedIn (row : CallbackReceipt) : Prop :=
  ∃ before tenantId now clock posted after, actions = before ++ .receive tenantId now clock posted :: after ∧
    effectOf row ∉ (run services committer before).tables.effects ∧
    effectOf row ∈ (run services committer (before ++ [.receive tenantId now clock posted])).tables.effects ∧
    Authorized (run services committer before).registry now row

section Entries

variable {services committer actions}

/-- A step either keeps the tables or is a callback that was received. -/
private theorem step_tables (state : State mac) (action : Action mac) :
    (step services state action).tables = state.tables ∨
      ∃ tenantId now clock posted, action = .receive tenantId now clock posted ∧
        Accepts (callbackService services state.committer tenantId) state.registry now posted state.tables
          (step services state action).tables := by
  cases action with
  | workflow tenantId action => exact Or.inl rfl
  | receive tenantId now clock posted =>
    simp only [step]
    split
    · next received hreceived => exact Or.inr ⟨tenantId, now, clock, posted, rfl, receive_accepts hreceived⟩
    · exact Or.inl rfl
  | deploy committer => exact Or.inl rfl
  | changeRegistry institutions roleAssignments signingKeys catalogProducts => exact Or.inl rfl
  | recordConfidential row => exact Or.inl rfl

theorem run_receipts_subset {more : List (Action mac)} :
    (run services committer actions).tables.receipts ⊆ (run services committer (actions ++ more)).tables.receipts := by
  obtain ⟨applied, hstart⟩ := @run_continues _ services (State.initial committer) [] actions Tables.Sound.empty
  obtain ⟨later, hlater⟩ := run_continues more hstart.sound
  rw [run, run, runs.run_append]
  exact hlater.receipts

theorem receipt_posted {row : CallbackReceipt} (h : row ∈ (run services committer actions).tables.receipts) :
    PostedIn services committer actions row := by
  have hstep (before : List (Action mac)) (action : Action mac) : ∃ added,
      (step services (run services committer before) action).tables.receipts =
        (run services committer before).tables.receipts ++ added := by
    obtain hkept | ⟨_, _, _, _, -, haccepts⟩ := step_tables (run services committer before) action
    · exact ⟨[], by rw [hkept, List.append_nil]⟩
    · obtain ⟨added, hadded, -⟩ := haccepts.receipts
      exact ⟨added, hadded⟩
  obtain hstart | ⟨before, action, after, added, rfl, hfresh, hadded, hlog⟩ :=
    @runs.run_entry _ _ (step services) (State.initial committer) _ (·.tables.receipts) actions row hstep h
  · cases hstart
  · have hadds : (step services (run services committer before) action).tables.receipts =
        (run services committer before).tables.receipts ++ added := hlog
    obtain hkept | ⟨tenantId, now, clock, posted, rfl, haccepts⟩ := step_tables (run services committer before) action
    · rw [hkept, List.self_eq_append_right] at hadds
      rw [hadds] at hadded
      cases hadded
    · obtain ⟨rows, hrows, hsigned⟩ := haccepts.receipts
      have hsame : rows = added := List.append_cancel_left (hrows.symm.trans hadds)
      refine ⟨before, tenantId, now, clock, posted, after, rfl, hfresh, ?_, hsigned row (hsame ▸ hadded)⟩
      rw [run, runs.run_concat]
      exact hadds ▸ List.mem_append_right _ hadded

theorem effect_applied {effect : CallbackEffect} (h : effect ∈ (run services committer actions).tables.effects) :
    ∃ row ∈ (run services committer actions).tables.receipts, effectOf row = effect ∧
      AppliedIn services committer actions row := by
  have hstep (before : List (Action mac)) (action : Action mac) : ∃ added,
      (step services (run services committer before) action).tables.effects =
        (run services committer before).tables.effects ++ added := by
    obtain hkept | ⟨_, _, _, _, -, haccepts⟩ := step_tables (run services committer before) action
    · exact ⟨[], by rw [hkept, List.append_nil]⟩
    · obtain ⟨rows, -, hadded, -⟩ := haccepts.effects
      exact ⟨_, hadded⟩
  obtain hstart | ⟨before, action, after, added, rfl, hfresh, hadded, hlog⟩ :=
    @runs.run_entry _ _ (step services) (State.initial committer) _ (·.tables.effects) actions effect hstep h
  · cases hstart
  · have hadds : (step services (run services committer before) action).tables.effects =
        (run services committer before).tables.effects ++ added := hlog
    obtain hkept | ⟨tenantId, now, clock, posted, rfl, haccepts⟩ := step_tables (run services committer before) action
    · rw [hkept, List.self_eq_append_right] at hadds
      rw [hadds] at hadded
      cases hadded
    · obtain ⟨rows, hrows, heffects, hauthorized⟩ := haccepts.effects
      have hsame : rows.map effectOf = added := List.append_cancel_left (heffects.symm.trans hadds)
      obtain ⟨row, hrow, rfl⟩ := List.mem_map.mp (hsame ▸ hadded)
      refine ⟨row, ?_, rfl, before, tenantId, now, clock, posted, after, rfl, hfresh, ?_, hauthorized row hrow⟩
      swap
      · rw [run, runs.run_concat]
        exact hadds ▸ List.mem_append_right _ hadded
      have hlater := @run_receipts_subset _ services committer (before ++ [.receive tenantId now clock posted]) after
      rw [List.append_assoc, List.singleton_append] at hlater
      apply hlater
      rw [run, runs.run_concat]
      exact hrows hrow

end Entries

/-- No effect without authority: every effect of a callback is that of a receipt that was
posted, in the step that recorded it, under a valid signature of its source with a key
that was in force then. In the step that recorded the effect, before which it was not
there, the source was still authorized with this key. -/
theorem effects_are_authorized : ∀ effect ∈ (run services committer actions).tables.effects,
    ∃ row ∈ (run services committer actions).tables.receipts, effectOf row = effect ∧
      PostedIn services committer actions row ∧ AppliedIn services committer actions row := by
  intro effect heffect
  obtain ⟨row, hrow, hsame, happlied⟩ := effect_applied heffect
  exact ⟨row, hrow, hsame, receipt_posted hrow, happlied⟩

private def statementReceived : List (Action sampleMac) :=
  [custodian ["key-1"], .receive "sandbox-hk" 5 (fun _ => 5) (custodyStatement "statement-1" "key-1" 1)]

/-- The effect of a custodian's statement. -/
theorem effects_are_authorized_sample :
    ∃ effect ∈ (run deployment firstCommitter statementReceived).tables.effects, effect.callbackId = "statement-1" ∧
      ∃ row ∈ (run deployment firstCommitter statementReceived).tables.receipts, effectOf row = effect ∧
        PostedIn deployment firstCommitter statementReceived row ∧
        AppliedIn deployment firstCommitter statementReceived row := by
  have hruns : ∃ effect ∈ (run deployment firstCommitter statementReceived).tables.effects,
      effect.callbackId = "statement-1" := by
    decide +kernel
  obtain ⟨effect, heffect, hcallback⟩ := hruns
  exact ⟨effect, heffect, hcallback, @effects_are_authorized _ _ _ _ effect heffect⟩

end rwa.reconciliation
