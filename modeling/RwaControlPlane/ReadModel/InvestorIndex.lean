import RwaControlPlane.Library.Runs
import RwaControlPlane.ReadModel.PartyIndex

open checked js_value
open rwa.gate (TransactionType TransactionState uniqueViolation)
open rwa.storage (Platform TransactionIntent TransactionTables typeError checkViolation sha256Canonical IsHash)

namespace rwa.read_model

variable {runtime : Runtime} {mac : String → String → String} {numbers : Set Rat}

section Payload

/-- What one cipher opens of the envelopes of another is what the other has sealed. -/
def PayloadCipher.Opens (reader writer : PayloadCipher) : Prop :=
  ∀ plaintext aad other text, reader.decipher (writer.encipher plaintext aad) other = .ok text → text = plaintext

/-- A payload names a text under a key exactly where the request did. -/
private theorem property_of_sortKeys {request : List (String × JsValue)} (hkeys : (request.map Prod.fst).Nodup)
    {key text : String} (h : property (sortKeys (.object request)) key = some (.string text)) :
    property (.object request) key = some (.string text) := by
  rw [sortKeys] at h
  have hmem := sortMembers_perm.mem_iff.mp (mem_of_property (by simp) h)
  rw [sortValues_eq] at hmem
  obtain ⟨member, hmember, heq⟩ := List.mem_map.mp hmem
  obtain ⟨rfl, hvalue⟩ := Prod.mk.inj heq
  obtain ⟨key, value⟩ := member
  cases value <;> simp only [sortKeys, JsValue.string.injEq, reduceCtorEq] at hvalue
  subst hvalue
  exact property_of_mem hkeys hmember

/-- What is decrypted of a sealed request is the request with its keys sorted. -/
private theorem decrypt_sealed {reader writer : PayloadCipher} (hopens : reader.Opens writer)
    (htexts : NumberTexts numbers runtime.numberText runtime.readNumber) {request payload : JsValue}
    (hjson : IsJson numbers request) {plaintext aad : String}
    (hplaintext : canonicalText runtime request = .ok plaintext)
    {context : CipherContext} (h : reader.decrypt runtime (writer.encipher plaintext aad) context = .ok payload) :
    payload = sortKeys request := by
  simp only [PayloadCipher.decrypt, bind_eq_ok_iff] at h
  obtain ⟨other, -, text, hdecipher, hparse⟩ := h
  obtain rfl := hopens _ _ _ _ hdecipher
  obtain ⟨canonical, hcanonical, hread⟩ := hjson.parse_canonicalize htexts
  simp only [canonicalText, hcanonical, rethrow, bind, Except.bind, require, Except.ok.injEq] at hplaintext
  subst hplaintext
  rw [require_eq_ok_iff, hread] at hparse
  exact (Option.some.inj hparse).symm

/-- An investor that is a party to the payload of a request was indexed for it. -/
private theorem mem_partyRefs_of_isParty {request : List (String × JsValue)} (hkeys : (request.map Prod.fst).Nodup)
    {actorRef : String} (hactor : actorRef ≠ "") (h : isParty (sortKeys (.object request)) actorRef = .ok true) :
    actorRef ∈ partyRefs (.object request) := by
  have hfield : ∃ field ∈ partyRefFields, property (sortKeys (.object request)) field = some (.string actorRef) := by
    simp only [isParty, member, bind_eq_ok_iff, require_eq_ok_iff, pure_eq_ok_iff, Bool.or_eq_true] at h
    obtain ⟨investorId, hinvestor, sellerId, hseller, buyerId, hbuyer, h⟩ := h
    have hequal : ∀ value, strictEquals value (.string actorRef) = true → value = .string actorRef := by
      intro value hvalue
      cases value <;> simp_all [strictEquals]
    obtain (h | h) | h := h
    · exact ⟨"investorId", by simp [partyRefFields], hequal _ h ▸ hinvestor⟩
    · exact ⟨"sellerId", by simp [partyRefFields], hequal _ h ▸ hseller⟩
    · exact ⟨"buyerId", by simp [partyRefFields], hequal _ h ▸ hbuyer⟩
  obtain ⟨field, hmem, hproperty⟩ := hfield
  rw [partyRefs, List.mem_dedup, List.mem_filter]
  refine ⟨List.mem_filterMap.mpr ⟨field, hmem, ?_⟩, by simpa using hactor⟩
  rw [property_of_sortKeys hkeys hproperty]
  rfl

end Payload

section Index

variable (runtime mac numbers)

/-- What the index and the payload of a transaction have in common, when it is
indexed under a key. -/
def Indexed (reader : PayloadCipher) (index : List PartyIndexRow) (keyId : String) (row : TransactionIntent) : Prop :=
  ∃ request writer plaintext aad, IsJson numbers (.object request) ∧ reader.Opens writer ∧
    canonicalText runtime (.object request) = .ok plaintext ∧
    row.privatePayloadCiphertext = writer.encipher plaintext aad ∧
    ∀ ref ∈ partyRefs (.object request), ∃ message,
      economicMessage runtime row.tenantId .null row.productId "party-index-v1" ref = .ok message ∧
      (⟨row.id, row.tenantId, row.productId, mac keyId message⟩ : PartyIndexRow) ∈ index

/-- Every index row belongs to a transaction, and every transaction with a key is
indexed under it. -/
structure Sound (reader : PayloadCipher) (tables : Tables) : Prop where
  ids : (tables.transactions.intents.map (·.id)).Nodup
  columns : tables.columns.map (·.transactionId) = tables.transactions.intents.map (·.id)
  owned : ∀ index ∈ tables.partyIndex, index.transactionId ∈ tables.transactions.intents.map (·.id)
  indexed : ∀ row ∈ tables.transactions.intents, ∀ column ∈ tables.columns, column.transactionId = row.id →
    ∀ keyId, column.partyIndexKeyId = some keyId → Indexed runtime mac numbers reader tables.partyIndex keyId row

/-- Writers whose requests are JSON, and whose envelopes the reader can only open
to what they have sealed. -/
def Action.Admissible (reader : PayloadCipher) : Action mac → Prop
  | .settle settlement _ => IsJson numbers (.object settlement.request) ∧ reader.Opens settlement.payloadCipher
  | _ => True

end Index

section Writes

variable {reader : PayloadCipher} {tables next : Tables}

theorem Indexed.mono {index more : List PartyIndexRow} {keyId : String} {row : TransactionIntent}
    (h : Indexed runtime mac numbers reader index keyId row) (hsub : ∀ entry ∈ index, entry ∈ more) :
    Indexed runtime mac numbers reader more keyId row := by
  obtain ⟨request, writer, plaintext, aad, hjson, hopens, htext, hrow, hrefs⟩ := h
  refine ⟨request, writer, plaintext, aad, hjson, hopens, htext, hrow, fun ref href => ?_⟩
  obtain ⟨message, hmessage, hmem⟩ := hrefs ref href
  exact ⟨message, hmessage, hsub _ hmem⟩

/-- A new transaction is the last one, under an id of its own. -/
private theorem createTransactionIntent_ok {transactions after : TransactionTables} {intent row : TransactionIntent}
    {actorRef : Option String} {created : Bool}
    (h : transactions.createTransactionIntent intent actorRef = .ok (created, row, after)) :
    created = true → after.intents = transactions.intents ++ [row] ∧ row = { intent with currentState := .requested } ∧
      row.id ∉ transactions.intents.map (·.id) := by
  unfold TransactionTables.createTransactionIntent at h
  split at h
  · simp only [bind_eq_ok_iff, pure_eq_ok_iff, Prod.mk.injEq] at h
    obtain ⟨-, -, rfl, -⟩ := h
    intro hcreated
    cases hcreated
  · simp only [bind_eq_ok_iff, pure_eq_ok_iff, Prod.mk.injEq, throwIf_eq_ok_iff, exists_unit] at h
    obtain ⟨hid, -, rfl, rfl⟩ := h
    exact fun _ => ⟨rfl, rfl, hid⟩

/-- The index rows of a new transaction are inserted, and no row is lost. -/
private theorem insertPartyMacs_ok {intent : TransactionIntent} {macs : List String} {rows after : List PartyIndexRow}
    (hown : ∀ entry ∈ rows, entry.transactionId = intent.id →
      entry = ⟨intent.id, intent.tenantId, intent.productId, entry.partyMac⟩)
    (h : macs.foldlM (Tables.insertPartyMac intent) rows = .ok after) :
    (∀ entry ∈ rows, entry ∈ after) ∧ (∀ entry ∈ after, entry ∈ rows ∨ entry.transactionId = intent.id) ∧
      ∀ partyMac ∈ macs, (⟨intent.id, intent.tenantId, intent.productId, partyMac⟩ : PartyIndexRow) ∈ after := by
  induction macs generalizing rows with
  | nil =>
    obtain rfl := pure_eq_ok_iff.mp h
    exact ⟨fun _ => id, fun _ => Or.inl, nofun⟩
  | cons partyMac rest ih =>
    rw [List.foldlM_cons] at h
    obtain ⟨middle, hmiddle, hrest⟩ := bind_eq_ok_iff.mp h
    simp only [Tables.insertPartyMac, bind_eq_ok_iff, throwIf_eq_ok_iff, exists_unit] at hmiddle
    obtain ⟨-, hmiddle⟩ := hmiddle
    have hinserted : (∀ entry ∈ rows, entry ∈ middle) ∧
        (∀ entry ∈ middle, entry ∈ rows ∨ entry = ⟨intent.id, intent.tenantId, intent.productId, partyMac⟩) ∧
        (⟨intent.id, intent.tenantId, intent.productId, partyMac⟩ : PartyIndexRow) ∈ middle := by
      split at hmiddle
      · next hconflict =>
        obtain rfl := pure_eq_ok_iff.mp hmiddle
        obtain ⟨entry, hentry, hid, hmac⟩ := hconflict
        refine ⟨fun _ => id, fun _ => Or.inl, ?_⟩
        rw [← hmac, ← hown entry hentry hid]
        exact hentry
      · obtain rfl := pure_eq_ok_iff.mp hmiddle
        exact ⟨fun entry => List.mem_append_left _, fun entry hentry => by simpa using hentry, by simp⟩
    obtain ⟨hkept, hfrom, hadded⟩ := hinserted
    obtain ⟨hlater, hafter, hothers⟩ := ih (fun entry hentry hid => by
      obtain hold | rfl := hfrom entry hentry
      · exact hown entry hold hid
      · rfl) hrest
    refine ⟨fun entry hentry => hlater entry (hkept entry hentry), fun entry hentry => ?_, ?_⟩
    · obtain hmiddle | hid := hafter entry hentry
      · obtain hold | rfl := hfrom entry hmiddle
        · exact Or.inl hold
        · exact Or.inr rfl
      · exact Or.inr hid
    · exact List.forall_mem_cons.mpr ⟨hlater _ hadded, hothers⟩

/-- Creating a transaction keeps the index sound, when what is indexed for it is
what its payload names. -/
private theorem create_sound (hsound : Sound runtime mac numbers reader tables) {intent row : TransactionIntent}
    {partyIndex : Option PartyIndex} {actorRef : Option String} {createdAt : Int} {created : Bool}
    (hindexed : ∀ found rows, partyIndex = some found →
      (∀ partyMac ∈ found.macs, (⟨intent.id, intent.tenantId, intent.productId, partyMac⟩ : PartyIndexRow) ∈ rows) →
      Indexed runtime mac numbers reader rows found.keyId { intent with currentState := .requested })
    (h : tables.createTransactionIntent intent partyIndex actorRef createdAt = .ok (created, row, next)) :
    Sound runtime mac numbers reader next := by
  simp only [Tables.createTransactionIntent, bind_eq_ok_iff] at h
  obtain ⟨⟨inserted, new, transactions⟩, hcreate, h⟩ := h
  cases inserted with
  | false =>
    obtain ⟨-, -, rfl⟩ : false = created ∧ new = row ∧ tables = next := by simpa [pure_eq_ok_iff] using h
    exact hsound
  | true =>
    obtain ⟨hintents, hnew, hid⟩ := createTransactionIntent_ok hcreate rfl
    simp only [if_true, bind_eq_ok_iff, pure_eq_ok_iff, Prod.mk.injEq] at h
    obtain ⟨rows, hrows, -, -, rfl⟩ := h
    have hforeign : ∀ entry ∈ tables.partyIndex, entry.transactionId ≠ new.id := fun entry hentry heq =>
      hid (heq ▸ hsound.owned entry hentry)
    obtain ⟨hkept, hfrom, hmacs⟩ :=
      insertPartyMacs_ok (fun entry hentry heq => absurd heq (hforeign entry hentry)) hrows
    refine ⟨?_, ?_, ?_, ?_⟩
    · simp only [hintents]
      exact keyed_rows.nodup_concat hsound.ids hid
    · simp only [hintents, List.map_append, hsound.columns]
      rfl
    · intro entry hentry
      simp only [hintents, List.map_append, List.mem_append]
      obtain hold | heq := hfrom entry hentry
      · exact Or.inl (hsound.owned entry hold)
      · exact Or.inr (by simp [heq])
    · intro other hother column hcolumn heq keyId hkey
      simp only [hintents, List.mem_append, List.mem_singleton] at hother hcolumn
      have hcolumnIds : ∀ found ∈ tables.columns, found.transactionId ∈ tables.transactions.intents.map (·.id) :=
        fun found hfound => hsound.columns ▸ List.mem_map_of_mem hfound
      obtain hold | rfl := hother
      · obtain hcolumn | rfl := hcolumn
        · exact (hsound.indexed other hold column hcolumn heq keyId hkey).mono hkept
        · exact absurd (List.mem_map.mpr ⟨other, hold, heq.symm⟩) hid
      · obtain hcolumn | rfl := hcolumn
        · exact absurd (heq ▸ hcolumnIds column hcolumn) hid
        · obtain ⟨found, hfound, rfl⟩ := Option.map_eq_some_iff.mp hkey
          subst hnew
          refine hindexed found rows hfound ?_
          simpa [hfound] using hmacs

/-- What a settlement indexes is what its payload names. -/
private theorem settlement_indexed {settlement : Settlement mac} {intent : TransactionIntent}
    {partyIndex : Option PartyIndex} (hjson : IsJson numbers (.object settlement.request))
    (hopens : reader.Opens settlement.payloadCipher) (h : settlement.intent runtime = .ok (intent, partyIndex))
    {found : PartyIndex} {rows : List PartyIndexRow} (hfound : partyIndex = some found)
    (hrows : ∀ partyMac ∈ found.macs,
      (⟨intent.id, intent.tenantId, intent.productId, partyMac⟩ : PartyIndexRow) ∈ rows) :
    Indexed runtime mac numbers reader rows found.keyId { intent with currentState := .requested } := by
  simp only [Settlement.intent, PayloadCipher.encrypt, bind_eq_ok_iff, pure_eq_ok_iff, Prod.mk.injEq] at h
  obtain ⟨envelope, ⟨aad, -, plaintext, hplaintext, rfl⟩, index, hindex, requestHash, -, rfl, rfl⟩ := h
  subst hfound
  unfold partyIndexFor at hindex
  cases hcommitter : settlement.economicCommitter with
  | none =>
    rw [hcommitter] at hindex
    cases hindex
  | some committer =>
    rw [hcommitter] at hindex
    simp only [bind_eq_ok_iff, pure_eq_ok_iff, Option.some.injEq] at hindex
    obtain ⟨macs, hmacs, rfl⟩ := hindex
    refine ⟨settlement.request, settlement.payloadCipher, plaintext, aad, hjson, hopens, hplaintext, rfl,
      fun ref href => ?_⟩
    obtain ⟨partyMac, hmem, hmac⟩ := mapM_mem hmacs href
    simp only [partyIndexMac, EconomicCommitter.commit, bind_eq_ok_iff] at hmac
    obtain ⟨message, hmessage, hgenerate⟩ := hmac
    refine ⟨message, hmessage, ?_⟩
    rw [← committer.computes message partyMac hgenerate]
    exact hrows partyMac hmem

/-- A state change keeps what the index says about the transactions. -/
private theorem transition_sound (hsound : Sound runtime mac numbers reader tables) {transactionId : String}
    {toState : TransactionState} {reasonCode actorRef : Option String}
    (h : tables.transitionTransaction transactionId toState reasonCode actorRef = .ok next) :
    Sound runtime mac numbers reader next := by
  simp only [Tables.transitionTransaction, TransactionTables.transitionTransaction, bind_eq_ok_iff, pure_eq_ok_iff,
    throwIf_eq_ok_iff, exists_unit] at h
  obtain ⟨transactions, ⟨intent, -, -, -, rfl⟩, rfl⟩ := h
  have hids : (tables.transactions.intents.map fun row : TransactionIntent =>
      if row.id = transactionId then { row with currentState := toState } else row).map (·.id) =
      tables.transactions.intents.map (·.id) := by
    rw [List.map_map]
    refine List.map_congr_left fun row _ => ?_
    simp only [Function.comp_apply]
    split <;> rfl
  refine ⟨hids ▸ hsound.ids, hsound.columns.trans hids.symm, fun entry hentry => ?_, ?_⟩
  · rw [hids]
    exact hsound.owned entry hentry
  · intro changed hchanged column hcolumn heq keyId hkey
    obtain ⟨row, hrow, rfl⟩ := List.mem_map.mp hchanged
    by_cases hid : row.id = transactionId
    · rw [if_pos hid] at heq ⊢
      exact hsound.indexed row hrow column hcolumn heq keyId hkey
    · rw [if_neg hid] at heq ⊢
      exact hsound.indexed row hrow column hcolumn heq keyId hkey

theorem execute_sound (hsound : Sound runtime mac numbers reader tables) {action : Action mac}
    (hadmissible : action.Admissible mac numbers reader) {done : Unit}
    (h : execute runtime tables action = .ok (done, next)) : Sound runtime mac numbers reader next := by
  cases action with
  | settle settlement createdAt =>
    simp only [execute, bind_eq_ok_iff, pure_eq_ok_iff, Prod.mk.injEq] at h
    obtain ⟨⟨intent, partyIndex⟩, hintent, ⟨created, row, after⟩, hcreate, -, rfl⟩ := h
    obtain ⟨hjson, hopens⟩ := hadmissible
    exact create_sound hsound
      (fun found rows hfound hrows => settlement_indexed hjson hopens hintent hfound hrows) hcreate
  | createUnindexed intent actorRef createdAt =>
    simp only [execute, bind_eq_ok_iff, pure_eq_ok_iff, Prod.mk.injEq] at h
    obtain ⟨⟨created, row, after⟩, hcreate, -, rfl⟩ := h
    exact create_sound hsound (fun found rows hfound => absurd hfound (by simp)) hcreate
  | transitionTransaction transactionId toState reasonCode actorRef =>
    simp only [execute, bind_eq_ok_iff, pure_eq_ok_iff, Prod.mk.injEq] at h
    obtain ⟨after, htransition, -, rfl⟩ := h
    exact transition_sound hsound htransition
  | storeReceipt row =>
    simp only [execute, Tables.storeReceipt, bind_eq_ok_iff, pure_eq_ok_iff, Prod.mk.injEq] at h
    obtain ⟨after, ⟨-, -, rfl⟩, -, rfl⟩ := h
    exact ⟨hsound.ids, hsound.columns, hsound.owned, hsound.indexed⟩

theorem empty_sound : Sound runtime mac numbers reader Tables.empty := by
  refine ⟨List.nodup_nil, rfl, ?_, ?_⟩ <;> simp [Tables.empty, TransactionTables.empty]

/-- The index stays sound in every run. -/
theorem run_sound {actions : List (Action mac)} (hactions : ∀ action ∈ actions, action.Admissible mac numbers reader) :
    Sound runtime mac numbers reader (runs.run (step runtime) Tables.empty actions) := by
  refine @runs.run_invariant_of_admissible _ _ (step runtime) (Sound runtime mac numbers reader)
    (fun _ action => action.Admissible mac numbers reader) ?_ _ _ empty_sound ?_
  · intro tables action hsound hadmissible
    exact commit_preserves hsound fun _ next h => execute_sound hsound hadmissible h
  · rintro before action after rfl
    exact hactions action (by simp)

end Writes

section Reads

variable {model : PostgresReadModel mac} {tables : Tables} {row : TransactionIntent}

/-- A transaction that is no candidate is one that the investor is not a party to. -/
theorem isParty_of_not_candidate (htexts : NumberTexts numbers runtime.numberText runtime.readNumber)
    (hsound : Sound runtime mac numbers model.payloadCipher tables) (hrow : row ∈ tables.transactions.intents)
    {payload : JsValue} (hpayload : decryptPayload runtime model row = .ok payload) {actorRef : String}
    (hactor : actorRef ≠ "") {committer : EconomicCommitter mac} {partyMac : String}
    (hmac : partyIndexMac runtime committer row.tenantId row.productId actorRef = .ok partyMac)
    (hcandidate : tables.isCandidate committer.keyId partyMac row = false) : isParty payload actorRef = .ok false := by
  simp only [Tables.isCandidate, Bool.or_eq_false_iff, decide_eq_false_iff_not, not_not, List.any_eq_false]
    at hcandidate
  obtain ⟨hkey, hnone⟩ := hcandidate
  -- the row is indexed under the current key, so its payload is the request that was indexed
  obtain ⟨column, hfind, hcolumn⟩ := Option.bind_eq_some_iff.mp hkey
  have hid : column.transactionId = row.id := by simpa using List.find?_some hfind
  obtain ⟨request, writer, plaintext, aad, hjson, hopens, htext, hcipher, hrefs⟩ :=
    hsound.indexed row hrow column (List.mem_of_find?_eq_some hfind) hid committer.keyId hcolumn
  unfold decryptPayload at hpayload
  rw [hcipher] at hpayload
  obtain rfl := decrypt_sealed hopens htexts hjson htext hpayload
  have hkeys : (request.map Prod.fst).Nodup := by
    cases hjson with
    | object hkeys _ => exact hkeys
  cases hparty : isParty (sortKeys (.object request)) actorRef with
  | error failure => cases hparty
  | ok party =>
    cases party with
    | false => rfl
    | true =>
      obtain ⟨message, hmessage, hindex⟩ := hrefs actorRef (mem_partyRefs_of_isParty hkeys hactor hparty)
      simp only [partyIndexMac, EconomicCommitter.commit, bind_eq_ok_iff, hmessage, Except.ok.injEq,
        exists_eq_left'] at hmac
      exact absurd (by simp [committer.computes message partyMac hmac]) (hnone _ hindex)

variable (runtime model tables)

/-- What the view is compared with: every transaction of the product is decrypted,
and those that the investor is a party to are described. -/
def fullScan (productId actorRef : String) : Except Failure (List OwnTransaction) :=
  visits.readAll
    (fun row => do
      let payload ← decryptPayload runtime model row
      let party ← isParty payload actorRef
      pure (payload, party))
    (fun entry => entry.2.2)
    (fun entry => ownTransaction runtime entry.1 (tables.receiptOf entry.1.id) entry.2.1)
    (tables.productTransactions model.tenantId productId)

variable {runtime model tables}

/-- What a transaction of the tenant discloses to an investor. -/
private theorem discloseOwn_eq (hids : (tables.transactions.intents.map (·.id)).Nodup)
    (hrow : row ∈ tables.transactions.intents) (htenant : row.tenantId = model.tenantId) {actorRef : String}
    (hactor : actorRef ≠ "") :
    discloseOwn runtime model tables actorRef row.id = (do
      let payload ← decryptPayload runtime model row
      let party ← isParty payload actorRef
      if party then ownTransaction runtime row (tables.receiptOf row.id) payload
      else .error (denied "investor is not a party to this transaction")) := by
  have hfound : tables.transactions.intents.filter (fun other => other.id = row.id && other.tenantId = model.tenantId) =
      [row] := by
    have hsame : tables.transactions.intents.filter
        (fun other => other.id = row.id && other.tenantId = model.tenantId) =
        (tables.transactions.intents.filter (fun other => other.id = row.id)).filter
          fun other => other.tenantId = model.tenantId := by
      rw [List.filter_filter]
      exact List.filter_congr fun other _ => Bool.and_comm _ _
    rw [hsame, keyed_rows.filter_key_of_mem hids hrow, List.filter_singleton]
    simp [htenant]
  have hsome : (some actorRef).filter (· ≠ "") = some actorRef := by simpa using hactor
  unfold discloseOwn transactionForRole
  rw [hfound, hsome]
  cases hpayload : decryptPayload runtime model row with
  | error failure => simp [single, require, hpayload, bind, Except.bind]
  | ok payload =>
    cases hparty : isParty payload actorRef with
    | error failure => simp [single, require, hpayload, hparty, bind, Except.bind]
    | ok party =>
      cases party <;>
        simp [single, require, throwIf, hpayload, hparty, bind, Except.bind, pure, Except.pure]

/-- Reading a payload and describing it raise runtime errors only. -/
private theorem toBigInt_failure {value : JsValue} {failure : Failure} (h : toBigInt runtime value = .error failure) :
    failure.code = "" := by
  cases value with
  | number value =>
    simp only [toBigInt] at h
    split at h
    · cases h
    · cases h
      rfl
  | string text =>
    obtain ⟨-, rfl⟩ := require_eq_error_iff.mp h
    rfl
  | array items =>
    obtain ⟨-, rfl⟩ := require_eq_error_iff.mp h
    rfl
  | object members =>
    obtain ⟨-, rfl⟩ := require_eq_error_iff.mp h
    rfl
  | undefined | null | notFinite =>
    cases h
    rfl
  | bool value => cases h
  | bigint value => cases h
  | date time => cases h

private theorem member_failure {value : JsValue} {key : String} {failure : Failure}
    (h : member value key = .error failure) : failure.code = "" := by
  obtain ⟨-, rfl⟩ := require_eq_error_iff.mp h
  rfl

private theorem isParty_failure {payload : JsValue} {actorRef : String} {failure : Failure}
    (h : isParty payload actorRef = .error failure) : failure.code = "" := by
  simp only [isParty, bind_eq_error_iff] at h
  obtain h | ⟨_, -, h | ⟨_, -, h | ⟨_, -, h⟩⟩⟩ := h
  · exact member_failure h
  · exact member_failure h
  · exact member_failure h
  · cases h

private theorem amountShown_failure {units cashAmount pricePerUnit : JsValue} {failure : Failure}
    (h : amountShown runtime units cashAmount pricePerUnit = .error failure) : failure.code = "" := by
  have hproduct : ∀ failure : Failure, (if isTruthy pricePerUnit then do
        let count ← toBigInt runtime units
        let price ← toBigInt runtime pricePerUnit
        pure (JsValue.string (toString (count * price)))
      else pure .null) = Except.error failure → failure.code = "" := by
    intro failure h
    split at h
    · simp only [bind_eq_error_iff] at h
      obtain h | ⟨count, -, h | ⟨price, -, h⟩⟩ := h
      · exact toBigInt_failure h
      · exact toBigInt_failure h
      · cases h
    · cases h
  unfold amountShown at h
  split at h
  · exact hproduct failure h
  · exact hproduct failure h
  · cases h

private theorem ownTransaction_failure {receipt payload : JsValue} {failure : Failure}
    (h : ownTransaction runtime row receipt payload = .error failure) : failure.code = "" := by
  simp only [ownTransaction, bind_eq_error_iff] at h
  obtain h | ⟨units, -, h | ⟨cashAmount, -, h | ⟨pricePerUnit, -, h | ⟨fee, -, h | ⟨amount, -, h⟩⟩⟩⟩⟩ := h
  · exact member_failure h
  · exact member_failure h
  · exact member_failure h
  · exact member_failure h
  · exact amountShown_failure h
  · cases h

/-- **The investor index agrees with the full scan.** In every run, whichever keys
the transactions were indexed under or whether they were indexed at all, the view
that decrypts the candidates of an investor shows the transactions that decrypting
every transaction of the product shows, in the same order. -/
theorem investor_index_agrees (htexts : NumberTexts numbers runtime.numberText runtime.readNumber)
    (model : PostgresReadModel mac) (actions : List (Action mac))
    (hactions : ∀ action ∈ actions, action.Admissible mac numbers model.payloadCipher) {productId actorRef : String}
    (hactor : actorRef ≠ "")
    (hdecrypts : ∀ row ∈ (runs.run (step runtime) Tables.empty actions).productTransactions model.tenantId productId,
      ∃ payload, decryptPayload runtime model row = .ok payload)
    (hcandidates : ∃ transactionIds, investorCandidateTransactions runtime model
      (runs.run (step runtime) Tables.empty actions) productId actorRef = .ok transactionIds)
    (own : List OwnTransaction) :
    ownTransactions runtime model (runs.run (step runtime) Tables.empty actions) productId actorRef = .ok own ↔
      fullScan runtime model (runs.run (step runtime) Tables.empty actions) productId actorRef = .ok own := by
  have hsound : Sound runtime mac numbers model.payloadCipher (runs.run (step runtime) Tables.empty actions) :=
    run_sound hactions
  generalize runs.run (step runtime) Tables.empty actions = tables at *
  have hrows : ∀ row ∈ tables.productTransactions model.tenantId productId,
      row ∈ tables.transactions.intents ∧ row.tenantId = model.tenantId ∧ row.productId = productId := by
    intro row hrow
    simpa [Tables.productTransactions] using hrow
  have hvisit := fun row hrow => @discloseOwn_eq runtime mac model tables row hsound.ids (hrows row hrow).1
    (hrows row hrow).2.1 actorRef hactor
  -- the candidates are those transactions of the product that a visit does not withhold for certain
  have hall : ownTransactions runtime model tables productId actorRef =
      visits.visitAll (fun row => discloseOwn runtime model tables actorRef row.id) (·.code = "DISCLOSURE_DENIED")
        (tables.productTransactions model.tenantId productId) := by
    unfold ownTransactions
    rw [throwIf, if_neg hactor]
    unfold investorCandidateTransactions at hcandidates ⊢
    cases hcommitter : model.economicCommitter with
    | none => exact visits.visitAll_map
    | some committer =>
      rw [hcommitter] at hcandidates
      obtain ⟨transactionIds, hids⟩ := hcandidates
      obtain ⟨partyMac, hmac, -⟩ := bind_eq_ok_iff.mp hids
      have hfilter : paging.inOrder tables.position (tables.transactions.intents.filter fun row =>
          row.tenantId = model.tenantId && row.productId = productId &&
            tables.isCandidate committer.keyId partyMac row) =
          (tables.productTransactions model.tenantId productId).filter
            (tables.isCandidate committer.keyId partyMac) := by
        rw [Tables.productTransactions, paging.filter_inOrder, List.filter_filter]
        exact congrArg _ (List.filter_congr fun row _ => Bool.and_comm _ _)
      have hvisits := @visits.visitAll_filter _ _ _ (fun row => discloseOwn runtime model tables actorRef row.id)
        (·.code = "DISCLOSURE_DENIED") (tables.productTransactions model.tenantId productId)
        (tables.isCandidate committer.keyId partyMac) fun row hrow hcandidate => by
          obtain ⟨payload, hpayload⟩ := hdecrypts row hrow
          obtain ⟨hmem, htenant, hproduct⟩ := hrows row hrow
          have hother := isParty_of_not_candidate htexts hsound hmem hpayload hactor
            (by rw [htenant, hproduct]; exact hmac) hcandidate
          refine ⟨denied "investor is not a party to this transaction", ?_, rfl⟩
          rw [hvisit row hrow, hpayload]
          simp only [bind, Except.bind, hother]
          rfl
      simp only [hmac, bind, Except.bind, pure, Except.pure, hfilter]
      rw [visits.visitAll_map, hvisits]
  rw [hall]
  refine @visits.visitAll_eq_ok_iff _ _ _ _ _ (·.code = "DISCLOSURE_DENIED") _ _ _ _
    (denied "investor is not a party to this transaction") rfl ?_ ?_ ?_ own
  · intro row hrow content hcontent
    obtain ⟨payload, hpayload, party, hparty, rfl⟩ := by
      simpa only [bind_eq_ok_iff, pure_eq_ok_iff] using hcontent
    rw [hvisit row hrow, hpayload]
    simp only [bind, Except.bind, hparty]
  · intro row hrow failure hfailure
    obtain ⟨payload, hpayload⟩ := hdecrypts row hrow
    cases hparty : isParty payload actorRef with
    | error cause =>
      refine ⟨cause, ?_, by simp [isParty_failure hparty]⟩
      rw [hvisit row hrow, hpayload]
      simp only [bind, Except.bind, hparty]
    | ok party =>
      simp only [hpayload, hparty, bind, Except.bind] at hfailure
      cases hfailure
  · intro entry failure hfailure
    simp [ownTransaction_failure hfailure]

end Reads

section Sample

private def sampleRuntime : Runtime where
  sha256 _ := ""
  numberText _ := "0"
  isoText _ := ""
  readNumber _ := none

private def sampleCipher : PayloadCipher where
  schema := "v1"
  encipher plaintext _ := plaintext
  decipher envelope _ := .ok envelope

private def sampleMac (keyId message : String) : String :=
  if (message.utf8ByteSize + keyId.utf8ByteSize) % 2 = 0 then
    "aaaaaaaaaaaaaaaaaaaaaaaaaaaaaaaaaaaaaaaaaaaaaaaaaaaaaaaaaaaaaaaa"
  else "bbbbbbbbbbbbbbbbbbbbbbbbbbbbbbbbbbbbbbbbbbbbbbbbbbbbbbbbbbbbbbbb"

private def sampleCommitter (keyId : String) : EconomicCommitter sampleMac where
  keyId
  generateMac message := .ok (sampleMac keyId message)
  computes _ _ h := (Except.ok.inj h).symm

private def sampleSettlement (id : String) (keyId : Option String) (parties : List (String × String)) :
    Action sampleMac :=
  .settle
    { payloadCipher := sampleCipher
      economicCommitter := keyId.map sampleCommitter
      tenantId := "t", productId := "p", id, idempotencyKey := id, transactionType := .transfer
      request := parties.map fun member => (member.1, .string member.2)
      ruleVersion := 1, navEvidenceId := "", policySnapshotHash := "", originatingInstitutionId := none } 1

/-- Transactions under two keys and without a committer, one of them of another
investor. -/
private def sampleActions : List (Action sampleMac) :=
  [sampleSettlement "1" (some "k") [("sellerId", "ann"), ("buyerId", "bert")],
    sampleSettlement "2" (some "key") [("investorId", "ann")],
    sampleSettlement "3" (some "k") [("investorId", "bert")],
    sampleSettlement "4" none [("investorId", "ann")]]

private def sampleModel : PostgresReadModel sampleMac := ⟨sampleCipher, "t", some (sampleCommitter "k")⟩

private theorem sampleActions_admissible :
    ∀ action ∈ sampleActions, action.Admissible sampleMac ∅ sampleModel.payloadCipher := by
  have hsettlement : ∀ id keyId parties, (parties.map Prod.fst).Nodup →
      Action.Admissible sampleMac ∅ sampleModel.payloadCipher (sampleSettlement id keyId parties) := by
    intro id keyId parties hparties
    refine ⟨.object (by simpa [Function.comp_def] using hparties) ?_, fun _ _ _ _ h => (Except.ok.inj h).symm⟩
    exact List.forall_mem_map.mpr fun _ _ => .string
  simp only [sampleActions, List.forall_mem_cons]
  exact ⟨hsettlement _ _ _ (by decide), hsettlement _ _ _ (by decide), hsettlement _ _ _ (by decide),
    hsettlement _ _ _ (by decide), nofun⟩

/-- The investor is shown its transactions of every key, and its view decrypts one
transaction less than the scan. -/
theorem investor_index_agrees_sample :
    ∃ own, ownTransactions sampleRuntime sampleModel (runs.run (step sampleRuntime) Tables.empty sampleActions)
        "p" "ann" = .ok own ∧
      fullScan sampleRuntime sampleModel (runs.run (step sampleRuntime) Tables.empty sampleActions) "p" "ann" =
        .ok own ∧
      own.map (·.id) = ["1", "2", "4"] := by
  have hrun : (∀ row ∈ (runs.run (step sampleRuntime) Tables.empty sampleActions).productTransactions "t" "p",
        (decryptPayload sampleRuntime sampleModel row).isOk = true) ∧
      (investorCandidateTransactions sampleRuntime sampleModel
        (runs.run (step sampleRuntime) Tables.empty sampleActions) "p" "ann").isOk = true ∧
      ((ownTransactions sampleRuntime sampleModel (runs.run (step sampleRuntime) Tables.empty sampleActions)
        "p" "ann").map fun own => own.map (·.id)).toOption = some ["1", "2", "4"] := by
    decide +kernel
  have hok : ∀ {α : Type} {result : Except Failure α}, result.isOk = true → ∃ value, result = .ok value := by
    intro α result h
    cases result with
    | error failure => cases h
    | ok value => exact ⟨value, rfl⟩
  have hnumbers : NumberTexts ∅ sampleRuntime.numberText sampleRuntime.readNumber := ⟨nofun, nofun, nofun⟩
  obtain ⟨hdecrypts, hcandidates, hown⟩ := hrun
  cases hview : ownTransactions sampleRuntime sampleModel (runs.run (step sampleRuntime) Tables.empty sampleActions)
      "p" "ann" with
  | error failure =>
    rw [hview] at hown
    cases hown
  | ok own =>
    rw [hview] at hown
    exact ⟨own, rfl, (investor_index_agrees hnumbers sampleModel sampleActions
      sampleActions_admissible (by decide) (fun row hrow => hok (hdecrypts row hrow)) (hok hcandidates) own).mp hview,
      Option.some.inj hown⟩

end Sample

end rwa.read_model
