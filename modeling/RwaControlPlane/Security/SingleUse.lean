import RwaControlPlane.Security.Login

open checked js_value

namespace rwa.security.oidc

theorem not_mem_of_mem_splitOn {α : Type} [DecidableEq α] {separator : α} {items : List α} :
    ∀ piece ∈ items.splitOn separator, separator ∉ piece := by
  induction items with
  | nil => simp
  | cons item items ih =>
    rw [List.splitOn_cons_eq_if_modifyHead]
    by_cases hitem : item = separator
    · rw [if_pos (by simpa using hitem)]
      intro piece hpiece
      obtain rfl | hrest := List.mem_cons.mp hpiece
      · exact List.not_mem_nil
      · exact ih piece hrest
    · rw [if_neg (by simpa using hitem)]
      intro piece hpiece
      cases hsplit : items.splitOn separator with
      | nil => exact absurd hsplit (List.splitOn_ne_nil separator items)
      | cons first rest =>
        rw [hsplit, List.modifyHead_cons] at hpiece
        obtain rfl | hrest := List.mem_cons.mp hpiece
        · have hfirst := ih first (by rw [hsplit]; exact List.mem_cons_self)
          simp only [List.mem_cons, not_or]
          exact ⟨fun heq => hitem heq.symm, hfirst⟩
        · exact ih piece (by rw [hsplit]; exact List.mem_cons_of_mem first hrest)

private theorem compactSegments_dotless {idToken header payload signature : String}
    (h : compactSegments idToken = some (header, payload, signature)) :
    '.' ∉ header.toList ∧ '.' ∉ payload.toList := by
  unfold compactSegments at h
  split at h
  next first second third hsegments =>
    split at h
    · cases h
    · cases h
      have hdotless : ∀ segment ∈ [header, payload, signature], '.' ∉ segment.toList := by
        rw [← hsegments]
        intro segment hsegment
        obtain ⟨piece, hpiece, rfl⟩ := List.mem_map.mp hsegment
        rw [String.toList_ofList]
        exact not_mem_of_mem_splitOn piece hpiece
      exact ⟨hdotless header (by simp), hdotless payload (by simp)⟩
  next => cases h

/-- Tokens with the same signed content have the same payload. -/
theorem payload_of_signedContent {first second : String} {header payload signature header' payload' signature' : String}
    (hfirst : compactSegments first = some (header, payload, signature))
    (hsecond : compactSegments second = some (header', payload', signature'))
    (hcontent : signedContent first = signedContent second) : payload = payload' := by
  simp only [signedContent, hfirst, hsecond, Option.map_some, Option.some.injEq] at hcontent
  have htexts := congrArg String.toList hcontent
  simp only [String.toList_append, List.append_assoc] at htexts
  have hdots : (".": String).toList = ['.'] := by decide
  rw [hdots, List.singleton_append, List.singleton_append] at htexts
  obtain ⟨-, hpayload⟩ := compactSegments_dotless hfirst
  obtain ⟨hheader', -⟩ := compactSegments_dotless hsecond
  obtain ⟨hheader, -⟩ := compactSegments_dotless hfirst
  obtain ⟨-, -, hpayloads⟩ := (List.append_cons_inj_of_notMem hheader hpayload).mp htexts
  exact String.toList_injective hpayloads

variable (service : ProductionAuthService)

/-- A login carries the claims of its token, and the digest of their nonce is that of
the nonce of the caller. -/
structure VerifiedFor (login : VerifiedLogin) : Prop where
  token : ∃ providers jwks now, (∀ provider ∈ providers, provider.active = true) ∧
    verify service.verifier login.request.idToken providers jwks now = .ok login.claims
  nonce : service.sha256 login.claims.nonce = service.sha256 login.nonce

/-- Logins with the same signed content are for the same nonce. -/
theorem VerifiedFor.nonceHash_eq {service : ProductionAuthService} {first second : VerifiedLogin}
    (hfirst : VerifiedFor service first) (hsecond : VerifiedFor service second)
    (hcontent : signedContent first.request.idToken = signedContent second.request.idToken) :
    service.sha256 first.nonce = service.sha256 second.nonce := by
  obtain ⟨providers, jwks, now, -, hverify⟩ := hfirst.token
  obtain ⟨providers', jwks', now', -, hverify'⟩ := hsecond.token
  obtain ⟨header, payload, signature, hsegments, hnonce⟩ := verify_nonce hverify
  obtain ⟨header', payload', signature', hsegments', hnonce'⟩ := verify_nonce hverify'
  rw [payload_of_signedContent hsegments hsegments' hcontent, hnonce'] at hnonce
  rw [← hfirst.nonce, ← hsecond.nonce, ← Except.ok.inj hnonce]

/-- What holds of the challenges, the sessions and the record. -/
structure SingleUse (state : AuthState) : Prop where
  challenges_nodup : (state.tables.challenges.map Challenge.nonceHash).Nodup
  challenges_issued : ∀ challenge ∈ state.tables.challenges,
    ∃ nonce ∈ state.issued, service.sha256 nonce = challenge.nonceHash
  verified : ∀ login ∈ state.verified, VerifiedFor service login
  established : ∀ entry ∈ state.established, VerifiedFor service entry.login
  established_nodup : (state.established.map fun entry => service.sha256 entry.login.nonce).Nodup
  consumed : ∀ entry ∈ state.established, ∃ challenge ∈ state.tables.challenges,
    challenge.nonceHash = service.sha256 entry.login.nonce ∧ challenge.consumedAt ≠ none
  sessions : state.tables.sessions.map Session.idHash = state.established.map (·.session.idHash)
  sessions_nodup : (state.tables.sessions.map Session.idHash).Nodup

variable {service : ProductionAuthService}

section Operations

variable {tables next : AuthTables} {clock now : Int}

theorem createLoginChallenge_spec {nonce : String} {challenge : Challenge}
    (h : createLoginChallenge service nonce clock tables = .ok (challenge, next)) :
    challenge.nonceHash = service.sha256 nonce ∧ service.sha256 nonce ∉ tables.challenges.map Challenge.nonceHash ∧
      next = { tables with challenges := tables.challenges ++ [challenge] } := by
  simp only [createLoginChallenge, bind_eq_ok_iff, exists_unit, throwIf_eq_ok_iff, pure_eq_ok_iff] at h
  obtain ⟨hfresh, -, heq⟩ := h
  cases heq
  exact ⟨rfl, hfresh, rfl⟩

theorem verifyLogin_spec {request : LoginRequest} {jwks : IdentityProvider → Except Failure JsValue}
    {login : VerifiedLogin} (h : verifyLogin service request jwks now tables = .ok login) :
    VerifiedFor service login := by
  simp only [verifyLogin, bind_eq_ok_iff, exists_unit, throwIf_eq_ok_iff, require_eq_ok_iff, pure_eq_ok_iff] at h
  obtain ⟨-, nonce, -, -, claims, hverify, provider, -, -, hnonce, rfl⟩ := h
  refine ⟨⟨_, jwks, now, fun provider hprovider => ?_, hverify⟩, by simpa using fun hne : ¬_ => hnonce (Or.inr hne)⟩
  exact (List.mem_filter.mp hprovider).2

/-- The challenge of a nonce is open: it was issued, and it is neither used nor
expired. -/
def ChallengeOpen (tables : AuthTables) (nonceHash : String) (clock : Int) : Prop :=
  ∃ challenge ∈ tables.challenges, challenge.nonceHash = nonceHash ∧ challenge.consumedAt = none ∧
    challenge.createdAt ≤ clock ∧ clock < challenge.expiresAt

theorem consumeChallenge_spec {nonceHash : String} (h : consumeChallenge nonceHash clock tables = .ok next) :
    ChallengeOpen tables nonceHash clock ∧
      next = { tables with
        challenges := tables.challenges.map fun row =>
          if usable nonceHash clock row then { row with consumedAt := some clock } else row } := by
  simp only [consumeChallenge, bind_eq_ok_iff, exists_unit, throwIf_eq_ok_iff, require_eq_ok_iff, pure_eq_ok_iff] at h
  obtain ⟨challenge, hchallenge, hcreated, heq⟩ := h
  obtain ⟨hmem, husable⟩ := mem_of_single_filter hchallenge
  simp only [usable, Bool.and_eq_true, decide_eq_true_eq, Option.isNone_iff_eq_none] at husable
  obtain ⟨⟨hhash, hopen⟩, hexpiry⟩ := husable
  exact ⟨⟨challenge, hmem, hhash, hopen, by omega, hexpiry⟩, heq.symm⟩

theorem consumeToken_spec {idToken providerId : String} {claims : Claims}
    (h : consumeToken service idToken providerId claims clock tables = .ok next) :
    next.directory = tables.directory ∧ next.challenges = tables.challenges ∧ next.sessions = tables.sessions := by
  simp only [consumeToken, bind_eq_ok_iff, exists_unit, throwIf_eq_ok_iff, require_eq_ok_iff, pure_eq_ok_iff] at h
  obtain ⟨_, _, _, _, _, rfl⟩ := h
  exact ⟨rfl, rfl, rfl⟩

/-- A session opens on an open challenge, which it uses up. -/
theorem establishSession_spec {login : VerifiedLogin} {sessionToken csrfToken : String} {session : Session}
    (h : establishSession service login clock now sessionToken csrfToken tables = .ok (session, next)) :
    ChallengeOpen tables (service.sha256 login.nonce) clock ∧
      next.challenges = (tables.challenges.map fun row =>
        if usable (service.sha256 login.nonce) clock row then { row with consumedAt := some clock } else row) ∧
      session.idHash ∉ tables.sessions.map Session.idHash ∧ next.sessions = tables.sessions ++ [session] := by
  simp only [establishSession, insertSession, bind_eq_ok_iff, exists_unit, throwIf_eq_ok_iff, require_eq_ok_iff,
    pure_eq_ok_iff, Prod.mk.injEq, Prod.exists] at h
  obtain ⟨consumed, hconsumed, used, hused, principal, membership, -, -, authTime, -, mfaVerifiedAt, -, inserted,
    ⟨hfresh, -, rfl⟩, rfl, rfl⟩ := h
  obtain ⟨hopen, rfl⟩ := consumeChallenge_spec hconsumed
  obtain ⟨-, hchallenges, hsessions⟩ := consumeToken_spec hused
  simp only at hchallenges hsessions
  rw [hsessions] at hfresh
  exact ⟨hopen, hchallenges, hfresh, by rw [hsessions]⟩

end Operations

section Steps

variable {state : AuthState}

theorem singleUse_start {directory : Directory} : SingleUse service (AuthState.start directory) := by
  constructor <;> simp [AuthState.start]

private theorem mem_of_eraseIdx {login : VerifiedLogin} {index : Nat} (h : login ∈ state.verified.eraseIdx index) :
    login ∈ state.verified :=
  (List.eraseIdx_sublist state.verified index).subset h

private theorem createLoginChallenge_keeps {nonce : String} {clock : Int} {challenge : Challenge} {next : AuthTables}
    (hsingle : SingleUse service state)
    (h : createLoginChallenge service nonce clock state.tables = .ok (challenge, next)) :
    SingleUse service { state with tables := next, issued := state.issued ++ [nonce] } := by
  obtain ⟨hhash, hfresh, rfl⟩ := createLoginChallenge_spec h
  refine ⟨?_, ?_, hsingle.verified, hsingle.established, hsingle.established_nodup, ?_, hsingle.sessions,
    hsingle.sessions_nodup⟩
  · rw [List.map_append, List.nodup_append_comm, List.map_singleton, List.singleton_append, List.nodup_cons, hhash]
    exact ⟨hfresh, hsingle.challenges_nodup⟩
  · intro row hrow
    obtain hold | hnew := List.mem_append.mp hrow
    · obtain ⟨issued, hissued, heq⟩ := hsingle.challenges_issued row hold
      exact ⟨issued, List.mem_append_left _ hissued, heq⟩
    · obtain rfl := List.mem_singleton.mp hnew
      exact ⟨nonce, by simp, hhash.symm⟩
  · intro entry hentry
    obtain ⟨row, hrow, hconsumed⟩ := hsingle.consumed entry hentry
    exact ⟨row, List.mem_append_left _ hrow, hconsumed⟩

/-- An open challenge has opened no session. -/
theorem SingleUse.unused {nonceHash : String} {clock : Int} (hsingle : SingleUse service state)
    (hopen : ChallengeOpen state.tables nonceHash clock) :
    nonceHash ∉ state.established.map fun entry => service.sha256 entry.login.nonce := by
  intro hmem
  obtain ⟨entry, hentry, rfl⟩ := List.mem_map.mp hmem
  obtain ⟨used, hused, husedHash, hconsumed⟩ := hsingle.consumed entry hentry
  obtain ⟨challenge, hchallenge, hhash, hnone, -⟩ := hopen
  have heq : used = challenge :=
    List.inj_on_of_nodup_map hsingle.challenges_nodup hused hchallenge (husedHash.trans hhash.symm)
  exact hconsumed (heq ▸ hnone)

private theorem establish_keeps {login : VerifiedLogin} {index : Nat} {clock now : Int}
    {sessionToken csrfToken : String} {session : Session} {next : AuthTables} (hsingle : SingleUse service state)
    (hlogin : state.verified[index]? = some login)
    (h : establishSession service login clock now sessionToken csrfToken state.tables = .ok (session, next)) :
    SingleUse service
      { state with
        verified := state.verified.eraseIdx index
        tables := next
        established := state.established ++ [{ login, clock, session }] } := by
  obtain ⟨hopen, hchallenges, hfresh, hsessions⟩ := establishSession_spec h
  have hfor := hsingle.verified login (List.mem_of_getElem? hlogin)
  have hhashes : next.challenges.map Challenge.nonceHash = state.tables.challenges.map Challenge.nonceHash := by
    rw [hchallenges, List.map_map]
    refine List.map_congr_left fun row _ => ?_
    by_cases husable : usable (service.sha256 login.nonce) clock row <;> simp [husable]
  constructor
  · rw [hhashes]
    exact hsingle.challenges_nodup
  · intro challenge hchallenge
    have hhash : challenge.nonceHash ∈ state.tables.challenges.map Challenge.nonceHash :=
      hhashes ▸ List.mem_map_of_mem hchallenge
    obtain ⟨row, hrow, heq⟩ := List.mem_map.mp hhash
    rw [← heq]
    exact hsingle.challenges_issued row hrow
  · exact fun other hother => hsingle.verified other (mem_of_eraseIdx hother)
  · intro entry hentry
    obtain hold | hnew := List.mem_append.mp hentry
    · exact hsingle.established entry hold
    · rw [List.mem_singleton.mp hnew]
      exact hfor
  · rw [List.map_append, List.nodup_append_comm, List.map_singleton, List.singleton_append, List.nodup_cons]
    exact ⟨hsingle.unused hopen, hsingle.established_nodup⟩
  · intro entry hentry
    rw [hchallenges]
    obtain hold | hnew := List.mem_append.mp hentry
    · obtain ⟨row, hrow, hhash, hconsumed⟩ := hsingle.consumed entry hold
      refine ⟨_, List.mem_map_of_mem hrow, ?_⟩
      -- A consumed row is not usable, so the transaction has left it alone.
      rw [if_neg (by simp [usable, hconsumed])]
      exact ⟨hhash, hconsumed⟩
    · obtain ⟨row, hrow, hhash, hnone, hcreated, hexpiry⟩ := hopen
      rw [List.mem_singleton.mp hnew]
      refine ⟨_, List.mem_map_of_mem hrow, ?_⟩
      rw [if_pos (by simp [usable, hhash, hnone, hexpiry])]
      exact ⟨hhash, Option.some_ne_none clock⟩
  · rw [hsessions, List.map_append, List.map_append, hsingle.sessions]
    rfl
  · rw [hsessions, List.map_append, List.nodup_append_comm, List.map_singleton, List.singleton_append, List.nodup_cons]
    exact ⟨hfresh, hsingle.sessions_nodup⟩

theorem singleUse_step {action : Action} (hsingle : SingleUse service state) :
    SingleUse service (step service state action) := by
  cases action with
  | createLoginChallenge nonce clock =>
    rw [step, respond]
    split
    · exact hsingle
    · next hcreated => exact createLoginChallenge_keeps hsingle hcreated
  | verify request jwks now =>
    rw [step, respond]
    split
    · exact hsingle
    · next hverified =>
      refine ⟨hsingle.challenges_nodup, hsingle.challenges_issued, ?_, hsingle.established, hsingle.established_nodup,
        hsingle.consumed, hsingle.sessions, hsingle.sessions_nodup⟩
      intro other hother
      obtain hold | hnew := List.mem_append.mp hother
      · exact hsingle.verified other hold
      · rw [List.mem_singleton.mp hnew]
        exact verifyLogin_spec hverified
  | establish index clock now sessionToken csrfToken =>
    rw [step, respond, AuthState.establish]
    split
    · exact hsingle
    · next login hlogin =>
      split
      · exact ⟨hsingle.challenges_nodup, hsingle.challenges_issued,
          fun other hother => hsingle.verified other (mem_of_eraseIdx hother), hsingle.established,
          hsingle.established_nodup, hsingle.consumed, hsingle.sessions, hsingle.sessions_nodup⟩
      · next hestablished => exact establish_keeps hsingle hlogin hestablished
  | abandon index =>
    exact ⟨hsingle.challenges_nodup, hsingle.challenges_issued,
      fun other hother => hsingle.verified other (mem_of_eraseIdx hother), hsingle.established,
      hsingle.established_nodup, hsingle.consumed, hsingle.sessions, hsingle.sessions_nodup⟩
  | revoke sessionId reason clock =>
    have hids : (state.tables.sessions.map fun row =>
        if row.idHash = sessionId ∧ row.revokedAt = none then
          { row with revokedAt := some clock, revokeReason := some reason }
        else row).map Session.idHash = state.tables.sessions.map Session.idHash := by
      rw [List.map_map]
      refine List.map_congr_left fun row _ => ?_
      by_cases hrow : row.idHash = sessionId ∧ row.revokedAt = none <;> simp [hrow]
    refine ⟨hsingle.challenges_nodup, hsingle.challenges_issued, hsingle.verified, hsingle.established,
      hsingle.established_nodup, hsingle.consumed, ?_, ?_⟩
    · exact hids.trans hsingle.sessions
    · exact hids ▸ hsingle.sessions_nodup
  | configure directory => exact ⟨hsingle.challenges_nodup, hsingle.challenges_issued, hsingle.verified,
      hsingle.established, hsingle.established_nodup, hsingle.consumed, hsingle.sessions, hsingle.sessions_nodup⟩

theorem singleUse_run (directory : Directory) (actions : List Action) :
    SingleUse service (run service directory actions) :=
  runs.run_invariant singleUse_start (fun _ _ hsingle => singleUse_step hsingle) actions

end Steps

/-- What a session is created for: a verified login whose nonce claim is that of an
open challenge. It is itself an issued nonce where the hash tells them apart. -/
structure CreatedFor (service : ProductionAuthService) (state : AuthState) (login : VerifiedLogin) (clock : Int) :
    Prop where
  verified : login ∈ state.verified
  token : VerifiedFor service login
  challenge : ChallengeOpen state.tables (service.sha256 login.claims.nonce) clock
  issued : Set.InjOn service.sha256 (insert login.claims.nonce {nonce | nonce ∈ state.issued}) →
    login.claims.nonce ∈ state.issued

private theorem respond_session {state : AuthState} {action : Action} {session : Session}
    (hsingle : SingleUse service state) (h : (respond service state action).1 = .ok (.session session)) :
    ∃ login clock, CreatedFor service state login clock ∧
      (step service state action).established = state.established ++ [⟨login, clock, session⟩] := by
  cases action with
  | createLoginChallenge nonce clock =>
    rw [respond] at h
    split at h <;> cases h
  | verify request jwks now =>
    rw [respond] at h
    split at h <;> cases h
  | establish index clock now sessionToken csrfToken =>
    rw [respond, AuthState.establish] at h
    rw [step, respond, AuthState.establish]
    split at h
    · cases h
    · next login hlogin =>
      split at h
      · cases h
      · next created next hestablished =>
        cases h
        obtain ⟨hopen, -⟩ := establishSession_spec hestablished
        have hmem := List.mem_of_getElem? hlogin
        have hfor := hsingle.verified login hmem
        rw [← hfor.nonce] at hopen
        refine ⟨login, clock, ⟨hmem, hfor, hopen, fun hinjective => ?_⟩, rfl⟩
        obtain ⟨challenge, hchallenge, hhash, -⟩ := hopen
        obtain ⟨nonce, hnonce, hissued⟩ := hsingle.challenges_issued challenge hchallenge
        have heq : nonce = login.claims.nonce :=
          hinjective (Or.inr hnonce) (Or.inl rfl) (hissued.trans hhash)
        exact heq ▸ hnonce
  | abandon index => cases h
  | revoke sessionId reason clock => cases h
  | configure directory => cases h

/-- An operation that fails leaves the tables as they were. -/
private theorem respond_error {state : AuthState} {action : Action} {failure : Failure}
    (h : (respond service state action).1 = .error failure) :
    (step service state action).tables = state.tables := by
  cases action with
  | createLoginChallenge nonce clock =>
    rw [respond] at h
    rw [step, respond]
    split at h
    · rfl
    · cases h
  | verify request jwks now =>
    rw [respond] at h
    rw [step, respond]
    split at h
    · rfl
    · cases h
  | establish index clock now sessionToken csrfToken =>
    rw [respond, AuthState.establish] at h
    rw [step, respond, AuthState.establish]
    split at h
    · cases h
    · next login hlogin =>
      split at h
      · rfl
      · cases h
  | abandon index => cases h
  | revoke sessionId reason clock => cases h
  | configure directory => cases h

/-- Over every interleaving of challenges and logins, a nonce and a signed content
open at most one session each, every session is created for a verified token whose
nonce is that of an open challenge, and what fails consumes nothing. -/
theorem login_single_use (service : ProductionAuthService) (directory : Directory) (actions : List Action) :
    ((run service directory actions).established.map fun entry => entry.login.nonce).Nodup ∧
    ((run service directory actions).established.map fun entry => signedContent entry.login.request.idToken).Nodup ∧
    (run service directory actions).tables.sessions.map Session.idHash =
      (run service directory actions).established.map (·.session.idHash) ∧
    ((run service directory actions).tables.sessions.map Session.idHash).Nodup ∧
    ∀ before action after, actions = before ++ action :: after →
      (∀ session, (respond service (run service directory before) action).1 = .ok (.session session) →
        ∃ login clock, CreatedFor service (run service directory before) login clock ∧
          (run service directory (before ++ [action])).established =
            (run service directory before).established ++ [⟨login, clock, session⟩]) ∧
      (∀ failure, (respond service (run service directory before) action).1 = .error failure →
        (run service directory (before ++ [action])).tables = (run service directory before).tables) := by
  have hsingle := @singleUse_run service directory actions
  have hhashes := List.pairwise_map.mp hsingle.established_nodup
  refine ⟨?_, ?_, hsingle.sessions, hsingle.sessions_nodup, fun before action after _ => ⟨?_, ?_⟩⟩
  · refine List.pairwise_map.mpr (hhashes.imp fun hne heq => hne ?_)
    rw [heq]
  · refine List.pairwise_map.mpr (hhashes.imp_of_mem fun {first second} hfirst hsecond hne heq => hne ?_)
    exact (hsingle.established first hfirst).nonceHash_eq (hsingle.established second hsecond) heq
  · intro session hsession
    rw [run.eq_def service directory (before ++ [action]), runs.run_concat]
    exact respond_session (singleUse_run directory before) hsession
  · intro failure hfailure
    rw [run.eq_def service directory (before ++ [action]), runs.run_concat]
    exact respond_error hfailure

section Sample

private def sampleService : ProductionAuthService where
  verifier :=
    { utf8Text := fun bytes => String.ofList (bytes.map Char.ofNat)
      readNumber := fun text => if text = "9" then some 9 else if text = "1" then some 1 else none
      toNumber := fun _ => none
      urlProtocol := fun _ => some "https:"
      createPublicKey := fun _ => some ⟨"rsa", some 2048⟩
      verifySignature := fun _ _ _ signature => signature = [65] }
  sha256 := id
  parameterText := asText
  ttlMs := 3600000
  maxAuthAgeMs := 300000
  challengeTtlMs := 300000

private def sampleDirectory : Directory where
  providers := [⟨"idp", "i", "a", "https://idp/jwks", true, none⟩]
  principals := [⟨"alice", "idp", "s", .active, some "investor-1"⟩]
  memberships := [⟨"alice", "tenant", none, "investor", .active, 0, none⟩]
  grants := [("investor", "view")]

/-- One login attempt, whose token ends in the given encoding of its signature. -/
private def sampleLogin (signature : String) : Action :=
  .verify
    { idToken :=
        "eyJhbGciOiJSUzI1NiIsImtpZCI6ImsifQ" ++ "." ++
        "eyJpc3MiOiJpIiwiYXVkIjoiYSIsInN1YiI6InMiLCJleHAiOjksImF1dGhfdGltZSI6MSwibm9uY2UiOiIwMTIzNDU2Nzg5" ++
        "YWJjZGVmIiwiYW1yIjpbIm90cCJdfQ" ++ "." ++ signature
      tenantId := "tenant"
      role := "investor"
      nonce := some "0123456789abcdef" }
    (fun _ => .ok (.object [("keys", .array [.object [("kid", .string "k"), ("kty", .string "RSA")]])])) 2000

/-- The same content is presented under two encodings of one signature, and both
tokens are verified before either is used. -/
private def sampleActions : List Action :=
  [.createLoginChallenge "0123456789abcdef" 0, sampleLogin "QQ", sampleLogin "QR",
    .establish 0 2000 2000 "session-1" "csrf-1", .establish 0 2000 2000 "session-2" "csrf-2"]

private def opensSession : Except Failure Response → Bool
  | .ok (.session _) => true
  | _ => false

private theorem opensSession_elim {response : Except Failure Response} (h : opensSession response = true) :
    ∃ session, response = .ok (.session session) := by
  unfold opensSession at h
  split at h
  · exact ⟨_, rfl⟩
  · cases h

private theorem failed_elim {response : Except Failure Response} (h : response.isOk = false) :
    ∃ failure, response = .error failure := by
  cases response with
  | ok value => cases h
  | error failure => exact ⟨failure, rfl⟩

/-- Both tokens of the sample are verified. One opens a session for an issued nonce,
the other fails and consumes nothing. -/
theorem login_single_use_sample :
    ((run sampleService sampleDirectory sampleActions).established.map fun entry => entry.login.nonce) =
      ["0123456789abcdef"] ∧
    (run sampleService sampleDirectory (sampleActions.take 3)).verified.length = 2 ∧
    (run sampleService sampleDirectory sampleActions).tables =
      (run sampleService sampleDirectory (sampleActions.take 4)).tables ∧
    ∃ login clock, CreatedFor sampleService (run sampleService sampleDirectory (sampleActions.take 3)) login clock ∧
      login.claims.nonce ∈ (run sampleService sampleDirectory (sampleActions.take 3)).issued := by
  have hruns : ((run sampleService sampleDirectory sampleActions).established.map fun entry => entry.login.nonce) =
        ["0123456789abcdef"] ∧
      (run sampleService sampleDirectory (sampleActions.take 3)).verified.length = 2 ∧
      opensSession (respond sampleService (run sampleService sampleDirectory (sampleActions.take 3))
        (.establish 0 2000 2000 "session-1" "csrf-1")).1 = true ∧
      (respond sampleService (run sampleService sampleDirectory (sampleActions.take 4))
        (.establish 0 2000 2000 "session-2" "csrf-2")).1.isOk = false := by
    decide +kernel
  obtain ⟨hnonces, hverified, hfirst, hsecond⟩ := hruns
  obtain ⟨-, -, -, -, hsteps⟩ := login_single_use sampleService sampleDirectory sampleActions
  obtain ⟨hcreated, -⟩ := hsteps (sampleActions.take 3) _ _ rfl
  obtain ⟨-, hfailed⟩ := hsteps (sampleActions.take 4) _ _ rfl
  obtain ⟨failure, hfailure⟩ := failed_elim hsecond
  obtain ⟨session, hsession⟩ := opensSession_elim hfirst
  obtain ⟨login, clock, hfor, -⟩ := hcreated session hsession
  exact ⟨hnonces, hverified, hfailed failure hfailure, login, clock, hfor,
    hfor.issued (Function.injective_id.injOn)⟩

end Sample

end rwa.security.oidc
