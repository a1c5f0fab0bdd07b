import RwaControlPlane.Library.Origins
import RwaControlPlane.Security.Cookies
import RwaControlPlane.Security.SingleUse

open checked
open rwa.security rwa.security.oidc

namespace rwa.server

/-- `ACTION_PERMISSIONS` -/
def actionPermissions : List (String × String) :=
  [("pause", "product.pause"), ("resume", "product.resume"), ("revoke-b", "credential.restrict"),
    ("subscribe", "transaction.subscribe"), ("redeem", "transaction.redeem"), ("transfer", "transaction.transfer"),
    ("simulate-register-failure", "exception.propose"), ("propose-exception-retry", "exception.propose"),
    ("approve-exception-retry", "exception.approve"), ("zk-transfer-prepare", "transaction.zk.prepare"),
    ("zk-owner-key-register", "confidential.owner_key.register"),
    ("zk-owner-key-revoke", "confidential.owner_key.revoke"), ("zk-transfer-authorize", "transaction.zk.authorize"),
    ("zk-transfer-settle", "transaction.zk.settle"), ("zk-prover-request", "transaction.zk.prover.request"),
    ("zk-prover-read", "transaction.zk.prover.read"),
    ("zk-transfer-finality-propose", "transaction.zk.finalize.propose"),
    ("zk-transfer-finality-approve", "transaction.zk.finalize.approve"),
    ("zk-transfer-finality-cancel", "transaction.zk.finalize.cancel"),
    ("zk-parameters-propose", "zk.parameters.propose"), ("zk-parameters-approve", "zk.parameters.approve"),
    ("catalog-read", "catalog.read"), ("institution-configure", "institution.configure"),
    ("institution-signing-key-manage", "institution.key.manage"), ("product-configure", "product.configure"),
    ("institution-review-propose", "institution.review.propose"),
    ("institution-review-approve", "institution.review.approve"),
    ("product-evidence-attach", "product.evidence.attach"),
    ("product-activation-propose", "product.activation.propose"),
    ("product-activation-approve", "product.activation.approve"), ("catalog-audit-export", "catalog.audit.read")]

def denied : Failure := ⟨"AUTHORIZATION_DENIED", "principal cannot perform this action"⟩

structure Identity where
  principalId : String
  tenantId : String
  institutionId : Option String
  role : String
  actorRef : Option String
  permissions : List String
deriving DecidableEq

/-- `authorizeAction` for an identity with permissions. -/
def authorizeAction (identity : Identity) (action : String) : Except Failure Unit := do
  let permission ← require (actionPermissions.lookup action) denied
  throwIf (permission ∉ identity.permissions) denied

/-- A row of the query of `authenticate`. -/
structure SessionRow where
  session : Session
  principalStatus : PrincipalStatus
  membership : Option Membership

def sessionRows (idHash : String) (tables : AuthTables) : List SessionRow :=
  (tables.sessions.filter (·.idHash = idHash)).flatMap fun session =>
    (tables.directory.principals.filter (·.id = session.principalId)).flatMap fun principal =>
      let memberships := tables.directory.memberships.filter fun membership =>
        membership.principalId = session.principalId && membership.tenantId = session.tenantId &&
          membership.role = session.role && membership.status = .active
      if memberships = [] then [⟨session, principal.status, none⟩]
      else memberships.map fun membership => ⟨session, principal.status, some membership⟩

def sessionExpired : Failure := ⟨"SESSION_EXPIRED", "session or underlying authorization is no longer active"⟩

/-- A request whose session was found to be active. -/
structure Identified where
  header : Option String
  now : Int
  session : Session
  membership : Membership
deriving DecidableEq

/-- `authenticate`, up to its query of the permissions. The joined membership is an
active one, or there is none. -/
def identify (service : ProductionAuthService) (header : Option String) (now : Int) (tables : AuthTables) :
    Except Failure Identified := do
  let cookie ← cookieValue header
  let token ← require (cookie.filter (· ≠ "")) ⟨"AUTHENTICATION_REQUIRED", "production session is required"⟩
  let row ← require (single (sessionRows (service.sha256 token) tables))
    ⟨"INVALID_SESSION", "production session is invalid"⟩
  throwIf (row.session.revokedAt ≠ none ∨ row.session.expiresAt ≤ now ∨ row.principalStatus ≠ .active) sessionExpired
  let membership ← require row.membership sessionExpired
  throwIf (∃ expiry ∈ membership.expiresAt, expiry ≤ now) sessionExpired
  pure { header, now, session := row.session, membership }

/-- The rest of `authenticate`. -/
def identityOf (request : Identified) (directory : Directory) : Identity where
  principalId := request.session.principalId
  tenantId := request.session.tenantId
  institutionId := request.membership.institutionId
  role := request.session.role
  actorRef := request.session.investorRef
  permissions := ((directory.grants.filter (·.1 = request.session.role)).map (·.2)).mergeSort

/-- `assertCsrf`. Digests are compared for the supplied token and the token of the
session. -/
def assertCsrf (service : ProductionAuthService) (session : Session) (supplied : Option String) :
    Except Failure Unit :=
  throwIf (¬∃ token ∈ supplied, token ≠ "" ∧ session.csrfHash ≠ "" ∧ service.sha256 token = session.csrfHash)
    ⟨"CSRF_REJECTED", "state-changing request requires the session CSRF token"⟩

/-- Whether a route asks for the CSRF token, and the token that came with the request. -/
inductive Csrf
  | unchecked
  | supplied (token : Option String)
deriving DecidableEq

def checkCsrf (service : ProductionAuthService) (session : Session) : Csrf → Except Failure Unit
  | .unchecked => pure ()
  | .supplied token => assertCsrf service session token

/-- What a route does before its operation. -/
def authorize (service : ProductionAuthService) (request : Identified) (csrf : Csrf) (action : String)
    (directory : Directory) : Except Failure Identity := do
  checkCsrf service request.session csrf
  let identity := identityOf request directory
  authorizeAction identity action
  pure identity

/-- A request that was let through. -/
structure Authorized where
  request : Identified
  csrf : Csrf
  action : String
  identity : Identity

/-- The authentication service, the requests between the two queries, and a record
of those that were let through. No operation reads the record. -/
structure ServerState where
  auth : AuthState
  identified : List Identified
  authorized : List Authorized

inductive Action
  | auth (action : oidc.Action)
  | identify (header : Option String) (now : Int)
  | authorize (index : Nat) (csrf : Csrf) (action : String)
  | abandon (index : Nat)

namespace ServerState

def start (directory : Directory) : ServerState where
  auth := AuthState.start directory
  identified := []
  authorized := []

variable (service : ProductionAuthService)

/-- The second query of a request and its checks. The request ends whether it is let
through or not. -/
def authorize (state : ServerState) (index : Nat) (csrf : Csrf) (action : String) : ServerState :=
  match state.identified[index]? with
  | none => state
  | some request =>
    let ended := { state with identified := state.identified.eraseIdx index }
    match rwa.server.authorize service request csrf action state.auth.tables.directory with
    | .error _ => ended
    | .ok identity => { ended with authorized := state.authorized ++ [{ request, csrf, action, identity }] }

end ServerState

variable (service : ProductionAuthService)

def step (state : ServerState) : Action → ServerState
  | .auth action => { state with auth := oidc.step service state.auth action }
  | .identify header now =>
    match identify service header now state.auth.tables with
    | .error _ => state
    | .ok request => { state with identified := state.identified ++ [request] }
  | .authorize index csrf action => state.authorize service index csrf action
  | .abandon index => { state with identified := state.identified.eraseIdx index }

/-- The state after a run of steps. -/
def run (directory : Directory) (actions : List Action) : ServerState :=
  runs.run (step service) (ServerState.start directory) actions

variable {service} {state : ServerState} {action : Action}

theorem establishSession_session {login : VerifiedLogin} {clock now : Int} {sessionToken csrfToken : String}
    {session : Session} {tables next : AuthTables}
    (h : establishSession service login clock now sessionToken csrfToken tables = .ok (session, next)) :
    session.idHash = service.sha256 sessionToken ∧ session.csrfHash = service.sha256 csrfToken := by
  simp only [establishSession, bind_eq_ok_iff, exists_unit, throwIf_eq_ok_iff, require_eq_ok_iff, pure_eq_ok_iff,
    Prod.mk.injEq, Prod.exists] at h
  obtain ⟨consumed, -, used, -, principal, membership, -, -, authTime, -, mfaVerifiedAt, -, inserted, -, rfl, -⟩ := h
  exact ⟨rfl, rfl⟩

/-- A login that opens a session hands out the tokens whose digests it stores. -/
def Opens (service : ProductionAuthService) (state : ServerState) (action : Action) (session : Session)
    (sessionToken csrfToken : String) : Prop :=
  ∃ index clock now, action = .auth (.establish index clock now sessionToken csrfToken) ∧
    (oidc.respond service state.auth (.establish index clock now sessionToken csrfToken)).1 = .ok (.session session) ∧
    session.idHash = service.sha256 sessionToken ∧ session.csrfHash = service.sha256 csrfToken

/-- What a step of the authentication service does to the sessions. -/
private theorem sessions_step (auth : AuthState) (action : oidc.Action) :
    (∃ session, (oidc.respond service auth action).1 = .ok (.session session) ∧
      (oidc.step service auth action).tables.sessions = auth.tables.sessions ++ [session] ∧
      session.idHash ∉ auth.tables.sessions.map Session.idHash ∧
      ∃ index clock now sessionToken csrfToken, action = .establish index clock now sessionToken csrfToken ∧
        session.idHash = service.sha256 sessionToken ∧ session.csrfHash = service.sha256 csrfToken) ∨
    (∃ sessionId reason clock, action = .revoke sessionId reason clock ∧
      (oidc.step service auth action).tables.sessions = auth.tables.sessions.map fun row =>
        if row.idHash = sessionId ∧ row.revokedAt = none then
          { row with revokedAt := some clock, revokeReason := some reason }
        else row) ∨
    (oidc.step service auth action).tables.sessions = auth.tables.sessions := by
  cases action with
  | createLoginChallenge nonce clock =>
    refine Or.inr (Or.inr ?_)
    rw [oidc.step, oidc.respond]
    split
    · rfl
    · next hcreated => rw [(createLoginChallenge_spec hcreated).2.2]
  | verify request jwks now =>
    refine Or.inr (Or.inr ?_)
    rw [oidc.step, oidc.respond]
    split
    · rfl
    · rfl
  | establish index clock now sessionToken csrfToken =>
    rw [oidc.step, oidc.respond, AuthState.establish]
    split
    · exact Or.inr (Or.inr rfl)
    · split
      · exact Or.inr (Or.inr rfl)
      · next session next hestablished =>
        obtain ⟨-, -, hfresh, hsessions⟩ := establishSession_spec hestablished
        obtain ⟨hid, hcsrf⟩ := establishSession_session hestablished
        exact Or.inl ⟨session, rfl, hsessions, hfresh, index, clock, now, sessionToken, csrfToken, rfl, hid, hcsrf⟩
  | abandon index => exact Or.inr (Or.inr rfl)
  | revoke sessionId reason clock => exact Or.inr (Or.inl ⟨sessionId, reason, clock, rfl, rfl⟩)
  | configure directory => exact Or.inr (Or.inr rfl)

/-- The sessions that are not revoked. -/
def ServerState.liveSessions (state : ServerState) : List Session :=
  state.auth.tables.sessions.filter (·.revokedAt = none)

private theorem mem_liveSessions {session : Session} :
    session ∈ state.liveSessions ↔ session ∈ state.auth.tables.sessions ∧ session.revokedAt = none := by
  rw [ServerState.liveSessions, List.mem_filter, decide_eq_true_eq]

private theorem auth_step : (step service state action).auth =
    match action with
    | .auth action => oidc.step service state.auth action
    | _ => state.auth := by
  cases action with
  | auth action => rfl
  | identify header now =>
    rw [step]
    split <;> rfl
  | authorize index csrf action =>
    rw [step, ServerState.authorize]
    split
    · rfl
    · dsimp only
      split <;> rfl
  | abandon index => rfl

private theorem liveSessions_step : ∀ session ∈ (step service state action).liveSessions,
    session ∈ state.liveSessions ∨
      ∃ sessionToken csrfToken, Opens service state action session sessionToken csrfToken := by
  intro session hsession
  rw [mem_liveSessions, auth_step] at hsession
  obtain ⟨hmem, hlive⟩ := hsession
  rw [mem_liveSessions]
  cases action with
  | auth action =>
    obtain ⟨opened, hopened, hsessions, -, index, clock, now, sessionToken, csrfToken, rfl, hid, hcsrf⟩ |
      ⟨sessionId, reason, clock, rfl, hsessions⟩ | hsessions := @sessions_step service state.auth action
    · rw [hsessions] at hmem
      obtain hold | hnew := List.mem_append.mp hmem
      · exact Or.inl ⟨hold, hlive⟩
      · rw [List.mem_singleton.mp hnew]
        exact Or.inr ⟨sessionToken, csrfToken, index, clock, now, rfl, hopened, hid, hcsrf⟩
    · rw [hsessions] at hmem
      obtain ⟨row, hrow, rfl⟩ := List.mem_map.mp hmem
      by_cases hrevoked : row.idHash = sessionId ∧ row.revokedAt = none
      · rw [if_pos hrevoked] at hlive
        cases hlive
      · rw [if_neg hrevoked] at hlive ⊢
        exact Or.inl ⟨hrow, hlive⟩
    · rw [hsessions] at hmem
      exact Or.inl ⟨hmem, hlive⟩
  | identify header now => exact Or.inl ⟨hmem, hlive⟩
  | authorize index csrf action => exact Or.inl ⟨hmem, hlive⟩
  | abandon index => exact Or.inl ⟨hmem, hlive⟩

/-- A revocation leaves no live session of its digest. -/
private theorem revoked_step {sessionId reason : String} {clock : Int} {session : Session}
    (h : session ∈ (step service state (.auth (.revoke sessionId reason clock))).liveSessions) :
    session.idHash ≠ sessionId := by
  rw [mem_liveSessions] at h
  obtain ⟨hmem, hlive⟩ := h
  obtain ⟨row, hrow, rfl⟩ := List.mem_map.mp hmem
  by_cases hrevoked : row.idHash = sessionId ∧ row.revokedAt = none
  · rw [if_pos hrevoked] at hlive
    cases hlive
  · rw [if_neg hrevoked] at hlive ⊢
    exact fun heq => hrevoked ⟨heq, hlive⟩

/-- What the first query of a request found. -/
structure LookedUp (service : ProductionAuthService) (request : Identified) (tables : AuthTables) : Prop where
  cookie : ∃ token, cookieValue request.header = .ok (some token) ∧ token ≠ "" ∧
    service.sha256 token = request.session.idHash
  session : request.session ∈ tables.sessions
  live : request.session.revokedAt = none
  unexpired : request.now < request.session.expiresAt
  principal : ∃ principal ∈ tables.directory.principals,
    principal.id = request.session.principalId ∧ principal.status = .active
  membership : request.membership ∈ tables.directory.memberships
  matched : request.membership.principalId = request.session.principalId ∧
    request.membership.tenantId = request.session.tenantId ∧ request.membership.role = request.session.role
  active : request.membership.status = .active ∧ ∀ expiry ∈ request.membership.expiresAt, request.now < expiry

theorem mem_sessionRows {idHash : String} {tables : AuthTables} {row : SessionRow}
    (h : row ∈ sessionRows idHash tables) :
    row.session ∈ tables.sessions ∧ row.session.idHash = idHash ∧
      (∃ principal ∈ tables.directory.principals,
        principal.id = row.session.principalId ∧ principal.status = row.principalStatus) ∧
      ∀ membership ∈ row.membership, membership ∈ tables.directory.memberships ∧
        membership.principalId = row.session.principalId ∧ membership.tenantId = row.session.tenantId ∧
        membership.role = row.session.role ∧ membership.status = .active := by
  simp only [sessionRows, List.mem_flatMap, List.mem_filter, decide_eq_true_eq] at h
  obtain ⟨session, ⟨hsession, hid⟩, principal, ⟨hprincipal, howner⟩, hrow⟩ := h
  split at hrow
  · obtain rfl := List.mem_singleton.mp hrow
    exact ⟨hsession, hid, ⟨principal, hprincipal, howner, rfl⟩, fun membership hmembership => by cases hmembership⟩
  · obtain ⟨membership, hmembership, rfl⟩ := List.mem_map.mp hrow
    simp only [List.mem_filter, Bool.and_eq_true, decide_eq_true_eq] at hmembership
    refine ⟨hsession, hid, ⟨principal, hprincipal, howner, rfl⟩, fun other hother => ?_⟩
    obtain rfl := Option.some.inj hother
    exact ⟨hmembership.1, hmembership.2.1.1.1, hmembership.2.1.1.2, hmembership.2.1.2, hmembership.2.2⟩

theorem identify_spec {header : Option String} {now : Int} {tables : AuthTables} {request : Identified}
    (h : identify service header now tables = .ok request) :
    request.header = header ∧ request.now = now ∧ LookedUp service request tables := by
  simp only [identify, bind_eq_ok_iff, exists_unit, throwIf_eq_ok_iff, require_eq_ok_iff, pure_eq_ok_iff, not_or,
    not_not, not_exists, not_and, not_le] at h
  obtain ⟨cookie, hcookie, token, htoken, row, hrow, ⟨hlive, hunexpired, hprincipal⟩, membership, hmembership, hexpiry,
    rfl⟩ := h
  obtain ⟨rfl, hne⟩ := Option.filter_eq_some_iff.mp htoken
  have hmem : row ∈ sessionRows (service.sha256 token) tables := by
    rw [single_eq_some_iff.mp hrow]
    exact List.mem_cons_self
  obtain ⟨hsession, hid, ⟨principal, hmember, howner, hstatus⟩, hjoined⟩ := mem_sessionRows hmem
  obtain ⟨hstored, howned, htenant, hrole, hactive⟩ := hjoined membership hmembership
  exact ⟨rfl, rfl, ⟨token, hcookie, by simpa using hne, hid.symm⟩, hsession, hlive, hunexpired,
    ⟨principal, hmember, howner, hstatus.trans hprincipal⟩, hstored, ⟨howned, htenant, hrole⟩, hactive,
    fun expiry hmem => hexpiry expiry hmem⟩

/-- What the second query of a request found, and what came with the request. -/
structure Granted (service : ProductionAuthService) (entry : Authorized) (directory : Directory) : Prop where
  identity : entry.identity = identityOf entry.request directory
  permission : ∃ permission, actionPermissions.lookup entry.action = some permission ∧
    (entry.request.session.role, permission) ∈ directory.grants
  csrf : ∀ supplied, entry.csrf = .supplied supplied →
    ∃ token ∈ supplied, service.sha256 token = entry.request.session.csrfHash

theorem authorize_spec {request : Identified} {csrf : Csrf} {name : String} {directory : Directory}
    {identity : Identity} (h : authorize service request csrf name directory = .ok identity) :
    Granted service ⟨request, csrf, name, identity⟩ directory := by
  simp only [authorize, authorizeAction, bind_eq_ok_iff, exists_unit, throwIf_eq_ok_iff, require_eq_ok_iff,
    pure_eq_ok_iff, not_not] at h
  obtain ⟨hcsrf, ⟨permission, hpermission, hgranted⟩, rfl⟩ := h
  refine ⟨rfl, ⟨permission, hpermission, ?_⟩, fun supplied hsupplied => ?_⟩
  · simp only [identityOf, List.mem_mergeSort, List.mem_map, List.mem_filter, decide_eq_true_eq] at hgranted
    obtain ⟨⟨role, name⟩, ⟨hgrant, hrole⟩, hname⟩ := hgranted
    rw [← hrole, ← hname]
    exact hgrant
  · cases hsupplied
    simp only [checkCsrf, assertCsrf, throwIf_eq_ok_iff, not_not] at hcsrf
    obtain ⟨token, htoken, -, -, hdigest⟩ := hcsrf
    exact ⟨token, htoken, hdigest⟩

private theorem identified_step : ∀ request ∈ (step service state action).identified,
    request ∈ state.identified ∨
      (action = .identify request.header request.now ∧ LookedUp service request state.auth.tables) := by
  intro request hrequest
  cases action with
  | auth action => exact Or.inl hrequest
  | identify header now =>
    rw [step] at hrequest
    split at hrequest
    · exact Or.inl hrequest
    · next found hfound =>
      obtain hold | hnew := List.mem_append.mp hrequest
      · exact Or.inl hold
      · rw [List.mem_singleton.mp hnew]
        obtain ⟨rfl, rfl, hlooked⟩ := identify_spec hfound
        exact Or.inr ⟨rfl, hlooked⟩
  | authorize index csrf action =>
    rw [step, ServerState.authorize] at hrequest
    split at hrequest
    · exact Or.inl hrequest
    · dsimp only at hrequest
      split at hrequest
      · exact Or.inl (List.mem_of_mem_eraseIdx hrequest)
      · exact Or.inl (List.mem_of_mem_eraseIdx hrequest)
  | abandon index => exact Or.inl (List.mem_of_mem_eraseIdx hrequest)

private theorem authorized_step : ∀ entry ∈ (step service state action).authorized,
    entry ∈ state.authorized ∨
      (∃ index, action = .authorize index entry.csrf entry.action) ∧ entry.request ∈ state.identified ∧
        Granted service entry state.auth.tables.directory := by
  intro entry hentry
  cases action with
  | auth action => exact Or.inl hentry
  | identify header now =>
    rw [step] at hentry
    split at hentry
    · exact Or.inl hentry
    · exact Or.inl hentry
  | authorize index csrf action =>
    rw [step, ServerState.authorize] at hentry
    split at hentry
    · exact Or.inl hentry
    · next request hrequest =>
      dsimp only at hentry
      split at hentry
      · exact Or.inl hentry
      · next identity hidentity =>
        obtain hold | hnew := List.mem_append.mp hentry
        · exact Or.inl hold
        · rw [List.mem_singleton.mp hnew]
          exact Or.inr ⟨⟨index, rfl⟩, List.mem_of_getElem? hrequest, authorize_spec hidentity⟩
  | abandon index => exact Or.inl hentry

/-- Whatever logins, revocations, changes of the directory and other requests run in
between, a request that is let through carries the token of a session that a login of
the run has opened and nobody had revoked when it was looked up. It was then unexpired,
with an active principal and membership. Later its role was granted the permission of
the action. -/
theorem requests_authorized (service : ProductionAuthService) (directory : Directory) (actions : List Action) :
    ∀ entry ∈ (run service directory actions).authorized,
      ∃ first opening second third index last sessionToken csrfToken cookie,
        actions = first ++ opening :: (second ++ .identify entry.request.header entry.request.now ::
          (third ++ .authorize index entry.csrf entry.action :: last)) ∧
        Opens service (run service directory first) opening entry.request.session sessionToken csrfToken ∧
        (∀ reason clock, .auth (.revoke entry.request.session.idHash reason clock) ∉ second) ∧
        LookedUp service entry.request (run service directory (first ++ opening :: second)).auth.tables ∧
        Granted service entry (run service directory (first ++ opening :: (second ++
          .identify entry.request.header entry.request.now :: third))).auth.tables.directory ∧
        cookieValue entry.request.header = .ok (some cookie) ∧
        (Set.InjOn service.sha256 {cookie, sessionToken} → cookie = sessionToken) ∧
        ∀ supplied, entry.csrf = .supplied supplied → ∃ token ∈ supplied,
          Set.InjOn service.sha256 {token, csrfToken} → token = csrfToken := by
  intro entry hentry
  obtain ⟨beforeGrant, grant, last, rfl, ⟨⟨index, rfl⟩, hidentified, hgranted⟩, -⟩ :=
    runs.run_origin rfl (fun _ _ => authorized_step) hentry
  obtain ⟨beforeLookup, lookup, third, rfl, ⟨rfl, hlooked⟩, -⟩ :=
    runs.run_origin rfl (fun _ _ => identified_step) hidentified
  have hlive := mem_liveSessions.mpr ⟨hlooked.session, hlooked.live⟩
  obtain ⟨first, opening, second, rfl, ⟨sessionToken, csrfToken, hopens⟩, hheld⟩ :=
    runs.run_origin rfl (fun _ _ => liveSessions_step) hlive
  obtain ⟨cookie, hcookie, -, hdigest⟩ := hlooked.cookie
  have hopened := hopens
  obtain ⟨-, -, -, -, -, hid, hcsrf⟩ := hopened
  refine ⟨first, opening, second, third, index, last, sessionToken, csrfToken, cookie, by simp, hopens, ?_, hlooked,
    ?_, hcookie, fun hinjective => ?_, fun supplied hsupplied => ?_⟩
  · intro reason clock hmem
    obtain ⟨middle, rest, rfl⟩ := List.append_of_mem hmem
    have hafter := hheld (middle ++ [.auth (.revoke entry.request.session.idHash reason clock)])
      ⟨rest, by simp⟩
    rw [← List.cons_append, ← List.append_assoc, runs.run_concat] at hafter
    exact revoked_step hafter rfl
  · rw [← List.cons_append, ← List.append_assoc]
    exact hgranted
  · exact hinjective (Or.inl rfl) (Or.inr rfl) (hdigest.trans hid)
  · obtain ⟨token, htoken, hmatch⟩ := hgranted.csrf supplied hsupplied
    exact ⟨token, htoken, fun hinjective => hinjective (Or.inl rfl) (Or.inr rfl) (hmatch.trans hcsrf)⟩

section Revocations

/-- A session that was opened and is revoked. -/
def Retired (sessionId : String) (state : ServerState) : Prop :=
  sessionId ∈ state.auth.tables.sessions.map Session.idHash ∧
    ∀ session ∈ state.liveSessions, session.idHash ≠ sessionId

/-- No step brings a revoked session back, since its digest cannot be stored again. -/
private theorem retired_step {sessionId : String} (hretired : Retired sessionId state) :
    Retired sessionId (step service state action) := by
  obtain ⟨hknown, hlive⟩ := hretired
  unfold Retired ServerState.liveSessions
  rw [auth_step]
  cases action with
  | auth action =>
    obtain ⟨opened, -, hsessions, hfresh, -⟩ | ⟨revokedId, reason, clock, -, hsessions⟩ | hsessions :=
      @sessions_step service state.auth action
    · rw [hsessions, List.map_append]
      refine ⟨List.mem_append_left _ hknown, fun session hsession => ?_⟩
      obtain ⟨hmem, hunrevoked⟩ := List.mem_filter.mp hsession
      obtain hold | hnew := List.mem_append.mp hmem
      · exact hlive session (List.mem_filter.mpr ⟨hold, hunrevoked⟩)
      · rw [List.mem_singleton.mp hnew]
        rintro rfl
        exact hfresh hknown
    · rw [hsessions]
      constructor
      · obtain ⟨session, hsession, rfl⟩ := List.mem_map.mp hknown
        refine List.mem_map.mpr ⟨_, List.mem_map.mpr ⟨session, hsession, rfl⟩, ?_⟩
        split <;> rfl
      · intro session hsession
        obtain ⟨hmem, hunrevoked⟩ := List.mem_filter.mp hsession
        obtain ⟨row, hrow, rfl⟩ := List.mem_map.mp hmem
        by_cases hrevoked : row.idHash = revokedId ∧ row.revokedAt = none
        · rw [if_pos hrevoked] at hunrevoked
          cases hunrevoked
        · rw [if_neg hrevoked] at hunrevoked ⊢
          exact hlive row (List.mem_filter.mpr ⟨hrow, hunrevoked⟩)
    · rw [hsessions]
      exact ⟨hknown, hlive⟩
  | identify header now => exact ⟨hknown, hlive⟩
  | authorize index csrf action => exact ⟨hknown, hlive⟩
  | abandon index => exact ⟨hknown, hlive⟩

private theorem retired_revoked {sessionId reason : String} {clock : Int}
    (h : sessionId ∈ state.auth.tables.sessions.map Session.idHash) :
    Retired sessionId (step service state (.auth (.revoke sessionId reason clock))) := by
  refine ⟨?_, fun session => revoked_step⟩
  obtain ⟨session, hsession, rfl⟩ := List.mem_map.mp h
  refine List.mem_map.mpr ⟨_, List.mem_map.mpr ⟨session, hsession, rfl⟩, ?_⟩
  split <;> rfl

/-- A session that is revoked is never found active again, whatever logins, requests
and changes of the directory follow. -/
theorem revoked_session_stays_out (service : ProductionAuthService) (directory : Directory)
    {before after : List Action} {sessionId reason : String} {clock : Int}
    (hsession : sessionId ∈ (run service directory before).auth.tables.sessions.map Session.idHash)
    {header : Option String} {now : Int} {request : Identified}
    (hrequest : identify service header now
      (run service directory (before ++ .auth (.revoke sessionId reason clock) :: after)).auth.tables = .ok request) :
    request.session.idHash ≠ sessionId := by
  have hretired : Retired sessionId
      (run service directory (before ++ .auth (.revoke sessionId reason clock) :: after)) := by
    unfold run
    rw [runs.run_append, runs.run_cons]
    exact runs.run_invariant (retired_revoked hsession) (fun _ _ => retired_step) after
  obtain ⟨-, -, hlooked⟩ := identify_spec hrequest
  exact hretired.2 _ (mem_liveSessions.mpr ⟨hlooked.session, hlooked.live⟩)

end Revocations

section Sample

private def requestService : ProductionAuthService where
  verifier :=
    { utf8Text := fun bytes => String.ofList (bytes.map Char.ofNat)
      readNumber := fun text => if text = "9" then some 9 else if text = "1" then some 1 else none
      toNumber := fun _ => none
      urlProtocol := fun _ => some "https:"
      createPublicKey := fun _ => some ⟨"rsa", some 2048⟩
      verifySignature := fun _ _ _ signature => signature = [65] }
  sha256 := fun text => "hash of " ++ text
  parameterText := js_value.asText
  ttlMs := 3600000
  maxAuthAgeMs := 300000
  challengeTtlMs := 300000

private def requestDirectory : Directory where
  providers := [⟨"idp", "i", "a", "https://idp/jwks", true, none⟩]
  principals := [⟨"alice", "idp", "s", .active, some "investor-1"⟩]
  memberships := [⟨"alice", "tenant", none, "investor", .active, 0, none⟩]
  grants := [("investor", "transaction.subscribe")]

/-- The signed claims of two tokens, which differ in their nonce. -/
private def firstClaims : String :=
  "eyJpc3MiOiJpIiwiYXVkIjoiYSIsInN1YiI6InMiLCJleHAiOjksImF1dGhfdGltZSI6MSwibm9uY2UiOiIwMTIzNDU2Nzg5" ++
    "YWJjZGVmIiwiYW1yIjpbIm90cCJdfQ"

private def secondClaims : String :=
  "eyJpc3MiOiJpIiwiYXVkIjoiYSIsInN1YiI6InMiLCJleHAiOjksImF1dGhfdGltZSI6MSwibm9uY2Ui" ++
    "OiJmZWRjYmE5ODc2NTQzMjEwIiwiYW1yIjpbIm90cCJdfQ"

/-- A login, with the tokens that it draws. -/
private def loginAs (nonceText signedClaims sessionToken csrfToken : String) : List Action :=
  [.auth (.createLoginChallenge nonceText 0),
    .auth (.verify
      { idToken := "eyJhbGciOiJSUzI1NiIsImtpZCI6ImsifQ" ++ "." ++ signedClaims ++ "." ++ "QQ"
        tenantId := "tenant"
        role := "investor"
        nonce := some nonceText }
      (fun _ => .ok (.object [("keys", .array [.object [("kid", .string "k"), ("kty", .string "RSA")]])])) 2000),
    .auth (.establish 0 2000 2000 sessionToken csrfToken)]

private def cookieOf (token : String) : Option String := some ("theme=dark; rwa_session=" ++ token)

/-- A request is looked up before its session is revoked. -/
private def requestActions : List Action :=
  loginAs "0123456789abcdef" firstClaims "session-1" "csrf-1" ++
    [.identify (cookieOf "session-1") 2500, .auth (.revoke "hash of session-1" "LOGOUT" 2600),
      .authorize 0 (.supplied (some "csrf-1")) "subscribe"]

private def openingActions : List Action :=
  loginAs "0123456789abcdef" firstClaims "session-1" "csrf-1" ++
    loginAs "fedcba9876543210" secondClaims "session-2" "csrf-2"

/-- The request of the sample is let through, and the login has drawn its tokens. -/
theorem requests_authorized_sample :
    ∃ entry ∈ (run requestService requestDirectory requestActions).authorized, entry.action = "subscribe" ∧
      ∃ first opening sessionToken csrfToken,
        Opens requestService (run requestService requestDirectory first) opening entry.request.session sessionToken
          csrfToken := by
  have hruns : ∃ entry ∈ (run requestService requestDirectory requestActions).authorized,
      entry.action = "subscribe" := by
    decide +kernel
  obtain ⟨entry, hentry, haction⟩ := hruns
  obtain ⟨first, opening, -, -, -, -, sessionToken, csrfToken, -, -, hopens, -⟩ :=
    requests_authorized requestService requestDirectory requestActions entry hentry
  exact ⟨entry, hentry, haction, first, opening, sessionToken, csrfToken, hopens⟩

/-- Once the first session is revoked, a request of the second one is not its. -/
theorem revoked_session_stays_out_sample :
    ∃ request, identify requestService (cookieOf "session-2") 2500
        (run requestService requestDirectory
          (openingActions ++ [.auth (.revoke "hash of session-1" "LOGOUT" 2400)])).auth.tables = .ok request ∧
      request.session.idHash ≠ "hash of session-1" := by
  have hruns : "hash of session-1" ∈
        (run requestService requestDirectory openingActions).auth.tables.sessions.map Session.idHash ∧
      (identify requestService (cookieOf "session-2") 2500
        (run requestService requestDirectory
          (openingActions ++ [.auth (.revoke "hash of session-1" "LOGOUT" 2400)])).auth.tables).isOk = true := by
    decide +kernel
  obtain ⟨hsession, hidentified⟩ := hruns
  cases hrequest : identify requestService (cookieOf "session-2") 2500
      (run requestService requestDirectory
        (openingActions ++ [.auth (.revoke "hash of session-1" "LOGOUT" 2400)])).auth.tables with
  | ok request => exact ⟨request, rfl, revoked_session_stays_out requestService requestDirectory hsession hrequest⟩
  | error failure =>
    rw [hrequest] at hidentified
    cases hidentified

end Sample

end rwa.server
