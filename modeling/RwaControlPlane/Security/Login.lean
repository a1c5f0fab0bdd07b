import RwaControlPlane.Library.Runs
import RwaControlPlane.Security.Oidc
import RwaControlPlane.Storage.Canonical

open checked js_value
open rwa.storage (checkViolation)
open rwa.gate (uniqueViolation)

namespace rwa.security.oidc

structure ProductionAuthService where
  verifier : RemoteJwksOidcVerifier
  sha256 : String → String
  /-- The text of a parameter, as the driver sends it. -/
  parameterText : JsValue → Option String
  ttlMs : Int
  maxAuthAgeMs : Int
  challengeTtlMs : Int

inductive PrincipalStatus
  | active | suspended | closed
deriving DecidableEq

/-- `principals` -/
structure Principal where
  id : String
  providerId : String
  subject : String
  status : PrincipalStatus
  investorRef : Option String
deriving DecidableEq

inductive MembershipStatus
  | active | suspended | ended
deriving DecidableEq

/-- `institution_memberships` -/
structure Membership where
  principalId : String
  tenantId : String
  institutionId : Option String
  role : String
  status : MembershipStatus
  effectiveAt : Int
  expiresAt : Option Int
deriving DecidableEq

/-- `oidc_login_challenges` -/
structure Challenge where
  nonceHash : String
  createdAt : Int
  expiresAt : Int
  consumedAt : Option Int
deriving DecidableEq

/-- `oidc_consumed_tokens` -/
structure ConsumedToken where
  tokenHash : String
  providerId : String
  subject : String
  consumedAt : Int
  expiresAt : Int
deriving DecidableEq

/-- `production_sessions` -/
structure Session where
  idHash : String
  csrfHash : String
  principalId : String
  tenantId : String
  role : String
  institutionId : Option String
  investorRef : Option String
  permissions : List String
  providerSessionId : Option String
  authTime : Int
  mfaVerifiedAt : Int
  issuedAt : Int
  expiresAt : Int
  revokedAt : Option Int
  revokeReason : Option String
deriving DecidableEq

/-- Who may log in: the tables that other services write. -/
structure Directory where
  providers : List IdentityProvider
  principals : List Principal
  memberships : List Membership
  /-- `role_permissions` -/
  grants : List (String × String)
deriving DecidableEq

structure AuthTables where
  directory : Directory
  challenges : List Challenge
  consumedTokens : List ConsumedToken
  sessions : List Session
deriving DecidableEq

structure LoginRequest where
  idToken : String
  tenantId : String
  role : String
  nonce : Option String

/-- A login whose token was verified, before its transaction. -/
structure VerifiedLogin where
  request : LoginRequest
  nonce : String
  provider : IdentityProvider
  claims : Claims

variable (service : ProductionAuthService)

/-- `createLoginChallenge`, with the nonce that it has drawn. -/
def createLoginChallenge (nonce : String) (clock : Int) (tables : AuthTables) :
    Except Failure (Challenge × AuthTables) := do
  let challenge : Challenge :=
    { nonceHash := service.sha256 nonce, createdAt := clock, expiresAt := clock + service.challengeTtlMs
      consumedAt := none }
  throwIf (challenge.nonceHash ∈ tables.challenges.map Challenge.nonceHash) uniqueViolation
  throwIf (challenge.expiresAt ≤ challenge.createdAt) checkViolation
  pure (challenge, { tables with challenges := tables.challenges ++ [challenge] })

/-- `#assertClaims` -/
def assertClaims (claims : Claims) (provider : IdentityProvider) (now : Int) : Except Failure Unit := do
  throwIf (claims.signatureVerified = false ∨ asText claims.issuer ≠ some provider.issuer ∨
      claims.audience ≠ provider.audience)
    ⟨"INVALID_OIDC_ASSERTION", "OIDC signature, issuer or audience validation failed"⟩
  throwIf (isTruthy claims.subject = false ∨ ∃ expiry ∈ claims.expiresAt, expiry ≤ now)
    ⟨"INVALID_OIDC_ASSERTION", "OIDC subject or expiry is invalid"⟩
  throwIf (∃ authTime ∈ claims.authTime, service.maxAuthAgeMs < now - authTime)
    ⟨"REAUTHENTICATION_REQUIRED", "OIDC authentication is too old"⟩
  throwIf (¬∃ method ∈ claims.authenticationMethods, ∃ text ∈ asText method, text ∈ ["mfa", "otp", "hwk"])
    ⟨"MFA_REQUIRED", "production access requires a verified second factor"⟩
  throwIf (∃ required ∈ provider.requiredAcr, required ≠ "" ∧ asText claims.acr ≠ some required)
    ⟨"MFA_ASSURANCE_INSUFFICIENT", "OIDC assurance level does not meet institution policy"⟩

/-- The part of `#login` before its transaction. Digests are compared for the nonce
of the token and the nonce of the caller. -/
def verifyLogin (request : LoginRequest) (jwks : IdentityProvider → Except Failure JsValue) (now : Int)
    (tables : AuthTables) : Except Failure VerifiedLogin := do
  throwIf (request.idToken = "" ∨ request.tenantId = "" ∨ request.role = "")
    ⟨"INVALID_LOGIN_REQUEST", "idToken, tenantId and role are required"⟩
  let nonce ← require (request.nonce.filter fun nonce => decide (16 ≤ js_text.length nonce))
    ⟨"OIDC_LOGIN_CHALLENGE_REQUIRED", "start the login with a server-issued challenge before exchanging an ID token"⟩
  let providers := tables.directory.providers.filter (·.active)
  throwIf (providers = []) ⟨"IDENTITY_PROVIDER_UNAVAILABLE", "no active identity provider is configured"⟩
  let claims ← verify service.verifier request.idToken providers jwks now
  let provider ← require (providers.find? (·.id = claims.providerId))
    ⟨"UNTRUSTED_IDENTITY_PROVIDER", "OIDC assertion was not issued by an active provider"⟩
  assertClaims service claims provider now
  throwIf (claims.nonce = "" ∨ service.sha256 claims.nonce ≠ service.sha256 nonce)
    ⟨"OIDC_NONCE_MISMATCH", "OIDC token was not issued for this login challenge"⟩
  pure { request, nonce, provider, claims }

/-- The challenge of a nonce that can still be used. -/
def usable (nonceHash : String) (clock : Int) (challenge : Challenge) : Bool :=
  challenge.nonceHash = nonceHash && challenge.consumedAt.isNone && clock < challenge.expiresAt

def consumeChallenge (nonceHash : String) (clock : Int) (tables : AuthTables) : Except Failure AuthTables := do
  let challenge ← require (single (tables.challenges.filter (usable nonceHash clock)))
    ⟨"OIDC_LOGIN_CHALLENGE_INVALID", "login challenge is unknown, expired or already used"⟩
  throwIf (clock < challenge.createdAt) checkViolation
  pure
    { tables with
      challenges := tables.challenges.map fun row =>
        if usable nonceHash clock row then { row with consumedAt := some clock } else row }

/-- A date that is invalid cannot be stored. -/
def invalidDate : Failure := ⟨"22007", "invalid input syntax for type timestamp with time zone"⟩

def consumeToken (idToken : String) (providerId : String) (claims : Claims) (clock : Int) (tables : AuthTables) :
    Except Failure AuthTables := do
  let expiresAt ← require claims.expiresAt invalidDate
  let subject ← require (service.parameterText claims.subject)
    ⟨"23502", "null value violates not-null constraint"⟩
  throwIf (service.sha256 idToken ∈ tables.consumedTokens.map ConsumedToken.tokenHash)
    ⟨"OIDC_TOKEN_REPLAYED", "this ID token has already been used"⟩
  pure
    { tables with
      consumedTokens := tables.consumedTokens ++
        [{ tokenHash := service.sha256 idToken, providerId, subject, consumedAt := clock, expiresAt }] }

/-- The active memberships of a principal in a tenant and role. -/
def membershipsOf (directory : Directory) (providerId : String) (subject : Option String) (tenantId role : String)
    (clock : Int) : List (Principal × Membership) :=
  (directory.principals.filter fun principal => principal.providerId = providerId && some principal.subject =
    subject).flatMap
    fun principal =>
      (directory.memberships.filter fun membership =>
        membership.principalId = principal.id && membership.tenantId = tenantId && membership.role = role &&
          membership.status = .active && membership.effectiveAt ≤ clock &&
          membership.expiresAt.all (clock < ·)).map (principal, ·)

def insertSession (session : Session) (tables : AuthTables) : Except Failure AuthTables := do
  throwIf (session.idHash ∈ tables.sessions.map Session.idHash) uniqueViolation
  throwIf (session.expiresAt ≤ session.issuedAt) checkViolation
  pure { tables with sessions := tables.sessions ++ [session] }

/-- The transaction of `#login`: it consumes the challenge and the token and opens a
session under tokens that it has drawn. -/
def establishSession (login : VerifiedLogin) (clock now : Int) (sessionToken csrfToken : String) (tables : AuthTables) :
    Except Failure (Session × AuthTables) := do
  let tables ← consumeChallenge (service.sha256 login.nonce) clock tables
  let tables ← consumeToken service login.request.idToken login.provider.id login.claims clock tables
  let (principal, membership) ← require
    ((single (membershipsOf tables.directory login.provider.id (service.parameterText login.claims.subject)
      login.request.tenantId login.request.role clock)).filter (·.1.status = .active))
    ⟨"AUTHORIZATION_DENIED", "principal has no active membership for the requested tenant and role"⟩
  throwIf (login.request.role = "investor" ∧ principal.investorRef.getD "" = "")
    ⟨"INVALID_IDENTITY_BINDING", "investor membership requires a server-side investor reference"⟩
  let authTime ← require login.claims.authTime invalidDate
  let mfaVerifiedAt ← require (login.claims.mfaTime.getD (some authTime)) invalidDate
  let session : Session :=
    { idHash := service.sha256 sessionToken
      csrfHash := service.sha256 csrfToken
      principalId := principal.id
      tenantId := login.request.tenantId
      role := login.request.role
      institutionId := membership.institutionId
      investorRef := principal.investorRef
      permissions := ((tables.directory.grants.filter (·.1 = login.request.role)).map (·.2)).mergeSort
      providerSessionId := service.parameterText login.claims.sessionId
      authTime
      mfaVerifiedAt
      issuedAt := now
      expiresAt := now + service.ttlMs
      revokedAt := none
      revokeReason := none }
  let tables ← insertSession session tables
  pure (session, tables)

/-- A login that has opened a session, with the time of the database at which it
consumed its challenge. -/
structure Established where
  login : VerifiedLogin
  clock : Int
  session : Session

/-- The tables, the logins between their verification and their transaction, and a
record of the issued nonces and of the logins that succeeded. No operation reads the
record. -/
structure AuthState where
  tables : AuthTables
  verified : List VerifiedLogin
  issued : List String
  established : List Established

inductive Response
  | challenge (nonce : String) (expiresAt : Int)
  | verified
  | session (session : Session)
  | done

/-- One step: a statement or transaction of the service, the end of a login that
goes no further, or a change of the tables that other services write. -/
inductive Action
  | createLoginChallenge (nonce : String) (clock : Int)
  | verify (request : LoginRequest) (jwks : IdentityProvider → Except Failure JsValue) (now : Int)
  | establish (index : Nat) (clock now : Int) (sessionToken csrfToken : String)
  | abandon (index : Nat)
  | revoke (sessionId reason : String) (clock : Int)
  | configure (directory : Directory)

namespace AuthState

def start (directory : Directory) : AuthState where
  tables := { directory, challenges := [], consumedTokens := [], sessions := [] }
  verified := []
  issued := []
  established := []

/-- Run the transaction of a verified login. The login ends whether it commits or
not. -/
def establish (state : AuthState) (index : Nat) (clock now : Int) (sessionToken csrfToken : String) :
    Except Failure Response × AuthState :=
  match state.verified[index]? with
  | none => (.ok .done, state)
  | some login =>
    let ended := { state with verified := state.verified.eraseIdx index }
    match establishSession service login clock now sessionToken csrfToken state.tables with
    | .error failure => (.error failure, ended)
    | .ok (session, tables) =>
      (.ok (.session session),
        { ended with tables, established := state.established ++ [{ login, clock, session }] })

end AuthState

/-- The response and the next state of one step. -/
def respond (state : AuthState) : Action → Except Failure Response × AuthState
  | .createLoginChallenge nonce clock =>
    match createLoginChallenge service nonce clock state.tables with
    | .error failure => (.error failure, state)
    | .ok (challenge, tables) =>
      (.ok (.challenge nonce challenge.expiresAt), { state with tables, issued := state.issued ++ [nonce] })
  | .verify request jwks now =>
    match verifyLogin service request jwks now state.tables with
    | .error failure => (.error failure, state)
    | .ok login => (.ok .verified, { state with verified := state.verified ++ [login] })
  | .establish index clock now sessionToken csrfToken => state.establish service index clock now sessionToken csrfToken
  | .abandon index => (.ok .done, { state with verified := state.verified.eraseIdx index })
  | .revoke sessionId reason clock =>
    (.ok .done,
      { state with
        tables :=
          { state.tables with
            sessions := state.tables.sessions.map fun row =>
              if row.idHash = sessionId ∧ row.revokedAt = none then
                { row with revokedAt := some clock, revokeReason := some reason }
              else row } })
  | .configure directory => (.ok .done, { state with tables := { state.tables with directory } })

def step (state : AuthState) (action : Action) : AuthState := (respond service state action).2

/-- The state after a run of steps. -/
def run (directory : Directory) (actions : List Action) : AuthState :=
  runs.run (step service) (AuthState.start directory) actions

end rwa.security.oidc
