import Mathlib
import RwaControlPlane.Failure
import RwaControlPlane.Library.Checked
import RwaControlPlane.Library.JsObject
import RwaControlPlane.Library.JsonText
import RwaControlPlane.Library.JsText

open checked js_value

namespace rwa.security.oidc

/-- Value of a digit of either base64 alphabet. -/
def base64Digit (char : Char) : Option Nat :=
  if char.isUpper then some (char.toNat - 65)
  else if char.isLower then some (char.toNat - 71)
  else if char.isDigit then some (char.toNat + 4)
  else if char = '+' ∨ char = '-' then some 62
  else if char = '/' ∨ char = '_' then some 63
  else none

/-- Bytes of digits. Bits that fill no byte are dropped. -/
def bytesOf : List Nat → List Nat
  | first :: second :: third :: fourth :: rest =>
    [first * 4 + second / 16, second % 16 * 16 + third / 4, third % 4 * 64 + fourth] ++ bytesOf rest
  | [first, second, third] => [first * 4 + second / 16, second % 16 * 16 + third / 4]
  | [first, second] => [first * 4 + second / 16]
  | _ => []

/-- `Buffer.from(segment, "base64url")`. Padding ends the text, and other characters
outside of the alphabets are skipped. -/
def base64urlBytes (segment : String) : List Nat :=
  bytesOf ((segment.toList.takeWhile (· ≠ '=')).filterMap base64Digit)

/-- The public key of a JWK. -/
structure PublicKey where
  asymmetricKeyType : String
  modulusLength : Option Nat

/-- What the verifier takes from the runtime: its texts, its numbers, and its
cryptographic library. -/
structure RemoteJwksOidcVerifier where
  utf8Text : List Nat → String
  readNumber : String → Option Rat
  toNumber : JsValue → Option Rat
  /-- `new URL(uri).protocol` -/
  urlProtocol : String → Option String
  createPublicKey : JsValue → Option PublicKey
  verifySignature (algorithm message : String) (jwk : JsValue) (signature : List Nat) : Bool

/-- `identity_providers` -/
structure IdentityProvider where
  id : String
  issuer : String
  audience : String
  jwksUri : String
  active : Bool
  requiredAcr : Option String
deriving DecidableEq

/-- What the verifier returns. A date that is invalid is `none`. -/
structure Claims where
  providerId : String
  signatureVerified : Bool
  issuer : JsValue
  audience : String
  subject : JsValue
  sessionId : JsValue
  expiresAt : Option Int
  authTime : Option Int
  mfaTime : Option (Option Int)
  authenticationMethods : List JsValue
  acr : JsValue
  nonce : String

def typeError (message : String) : Failure := ⟨"", message⟩

/-- A property of a value that the verifier reads. -/
def member (value : JsValue) (key : String) : Except Failure JsValue :=
  require (property value key) (typeError ("Cannot read properties of null (reading '" ++ key ++ "')"))

/-- The segments of a compact token. -/
def compactSegments (idToken : String) : Option (String × String × String) :=
  match (idToken.toList.splitOn '.').map String.ofList with
  | [header, payload, signature] =>
    if header = "" ∨ payload = "" ∨ signature = "" then none else some (header, payload, signature)
  | _ => none

/-- What the signature of a token covers. -/
def signedContent (idToken : String) : Option String :=
  (compactSegments idToken).map fun segments => segments.1 ++ "." ++ segments.2.1

def isUndefined : JsValue → Bool
  | .undefined => true
  | _ => false

def audienceMatches (actual : JsValue) (expected : String) : Bool :=
  match actual with
  | .array items => items.any fun item => asText item = some expected
  | other => asText other = some expected

/-- The milliseconds of a number of seconds, as far as a date can hold them. -/
def secondsDate (seconds : Rat) : Option Int :=
  let time := (seconds * 1000).num.tdiv (seconds * 1000).den
  if time.natAbs ≤ 8640000000000000 then some time else none

def integerOf : JsValue → Option Int
  | .number value => if value.den = 1 then some value.num else none
  | _ => none

variable (verifier : RemoteJwksOidcVerifier)

def decodeJson (segment label : String) : Except Failure JsValue :=
  require (jsonParse verifier.readNumber (verifier.utf8Text (base64urlBytes segment)))
    ⟨"INVALID_OIDC_TOKEN", "OIDC " ++ label ++ " is not valid base64url JSON"⟩

/-- A key of the provider that may have signed the token. -/
def signingKey (alg kid key : JsValue) : Except Failure Bool := do
  let keyId ← member key "kid"
  let kty ← member key "kty"
  let use ← member key "use"
  let keyAlg ← member key "alg"
  pure (strictEquals keyId kid && asText kty = some "RSA" && (!isTruthy use || asText use = some "sig") &&
    (!isTruthy keyAlg || strictEquals keyAlg alg))

/-- The keys of an answer of the provider. -/
def keysOf (jwks : JsValue) : Except Failure (List JsValue) := do
  let keys ← member jwks "keys"
  match keys with
  | .array items => pure items
  | _ => .error ⟨"INVALID_OIDC_JWKS", "identity provider JWKS is invalid"⟩

/-- The time claims, at a time of the runtime in milliseconds. -/
def assertTimes (payload : JsValue) (now : Int) : Except Failure Int := do
  let exp ← member payload "exp"
  let nbf ← member payload "nbf"
  let failure : Failure := ⟨"INVALID_OIDC_TIME", "OIDC token is expired or not yet valid"⟩
  let expiry ← require (integerOf exp) failure
  throwIf (expiry ≤ now / 1000) failure
  match nbf with
  | .undefined => pure ()
  | other => do
    let notBefore ← require (integerOf other) failure
    throwIf (now / 1000 + 60 < notBefore) failure
  pure expiry

/-- With several audiences, or whenever `azp` is present, the authorized party must
be this client. -/
def assertAuthorizedParty (payload : JsValue) (audience : String) : Except Failure Unit := do
  let aud ← member payload "aud"
  let azp ← member payload "azp"
  let several := match aud with
    | .array items => decide (items.length ≠ 1)
    | _ => false
  throwIf ((several = true ∨ isUndefined azp = false) ∧ asText azp ≠ some audience)
    ⟨"OIDC_AUTHORIZED_PARTY_MISMATCH", "OIDC token was issued to a different authorized party"⟩

def nonceClaim (payload : JsValue) : Except Failure String := do
  let nonce ← member payload "nonce"
  let failure : Failure := ⟨"OIDC_NONCE_REQUIRED", "OIDC token must carry the login challenge nonce"⟩
  let text ← require (asText nonce) failure
  throwIf (js_text.length text < 16 ∨ 512 < js_text.length text) failure
  pure text

/-- The claims of a payload whose signature and times were checked. -/
def readClaims (provider : IdentityProvider) (payload : JsValue) (expiry : Int) : Except Failure Claims := do
  let subject ← member payload "sub"
  let authTime ← member payload "auth_time"
  throwIf (isTruthy subject = false ∨ integerOf authTime = none)
    ⟨"INVALID_OIDC_CLAIMS", "OIDC subject and auth_time are required"⟩
  assertAuthorizedParty payload provider.audience
  let nonce ← nonceClaim payload
  let issuer ← member payload "iss"
  let sessionId ← member payload "sid"
  let mfaTime ← member payload "mfa_time"
  let methods ← member payload "amr"
  let acr ← member payload "acr"
  pure
    { providerId := provider.id
      signatureVerified := true
      issuer
      audience := provider.audience
      subject
      sessionId := if isUndefined sessionId then .null else sessionId
      expiresAt := secondsDate expiry
      authTime := (integerOf authTime).bind fun time => secondsDate time
      mfaTime := if isTruthy mfaTime then some ((verifier.toNumber mfaTime).bind secondsDate) else none
      authenticationMethods := match methods with
        | .array items => items
        | _ => []
      acr := if isUndefined acr then .null else acr
      nonce }

/-- `verify`, with the answer of the provider whose keys it asks for. -/
def verify (idToken : String) (providers : List IdentityProvider)
    (jwks : IdentityProvider → Except Failure JsValue) (now : Int) : Except Failure Claims := do
  let (encodedHeader, encodedPayload, encodedSignature) ← require (compactSegments idToken)
    ⟨"INVALID_OIDC_TOKEN", "OIDC token must be a compact signed JWT"⟩
  let header ← decodeJson verifier encodedHeader "header"
  let payload ← decodeJson verifier encodedPayload "payload"
  let alg ← member header "alg"
  let kid ← member header "kid"
  let algorithm ← require ((asText alg).filter fun text => text = "RS256" || text = "PS256")
    ⟨"UNSUPPORTED_OIDC_ALGORITHM", "OIDC token requires RS256 or PS256 and a key id"⟩
  throwIf (isTruthy kid = false)
    ⟨"UNSUPPORTED_OIDC_ALGORITHM", "OIDC token requires RS256 or PS256 and a key id"⟩
  let iss ← member payload "iss"
  let aud ← member payload "aud"
  let provider ← require
    (single (providers.filter fun provider => asText iss = some provider.issuer &&
      audienceMatches aud provider.audience))
    ⟨"UNTRUSTED_IDENTITY_PROVIDER", "issuer and audience do not select one active provider"⟩
  let protocol ← require (verifier.urlProtocol provider.jwksUri) (typeError "Invalid URL")
  throwIf (protocol ≠ "https:") ⟨"INSECURE_JWKS_URI", "JWKS URI must use HTTPS"⟩
  let answer ← jwks provider
  let keys ← keysOf answer
  let selected ← keys.filterM fun key => signingKey alg kid key
  let jwk ← require (single selected)
    ⟨"OIDC_SIGNING_KEY_NOT_FOUND", "JWT key id did not select one signing key"⟩
  let key ← require (verifier.createPublicKey jwk) (typeError "Invalid JWK")
  throwIf (key.asymmetricKeyType ≠ "rsa" ∨ key.modulusLength.getD 0 < 2048)
    ⟨"OIDC_SIGNING_KEY_TOO_WEAK", "OIDC RSA signing keys must be at least 2048 bits"⟩
  throwIf (verifier.verifySignature algorithm (encodedHeader ++ "." ++ encodedPayload) jwk
      (base64urlBytes encodedSignature) = false)
    ⟨"INVALID_OIDC_SIGNATURE", "OIDC signature validation failed"⟩
  let expiry ← assertTimes payload now
  readClaims verifier provider payload expiry

section Nonce

variable {verifier : RemoteJwksOidcVerifier}

/-- The nonce that the signed content of a token claims. -/
def nonceOf (verifier : RemoteJwksOidcVerifier) (encodedPayload : String) : Except Failure String := do
  let payload ← decodeJson verifier encodedPayload "payload"
  nonceClaim payload

private theorem readClaims_nonce {provider : IdentityProvider} {payload : JsValue} {expiry : Int} {claims : Claims}
    (h : readClaims verifier provider payload expiry = .ok claims) : nonceClaim payload = .ok claims.nonce := by
  simp only [readClaims, bind_eq_ok_iff, exists_unit, pure_eq_ok_iff] at h
  obtain ⟨_, _, _, _, _, _, nonce, hnonce, _, _, _, _, _, _, _, _, _, _, rfl⟩ := h
  exact hnonce

/-- The nonce of verified claims depends on the payload of the token alone. -/
theorem verify_nonce {idToken : String} {providers : List IdentityProvider}
    {jwks : IdentityProvider → Except Failure JsValue} {now : Int} {claims : Claims}
    (h : verify verifier idToken providers jwks now = .ok claims) :
    ∃ header payload signature, compactSegments idToken = some (header, payload, signature) ∧
      nonceOf verifier payload = .ok claims.nonce := by
  simp only [verify, bind_eq_ok_iff, require_eq_ok_iff, Prod.exists] at h
  obtain ⟨header, payload, signature, hsegments, _, _, value, hvalue, _, _, _, _, _, _, _, _, _, _, _, _,
    provider, _, _, _, _, _, _, _, _, _, _, _, _, _, _, _, _, _, _, _, expiry, _, hclaims⟩ := h
  refine ⟨header, payload, signature, hsegments, ?_⟩
  rw [nonceOf, hvalue]
  exact readClaims_nonce hclaims

end Nonce

end rwa.security.oidc
