import RevPilot.Identity.Permissions
import RevPilot.Shared.Errors
import RevPilot.Shared.Temporal

/-! Verified tokens and session evidence with the two policies that judge them. A value
carries what its constructor checks, the provenance signature apart. -/
namespace RevPilot.Identity
open Library Shared

def authenticationError (message : String) (details : List (PyKey × PyValue) := []) : PyError :=
  .domain { code := "UNAUTHORIZED", message := message, details := details }

/-- A text of the claims: stripped and not empty. -/
def Stripped (text : String) : Prop := Text.strip text = text ∧ text ≠ ""

instance (text : String) : Decidable (Stripped text) := inferInstanceAs (Decidable (_ ∧ _))

theorem stripped_issuer : Stripped "revpilot-idp" := by decide +kernel

theorem stripped_audience : Stripped "revpilot-api" := by decide +kernel

theorem stripped_acme : ∀ text ∈ some "tnt_acme", Stripped text := by decide +kernel

theorem stripped_none : ∀ text ∈ (none : Option String), Stripped text := nofun

structure AuthTokenClaims where
  sub : String
  iss : String
  aud : String
  exp : UtcDateTime
  iat : UtcDateTime
  nbf : Option UtcDateTime := none
  tenantId : Option String := none
  roles : List String := []
  permissions : List String := []
  email : Option String := none
  jti : Option String := none
  subAccepted : Stripped sub ∧ (Text.startsWith sub "usr_" = true ∨ Text.startsWith sub "svc_" = true)
  issAccepted : Stripped iss
  audAccepted : Stripped aud
  tenantAccepted : ∀ text ∈ tenantId, Stripped text
  jtiAccepted : ∀ text ∈ jti, Stripped text

structure VerifiedClaimsToken where
  claims : AuthTokenClaims
  verifiedIssuer : String
  verifiedAudience : String
  sessionId : String
  verifiedAt : UtcDateTime
  signatureFingerprint : String
  issuerAccepted : Text.strip verifiedIssuer ≠ ""
  audienceAccepted : Text.strip verifiedAudience ≠ ""
  sessionAccepted : Text.strip sessionId ≠ ""
  fingerprintAccepted : Text.strip signatureFingerprint ≠ ""

structure VerifiedSessionEvidence where
  sessionId : String
  isActive : Bool
  isRevoked : Bool
  issuedAt : UtcDateTime
  expiresAt : UtcDateTime
  sessionAccepted : Text.strip sessionId ≠ ""
  lifetime : issuedAt < expiresAt

def VerifiedSessionEvidence.issue (sessionId : String) (isActive isRevoked : Bool) (issuedAt expiresAt : UtcDateTime) :
    Except PyError VerifiedSessionEvidence :=
  if session : Text.strip (Text.strip sessionId) ≠ "" then
    if lifetime : issuedAt < expiresAt then
      .ok ⟨Text.strip sessionId,isActive,isRevoked,issuedAt,expiresAt,session,lifetime⟩
    else .error (validationError "expires_at must be strictly after issued_at")
  else .error (validationError "session_id must be non-empty str")

/-- `SessionPolicy.validate_session_evidence`. -/
def validateSessionEvidence (evidence : VerifiedSessionEvidence) (checkTime : UtcDateTime) : Except PyError Unit := do
  if evidence.isRevoked then throw (authenticationError "Token or session has been revoked")
  if !evidence.isActive then throw (authenticationError "Token or session has been revoked")
  if evidence.expiresAt < checkTime then throw (authenticationError "Token or session has been revoked")
  if checkTime < evidence.issuedAt then throw (authenticationError "Token or session has been revoked")

structure TokenValidationPolicy where
  expectedIssuer : String := "revpilot-idp"
  expectedAudience : String := "revpilot-api"
  clockSkewSeconds : Int := 60
  issuerAccepted : Text.strip expectedIssuer ≠ "" := by decide +kernel
  audienceAccepted : Text.strip expectedAudience ≠ "" := by decide +kernel
  skewAccepted : 0 ≤ clockSkewSeconds ∧ clockSkewSeconds ≤ 60 := by decide

/-- `t + timedelta(seconds=n)` inside a function; without a result it raises. -/
def shifted (t : UtcDateTime) (seconds : Int) : Except PyError UtcDateTime :=
  match t.plusSeconds seconds with
  | some later => .ok later
  | none => .error .overflowError

/-- The time window of the claims with its tolerance. -/
def validateWindow (claims : AuthTokenClaims) (skew : Int) (checkTime : UtcDateTime) : Except PyError Unit := do
  let expiry ← shifted claims.exp skew
  if expiry ≤ checkTime then throw (authenticationError "Token has expired")
  match claims.nbf with
  | some nbf =>
    let opening ← shifted nbf (-skew)
    if checkTime < opening then throw (authenticationError "Token not yet active")
  | none => pure ()

def TokenValidationPolicy.validateVerifiedToken (policy : TokenValidationPolicy) (verified : VerifiedClaimsToken)
    (checkTime : UtcDateTime) : Except PyError Unit := do
  let claims := verified.claims
  if claims.iss ≠ policy.expectedIssuer ∨ verified.verifiedIssuer ≠ policy.expectedIssuer then
    throw (authenticationError s!"Invalid token issuer: expected '{policy.expectedIssuer}', got '{claims.iss}'")
  if claims.aud ≠ policy.expectedAudience ∨ verified.verifiedAudience ≠ policy.expectedAudience then
    throw (authenticationError s!"Invalid token audience: expected '{policy.expectedAudience}', got '{claims.aud}'")
  validateWindow claims policy.clockSkewSeconds checkTime
  match claims.tenantId with
  | none => throw (tenancyViolationError "Principal lacks required tenant association")
  | some text =>
    if Text.strip text = "" then throw (tenancyViolationError "Principal lacks required tenant association")
    match (EntityId.make "tnt_" text : Option TenantId) with
    | none => throw (tenancyViolationError s!"Invalid tenant_id in verified token claims: {text}")
    | some _ => pure ()

def actorOf (claims : AuthTokenClaims) : Except PyError (ActorId × PrincipalType) :=
  let sub := Text.strip claims.sub
  if Text.startsWith sub "usr_" then
    match EntityId.make "usr_" sub with
    | some id => .ok (.principal id,.user)
    | none => .error .valueError
  else if Text.startsWith sub "svc_" then
    match EntityId.make "svc_" sub with
    | some id => .ok (.serviceAccount id,.serviceAccount)
    | none => .error .valueError
  else .error (validationError s!"Invalid principal subject identifier prefix: '{claims.sub}'")

def createPrincipalFromVerifiedClaims (verified : VerifiedClaimsToken) (checkTime : UtcDateTime) :
    Except PyError Principal := do
  let claims := verified.claims
  validateWindow claims 60 checkTime
  let (id,type) ← actorOf claims
  match claims.tenantId with
  | none => throw (tenancyViolationError "Principal lacks required tenant association")
  | some text =>
    match (EntityId.make "tnt_" text : Option TenantId) with
    | none => throw (tenancyViolationError s!"Invalid tenant_id in token claims: {text}")
    | some tenantId =>
      return {
        id := id
        type := type
        tenantId := some tenantId
        roles := claims.roles
        permissions := claims.permissions
        tenantBound := .inr (by simp) }

end RevPilot.Identity
