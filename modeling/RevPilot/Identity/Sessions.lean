import RevPilot.Identity.Tokens
import RevPilot.Library.Dict
import RevPilot.Library.Outcome
import RevPilot.Library.Runs
import RevPilot.Shared.Context
import RevPilot.Tenancy.Domain

/-! The identity service over the in-memory authentication adapter, and what a revocation
of a session is worth in a run of it. -/
namespace RevPilot.Identity
open Library Shared Outcome Runs Tenancy

structure InMemoryAuthAdapter where
  tokens : Dict String VerifiedClaimsToken := .empty
  sessions : Dict String VerifiedSessionEvidence := .empty
  revokedSessions : List String := []

namespace InMemoryAuthAdapter
variable (adapter : InMemoryAuthAdapter)

def verifyToken (token expectedIssuer expectedAudience : String) : Except PyError VerifiedClaimsToken := do
  if Text.strip token = "" then throw (authenticationError "Token must be a non-empty string")
  match adapter.tokens.get? (Text.strip token) with
  | none => throw (authenticationError "Invalid token signature or token unknown")
  | some verified =>
    if verified.claims.iss ≠ expectedIssuer ∨ verified.verifiedIssuer ≠ expectedIssuer then
      throw (authenticationError s!"Issuer mismatch: expected '{expectedIssuer}', got '{verified.claims.iss}'")
    if verified.claims.aud ≠ expectedAudience ∨ verified.verifiedAudience ≠ expectedAudience then
      throw (authenticationError s!"Audience mismatch: expected '{expectedAudience}', got '{verified.claims.aud}'")
    -- the identifier as the token spells it, white space included
    if verified.sessionId ∈ adapter.revokedSessions then
      throw (authenticationError "Token or session has been revoked")
    return verified

def revokeSession (sessionId : String) : InMemoryAuthAdapter × Except PyError Unit :=
  let sid := Text.strip sessionId
  if sid = "" then (adapter,.error (validationError "session_id must be a non-empty string"))
  else
    let marked := { adapter with revokedSessions := adapter.revokedSessions.insert sid }
    match adapter.sessions.get? sid with
    | none => (marked,.ok ())
    | some ev =>
      match VerifiedSessionEvidence.issue ev.sessionId ev.isActive true ev.issuedAt ev.expiresAt with
      | .ok evidence => ({ marked with sessions := adapter.sessions.set sid evidence },.ok ())
      | .error raised => (marked,.error raised)

def getSessionEvidence (sessionId : String) : Except PyError VerifiedSessionEvidence :=
  let sid := Text.strip sessionId
  if sid = "" then .error (validationError "session_id must be a non-empty string")
  else
    match adapter.sessions.get? sid with
    | some evidence => .ok evidence
    | none =>
      if sid ∈ adapter.revokedSessions then .error (authenticationError "Token or session has been revoked")
      else .error (authenticationError s!"Session '{sid}' not found or unverified")

/-- `2099-01-01T00:00:00Z`. -/
def farExpiry : UtcDateTime := ⟨4070908800000000⟩

def registerToken (tokenString : String) (verified : VerifiedClaimsToken) (evidence : Option VerifiedSessionEvidence)
    (now : UtcDateTime) : InMemoryAuthAdapter × Except PyError Unit :=
  if Text.strip tokenString = "" then (adapter,.error (validationError "token_string must be a non-empty string"))
  else
    let issued : Except PyError VerifiedSessionEvidence :=
      match evidence with
      | some ev => .ok ev
      | none => VerifiedSessionEvidence.issue verified.sessionId true false now farExpiry
    match issued with
    | .error raised => (adapter,.error raised)
    | .ok ev =>
      ({ adapter with
        tokens := adapter.tokens.set (Text.strip tokenString) verified
        sessions := adapter.sessions.set verified.sessionId ev },.ok ())

def registerSession (evidence : VerifiedSessionEvidence) : InMemoryAuthAdapter :=
  { adapter with sessions := adapter.sessions.set evidence.sessionId evidence }

end InMemoryAuthAdapter

structure IdentityService where
  tokenPolicy : TokenValidationPolicy := {}
  tenancyPolicy : Option (TenantContext → Except PyError Unit) := none

/-- One call of `authenticate_token`: the clock and the bound tenant port as it answers then. -/
structure AuthCall where
  token : String
  asOf : Option UtcDateTime := none
  now : UtcDateTime
  tenants : Option (TenantId → Option Tenant) := none

namespace IdentityService
variable (service : IdentityService) (adapter : InMemoryAuthAdapter)

def verifyTenant (tenants : Option (TenantId → Option Tenant)) (tenantId : TenantId) : Except PyError Unit :=
  match tenants with
  | none => .ok ()
  | some getById =>
    match getById tenantId with
    | none =>
      .error (tenancyViolationError s!"Tenant '{tenantId.value}' does not exist"
        [(.str "tenant_id",.str tenantId.value)])
    | some tenant =>
      if tenant.status ≠ .active then
        .error (tenancyViolationError
          s!"Tenant '{tenantId.value}' is in inactive or suspended status '{tenant.status.text}'"
          [(.str "tenant_id",.str tenantId.value),(.str "status",.str tenant.status.text)])
      else
        match service.tenancyPolicy with
        | none => .ok ()
        -- `to_context` does not fail for an active tenant
        | some validateContext => validateContext ⟨tenant.id⟩

def authenticateToken (call : AuthCall) : Except PyError Principal := do
  if Text.strip call.token = "" then throw (validationError "token cannot be empty or whitespace-only")
  let checkTime := call.asOf.getD call.now
  let verified ← adapter.verifyToken (Text.strip call.token) service.tokenPolicy.expectedIssuer
    service.tokenPolicy.expectedAudience
  service.tokenPolicy.validateVerifiedToken verified checkTime
  let evidence ← adapter.getSessionEvidence verified.sessionId
  validateSessionEvidence evidence checkTime
  match verified.claims.tenantId with
  | none => throw (tenancyViolationError "Principal lacks required tenant association")
  | some text =>
    if text = "" then throw (tenancyViolationError "Principal lacks required tenant association")
    match (EntityId.make "tnt_" text : Option TenantId) with
    | none => throw (tenancyViolationError s!"Invalid tenant_id in verified token: {text}")
    | some tenantId =>
      service.verifyTenant call.tenants tenantId
      createPrincipalFromVerifiedClaims verified checkTime

def revokeSession (sessionId : String) : InMemoryAuthAdapter × Except PyError Unit :=
  if Text.strip sessionId = "" then (adapter,.error (validationError "session_id must be a non-empty string"))
  else adapter.revokeSession (Text.strip sessionId)

end IdentityService

inductive SessionOp : Type
  | authenticateToken (call : AuthCall)
  | registerToken (tokenString : String) (verified : VerifiedClaimsToken) (evidence : Option VerifiedSessionEvidence)
      (now : UtcDateTime)
  | registerSession (evidence : VerifiedSessionEvidence)
  | revokeSession (sessionId : String)

def sessionStep (adapter : InMemoryAuthAdapter) : SessionOp → InMemoryAuthAdapter
  | .authenticateToken _ => adapter
  | .registerToken tokenString verified evidence now => (adapter.registerToken tokenString verified evidence now).1
  | .registerSession evidence => adapter.registerSession evidence
  | .revokeSession sessionId => (IdentityService.revokeSession adapter sessionId).1

/-- The verified token that a call presents. -/
def presented (adapter : InMemoryAuthAdapter) (call : AuthCall) : Option VerifiedClaimsToken :=
  adapter.tokens.get? (Text.strip call.token)

/-- After a successful revocation no token of the session is let in again. -/
def RevocationHolds (service : IdentityService) (start : InMemoryAuthAdapter) (ops : List SessionOp) : Prop :=
  ∀ pre sessionId mid call post, ops = pre ++ .revokeSession sessionId :: (mid ++ .authenticateToken call :: post) →
    (IdentityService.revokeSession (run sessionStep start pre) sessionId).2 = .ok () →
    ∀ verified,
      presented (run sessionStep start (pre ++ .revokeSession sessionId :: mid)) call = some verified →
      Text.strip verified.sessionId = Text.strip sessionId →
      ∀ principal,
        service.authenticateToken (run sessionStep start (pre ++ .revokeSession sessionId :: mid)) call ≠ .ok principal

/-- The token spells its revoked session with white space around it, and evidence that is
not revoked is filed for that session. -/
def Bypasses (adapter : InMemoryAuthAdapter) (verified : VerifiedClaimsToken) : Prop :=
  Text.strip verified.sessionId ≠ verified.sessionId ∧
    Text.strip verified.sessionId ∈ adapter.revokedSessions ∧
    ∃ evidence, adapter.sessions.get? (Text.strip verified.sessionId) = some evidence ∧ evidence.isRevoked = false

/-- No call presents a token that goes round the revocation of its session. -/
def Straight (adapter : InMemoryAuthAdapter) : SessionOp → Prop
  | .authenticateToken call => ∀ verified, presented adapter call = some verified → ¬ Bypasses adapter verified
  | _ => True

section bypass
variable {service : IdentityService} {adapter : InMemoryAuthAdapter} {call : AuthCall} {verified : VerifiedClaimsToken}

theorem verifyToken_ok {token issuer audience : String} (passed : adapter.verifyToken token issuer audience = .ok verified) :
    adapter.tokens.get? (Text.strip token) = some verified ∧ verified.sessionId ∉ adapter.revokedSessions := by
  simp only [InMemoryAuthAdapter.verifyToken,throw_bind,guard_eq_ok] at passed
  obtain ⟨_,passed⟩ := passed
  split at passed
  next => cases passed
  next found stored =>
    simp only [guard_eq_ok,pure_eq_ok] at passed
    obtain ⟨_,_,current,rfl⟩ := passed
    exact ⟨stored,current⟩

theorem getSessionEvidence_ok {sessionId : String} {evidence : VerifiedSessionEvidence}
    (found : adapter.getSessionEvidence sessionId = .ok evidence) :
    adapter.sessions.get? (Text.strip sessionId) = some evidence := by
  unfold InMemoryAuthAdapter.getSessionEvidence at found
  dsimp only at found
  split at found
  next => cases found
  next =>
    split at found
    next stored =>
      cases found
      exact stored
    next => split at found <;> cases found

theorem validateSessionEvidence_ok {evidence : VerifiedSessionEvidence} {checkTime : UtcDateTime}
    (passed : validateSessionEvidence evidence checkTime = .ok ()) : evidence.isRevoked = false := by
  cases revoked : evidence.isRevoked with
  | false => rfl
  | true =>
    simp only [validateSessionEvidence,revoked] at passed
    cases passed

/-- What an admission says of the token's session. -/
theorem authenticateToken_ok {principal : Principal} (admitted : service.authenticateToken adapter call = .ok principal) :
    ∃ verified evidence, presented adapter call = some verified ∧ verified.sessionId ∉ adapter.revokedSessions ∧
      adapter.sessions.get? (Text.strip verified.sessionId) = some evidence ∧ evidence.isRevoked = false := by
  simp only [IdentityService.authenticateToken,throw_bind,guard_eq_ok,bind_eq_ok] at admitted
  obtain ⟨_,verified,known,_,_,evidence,found,_,valid,_⟩ := admitted
  obtain ⟨stored,current⟩ := verifyToken_ok known
  rw [Text.strip_strip] at stored
  exact ⟨verified,evidence,stored,current,getSessionEvidence_ok found,validateSessionEvidence_ok valid⟩

/-- A token of a revoked session gets in only round the revocation. -/
theorem bypasses_of_admitted {principal : Principal} (admitted : service.authenticateToken adapter call = .ok principal)
    (known : presented adapter call = some verified)
    (revoked : Text.strip verified.sessionId ∈ adapter.revokedSessions) : Bypasses adapter verified := by
  obtain ⟨found,evidence,stored,current,filed,fresh⟩ := authenticateToken_ok admitted
  obtain rfl : found = verified := Option.some.inj (stored.symm.trans known)
  refine ⟨?_,revoked,evidence,filed,fresh⟩
  intro plain
  rw [plain] at revoked
  exact current revoked

end bypass

section runs
variable {adapter : InMemoryAuthAdapter}

theorem revokeSession_revokes {sessionId : String} (revoked : (IdentityService.revokeSession adapter sessionId).2 = .ok ()) :
    Text.strip sessionId ∈ (IdentityService.revokeSession adapter sessionId).1.revokedSessions := by
  unfold IdentityService.revokeSession at revoked ⊢
  by_cases blank : Text.strip sessionId = ""
  · rw [if_pos blank] at revoked
    cases revoked
  · rw [if_neg blank] at revoked ⊢
    unfold InMemoryAuthAdapter.revokeSession
    rw [Text.strip_strip]
    dsimp only
    rw [if_neg blank]
    split
    · exact List.mem_insert_self
    · split <;> exact List.mem_insert_self

theorem revokedSessions_grow (adapter : InMemoryAuthAdapter) (op : SessionOp) {sid : String}
    (revoked : sid ∈ adapter.revokedSessions) : sid ∈ (sessionStep adapter op).revokedSessions := by
  cases op with
  | authenticateToken call => exact revoked
  | registerToken tokenString verified evidence now =>
    simp only [sessionStep,InMemoryAuthAdapter.registerToken]
    split
    · exact revoked
    · split <;> exact revoked
  | registerSession evidence => exact revoked
  | revokeSession sessionId =>
    simp only [sessionStep,IdentityService.revokeSession,InMemoryAuthAdapter.revokeSession]
    split
    · exact revoked
    · split
      · exact revoked
      · split
        · exact List.mem_insert_of_mem revoked
        · split <;> exact List.mem_insert_of_mem revoked

/-- A revoked session stays out of every run in which no token goes round its revocation. -/
theorem revocation_holds (service : IdentityService) {start : InMemoryAuthAdapter} {ops : List SessionOp}
    (straight : Along sessionStep Straight start ops) : RevocationHolds service start ops := by
  intro pre sessionId mid call post split revoked verified known same principal admitted
  have stays : Text.strip sessionId ∈
      (run sessionStep start (pre ++ .revokeSession sessionId :: mid)).revokedSessions := by
    rw [run_append,run_cons]
    exact stable_run sessionStep (fun adapter op held => revokedSessions_grow adapter op held)
      (revokeSession_revokes revoked) mid
  have met : Straight (run sessionStep start (pre ++ .revokeSession sessionId :: mid)) (.authenticateToken call) := by
    apply along_at sessionStep straight
    rw [split,List.append_assoc,List.cons_append]
  rw [← same] at stays
  exact met verified known (bypasses_of_admitted admitted known stays)

end runs

section replay

def claims : AuthTokenClaims where
  sub := "usr_maria"
  iss := "revpilot-idp"
  aud := "revpilot-api"
  exp := ⟨7200000000⟩
  iat := ⟨0⟩
  tenantId := some "tnt_acme"
  subAccepted := by decide +kernel
  issAccepted := stripped_issuer
  audAccepted := stripped_audience
  tenantAccepted := stripped_acme
  jtiAccepted := stripped_none

/-- A token of one session as its issuer spells the session. -/
def tokenOf (sessionId : String) (accepted : Text.strip sessionId ≠ "") : VerifiedClaimsToken where
  claims := claims
  verifiedIssuer := "revpilot-idp"
  verifiedAudience := "revpilot-api"
  sessionId := sessionId
  verifiedAt := ⟨0⟩
  signatureFingerprint := "f00d"
  issuerAccepted := by decide +kernel
  audienceAccepted := by decide +kernel
  sessionAccepted := accepted
  fingerprintAccepted := by decide +kernel

def freshEvidence : VerifiedSessionEvidence :=
  ⟨"sess_1",true,false,⟨0⟩,⟨3600000000⟩,by decide +kernel,by decide⟩

/-- A session is revoked, registered again and presented once more. -/
def replay (sessionId : String) (accepted : Text.strip sessionId ≠ "") : List SessionOp :=
  [.registerToken "tok" (tokenOf sessionId accepted) (some freshEvidence) ⟨0⟩,.revokeSession " sess_1",
    .registerSession freshEvidence,.authenticateToken { token := "tok", now := ⟨60000000⟩ }]

theorem replay_refused : RevocationHolds {} {} (replay "sess_1" (by decide +kernel)) := by
  apply revocation_holds
  refine ⟨trivial,trivial,trivial,?_,trivial⟩
  intro verified known bypass
  obtain rfl : tokenOf "sess_1" (by decide +kernel) = verified := Option.some.inj known
  exact bypass.1 (by decide +kernel)

/-- A space in the token's spelling of the session lets it in again. -/
theorem padded_replay_admitted : ¬ RevocationHolds {} {} (replay " sess_1" (by decide +kernel)) := by
  intro holds
  have refused := holds [.registerToken "tok" (tokenOf " sess_1" (by decide +kernel)) (some freshEvidence) ⟨0⟩] " sess_1"
    [.registerSession freshEvidence] { token := "tok", now := ⟨60000000⟩ } [] rfl rfl _ rfl rfl
  exact refused _ rfl

end replay
end RevPilot.Identity
