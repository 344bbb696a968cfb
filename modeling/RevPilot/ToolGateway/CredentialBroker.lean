import RevPilot.Library.Program
import RevPilot.Shared.Errors
import RevPilot.Shared.Identifiers
import RevPilot.Shared.Temporal

/-! The credential broker: short-lived tokens bound to tenant, provider and action. -/
namespace RevPilot.ToolGateway
open Library Shared

/-- `GatewayError(code=…, message=…, details=…)`, never retryable. -/
def gatewayError (code message : String) (details : List (PyKey × PyValue) := []) : DomainError where
  code := code
  message := message
  details := details

structure EphemeralCredential where
  tokenId : String
  targetProvider : String
  scope : String
  expiresAt : UtcDateTime
  tokenSecret : String := ""
  fieldsAccepted : tokenId ≠ "" ∧ targetProvider ≠ "" ∧ scope ≠ ""

namespace CredentialBroker

def maxTtlSeconds : Int := 900

/-- The randomness and the instant of one issue. -/
structure TokenReadings where
  tokenHex : String
  tokenSecret : String
  issuedAt : UtcDateTime

def tokenScope (tenantId : TenantId) (provider actionType : String) : String :=
  "tenant:" ++ tenantId.value ++ ":provider:" ++ provider ++ ":action:" ++ actionType

theorem lead_ne_empty {lead : String} (rest : String) (nonempty : lead ≠ "") : lead ++ rest ≠ "" := by
  intro empty
  exact nonempty (String.append_eq_empty_iff.mp empty).1

/-- `issue_ephemeral_token` up to the entry in `_active_tokens`. -/
def issueEphemeralToken (tenantId : TenantId) (provider actionType : String) (readings : TokenReadings)
    (ttlSeconds : Int := 900) : Except PyError EphemeralCredential :=
  if maxTtlSeconds < ttlSeconds then
    .error (.domain (gatewayError "ERR_INVALID_TOKEN_TTL"
      s!"Requested token TTL of {ttlSeconds}s exceeds maximum allowed {maxTtlSeconds}s (15 minutes)"
      [(.str "requested_ttl",.int ttlSeconds),(.str "max_ttl",.int maxTtlSeconds)]))
  else
    match readings.issuedAt.plusSeconds ttlSeconds with
    | none => .error .overflowError
    | some expiresAt =>
      if known : provider ≠ "" then
        .ok {
          tokenId := "tok_eph_" ++ readings.tokenHex
          targetProvider := provider
          scope := tokenScope tenantId provider actionType
          expiresAt := expiresAt
          tokenSecret := readings.tokenSecret
          fieldsAccepted := ⟨lead_ne_empty _ (by decide),known,by
            simp only [tokenScope,String.append_assoc]
            exact lead_ne_empty _ (by decide)⟩ }
      else .error .validationError

def scopeMismatch (message : String) (details : List (PyKey × PyValue)) : DomainError :=
  gatewayError "ERR_CREDENTIAL_SCOPE_MISMATCH" message details

def validateToken (credential : EphemeralCredential) (tenantId : TenantId) (provider actionType : String)
    (asOf : UtcDateTime) : Except DomainError Unit :=
  if credential.expiresAt ≤ asOf then
    .error (gatewayError "ERR_CREDENTIAL_EXPIRED"
      s!"Ephemeral credential '{credential.tokenId}' expired at {credential.expiresAt.isoformat}"
      [(.str "token_id",.str credential.tokenId),(.str "expires_at",.str credential.expiresAt.isoformat),
        (.str "as_of",.str asOf.isoformat)])
  else if !Text.startsWith credential.scope ("tenant:" ++ tenantId.value ++ ":") then
    .error (scopeMismatch s!"Credential tenant scope mismatch: expected tenant '{tenantId.value}'"
      [(.str "token_id",.str credential.tokenId),(.str "token_scope",.str credential.scope),
        (.str "expected_tenant",.str tenantId.value)])
  else if credential.targetProvider ≠ provider ∨ !Text.contains credential.scope (":provider:" ++ provider ++ ":") then
    .error (scopeMismatch
      s!"Credential provider mismatch: expected provider '{provider}', token bound to '{credential.targetProvider}'"
      [(.str "token_id",.str credential.tokenId),(.str "expected_provider",.str provider),
        (.str "token_provider",.str credential.targetProvider)])
  else if !Text.endsWith credential.scope (":action:" ++ actionType) then
    .error (scopeMismatch s!"Credential action mismatch: expected action '{actionType}'"
      [(.str "token_id",.str credential.tokenId),(.str "token_scope",.str credential.scope),
        (.str "expected_action",.str actionType)])
  else .ok ()

/-- A credential fits the scope it was issued for; only its time can run out. -/
theorem validateToken_issued {tenantId : TenantId} {provider actionType : String} {readings : TokenReadings}
    {ttlSeconds : Int} {credential : EphemeralCredential} (asOf : UtcDateTime)
    (issued : issueEphemeralToken tenantId provider actionType readings ttlSeconds = .ok credential) :
    validateToken credential tenantId provider actionType asOf = .ok () ↔ asOf < credential.expiresAt := by
  have ofTenant : tokenScope tenantId provider actionType =
      ("tenant:" ++ tenantId.value ++ ":") ++ ("provider:" ++ provider ++ ":action:" ++ actionType) := by
    simp only [tokenScope,String.append_assoc]
    rfl
  have ofProvider : tokenScope tenantId provider actionType =
      ("tenant:" ++ tenantId.value) ++ (":provider:" ++ provider ++ ":") ++ ("action:" ++ actionType) := by
    simp only [tokenScope,String.append_assoc]
    rfl
  have ofAction : tokenScope tenantId provider actionType =
      ("tenant:" ++ tenantId.value ++ ":provider:" ++ provider) ++ (":action:" ++ actionType) := by
    simp only [tokenScope,String.append_assoc]
  have tenantFits := ofTenant ▸ Text.startsWith_append ("tenant:" ++ tenantId.value ++ ":") _
  have providerFits := ofProvider ▸ Text.contains_append _ (":provider:" ++ provider ++ ":") _
  have actionFits := ofAction ▸ Text.endsWith_append _ (":action:" ++ actionType)
  have limits : credential.scope = tokenScope tenantId provider actionType ∧ credential.targetProvider = provider := by
    unfold issueEphemeralToken at issued
    split at issued
    · cases issued
    · split at issued
      · cases issued
      · split at issued
        · cases issued
          exact ⟨rfl,rfl⟩
        · cases issued
  unfold validateToken
  rw [limits.1,limits.2,tenantFits,providerFits,actionFits]
  by_cases expired : credential.expiresAt ≤ asOf
  · simp only [expired,if_true]
    exact iff_of_false (by simp) (Int.not_lt.mpr expired)
  · have valid : asOf < credential.expiresAt := Int.not_le.mp expired
    simp [expired,valid]

end CredentialBroker
end RevPilot.ToolGateway
