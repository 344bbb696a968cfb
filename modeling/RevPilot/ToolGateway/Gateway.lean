import RevPilot.Action.Domain
import RevPilot.ToolGateway.CredentialBroker
import RevPilot.ToolGateway.Scrub

/-! The action capability gateway: the gates a dispatch passes before the provider
adapter is called. The adapter is free to answer as it likes, to raise and to keep
a state of its own. -/
namespace RevPilot.ToolGateway
open Library Shared Program Approval RevPilot.Action

structure ActionCapabilityRequest where
  intentId : UUIDv7
  tenantId : TenantId
  approvalId : UUIDv7
  approvalDigest : String
  actionType : String
  idempotencyKey : String
  targetEntities : List String := []
  payload : Payload := .empty
  isDryRun : Bool := false
  asOfTime : UtcDateTime
  approvalArtifact : Option ApprovalArtifact := none
  fieldsAccepted : approvalDigest.length = 64 ∧ actionType ≠ "" ∧ idempotencyKey ≠ ""

/-- The arguments of `provider_adapter.execute`. -/
structure ProviderRequest where
  intentId : String
  actionType : String
  targetEntities : List String
  payload : Payload
  credential : EphemeralCredential

structure ProviderResponse where
  httpStatusCode : Int := 200
  providerTxId : String
  responsePayload : Payload
  durationMs : Int := 0
  fieldsAccepted : 100 ≤ httpStatusCode ∧ httpStatusCode ≤ 599 ∧ providerTxId ≠ "" ∧ 0 ≤ durationMs

inductive GatewayCall : Type
  | storeToken (credential : EphemeralCredential)
  | execute (request : ProviderRequest)

/-- The adapter raises, or returns a `Failure` or a `Success`. -/
abbrev GatewayCall.Reply : GatewayCall → Type
  | .storeToken _ => Unit
  | .execute _ => Except PyError (Except DomainError ProviderResponse)

abbrev GatewayProg (A : Type) := Prog GatewayCall GatewayCall.Reply PyError A

/-- The adapter's state, the broker's tokens and the calls the adapter has got. -/
structure GatewayWorld (V : Type) where
  outside : V
  activeTokens : Dict String EphemeralCredential := .empty
  executed : List ProviderRequest := []

abbrev ProviderAdapter (V : Type) :=
  V → ProviderRequest → Except PyError (Except DomainError ProviderResponse) × V

def serve {V : Type} (adapter : ProviderAdapter V) : (c : GatewayCall) → GatewayWorld V → c.Reply × GatewayWorld V
  | .storeToken credential, w =>
    ((),{ w with activeTokens := w.activeTokens.set credential.tokenId credential })
  | .execute request, w =>
    ((adapter w.outside request).1,
      { w with outside := (adapter w.outside request).2, executed := w.executed ++ [request] })

/-- What the gateway takes from its surroundings: the hash, the case table, the
validation of an optional integer field, and the `ENVIRONMENT` variable. -/
structure Runtime where
  sha256 : String → String
  casing : Text.Casing
  laxInt : PyValue → Except PyError (Option Int)
  osEnvironment : String := "test"

/-- The attributes of a gateway; `mockInstance` is `isinstance(…, MockProviderAdapter)`. -/
structure ActionCapabilityGateway where
  environment : String
  defaultProvider : String := "mock_logistics_v1"
  mockInstance : Bool
  adapterClass : String

/-- The identifiers and instants of one dispatch. -/
structure DispatchReadings where
  token : CredentialBroker.TokenReadings
  ledgerId : UUIDv7
  completedAt : UtcDateTime

namespace ActionCapabilityGateway
variable (rt : Runtime) (gateway : ActionCapabilityGateway)

def currentEnv : String :=
  rt.casing.lower (Text.strip (if gateway.environment ≠ "" then gateway.environment else rt.osEnvironment))

def mockForbidden : Bool :=
  gateway.currentEnv rt != "test" && (gateway.mockInstance || Text.contains gateway.adapterClass "Mock")

def digestMismatch (message : String) (req : ActionCapabilityRequest) : DomainError :=
  gatewayError "ERR_APPROVAL_DIGEST_MISMATCH" message [(.str "approval_digest",.str req.approvalDigest)]

/-- The artifact that gate 2 looks at. -/
def effectiveArtifact (req : ActionCapabilityRequest) (approvalArtifact : Option ApprovalArtifact) :
    Option ApprovalArtifact :=
  approvalArtifact <|> req.approvalArtifact

/-- The check of gate 2: without an artifact there is none. -/
def artifactVerifies (req : ActionCapabilityRequest) (approvalArtifact : Option ApprovalArtifact) :
    Except PyError Bool :=
  match effectiveArtifact req approvalArtifact with
  | some artifact => verifyApprovalDigest rt.sha256 artifact req.approvalDigest
  | none => .ok true

/-- The ledger record of a dispatch, before its outcome is filled in. -/
def dispatchLedger (req : ActionCapabilityRequest) (requestDigest : String) (readings : DispatchReadings) :
    ActionLedgerRecord where
  ledgerId := readings.ledgerId
  tenantId := req.tenantId
  intentId := req.intentId
  attemptNumber := 1
  idempotencyKey := req.idempotencyKey
  providerName := gateway.defaultProvider
  requestDigest := requestDigest
  startedAt := req.asOfTime
  completedAt := some readings.completedAt
  numberAccepted := first_attempt

/-- Gate 3. -/
def simulate (req : ActionCapabilityRequest) (readings : DispatchReadings) : Except PyError ActionLedgerRecord := do
  let scrubbed ← scrubSecrets rt.casing [] req.payload.value
  let requestDigest ← computeCanonicalDigest rt.sha256 scrubbed
  let responseDigest ← computeCanonicalDigest rt.sha256
    (dictOf [("status",.str "DRY_RUN_ACCEPTED"),("action_type",.str req.actionType),
      ("targets_count",.int req.targetEntities.length),("zero_side_effect",.bool true)])
  return { gateway.dispatchLedger req requestDigest readings with
    responseDigest := some responseDigest
    httpStatusCode := some 200
    providerTxId := some ("tx_dryrun_" ++ String.ofList ((req.intentId.value.toList.filter (· != '-')).take 12))
    executionStatus := .success }

def knownSecrets (credential : EphemeralCredential) : List String := [credential.tokenId,credential.tokenSecret]

/-- Gate 6. -/
def outboundDigest (req : ActionCapabilityRequest) (credential : EphemeralCredential) : Except PyError String := do
  let scrubbed ← scrubSecrets rt.casing (knownSecrets credential) req.payload.value
  computeCanonicalDigest rt.sha256 scrubbed

/-- The record of what the adapter answered. -/
def recordAnswer (req : ActionCapabilityRequest) (credential : EphemeralCredential) (requestDigest : String)
    (readings : DispatchReadings) : Except DomainError ProviderResponse → Except PyError ActionLedgerRecord
  | .error err => do
    let status ← rt.laxInt ((PyValue.lookup err.details "status_code").getD (.int 500))
    return { gateway.dispatchLedger req requestDigest readings with
      httpStatusCode := status
      executionStatus := .providerError
      errorCode := some err.code }
  | .ok response => do
    let scrubbed ← scrubSecrets rt.casing (knownSecrets credential) response.responsePayload.value
    let responseDigest ← computeCanonicalDigest rt.sha256 scrubbed
    return { gateway.dispatchLedger req requestDigest readings with
      responseDigest := some responseDigest
      httpStatusCode := some response.httpStatusCode
      providerTxId := some response.providerTxId
      executionStatus := if response.httpStatusCode = 200 then .success else .providerError }

def providerRequest (req : ActionCapabilityRequest) (credential : EphemeralCredential) : ProviderRequest where
  intentId := req.intentId.value
  actionType := req.actionType
  targetEntities := req.targetEntities
  payload := req.payload
  credential := credential

/-- Gates 5 to 7, with the credential of gate 4. -/
def dispatchWith (req : ActionCapabilityRequest) (credential : EphemeralCredential) (readings : DispatchReadings) :
    GatewayProg (Except DomainError ActionLedgerRecord) :=
  match CredentialBroker.validateToken credential req.tenantId gateway.defaultProvider req.actionType req.asOfTime with
  | .error refused => return .error refused
  | .ok () => do
    let requestDigest ← Prog.ofExcept (outboundDigest rt req credential)
    let adapterRes ← Prog.ofExcept (← Prog.call (GatewayCall.execute (providerRequest req credential)))
    let record ← Prog.ofExcept (gateway.recordAnswer rt req credential requestDigest readings adapterRes)
    return .ok record

def dispatchAction (ctx : TenantContext) (req : ActionCapabilityRequest) (approvalArtifact : Option ApprovalArtifact)
    (readings : DispatchReadings) : GatewayProg (Except DomainError ActionLedgerRecord) := do
  if gateway.mockForbidden rt then
    return .error (gatewayError "ERR_MOCK_PROVIDER_FORBIDDEN"
      "MockProviderAdapter is strictly forbidden in non-test environment (INV-ACT-001)"
      [(.str "environment",.str (gateway.currentEnv rt))])
  else if ctx.tenantId ≠ req.tenantId then
    return .error (gatewayError "ERR_TENANT_MISMATCH"
      s!"Context tenant '{ctx.tenantId.value}' does not match request tenant '{req.tenantId.value}'"
      [(.str "ctx_tenant",.str ctx.tenantId.value),(.str "req_tenant",.str req.tenantId.value)])
  else if req.approvalDigest.length ≠ 64 then
    return .error (digestMismatch "Action dispatch requires valid 64-character SHA-256 approval digest" req)
  else
    let verified ← Prog.ofExcept (artifactVerifies rt req approvalArtifact)
    if !verified then
      return .error (digestMismatch "Action dispatch approval digest verification failed" req)
    else if req.isDryRun then
      let record ← Prog.ofExcept (gateway.simulate rt req readings)
      return .ok record
    else
      match CredentialBroker.issueEphemeralToken req.tenantId gateway.defaultProvider req.actionType readings.token with
      | .error (.domain err) =>
        return .error (gatewayError "ERR_CREDENTIAL_ISSUANCE_FAILED"
          s!"Credential issuance failed: {err.message}" err.details)
      | .error raised => throw raised
      | .ok credential =>
        Prog.call (GatewayCall.storeToken credential)
        gateway.dispatchWith rt req credential readings

end ActionCapabilityGateway
end RevPilot.ToolGateway
