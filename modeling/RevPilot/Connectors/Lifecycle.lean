import RevPilot.Library.Dict
import RevPilot.Security.Broker
import RevPilot.Shared.Errors
import RevPilot.Shared.Identifiers
import RevPilot.Shared.Temporal

/-! Connector instances and their lifecycle. A method changes the record of its connector
only, so each is a function on that record and the service looks the record up. -/
namespace RevPilot.Connectors
open Library Shared Security

inductive ConnectorStatus : Type
  | registered
  | configured
  | validating
  | active
  | degraded
  | paused
  | authExpired
  | schemaDrift
  | quarantined
  | reconciliationRequired
  | deleting
  | deleted
  | failed
  deriving DecidableEq

namespace ConnectorStatus

def value : ConnectorStatus → String
  | registered => "REGISTERED"
  | configured => "CONFIGURED"
  | validating => "VALIDATING"
  | active => "ACTIVE"
  | degraded => "DEGRADED"
  | paused => "PAUSED"
  | authExpired => "AUTH_EXPIRED"
  | schemaDrift => "SCHEMA_DRIFT"
  | quarantined => "QUARANTINED"
  | reconciliationRequired => "RECONCILIATION_REQUIRED"
  | deleting => "DELETING"
  | deleted => "DELETED"
  | failed => "FAILED"

def validTransitions : ConnectorStatus → List ConnectorStatus
  | registered => [configured,deleting,failed]
  | configured => [validating,deleting,failed]
  | validating => [active,failed,deleting]
  | active => [degraded,paused,authExpired,schemaDrift,deleting,failed]
  | degraded => [active,authExpired,paused,deleting,failed]
  | paused => [active,deleting,failed]
  | authExpired => [validating,configured,deleting,failed]
  | schemaDrift => [quarantined,deleting,failed]
  | quarantined => [reconciliationRequired,deleting,failed]
  | reconciliationRequired => [active,deleting,failed]
  | failed => [configured,validating,deleting]
  | deleting => [deleted]
  | deleted => []

end ConnectorStatus

/-- A `ConnectorError` with its code and HTTP status, or an exception of Python. -/
inductive ConnectorFault : Type
  | connectorError (code message : String) (statusCode : Nat)
  | raised (error : PyError)

def connectorNotFoundError (message : String) : ConnectorFault := .connectorError "CONNECTOR_NOT_FOUND" message 404

def invalidScopeError (message : String) : ConnectorFault := .connectorError "INVALID_SCOPE" message 422

def invalidStateTransitionError (message : String) : ConnectorFault :=
  .connectorError "INVALID_STATE_TRANSITION" message 400

structure ConnectorInstanceRecord where
  connectorId : UUIDv7
  tenantId : TenantId
  providerName : String
  providerVersion : String := "v1"
  capabilityType : String
  authMethod : String := "oauth2_client_credentials"
  secretRef : Option SecretReference := none
  grantedScopes : List String := []
  cursorPosition : Option String := none
  lastSuccessfulSyncAt : Option UtcDateTime := none
  syncLagSeconds : Int := 0
  status : ConnectorStatus := .registered
  quarantineCount : Int := 0
  consecutiveErrors : Int := 0
  consecutiveRateLimits : Int := 0
  statusReason : Option String := none
  createdAt : UtcDateTime
  updatedAt : UtcDateTime

/-- The record a method leaves and how it ends. -/
abbrev RecordChange (A : Type) := ConnectorInstanceRecord × Except ConnectorFault A

/-- The rest of a method, if the statement before did not raise. -/
def RecordChange.andThen {A : Type} (change : RecordChange Unit) (rest : ConnectorInstanceRecord → RecordChange A) :
    RecordChange A :=
  match change with
  | (record,.ok ()) => rest record
  | (record,.error fault) => (record,.error fault)

namespace ConnectorInstanceRecord
variable (record : ConnectorInstanceRecord)

def transitionState (newStatus : ConnectorStatus) (reason : String) (now : UtcDateTime) : RecordChange Unit :=
  if record.status = newStatus then ({ record with statusReason := some reason, updatedAt := now },.ok ())
  else if newStatus ∉ record.status.validTransitions then
    (record,.error (invalidStateTransitionError
      s!"Illegal connector transition from '{record.status.value}' to '{newStatus.value}'"))
  else ({ record with status := newStatus, statusReason := some reason, updatedAt := now },.ok ())

def configureCredentials (secretRef : SecretReference) (scopes : List String) (now : UtcDateTime) : RecordChange Unit :=
  if scopes = [] then
    (record,.error (invalidScopeError "Connector registration requires at least one granted scope"))
  else
    -- the credentials are written before the transition is judged
    transitionState { record with secretRef := some secretRef, grantedScopes := scopes } .configured
      "Credentials configured" now

/-- `probe` is what the probe function returns, `none` if it raises; without one it is healthy. -/
def validateConnectivity (probe : Option Bool) (now : UtcDateTime) : RecordChange Bool :=
  (record.transitionState .validating "Starting connectivity probe" now).andThen fun record =>
    if probe = some true then
      (record.transitionState .active "Connectivity and scopes verified" now).andThen fun record =>
        ({ record with consecutiveErrors := 0 },.ok true)
    else
      (record.transitionState .failed "Connectivity probe failed" now).andThen fun record => (record,.ok false)

def recordSyncSuccess (cursor : String) (lagSeconds : Int) (now : UtcDateTime) : ConnectorInstanceRecord :=
  { record with
    cursorPosition := some cursor
    syncLagSeconds := lagSeconds
    lastSuccessfulSyncAt := some now
    consecutiveErrors := 0
    consecutiveRateLimits := 0
    updatedAt := now }

def recordAuthFailure (now : UtcDateTime) : RecordChange Unit :=
  transitionState { record with consecutiveErrors := record.consecutiveErrors + 1 } .authExpired
    "401/403 Unauthorized received from upstream provider; sync halted" now

def recordRateLimit (now : UtcDateTime) : RecordChange Unit :=
  let counted := { record with consecutiveRateLimits := record.consecutiveRateLimits + 1 }
  if 3 ≤ counted.consecutiveRateLimits ∧ counted.status = .active then
    counted.transitionState .degraded "Consecutive rate limit (429) thresholds exceeded; backoff engaged" now
  else (counted,.ok ())

def recordHealthRecovery (now : UtcDateTime) : RecordChange Unit :=
  let healthy := { record with consecutiveRateLimits := 0, consecutiveErrors := 0 }
  if healthy.status = .degraded then
    healthy.transitionState .active "Health probe recovered 200 OK; restored full sync rate" now
  else (healthy,.ok ())

def deleteConnector (now : UtcDateTime) : RecordChange Unit :=
  (record.transitionState .deleting "Connector teardown initiated" now).andThen fun record =>
    transitionState { record with cursorPosition := none, secretRef := none, syncLagSeconds := 0 } .deleted
      "Teardown complete; state purged" now

end ConnectorInstanceRecord

/-- The methods of the service on one connector. -/
inductive ConnectorMethod : Type
  | configureCredentials (secretRef : SecretReference) (scopes : List String)
  | validateConnectivity (probe : Option Bool)
  | transitionState (newStatus : ConnectorStatus) (reason : String)
  | recordSyncSuccess (cursor : String) (lagSeconds : Int)
  | recordAuthFailure
  | recordRateLimit
  | recordHealthRecovery
  | deleteConnector

def ConnectorMethod.apply (now : UtcDateTime) (record : ConnectorInstanceRecord) : ConnectorMethod → RecordChange Unit
  | configureCredentials secretRef scopes => record.configureCredentials secretRef scopes now
  | validateConnectivity probe =>
    ((record.validateConnectivity probe now).1,(record.validateConnectivity probe now).2.map fun _ => ())
  | transitionState newStatus reason => record.transitionState newStatus reason now
  | recordSyncSuccess cursor lagSeconds => (record.recordSyncSuccess cursor lagSeconds now,.ok ())
  | recordAuthFailure => record.recordAuthFailure now
  | recordRateLimit => record.recordRateLimit now
  | recordHealthRecovery => record.recordHealthRecovery now
  | deleteConnector => record.deleteConnector now

structure ConnectorLifecycleService where
  connectors : Dict UUIDv7 ConnectorInstanceRecord := .empty

/-- A registration with the identifier it generates, or a method on a connector. -/
inductive LifecycleOp : Type
  | registerConnector (connectorId : UUIDv7) (tenantId : TenantId)
      (provider capability providerVersion authMethod : String)
  | onConnector (connectorId : UUIDv7) (method : ConnectorMethod)

namespace ConnectorLifecycleService
variable (s : ConnectorLifecycleService)

def getConnector (connectorId : UUIDv7) : Except ConnectorFault ConnectorInstanceRecord :=
  match s.connectors.get? connectorId with
  | some record => .ok record
  | none => .error (connectorNotFoundError s!"Connector '{connectorId.value}' not found")

def registerConnector (connectorId : UUIDv7) (tenantId : TenantId)
    (provider capability providerVersion authMethod : String) (now : UtcDateTime) : ConnectorLifecycleService :=
  ⟨s.connectors.set connectorId {
    connectorId := connectorId
    tenantId := tenantId
    providerName := provider
    providerVersion := providerVersion
    capabilityType := capability
    authMethod := authMethod
    createdAt := now
    updatedAt := now }⟩

/-- The record is fetched, or the method raises; what it wrote stays when it raises later. -/
def onConnector (connectorId : UUIDv7) (method : ConnectorInstanceRecord → RecordChange Unit) :
    ConnectorLifecycleService × Except ConnectorFault Unit :=
  match s.getConnector connectorId with
  | .error fault => (s,.error fault)
  | .ok record => (⟨s.connectors.set connectorId (method record).1⟩,(method record).2)

def serve (op : LifecycleOp) (now : UtcDateTime) : ConnectorLifecycleService × Except ConnectorFault Unit :=
  match op with
  | .registerConnector connectorId tenantId provider capability providerVersion authMethod =>
    (s.registerConnector connectorId tenantId provider capability providerVersion authMethod now,.ok ())
  | .onConnector connectorId method => s.onConnector connectorId (fun record => method.apply now record)

end ConnectorLifecycleService

section transitions
variable (record : ConnectorInstanceRecord) (newStatus : ConnectorStatus) (reason : String) (now : UtcDateTime)

/-- All that a transition does. -/
theorem transitionState_cases :
    (record.status = newStatus ∧ record.transitionState newStatus reason now =
        ({ record with statusReason := some reason, updatedAt := now },.ok ())) ∨
      (record.status ≠ newStatus ∧ newStatus ∉ record.status.validTransitions ∧
        ∃ fault, record.transitionState newStatus reason now = (record,.error fault)) ∨
      (record.status ≠ newStatus ∧ newStatus ∈ record.status.validTransitions ∧
        record.transitionState newStatus reason now =
          ({ record with status := newStatus, statusReason := some reason, updatedAt := now },.ok ())) := by
  unfold ConnectorInstanceRecord.transitionState
  by_cases same : record.status = newStatus
  · exact .inl ⟨same,if_pos same⟩
  · rw [if_neg same]
    by_cases legal : newStatus ∈ record.status.validTransitions
    · exact .inr (.inr ⟨same,legal,if_neg (fun illegal => illegal legal)⟩)
    · exact .inr (.inl ⟨same,legal,_,if_pos legal⟩)

theorem onConnector_cases (s : ConnectorLifecycleService) (connectorId : UUIDv7)
    (method : ConnectorInstanceRecord → RecordChange Unit) :
    (∃ fault, s.connectors.get? connectorId = none ∧ s.onConnector connectorId method = (s,.error fault)) ∨
      ∃ record, s.connectors.get? connectorId = some record ∧
        s.onConnector connectorId method = (⟨s.connectors.set connectorId (method record).1⟩,(method record).2) := by
  unfold ConnectorLifecycleService.onConnector ConnectorLifecycleService.getConnector
  cases stored : s.connectors.get? connectorId with
  | none => exact .inl ⟨_,rfl,rfl⟩
  | some record => exact .inr ⟨record,rfl,rfl⟩

end transitions
end RevPilot.Connectors
