import RevPilot.Api.Authorization
import RevPilot.Approval.Domain
import RevPilot.ToolGateway.Gateway

/-! The dispatch handler of the approvals router. Its calls are the places where it
touches the application state or waits: a read of a cache is immediate, a call of a
repository or of the gateway lets other requests run first. A record from the
pending cache is shared and its status is written there; a record from the
repository is a fresh one, and what the handler writes to it is lost with it. -/
namespace RevPilot.Api
open Library Shared Program Approval ToolGateway RevPilot.Action

/-- `HTTPException`, or an error that the middleware translates. -/
inductive ApiError : Type
  | http (status : Nat) (detail : PyValue)
  | raised (error : PyError)

def conflict (detail : String) : ApiError := .http 409 (.str detail)

def providerFailed (message : String) : ApiError :=
  .http 502 (dictOf [("code",.str "PROVIDER_FAILED"),("message",.str message)])

structure DispatchResponse where
  intentId : String
  approvalId : String
  status : String := "EXECUTING"
  idempotencyKey : String
  ledgerId : String

/-- An entry of `_action_intents_cache`. -/
structure CachedIntent where
  approvalId : String
  response : DispatchResponse

abbrev IdempotencyPair := String × String

/-- The dictionary that `create_intent` of the ledger repository gets. -/
structure IntentData where
  id : String
  approvalId : String
  idempotencyKey : String
  actionType : String
  payloadDigest : String

inductive RouterCall : Type
  | isKillSwitchActive (scope : String) (target : Option String)
  | readIntentCache (pair : IdempotencyPair)
  | readPending (approvalId : String)
  | scanStorage (approvalId : String)
  | getRequest (tenant : TenantContext) (approvalId : String)
  | setPendingStatus (approvalId status : String)
  /-- The gateway's coroutine starts at once; its result is awaited. -/
  | dispatchAction (approvalId : String) (tenant : TenantContext) (request : ActionCapabilityRequest)
  | awaitDispatch
  | createIntent (tenant : TenantContext) (intent : IntentData)
  | writeIntentCache (pair : IdempotencyPair) (entry : CachedIntent)

/-- Of an exception of the gateway only the text is kept. -/
abbrev RouterCall.Reply : RouterCall → Type
  | .isKillSwitchActive .. => Except PyError Bool
  | .readIntentCache _ => Option CachedIntent
  | .readPending _ => Option ApprovalData
  | .scanStorage _ => Option ApprovalData
  | .getRequest .. => Except PyError (Option ApprovalData)
  | .setPendingStatus .. => Unit
  | .dispatchAction .. => Unit
  | .awaitDispatch => Except String (Except DomainError ActionLedgerRecord)
  | .createIntent .. => Except PyError Unit
  | .writeIntentCache .. => Unit

abbrev RouterProg (A : Type) := Prog RouterCall RouterCall.Reply ApiError A

/-- One dispatch that the gateway was asked for, with the approval it is made for. -/
structure DispatchedAction where
  approvalId : String
  tenant : TenantContext
  request : ActionCapabilityRequest

/-- `str(tenant.tenant_id)` and the key, under which the handler caches its response. -/
def DispatchedAction.pair (dispatched : DispatchedAction) : IdempotencyPair :=
  (dispatched.tenant.tenantId.value,dispatched.request.idempotencyKey)

/-- The caches of `app.state`, and what the gateway has been asked for so far. -/
structure RouterWorld where
  intentCache : Dict IdempotencyPair CachedIntent := .empty
  pendingCache : Dict String ApprovalData := .empty
  dispatched : List DispatchedAction := []

/-- What the outside answers while one request has its turn. -/
structure Outside where
  killSwitch : String → Option String → Except PyError Bool
  storage : String → Option ApprovalData
  request : TenantContext → String → Except PyError (Option ApprovalData)
  gateway : Except String (Except DomainError ActionLedgerRecord)
  ledger : Except PyError Unit

/-- `record["status"] = status` on a record of the pending cache. -/
def RouterWorld.setStatus (w : RouterWorld) (approvalId status : String) : RouterWorld :=
  match w.pendingCache.get? approvalId with
  | some record =>
    { w with pendingCache := w.pendingCache.set approvalId { record with status := some status } }
  | none => w

def routerServer : Server RouterWorld Outside RouterCall RouterCall.Reply where
  serve o
    | .isKillSwitchActive scope target, w => (o.killSwitch scope target,w)
    | .readIntentCache pair, w => (w.intentCache.get? pair,w)
    | .readPending approvalId, w => (w.pendingCache.get? approvalId,w)
    | .scanStorage approvalId, w => (o.storage approvalId,w)
    | .getRequest tenant approvalId, w => (o.request tenant approvalId,w)
    | .setPendingStatus approvalId status, w => ((),w.setStatus approvalId status)
    | .dispatchAction approvalId tenant request, w =>
      ((),{ w with dispatched := ⟨approvalId,tenant,request⟩ :: w.dispatched })
    | .awaitDispatch, w => (o.gateway,w)
    | .createIntent _ _, w => (o.ledger,w)
    | .writeIntentCache pair entry, w => ((),{ w with intentCache := w.intentCache.set pair entry })
  suspends
    | .isKillSwitchActive .. => true
    | .getRequest .. => true
    | .awaitDispatch => true
    | .createIntent .. => true
    | _ => false

/-- What a handler finds on `app.state` and in the standard library: the repositories
that are there, the error of a gateway that has to be made and cannot, SHA-256, the
case table, `datetime.fromisoformat` in UTC, and `UUIDv7.from_str` of an identifier or
of its `uuid5`. -/
structure Deployment where
  killswitchRepo : Bool
  approvalStorage : Bool
  approvalGetRequest : Bool
  actionLedgerRepo : Bool
  gatewayError : Option PyError := none
  sha256 : String → String
  casing : Text.Casing
  fromIsoformat : String → Option UtcDateTime
  uuidOf : String → UUIDv7

/-- One request, with the instants and identifiers its handler reads. -/
structure DispatchRequest where
  approvalId : String
  idempotencyKey : String
  tenant : TenantContext
  principal : PrincipalContext
  checkedAt : UtcDateTime
  intentUuid : UUIDv7
  asOfTime : UtcDateTime
  intentId : String

def DispatchRequest.pair (req : DispatchRequest) : IdempotencyPair := (req.tenant.tenantId.value,req.idempotencyKey)

namespace ApprovalsRouter
variable (d : Deployment)

/-- The part of `_get_approval_record` that asks the repository. -/
def requestRecord (approvalId : String) (tenant : TenantContext) : RouterProg (Option (ApprovalData × Bool)) := do
  if d.approvalGetRequest then
    match ← Prog.call (RouterCall.getRequest tenant approvalId) with
    | .ok found => return found.map (fun record => (record,false))
    | .error raised => throw (.raised raised)
  else return none

/-- The part that looks into the repository's own dictionaries first. -/
def storedRecord (approvalId : String) (tenant : TenantContext) : RouterProg (Option (ApprovalData × Bool)) := do
  if d.approvalStorage then
    match ← Prog.call (RouterCall.scanStorage approvalId) with
    | some record => return some (record,false)
    | none => requestRecord d approvalId tenant
  else requestRecord d approvalId tenant

/-- `_get_approval_record`, with a mark whether the record is the cached one. -/
def getApprovalRecord (approvalId : String) (tenant : TenantContext) : RouterProg (Option (ApprovalData × Bool)) := do
  match ← Prog.call (RouterCall.readPending approvalId) with
  | some record => return some (record,true)
  | none => storedRecord d approvalId tenant

/-- `record["status"] = status`. -/
def markStatus (approvalId : String) (cached : Bool) (status : ApprovalState) : RouterProg Unit :=
  if cached then Prog.call (RouterCall.setPendingStatus approvalId status.value) else return ()

def expiryInstant : Option Expiry → Option UtcDateTime
  | some (.text iso) => d.fromIsoformat iso
  | some (.instant time) => some time
  | none => none

def isForeign (record : ApprovalData) (tenant : TenantContext) : Bool :=
  match record.tenantId with
  | some owner => owner != "" && owner != tenant.tenantId.value
  | none => false

def isExpired (record : ApprovalData) (now : UtcDateTime) : Bool :=
  (expiryInstant d record.expiryTime).any (fun expiry => decide (expiry ≤ now))

/-- Check 6, which returns the digest that seals the record. -/
def sealedDigest (record : ApprovalData) : Except ApiError String :=
  let sealed := record.payloadDigest.getD ""
  if sealed = "" ∨ record.tampered ∨ record.digestMismatch then
    .error (conflict "Action dispatch rejected: payload digest mismatch")
  else
    match record.artifact with
    | none => .ok sealed
    | some artifact =>
      match verifyApprovalDigest d.sha256 artifact sealed with
      | .ok true => .ok sealed
      | .ok false => .error (conflict "Action dispatch rejected: payload digest mismatch")
      | .error raised => .error (.raised raised)

def policyMismatch (record : ApprovalData) : Bool :=
  record.policyVersionMismatch ||
    record.policyDigest.any (fun digest => digest != "" && digest != d.sha256 "revpilot_policy_2026_09")

/-- Checks 3 to 7 on the record, of which the fifth writes its status. -/
def verifyRecord (req : DispatchRequest) (record : ApprovalData) (cached : Bool) : RouterProg String := do
  if record.status ≠ some "APPROVED" then throw (conflict "Approval must be in APPROVED state to dispatch")
  else if isForeign record req.tenant then
    let owner := record.tenantId.getD ""
    throw (.raised (authorizationError
      s!"Cross-tenant access forbidden: record tenant '{owner}' does not match context '{req.tenant.tenantId.value}'"
      [(.str "record_tenant",.str owner),(.str "context_tenant",.str req.tenant.tenantId.value)]))
  else if isExpired d record req.checkedAt then
    markStatus req.approvalId cached .expired
    throw (.http 410 (.str "Action dispatch rejected: approval request has expired"))
  else
    let sealed ← Prog.ofExcept (sealedDigest d record)
    if policyMismatch d record then throw (conflict "Action dispatch rejected: policy version mismatch")
    else return sealed

/-- `sealed_digest.ljust(64, "0")[:64]`. -/
def fitDigest (digest : String) : String :=
  String.ofList ((digest.toList ++ List.replicate (64 - digest.toList.length) '0').take 64)

theorem fitDigest_length (digest : String) : (fitDigest digest).length = 64 := by
  simp only [fitDigest,String.length_ofList,List.length_take,List.length_append,List.length_replicate]
  omega

def actionTypeOf (record : ApprovalData) : String := record.actionType.getD "ISSUE_SERVICE_CREDIT_VOUCHER"

/-- The fields that the model of the gateway's request refuses when empty. -/
def Named (req : DispatchRequest) (record : ApprovalData) : Prop := actionTypeOf record ≠ "" ∧ req.idempotencyKey ≠ ""

instance (req : DispatchRequest) (record : ApprovalData) : Decidable (Named req record) :=
  inferInstanceAs (Decidable (_ ∧ _))

def gatewayRequest (req : DispatchRequest) (record : ApprovalData) (sealed : String) (tenantId : TenantId)
    (named : Named req record) : ActionCapabilityRequest where
  intentId := req.intentUuid
  tenantId := tenantId
  approvalId := d.uuidOf req.approvalId
  approvalDigest := fitDigest sealed
  actionType := actionTypeOf record
  idempotencyKey := req.idempotencyKey
  targetEntities := record.targetEntityRefs.getD []
  payload := record.payload.getD .empty
  isDryRun := false
  asOfTime := req.asOfTime
  fieldsAccepted := ⟨fitDigest_length sealed,named⟩

def gatewayTenant (tenant : TenantContext) : Option TenantId :=
  let text := tenant.tenantId.value
  EntityId.make "tnt_" (if Text.startsWith text "tnt_" then text else "tnt_" ++ text)

def capabilityRequest (req : DispatchRequest) (record : ApprovalData) (sealed : String) :
    Except ApiError ActionCapabilityRequest :=
  match gatewayTenant req.tenant with
  | none => .error (.raised .valueError)
  | some tenantId =>
    if named : Named req record then .ok (gatewayRequest d req record sealed tenantId named)
    else .error (.raised .validationError)

/-- The end of the handler: the response is cached and returned. -/
def cacheResponse (req : DispatchRequest) (ledger : ActionLedgerRecord) : RouterProg DispatchResponse := do
  let response : DispatchResponse := {
    intentId := req.intentId, approvalId := req.approvalId, idempotencyKey := req.idempotencyKey
    ledgerId := ledger.ledgerId.value }
  Prog.call (RouterCall.writeIntentCache req.pair ⟨req.approvalId,response⟩)
  return response

/-- The handler after the provider has succeeded. -/
def recordIntent (req : DispatchRequest) (record : ApprovalData) (sealed : String) (ledger : ActionLedgerRecord) :
    RouterProg DispatchResponse := do
  if d.actionLedgerRepo then
    match ← Prog.call (RouterCall.createIntent req.tenant
        ⟨req.intentId,req.approvalId,req.idempotencyKey,actionTypeOf record,sealed⟩) with
    | .error raised => throw (.raised raised)
    | .ok () => cacheResponse req ledger
  else cacheResponse req ledger

/-- A failed dispatch, with the message of its 502. -/
def refuseProvider (req : DispatchRequest) (cached : Bool) (message : String) : RouterProg DispatchResponse := do
  markStatus req.approvalId cached .providerFailed
  throw (providerFailed message)

/-- The handler once the gateway has answered. -/
def concludeDispatch (req : DispatchRequest) (record : ApprovalData) (cached : Bool) (sealed : String) :
    Except String (Except DomainError ActionLedgerRecord) → RouterProg DispatchResponse
  | .error text => refuseProvider req cached s!"Downstream provider execution failed: {text}"
  | .ok (.error failure) => refuseProvider req cached s!"Downstream provider execution failed: {failure.message}"
  | .ok (.ok ledger) =>
    if ledger.executionStatus = .providerError then
      refuseProvider req cached "Downstream provider execution failed"
    else
      match transition .dispatching .succeeded req.principal.principalId.value req.checkedAt with
      | .ok _ => do
        markStatus req.approvalId cached .succeeded
        recordIntent d req record sealed ledger
      | .error _ => recordIntent d req record sealed ledger

/-- The gateway's coroutine is started and awaited. -/
def enterGateway (req : DispatchRequest) (record : ApprovalData) (cached : Bool) (sealed : String)
    (request : ActionCapabilityRequest) : RouterProg DispatchResponse := do
  Prog.call (RouterCall.dispatchAction req.approvalId req.tenant request)
  let answer ← Prog.call RouterCall.awaitDispatch
  concludeDispatch d req record cached sealed answer

/-- The handler once the record is marked DISPATCHING. -/
def dispatchRecord (req : DispatchRequest) (record : ApprovalData) (cached : Bool) (sealed : String) :
    RouterProg DispatchResponse :=
  match d.gatewayError with
  | some raised => throw (.raised raised)
  | none =>
    match capabilityRequest d req record sealed with
    | .error refused => throw refused
    | .ok request => enterGateway d req record cached sealed request

/-- The handler after the idempotency check has found nothing. -/
def dispatchFresh (req : DispatchRequest) : RouterProg DispatchResponse := do
  match ← getApprovalRecord d req.approvalId req.tenant with
  | none => throw (.raised (notFoundError s!"Approval request '{req.approvalId}' not found"
      [(.str "approval_id",.str req.approvalId)]))
  | some (record,cached) =>
    let sealed ← verifyRecord d req record cached
    match transition .approved .dispatching req.principal.principalId.value req.checkedAt with
    | .error text => throw (conflict s!"Invalid state transition: {text}")
    | .ok _ =>
      markStatus req.approvalId cached .dispatching
      dispatchRecord d req record cached sealed

def killSwitchEngaged (tenant : TenantContext) : RouterProg Bool := do
  if d.killswitchRepo then
    match ← Prog.call (RouterCall.isKillSwitchActive "GLOBAL" none) with
    | .error raised => throw (.raised raised)
    | .ok true => return true
    | .ok false =>
      match ← Prog.call (RouterCall.isKillSwitchActive "TENANT" (some tenant.tenantId.value)) with
      | .error raised => throw (.raised raised)
      | .ok engaged => return engaged
  else return false

def dispatchAction (req : DispatchRequest) : RouterProg DispatchResponse := do
  match requireRoles d.casing ["OPERATOR","SYSTEM_ADMIN"] req.principal with
  | .error refused => throw (.raised refused)
  | .ok _ =>
    let engaged ← killSwitchEngaged d req.tenant
    if engaged then
      throw (.http 503 (.str "Action dispatch blocked: Emergency kill switch is actively engaged."))
    else
      match ← Prog.call (RouterCall.readIntentCache req.pair) with
      | some entry =>
        if entry.approvalId ≠ req.approvalId then throw (conflict "Action intent idempotency conflict")
        else return entry.response
      | none => dispatchFresh d req

end ApprovalsRouter
end RevPilot.Api
