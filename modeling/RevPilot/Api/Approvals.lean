import RevPilot.Api.Dispatch
import RevPilot.Api.GrantAuthority
import RevPilot.Library.Protocol

/-! The handlers of the approvals router: create, list, approve, reject and dispatch. The
pending cache is shared by all tenants; the rows of the repository are kept by tenant and
identifier, and a statement that fails leaves them as they are. -/
namespace RevPilot.Api
open Library Shared Program Approval ApprovalsRouter

inductive ApprovalsCall : Type
  | router (call : RouterCall)
  /-- The cache is made if it is not there; the reply says whether it was made. -/
  | openCache
  | insertPending (approvalId : String) (record : ApprovalData)
  | readCache
  | signPending (approvalId approver signedAt : String)
  | rejectPending (approvalId : String)
  | createRequest (tenant : TenantContext) (approvalId : String) (record : ApprovalData)
  | listPending (tenant : TenantContext) (now : UtcDateTime)
  | recordApproval (tenant : TenantContext) (approvalId approver : String) (now : UtcDateTime)
  | recordRejection (tenant : TenantContext) (approvalId approver reason : String) (now : UtcDateTime)

/-- What the repository returns of an updated row. -/
structure RowReply where
  id : String
  status : String
  updatedAt : UtcDateTime

abbrev ApprovalsCall.Reply : ApprovalsCall → Type
  | .router call => call.Reply
  | .openCache => Bool
  | .insertPending .. => Unit
  | .readCache => List ApprovalData
  | .signPending .. => Unit
  | .rejectPending _ => Unit
  | .createRequest .. => Except PyError Unit
  | .listPending .. => Except PyError (List ApprovalData)
  | .recordApproval .. => Except PyError RowReply
  | .recordRejection .. => Except PyError RowReply

abbrev ApprovalsProg (A : Type) := Prog ApprovalsCall ApprovalsCall.Reply ApiError A

abbrev RowKey := String × String

structure ApprovalsWorld where
  router : RouterWorld := {}
  cacheMade : Bool := false
  rows : Dict RowKey ApprovalData := .empty

/-- What the outside answers: the gateway and the rest, and the error of a database that fails. -/
structure ApprovalsOutside where
  router : Outside
  database : Option PyError := none

def rowKey (tenant : TenantContext) (approvalId : String) : RowKey := (tenant.tenantId.value,approvalId)

/-- The columns of `INSERT INTO revpilot.approval_requests`. -/
def columns (record : ApprovalData) : ApprovalData :=
  { tenantId := record.tenantId, actionType := record.actionType, targetEntityRefs := record.targetEntityRefs
    payloadDigest := record.payloadDigest, policyDigest := record.policyDigest
    estimatedCostUsd := record.estimatedCostUsd, requiredApprovalTier := record.requiredApprovalTier
    status := record.status, expiryTime := record.expiryTime }

def isPending (row : ApprovalData) : Bool := row.status == some "PENDING"

/-- `expiry_time > now`, where every row has an instant. -/
def runsOn (row : ApprovalData) (now : UtcDateTime) : Bool :=
  match row.expiryTime with
  | some (.instant expiry) => decide (now < expiry)
  | _ => false

/-- The handler's `UPDATE ... RETURNING`; no row is a `NotFoundError`. -/
def updateRow (w : ApprovalsWorld) (key : RowKey) (matching : ApprovalData → Bool) (change : ApprovalData → ApprovalData)
    (status message : String) (now : UtcDateTime) : Except PyError RowReply × ApprovalsWorld :=
  match w.rows.get? key with
  | none => (.error (notFoundError message),w)
  | some row =>
    if matching row then (.ok ⟨key.2,status,now⟩,{ w with rows := w.rows.set key (change row) })
    else (.error (notFoundError message),w)

/-- `record["status"] = "APPROVED"` and the signature, on a record of the pending cache. -/
def RouterWorld.sign (w : RouterWorld) (approvalId approver signedAt : String) : RouterWorld :=
  match w.pendingCache.get? approvalId with
  | some record =>
    { w with
      pendingCache := w.pendingCache.set approvalId
        { record with status := some "APPROVED", approverPrincipalId := some approver, signedAt := some signedAt } }
  | none => w

/-- A statement of the repository, unless the database fails. -/
def unlessDown {A : Type} (o : ApprovalsOutside) (w : ApprovalsWorld) (statement : Except PyError A × ApprovalsWorld) :
    Except PyError A × ApprovalsWorld :=
  match o.database with
  | some failure => (.error failure,w)
  | none => statement

def approvalsServer : Server ApprovalsWorld ApprovalsOutside ApprovalsCall ApprovalsCall.Reply where
  serve o
    | .router (.getRequest tenant approvalId), w => unlessDown o w (.ok (w.rows.get? (rowKey tenant approvalId)),w)
    | .router call, w =>
      let served := routerServer.serve o.router call w.router
      (served.1,{ w with router := served.2 })
    | .openCache, w => (!w.cacheMade,{ w with cacheMade := true })
    | .insertPending approvalId record, w =>
      ((),{ w with router := { w.router with pendingCache := w.router.pendingCache.set approvalId record } })
    | .readCache, w => (w.router.pendingCache.values,w)
    | .signPending approvalId approver signedAt, w => ((),{ w with router := w.router.sign approvalId approver signedAt })
    | .rejectPending approvalId, w => ((),{ w with router := w.router.setStatus approvalId "REJECTED" })
    | .createRequest tenant approvalId record, w =>
      unlessDown o w <|
        match w.rows.get? (rowKey tenant approvalId) with
        | some _ => (.error (.runtime "duplicate key value violates unique constraint"),w)
        | none => (.ok (),{ w with rows := w.rows.set (rowKey tenant approvalId) (columns record) })
    | .listPending tenant now, w =>
      let own := w.rows.entries.filter (fun row => row.1.1 == tenant.tenantId.value && isPending row.2 && runsOn row.2 now)
      unlessDown o w (.ok (own.map (·.2)),w)
    | .recordApproval tenant approvalId approver now, w =>
      unlessDown o w (updateRow w (rowKey tenant approvalId) (fun row => isPending row && runsOn row now)
        (fun row => { row with status := some "APPROVED", approverPrincipalId := some approver }) "APPROVED"
        ("Pending approval '" ++ approvalId ++ "' not found, expired, or already resolved.") now)
    | .recordRejection tenant approvalId approver _ now, w =>
      unlessDown o w (updateRow w (rowKey tenant approvalId) isPending
        (fun row => { row with status := some "REJECTED", approverPrincipalId := some approver }) "REJECTED"
        ("Pending approval '" ++ approvalId ++ "' not found or already resolved.") now)
  suspends
    | .router call => routerServer.suspends call
    | .createRequest .. => true
    | .listPending .. => true
    | .recordApproval .. => true
    | .recordRejection .. => true
    | _ => false

/-- `approval_repo` is there, with or without the methods that the lookup asks for. -/
structure ApprovalsDeployment extends Deployment where
  approvalRepo : Bool

/-- One create request, with its identifier, its clock readings and the text of its expiry. -/
structure CreateRequest where
  tenant : TenantContext
  principal : PrincipalContext
  actionType : String
  targetEntities : List String
  payload : Payload := .empty
  estimatedCostUsd : PyFloat := zeroFloat
  requiredApprovalTier : String := "TIER_1"
  approvalId : String
  expiry : UtcDateTime
  expiresAt : String

structure ListRequest where
  tenant : TenantContext
  seedId : String
  now : UtcDateTime
  seedExpiry : UtcDateTime

/-- One approve or reject request, with its clock readings. -/
structure DecisionRequest where
  approvalId : String
  expectedPayloadDigest : Option String := none
  reason : Option String := none
  tenant : TenantContext
  principal : PrincipalContext
  checkedAt : UtcDateTime
  signedAt : String
  recordedAt : UtcDateTime

inductive ApprovalsAnswer : Type
  | created (approvalId status requiredApprovalTier payloadDigest expiresAt : String)
  | listed (items : List ApprovalData)
  | recorded (row : RowReply)
  | approved (approvalId approver signedAt : String)
  | rejected (approvalId reason : String)
  | dispatched (response : DispatchResponse)

namespace ApprovalsRouter
variable (d : ApprovalsDeployment)

def policyVersion : String := "revpilot_policy_2026_09"

/-- The dispatch handler's calls among those of the whole router. -/
def asApprovals {A : Type} (prog : RouterProg A) : ApprovalsProg A := prog.embed .router (fun _ reply => reply)

def createArtifact (req : CreateRequest) : ApprovalArtifact :=
  { tenantId := req.tenant.tenantId.value, actionType := req.actionType, targetEntities := req.targetEntities
    payload := req.payload, policyVersion := policyVersion
    requiredTier := d.casing.upper req.requiredApprovalTier, expiresAt := req.expiresAt
    createdBy := req.principal.principalId.value }

def createdRecord (req : CreateRequest) (payloadDigest : String) : ApprovalData :=
  { tenantId := some req.tenant.tenantId.value, actionType := some req.actionType
    targetEntityRefs := some req.targetEntities, payload := some req.payload, payloadDigest := some payloadDigest
    policyDigest := some (d.sha256 policyVersion), estimatedCostUsd := some req.estimatedCostUsd
    requiredApprovalTier := some (d.casing.upper req.requiredApprovalTier), status := some "PENDING"
    expiryTime := some (.instant req.expiry), requesterPrincipalId := some req.principal.principalId.value
    artifact := some (createArtifact d req) }

def createApprovalRequest (req : CreateRequest) : ApprovalsProg ApprovalsAnswer :=
  match computeApprovalDigest d.sha256 (createArtifact d req) with
  | .error raised => throw (.raised raised)
  | .ok digest => do
    let _ ← Prog.call ApprovalsCall.openCache
    Prog.call (ApprovalsCall.insertPending req.approvalId (createdRecord d req digest))
    let answer := ApprovalsAnswer.created req.approvalId "PENDING" (d.casing.upper req.requiredApprovalTier) digest
      req.expiresAt
    if d.approvalRepo then
      match ← Prog.call (ApprovalsCall.createRequest req.tenant req.approvalId (createdRecord d req digest)) with
      | .error raised => throw (.raised raised)
      | .ok () => return answer
    else return answer

def seedRecord (req : ListRequest) : ApprovalData :=
  { tenantId := some "tnt_dev_001", actionType := some "ISSUE_SERVICE_CREDIT_VOUCHER"
    targetEntityRefs := some ["cust_enterprise_alpha","sub_arr_450k"], costUsd := some ⟨.finite 200,"200.0"⟩
    estimatedCostUsd := some ⟨.finite 200,"200.0"⟩, requiredApprovalTier := some "TIER_1", status := some "PENDING"
    payloadDigest := some "dummy_digest", policyDigest := some (d.sha256 policyVersion)
    expiryTime := some (.instant req.seedExpiry), requesterPrincipalId := some "usr_analyst_other" }

def listOwn (tenant : TenantContext) : ApprovalsProg ApprovalsAnswer := do
  let records : List ApprovalData ← Prog.call ApprovalsCall.readCache
  return .listed (records.filter (fun record => record.tenantId == some tenant.tenantId.value && isPending record))

def listPendingApprovals (req : ListRequest) : ApprovalsProg ApprovalsAnswer := do
  if d.approvalRepo then
    match ← Prog.call (ApprovalsCall.listPending req.tenant req.now) with
    | .error raised => throw (.raised raised)
    | .ok items => return .listed items
  else
    let made ← Prog.call ApprovalsCall.openCache
    if made ∧ req.tenant.tenantId.value = "tnt_dev_001" then
      Prog.call (ApprovalsCall.insertPending req.seedId (seedRecord d req))
      listOwn req.tenant
    else listOwn req.tenant

/-- Check 5, separation of duties. -/
def checkRequester (req : DecisionRequest) (record : ApprovalData) : Except PyError Unit :=
  let approver := req.principal.principalId.value
  if record.requesterPrincipalId.any (fun requester => requester != "" && requester == approver) then
    .error (authorizationError
      s!"Separation of Duties violation: requester '{approver}' cannot approve own action request."
      [(.str "approval_id",.str req.approvalId),(.str "requester_id",.str approver)])
  else .ok ()

/-- Check 7; a record without a digest is a `TypeError` of `compare_digest`. -/
def checkExpectedDigest (req : DecisionRequest) (record : ApprovalData) : Except ApiError Unit :=
  match req.expectedPayloadDigest with
  | none => .ok ()
  | some expected =>
    match record.payloadDigest with
    | none => .error (.raised .typeError)
    | some digest =>
      match compareDigest digest expected with
      | .ok true => .ok ()
      | .ok false => .error (conflict "Payload digest mismatch")
      | .error raised => .error (.raised raised)

/-- Checks 5 to 7 and the transition, none of which writes. -/
def checkGrant (req : DecisionRequest) (record : ApprovalData) : Except ApiError Unit := do
  (checkRequester req record).mapError .raised
  (tierAndSpendChecks d.casing req.principal record).mapError .raised
  checkExpectedDigest req record
  match transition .pending .approved req.principal.principalId.value req.checkedAt req.reason with
  | .ok _ => return ()
  | .error text => .error (conflict s!"Invalid state transition: {text}")

/-- The status is set on a record that other handlers see if it is the cached one. -/
def expirePending (approvalId : String) (cached : Bool) : ApprovalsProg Unit :=
  if cached then Prog.call (ApprovalsCall.router (.setPendingStatus approvalId "EXPIRED")) else return ()

def signRecord (req : DecisionRequest) (cached : Bool) : ApprovalsProg Unit :=
  if cached then
    Prog.call (ApprovalsCall.signPending req.approvalId req.principal.principalId.value req.signedAt)
  else return ()

/-- The end of the grant handler: the repository records what the cache already shows. -/
def recordGrant (req : DecisionRequest) : ApprovalsProg ApprovalsAnswer := do
  if d.approvalRepo then
    match ← Prog.call (ApprovalsCall.recordApproval req.tenant req.approvalId req.principal.principalId.value
        req.recordedAt) with
    | .error raised => throw (.raised raised)
    | .ok row => return .recorded row
  else return .approved req.approvalId req.principal.principalId.value req.signedAt

def foreignError (record : ApprovalData) (tenant : TenantContext) : ApiError :=
  let owner := record.tenantId.getD ""
  .raised (authorizationError
    s!"Cross-tenant access forbidden: record tenant '{owner}' does not match context '{tenant.tenantId.value}'"
    [(.str "record_tenant",.str owner),(.str "context_tenant",.str tenant.tenantId.value)])

def expiredError : ApiError := .http 410 (.str "Approval request has expired")

/-- Checks 2 to 7 and the signature. -/
def grantRecord (req : DecisionRequest) (record : ApprovalData) (cached : Bool) : ApprovalsProg ApprovalsAnswer := do
  if isForeign record req.tenant then throw (foreignError record req.tenant)
  else if record.status.getD "PENDING" ≠ "PENDING" then throw (conflict "Approval request is not in PENDING status")
  else if isExpired d.toDeployment record req.checkedAt then
    expirePending req.approvalId cached
    throw expiredError
  else
    let _ ← Prog.ofExcept (checkGrant d req record)
    signRecord req cached
    recordGrant d req

def approvalNotFound (approvalId : String) : ApiError :=
  .raised (notFoundError s!"Approval request '{approvalId}' not found" [(.str "approval_id",.str approvalId)])

def grantApproval (req : DecisionRequest) : ApprovalsProg ApprovalsAnswer :=
  match requireHumanApprovalAuthority d.casing "TIER_1" req.principal with
  | .error refused => throw (.raised refused)
  | .ok _ => do
    match ← asApprovals (getApprovalRecord d.toDeployment req.approvalId req.tenant) with
    | none => throw (approvalNotFound req.approvalId)
    | some (record,cached) => grantRecord d req record cached

/-- `ApprovalState(text)`, or PENDING. -/
def stateOf (text : String) : ApprovalState :=
  ([.approved,.rejected,.dispatching,.succeeded,.providerFailed,.expired,.cancelled].find?
    (fun state : ApprovalState => state.value == text)).getD .pending

/-- The end of the reject handler. -/
def recordReject (req : DecisionRequest) (reason : String) : ApprovalsProg ApprovalsAnswer := do
  if d.approvalRepo then
    match ← Prog.call (ApprovalsCall.recordRejection req.tenant req.approvalId req.principal.principalId.value reason
        req.recordedAt) with
    | .error raised => throw (.raised raised)
    | .ok row => return .recorded row
  else return .rejected req.approvalId reason

def rejectReason (req : DecisionRequest) : String :=
  match req.reason with
  | none => "Rejected by operator"
  | some reason => if reason = "" then "Rejected by operator" else reason

/-- The transition that a reject request asks for on what it finds in the cache. -/
def rejectTransition (req : DecisionRequest) (found : Option ApprovalData) : Except String TransitionEvent :=
  transition (stateOf ((found.bind (·.status)).getD "PENDING")) .rejected req.principal.principalId.value req.checkedAt
    (some (rejectReason req))

/-- Rejection asks nobody for the record's tenant. -/
def rejectApproval (req : DecisionRequest) : ApprovalsProg ApprovalsAnswer :=
  match requireHumanApprovalAuthority d.casing "TIER_1" req.principal with
  | .error refused => throw (.raised refused)
  | .ok _ => do
    let found : Option ApprovalData ← Prog.call (ApprovalsCall.router (.readPending req.approvalId))
    match rejectTransition req found with
    | .error text => throw (conflict s!"Invalid state transition: {text}")
    | .ok _ =>
      if found.isSome then
        Prog.call (ApprovalsCall.rejectPending req.approvalId)
        recordReject d req (rejectReason req)
      else recordReject d req (rejectReason req)

end ApprovalsRouter

inductive ApprovalsRequest : Type
  | create (req : CreateRequest)
  | list (req : ListRequest)
  | approve (req : DecisionRequest)
  | reject (req : DecisionRequest)
  | dispatch (req : DispatchRequest)

def ApprovalsRequest.tenant : ApprovalsRequest → TenantContext
  | .create req => req.tenant
  | .list req => req.tenant
  | .approve req => req.tenant
  | .reject req => req.tenant
  | .dispatch req => req.tenant

/-- The handler of a request. -/
def handler (d : ApprovalsDeployment) : ApprovalsRequest → ApprovalsProg ApprovalsAnswer
  | .create req => createApprovalRequest d req
  | .list req => listPendingApprovals d req
  | .approve req => grantApproval d req
  | .reject req => rejectApproval d req
  | .dispatch req => asApprovals (dispatchAction d.toDeployment req) >>= fun response => .ret (.dispatched response)

end RevPilot.Api
