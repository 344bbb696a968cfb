import RevPilot.Approval.Digest
import RevPilot.Approval.Domain
import RevPilot.Library.Program
import RevPilot.Library.RecordStore

/-! The repository port of approval requests: what an implementation promises,
the awaited calls of the service, and the in-memory adapter. -/
namespace RevPilot.Approval
open Library Shared Program

/-- An implementation of the port whose single calls are atomic. -/
structure ApprovalRepository (S : Type) extends
    RecordStore S TenantId UUIDv7 ApprovalRequestRecord (·.tenantId) (·.approvalId) where
  listPending : S → TenantId → List ApprovalRequestRecord
  listAll : S → TenantId → List ApprovalRequestRecord
  mem_listPending : ∀ s t r, r ∈ listPending s t ↔ get s t r.approvalId = some r ∧ r.status = .pending
  listPending_nodup : ∀ s t, ((listPending s t).map (·.approvalId)).Nodup
  mem_listAll : ∀ s t r, r ∈ listAll s t ↔ get s t r.approvalId = some r

inductive ApprovalCall : Type
  | get (tenantId : TenantId) (approvalId : UUIDv7)
  | save (record : ApprovalRequestRecord)
  | update (record : ApprovalRequestRecord)
  | listPending (tenantId : TenantId)
  | listAll (tenantId : TenantId)

abbrev ApprovalCall.Reply : ApprovalCall → Type
  | .get .. => Option ApprovalRequestRecord
  | .save _ => Unit
  | .update _ => Unit
  | .listPending _ => List ApprovalRequestRecord
  | .listAll _ => List ApprovalRequestRecord

abbrev ApprovalProg (A : Type) := Prog ApprovalCall ApprovalCall.Reply PyError A

namespace ApprovalRepository
variable {S : Type} (repo : ApprovalRepository S)

/-- One atomic call of the port. -/
def serve : (c : ApprovalCall) → S → c.Reply × S
  | .get t a, s => (repo.get s t a,s)
  | .save r, s => ((),repo.save s r)
  | .update r, s => ((),repo.update s r)
  | .listPending t, s => (repo.listPending s t,s)
  | .listAll t, s => (repo.listAll s t,s)

/-- The port as the surroundings of a pool: every call is awaited. -/
def server : Server S Unit ApprovalCall ApprovalCall.Reply := ⟨fun _ => repo.serve,fun _ => true⟩

def statusOf (s : S) (t : TenantId) (a : UUIDv7) : Option ApprovalStatus := (repo.get s t a).map (·.status)

theorem statusOf_ne_none {s : S} {t : TenantId} {a : UUIDv7} :
    repo.statusOf s t a ≠ none ↔ repo.get s t a ≠ none := by
  simp [statusOf]

/-- An update of a stored record changes the status of that record only. -/
theorem statusOf_update {s : S} {record : ApprovalRequestRecord}
    (stored : repo.get s record.tenantId record.approvalId ≠ none) (t : TenantId) (a : UUIDv7) :
    repo.statusOf (repo.update s record) t a =
      if t = record.tenantId ∧ a = record.approvalId then some record.status else repo.statusOf s t a := by
  split
  next own =>
    obtain ⟨rfl,rfl⟩ := own
    simp [statusOf,repo.get_update_self s record stored]
  next other => simp [statusOf,repo.get_update_other s record t a other]

end ApprovalRepository

abbrev ApprovalShelves := Shelves TenantId UUIDv7 ApprovalRequestRecord (·.tenantId) (·.approvalId)

/-- `sorted(records, key=lambda r: r.created_at.isoformat())`. -/
def sortByCreation (records : List ApprovalRequestRecord) : List ApprovalRequestRecord :=
  records.insertionSort (fun a b => a.createdAt ≤ b.createdAt)

def InMemoryApprovalRepository : ApprovalRepository ApprovalShelves where
  toRecordStore := Shelves.store
  listPending s t := sortByCreation ((s.records t).filter (fun r => r.status = .pending))
  listAll s t := sortByCreation (s.records t)
  mem_listPending s t r := by
    simp only [sortByCreation,List.mem_insertionSort,List.mem_filter,Shelves.mem_records,
      decide_eq_true_eq]
    rfl
  listPending_nodup s t := by
    have sorted : ((sortByCreation ((s.records t).filter (fun r => r.status = .pending))).map
        (·.approvalId)).Perm (((s.records t).filter (fun r => r.status = .pending)).map (·.approvalId)) :=
      (List.perm_insertionSort _ _).map _
    rw [sorted.nodup_iff]
    exact List.Nodup.sublist (List.Sublist.map _ List.filter_sublist) (s.records_nodup t)
  mem_listAll s t r := by
    simp only [sortByCreation,List.mem_insertionSort,Shelves.mem_records]
    rfl

end RevPilot.Approval

/-! The approval service as programs over the repository port. The readings of
the clock and the generated identifiers are arguments; everything else follows
the order of the source, the failures of pure steps included. -/
namespace RevPilot.Approval
open Library Shared Program

/-- The parameters of `create_request`. -/
structure CreateRequest where
  tenantId : TenantId
  decisionId : UUIDv7
  actionType : String
  targetCustomerId : String
  targetEntityRefs : List String
  actionPayload : Payload
  estimatedCostUsd : Decimal
  riskTier : RiskTier := .low
  decisionDigest : String := ""
  policyRules : ApprovalDigestHasher.PolicyRules := .text "v1.0"
  ttlHours : Int := 24
  investigationId : Option UUIDv7 := none
  correlationId : Option UUIDv7 := none
  causationId : Option UUIDv7 := none

namespace ApprovalService
variable (sha256 : String → String)

/-- `cost > limit` on decimals, with the signal of an unordered operand. -/
def exceeds (cost limit : Decimal) : Except PyError Bool :=
  match cost.gt limit with
  | some answer => .ok answer
  | none => .error .invalidOperation

def computeRequiredTier (riskTier : RiskTier) (costUsd : Decimal) : Except PyError Nat :=
  if riskTier = .high ∨ riskTier = .critical then .ok 3
  else do
    if ← exceeds costUsd (.ofCents 100000) then return 3
    if riskTier = .medium then return 2
    if ← exceeds costUsd (.ofCents 25000) then return 2
    return 1

def expiryAfter (now : UtcDateTime) (hours : Int) : Except PyError UtcDateTime :=
  match now.plusHours hours with
  | some expiry => .ok expiry
  | none => .error .overflowError

def createRequest (args : CreateRequest) (now : UtcDateTime) (approvalId : UUIDv7) :
    ApprovalProg ApprovalRequestRecord := do
  if Text.strip args.tenantId.value = "" then
    throw (approvalError "ERR_TENANT_MISMATCH" "Tenant ID must not be empty")
  else if Text.strip args.targetCustomerId = "" then
    throw (approvalError "ERR_INVALID_REQUEST" "Target customer ID must not be empty")
  else
    let requiredTier ← Prog.ofExcept (computeRequiredTier args.riskTier args.estimatedCostUsd)
    let payloadDigest ← Prog.ofExcept (ApprovalDigestHasher.computePayloadDigest sha256
      args.actionType args.targetEntityRefs args.actionPayload args.estimatedCostUsd)
    let policyDigest ← Prog.ofExcept (ApprovalDigestHasher.computePolicyDigest sha256 args.policyRules)
    let expiryTime ← Prog.ofExcept (expiryAfter now args.ttlHours)
    -- the field bounds of the record class
    if bounds : args.estimatedCostUsd.nonNegative = true ∧ 1 ≤ requiredTier ∧ requiredTier ≤ 3 then
      let record : ApprovalRequestRecord := {
        approvalId := approvalId, tenantId := args.tenantId, decisionId := args.decisionId
        investigationId := args.investigationId, actionType := args.actionType, actionVersion := "1.0.0"
        targetCustomerId := args.targetCustomerId, targetEntityRefs := args.targetEntityRefs
        actionPayload := args.actionPayload, payloadDigest := payloadDigest, policyDigest := policyDigest
        estimatedCostUsd := args.estimatedCostUsd, reservedBudgetUsd := args.estimatedCostUsd
        riskTier := args.riskTier, requiredApprovalTier := requiredTier, expiryTime := expiryTime
        status := .pending, decisionDigest := args.decisionDigest
        correlationId := args.correlationId.getD approvalId
        causationId := args.causationId.getD args.decisionId, createdAt := now
        costAccepted := bounds.1, budgetAccepted := bounds.1, tierAccepted := bounds.2 }
      Prog.call (ApprovalCall.save record)
      return record
    else throw .validationError

/-- The `record.status` checks of `grant_approval`, first match first. -/
def grantStatusError : ApprovalStatus → Option PyError
  | .pending => none
  | .approved => some (approvalError "ERR_ALREADY_USED"
      "Approval request has already been approved and cannot be reused (replay prevented)")
  | .expired => some (approvalError "ERR_APPROVAL_EXPIRED"
      "Approval request has expired and cannot be approved")
  | .revoked => some (approvalError "ERR_APPROVAL_REVOKED"
      "Approval request was revoked and cannot be approved")
  | .superseded => some (approvalError "ERR_INVALID_APPROVAL_STATE"
      "Approval request was superseded by an amendment and cannot be approved")
  | status => some (approvalError "ERR_INVALID_APPROVAL_STATE"
      s!"Cannot approve request in status {status.text}")

/-- `record.requester_principal_id and approver == record.requester_principal_id`. -/
def isRequester (record : ApprovalRequestRecord) (approverPrincipalId : String) : Bool :=
  match record.requesterPrincipalId with
  | some requester => requester != "" && approverPrincipalId == requester
  | none => false

/-- The arguments of `grant_approval` after the two identifiers. -/
structure Grant where
  approverPrincipalId : String
  approverTier : Int
  expectedDigest : String
  isHuman : Bool := true
  currentTime : Option UtcDateTime := none

/-- What `grant_approval` does with the record it has read. -/
def grantRecord (args : Grant) (now : UtcDateTime) (record : ApprovalRequestRecord) :
    ApprovalProg ApprovalRequestRecord := do
  if args.isHuman = false then
    throw (approvalError "ERR_AGENT_SELF_APPROVAL"
      "AI agents, automated planners, and service accounts are strictly prohibited from approving actions")
  else if isRequester record args.approverPrincipalId then
    throw (approvalError "ERR_SEPARATION_OF_DUTIES_VIOLATION"
      "Separation of Duties violation: requester cannot approve their own action request")
  else
    match grantStatusError record.status with
    | some error => throw error
    | none =>
      if record.expiryTime ≤ now then
        Prog.call (ApprovalCall.update { record with status := .expired })
        throw (approvalError "ERR_APPROVAL_EXPIRED" "Approval request has expired past its 24h TTL")
      else if args.approverTier < record.requiredApprovalTier then
        throw (approvalError "ERR_INSUFFICIENT_APPROVAL_TIER"
          s!"Approver tier {args.approverTier} below required tier {record.requiredApprovalTier}")
      else
        let currentDigest ← Prog.ofExcept (ApprovalDigestHasher.computePayloadDigest sha256
          record.actionType record.targetEntityRefs record.actionPayload record.estimatedCostUsd)
        if currentDigest ≠ args.expectedDigest ∨ currentDigest ≠ record.payloadDigest then
          throw (approvalError "ERR_APPROVAL_DIGEST_MISMATCH"
            "Payload tampering detected: digest does not match the immutable signed approval request"
            [(.str "expected_digest",.str args.expectedDigest),
              (.str "record_digest",.str record.payloadDigest),(.str "current_digest",.str currentDigest)])
        else
          let approved : ApprovalRequestRecord := { record with
            status := .approved
            approverPrincipalId := some args.approverPrincipalId
            approvalTimestamp := some now }
          Prog.call (ApprovalCall.update approved)
          return approved

/-- The read that opens every operation on a stored request. -/
def withRecord {A : Type} (tenantId : TenantId) (approvalId : UUIDv7) (missing : PyError)
    (next : ApprovalRequestRecord → ApprovalProg A) : ApprovalProg A := do
  match ← Prog.call (ApprovalCall.get tenantId approvalId) with
  | none => throw missing
  | some record => next record

def grantApproval (tenantId : TenantId) (approvalId : UUIDv7) (args : Grant) (clock : UtcDateTime) :
    ApprovalProg ApprovalRequestRecord :=
  withRecord tenantId approvalId (approvalError "ERR_TENANT_MISMATCH"
      s!"Approval request {approvalId.value} not found for tenant {tenantId.value}")
    (grantRecord sha256 args (args.currentTime.getD clock))

/-- The error of the other operations when there is no such record. -/
def notFound : PyError := approvalError "ERR_TENANT_MISMATCH" "Approval request not found"

def rejectRecord (approverPrincipalId rejectionReason : String) (record : ApprovalRequestRecord) :
    ApprovalProg ApprovalRequestRecord := do
  if record.status ≠ .pending then
    throw (approvalError "ERR_INVALID_APPROVAL_STATE"
      s!"Cannot reject request in status {record.status.text}")
  else
    let rejected : ApprovalRequestRecord := { record with
      status := .rejected
      approverPrincipalId := some approverPrincipalId
      rejectionReason := some rejectionReason }
    Prog.call (ApprovalCall.update rejected)
    return rejected

def rejectRequest (tenantId : TenantId) (approvalId : UUIDv7) (approverPrincipalId rejectionReason : String) :
    ApprovalProg ApprovalRequestRecord :=
  withRecord tenantId approvalId notFound (rejectRecord approverPrincipalId rejectionReason)

def revokeRecord (revocationReason : String) (record : ApprovalRequestRecord) :
    ApprovalProg ApprovalRequestRecord := do
  if record.status = .executing ∨ record.status = .completed then
    throw (approvalError "ERR_INVALID_APPROVAL_STATE"
      s!"Cannot revoke request already in execution state {record.status.text}")
  else
    let revoked : ApprovalRequestRecord := { record with
      status := .revoked
      revocationReason := some revocationReason }
    Prog.call (ApprovalCall.update revoked)
    return revoked

def revokeApproval (tenantId : TenantId) (approvalId : UUIDv7) (_revokerPrincipalId revocationReason : String) :
    ApprovalProg ApprovalRequestRecord :=
  withRecord tenantId approvalId notFound (revokeRecord revocationReason)

/-- The arguments of `amend_request` after the two identifiers. -/
structure Amend where
  modifierPrincipalId : String
  newPayload : Payload
  newCostUsd : Option Decimal := none
  newTargetEntities : Option (List String) := none

/-- The fresh request that replaces the original one. -/
def successor (tenantId : TenantId) (original : ApprovalRequestRecord) (args : Amend) (now : UtcDateTime)
    (newId : UUIDv7) : Except PyError ApprovalRequestRecord := do
  let cost := args.newCostUsd.getD original.estimatedCostUsd
  let targets := args.newTargetEntities.getD original.targetEntityRefs
  let payloadDigest ← ApprovalDigestHasher.computePayloadDigest sha256 original.actionType targets
    args.newPayload cost
  let requiredTier ← computeRequiredTier original.riskTier cost
  let expiryTime ← expiryAfter now 24
  if bounds : cost.nonNegative = true ∧ 1 ≤ requiredTier ∧ requiredTier ≤ 3 then
    return {
      approvalId := newId, tenantId := tenantId, decisionId := original.decisionId
      investigationId := original.investigationId, actionType := original.actionType
      actionVersion := original.actionVersion, targetCustomerId := original.targetCustomerId
      targetEntityRefs := targets, actionPayload := args.newPayload, payloadDigest := payloadDigest
      policyDigest := original.policyDigest, estimatedCostUsd := cost, reservedBudgetUsd := cost
      riskTier := original.riskTier, requiredApprovalTier := requiredTier, expiryTime := expiryTime
      status := .pending, decisionDigest := original.decisionDigest
      correlationId := original.correlationId, causationId := original.approvalId, createdAt := now
      costAccepted := bounds.1, budgetAccepted := bounds.1, tierAccepted := bounds.2 }
  else throw .validationError

def amendRecord (tenantId : TenantId) (args : Amend) (now : UtcDateTime) (newId : UUIDv7)
    (original : ApprovalRequestRecord) : ApprovalProg (ApprovalRequestRecord × ApprovalRequestRecord) := do
  if original.status = .executing ∨ original.status = .completed ∨ original.status = .superseded then
    throw (approvalError "ERR_INVALID_APPROVAL_STATE"
      s!"Cannot amend request in status {original.status.text}")
  else
    let superseded : ApprovalRequestRecord := { original with
      status := .superseded
      supersededBy := some newId }
    -- the original is superseded before the new request is known to be well formed
    Prog.call (ApprovalCall.update superseded)
    let record ← Prog.ofExcept (successor sha256 tenantId original args now newId)
    Prog.call (ApprovalCall.save record)
    return (superseded,record)

def amendRequest (tenantId : TenantId) (approvalId : UUIDv7) (args : Amend) (now : UtcDateTime)
    (newId : UUIDv7) : ApprovalProg (ApprovalRequestRecord × ApprovalRequestRecord) :=
  withRecord tenantId approvalId notFound (amendRecord sha256 tenantId args now newId)

/-- The loop of `expire_stale_requests` over the listed records. -/
def expireEach (currentTime : UtcDateTime) : List ApprovalRequestRecord → ApprovalProg Nat
  | [] => return 0
  | record :: rest =>
    if record.expiryTime ≤ currentTime then do
      Prog.call (ApprovalCall.update { record with status := .expired })
      return (← expireEach currentTime rest) + 1
    else expireEach currentTime rest

def expireStaleRequests (tenantId : TenantId) (currentTime : UtcDateTime) : ApprovalProg Nat := do
  expireEach currentTime (← Prog.call (ApprovalCall.listPending tenantId))

end ApprovalService
end RevPilot.Approval
