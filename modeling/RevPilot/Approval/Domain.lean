import RevPilot.Library.Dict
import RevPilot.Library.Decimal
import RevPilot.Shared.Errors
import RevPilot.Shared.Identifiers
import RevPilot.Shared.Temporal

/-! Governed approval records and their lifecycle states. The bounds that the
record class declares on its fields are fields of the structure. -/
namespace RevPilot.Approval
open Library Shared

inductive ApprovalStatus : Type
  | draft | pending | approved | rejected | amended | expired | revoked | superseded
  | executing | completed | unknown | reconciliationRequired
  deriving DecidableEq

/-- `f"{status}"` of a `str` enumeration member. -/
def ApprovalStatus.text : ApprovalStatus → String
  | .draft => "ApprovalStatus.DRAFT"
  | .pending => "ApprovalStatus.PENDING"
  | .approved => "ApprovalStatus.APPROVED"
  | .rejected => "ApprovalStatus.REJECTED"
  | .amended => "ApprovalStatus.AMENDED"
  | .expired => "ApprovalStatus.EXPIRED"
  | .revoked => "ApprovalStatus.REVOKED"
  | .superseded => "ApprovalStatus.SUPERSEDED"
  | .executing => "ApprovalStatus.EXECUTING"
  | .completed => "ApprovalStatus.COMPLETED"
  | .unknown => "ApprovalStatus.UNKNOWN"
  | .reconciliationRequired => "ApprovalStatus.RECONCILIATION_REQUIRED"

/-- The statuses that end a request's life. -/
def ApprovalStatus.terminal : ApprovalStatus → Bool
  | .rejected | .revoked | .expired | .superseded | .completed => true
  | _ => false

inductive RiskTier : Type
  | low | medium | high | critical
  deriving DecidableEq

abbrev Payload := Dict String PyValue

def Payload.value (payload : Payload) : PyValue :=
  .dict (payload.entries.map (fun e => (.str e.1,e.2)))

structure ApprovalRequestRecord where
  approvalId : UUIDv7
  tenantId : TenantId
  decisionId : UUIDv7
  investigationId : Option UUIDv7 := none
  actionType : String
  actionVersion : String := "1.0.0"
  targetCustomerId : String
  targetEntityRefs : List String
  actionPayload : Payload
  payloadDigest : String
  policyDigest : String
  estimatedCostUsd : Decimal
  reservedBudgetUsd : Decimal
  riskTier : RiskTier
  requiredApprovalTier : Nat
  requesterPrincipalId : Option String := none
  approverPrincipalId : Option String := none
  approvalTimestamp : Option UtcDateTime := none
  rejectionReason : Option String := none
  revocationReason : Option String := none
  expiryTime : UtcDateTime
  status : ApprovalStatus := .pending
  decisionDigest : String
  correlationId : UUIDv7
  causationId : UUIDv7
  createdAt : UtcDateTime
  supersededBy : Option UUIDv7 := none
  costAccepted : estimatedCostUsd.nonNegative = true
  budgetAccepted : reservedBudgetUsd.nonNegative = true
  tierAccepted : 1 ≤ requiredApprovalTier ∧ requiredApprovalTier ≤ 3

/-- `ApprovalError(code=…, message=…, details=…)`, never retryable. -/
def approvalError (code message : String) (details : List (PyKey × PyValue) := []) : PyError :=
  .domain { code := code, message := message, details := details }

end RevPilot.Approval

/-! The state machine of an approval, as the API uses it. -/
namespace RevPilot.Approval
open Shared

inductive ApprovalState : Type
  | pending | approved | rejected | dispatching | succeeded | providerFailed | expired | cancelled
  deriving DecidableEq

namespace ApprovalState

def value : ApprovalState → String
  | .pending => "PENDING"
  | .approved => "APPROVED"
  | .rejected => "REJECTED"
  | .dispatching => "DISPATCHING"
  | .succeeded => "SUCCEEDED"
  | .providerFailed => "PROVIDER_FAILED"
  | .expired => "EXPIRED"
  | .cancelled => "CANCELLED"

def validTransitions : ApprovalState → List ApprovalState
  | .pending => [.approved,.rejected,.expired,.cancelled]
  | .approved => [.dispatching,.expired,.cancelled]
  | .dispatching => [.succeeded,.providerFailed]
  | _ => []

end ApprovalState

structure TransitionEvent where
  fromState : ApprovalState
  toState : ApprovalState
  actor : String
  reason : Option String
  timestamp : UtcDateTime

def transition (currentState newState : ApprovalState) (actor : String) (timestamp : UtcDateTime)
    (reason : Option String := none) : Except String TransitionEvent :=
  if newState ∈ currentState.validTransitions then .ok ⟨currentState,newState,actor,reason,timestamp⟩
  else .error s!"Invalid transition from {currentState.value} to {newState.value}"

end RevPilot.Approval
