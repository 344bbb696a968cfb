import RevPilot.Shared.Errors
import RevPilot.Shared.Context
import RevPilot.Shared.Temporal

/-! Action intents and the journal of their dispatch attempts. -/
namespace RevPilot.Action
open Shared

inductive ActionClassification : Type
  | reversible | compensatable | partiallyCompensatable | irreversible | manualReconciliation
  deriving DecidableEq

inductive ActionIntentStatus : Type
  | initialized | dispatched | completed | failed | reconciling
  deriving DecidableEq

inductive ActionLedgerStatus : Type
  | started | success | providerError | timeoutUnknown | reconciled | compensated
  deriving DecidableEq

structure ActionIntentRecord where
  intentId : UUIDv7
  tenantId : TenantId
  approvalId : UUIDv7
  idempotencyKey : String
  actionType : String
  classification : ActionClassification
  targetSetCount : Nat
  payloadDigest : String
  isDryRun : Bool := false
  status : ActionIntentStatus := .initialized
  createdAt : UtcDateTime
  keyAccepted : idempotencyKey ≠ ""

structure ActionLedgerRecord where
  ledgerId : UUIDv7
  tenantId : TenantId
  intentId : UUIDv7
  attemptNumber : Nat
  idempotencyKey : String
  providerName : String
  requestDigest : String
  responseDigest : Option String := none
  httpStatusCode : Option Int := none
  providerTxId : Option String := none
  executionStatus : ActionLedgerStatus := .started
  errorCode : Option String := none
  startedAt : UtcDateTime
  completedAt : Option UtcDateTime := none
  numberAccepted : 1 ≤ attemptNumber

theorem first_attempt : 1 ≤ 1 := Nat.le_refl 1

theorem idem_filled : "idem-1" ≠ "" := by decide

/-- `ActionError(code=…, message=…)`, never retryable. -/
def actionError (code message : String) : PyError := .domain { code := code, message := message }

end RevPilot.Action
