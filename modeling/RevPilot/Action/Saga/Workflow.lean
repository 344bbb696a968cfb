import RevPilot.Action.Saga.Reconciliation

/-! The saga workflow: forward steps in order, compensation of the completed ones
in reverse, and the inquiry when a step times out. -/
namespace RevPilot.Action
open Library Shared Program

structure SagaStep where
  name : String
  compensationAction : String
  payload : Approval.Payload := .empty
  isIrreversible : Bool := false

/-- `payload.get(key, False)` as a condition. -/
def flagged (payload : Approval.Payload) (key : String) : Bool := (payload.get? key).any PyValue.truthy

/-- An entry of `completed_steps`, with or without its compensating action. -/
structure CompletedStep where
  name : String
  payload : Approval.Payload
  compensationAction : Option String := none

def irreversibleActionError (details : List (PyKey × PyValue)) : PyError :=
  .domain { code := "ERR_IRREVERSIBLE_ACTION"
            message := "Action classified as IRREVERSIBLE cannot execute automated compensation; manual intervention required"
            details := details }

/-- `except IrreversibleActionError`. -/
def isIrreversibleActionError (error : PyError) : Bool := error.code? == some "ERR_IRREVERSIBLE_ACTION"

def ActionClassification.value : ActionClassification → String
  | .reversible => "REVERSIBLE"
  | .compensatable => "COMPENSATABLE"
  | .partiallyCompensatable => "PARTIALLY_COMPENSATABLE"
  | .irreversible => "IRREVERSIBLE"
  | .manualReconciliation => "MANUAL_RECONCILIATION"

namespace SafeActionSagaWorkflow

def systemTenant : TenantId := ⟨"tnt_system",Eq.refl true⟩

/-- What the activity is asked for one entry. -/
def compensationRequest (tenantId : TenantId) (intentId : UUIDv7) (entry : CompletedStep) : CompensationRequest where
  stepName := entry.name
  compensationAction := entry.compensationAction.getD s!"compensate_{entry.name}"
  tenantId := tenantId.value
  intentId := intentId.value
  simulateFailure := flagged entry.payload "simulate_compensation_failure"

/-- The loop of `compensate_steps` over the entries, last one first. -/
def compensateEach (tenantId : TenantId) (intentId : UUIDv7) :
    List CompletedStep → SagaProg (List CompensationRecord)
  | [] => return []
  | entry :: rest => do
    let record ← Prog.ofExcept (← Prog.call (SagaCall.compensate (compensationRequest tenantId intentId entry)))
    Prog.call (SagaCall.appendHistory record)
    -- a failed compensation halts the loop
    if record.status = .failedManualRequired then return [record]
    else return record :: (← compensateEach tenantId intentId rest)

def compensateSteps (completedSteps : List CompletedStep) (tenantId : Option TenantId) (intentId : Option UUIDv7)
    (classification : ActionClassification) (readings : SagaReadings) : SagaProg (List CompensationRecord) := do
  let tId := tenantId.getD systemTenant
  let iId := intentId.getD readings.fallbackIntentId
  if classification = .irreversible then
    let record : CompensationRecord := {
      recordId := readings.recordId, tenantId := tId, intentId := iId, stepName := "IRREVERSIBLE_BARRIER"
      compensationAction := "FLAG_OPERATOR_MANUAL_TICKET", status := .failedManualRequired
      compensatedAt := readings.recordedAt }
    Prog.call (SagaCall.appendHistory record)
    Prog.call (SagaCall.appendRegistry record)
    throw (irreversibleActionError [(.str "tenant_id",.str tId.value),(.str "intent_id",.str iId.value),
      (.str "classification",.str classification.value)])
  else compensateEach tId iId completedSteps.reverse

/-- `query_fn or (lambda p, k: CONFIRMED)`. -/
def queryFunction (custom : Bool) (provider key : String) : SagaProg (Except String ProviderInquiryResult) :=
  if custom then Prog.call (SagaCall.inquire provider key) else return .ok { status := .confirmed }

/-- The ledger record of a saga's single attempt, before its outcome is known. -/
def sagaLedger (intent : ActionIntentRecord) (ledgerId : UUIDv7) (providerName : String) (startedAt : UtcDateTime) :
    ActionLedgerRecord where
  ledgerId := ledgerId
  tenantId := intent.tenantId
  intentId := intent.intentId
  attemptNumber := 1
  idempotencyKey := intent.idempotencyKey
  providerName := providerName
  requestDigest := intent.payloadDigest
  startedAt := startedAt
  numberAccepted := first_attempt

def reconcileUnknown (intent : ActionIntentRecord) (custom : Bool) (readings : SagaReadings) :
    SagaProg ActionLedgerRecord :=
  let initial := { sagaLedger intent readings.ledgerId "mock_logistics_v1" readings.reconcileStartedAt with
    executionStatus := .timeoutUnknown, errorCode := some "TIMEOUT_UNKNOWN" }
  ReconciliationManager.reconcileUnknown intent initial (queryFunction custom) readings

def failedLedger (intent : ActionIntentRecord) (readings : SagaReadings) (status : ActionLedgerStatus)
    (error : String) : ActionLedgerRecord :=
  { sagaLedger intent readings.ledgerId "mock_provider" readings.startedAt with
    executionStatus := status, errorCode := some error, completedAt := some readings.completedAt }

/-- The branch of a forward step that fails. -/
def rollBack (intent : ActionIntentRecord) (readings : SagaReadings) (completed : List CompletedStep) :
    SagaProg ActionLedgerRecord :=
  Prog.handle (do
    let _ ← compensateSteps completed (some intent.tenantId) (some intent.intentId) intent.classification readings
    return failedLedger intent readings .compensated "ERR_STEP_FAILED_COMPENSATED")
    (fun error =>
      if isIrreversibleActionError error then
        return failedLedger intent readings .providerError "ERR_IRREVERSIBLE_MANUAL_REQUIRED"
      else throw error)

/-- The forward loop, with the steps completed so far. -/
def forwardLoop (intent : ActionIntentRecord) (custom : Bool) (readings : SagaReadings) :
    List CompletedStep → List SagaStep → SagaProg ActionLedgerRecord
  | _, [] => return { sagaLedger intent readings.ledgerId "mock_provider" readings.startedAt with
      httpStatusCode := some 200
      providerTxId := some s!"saga_{intent.idempotencyKey}"
      executionStatus := .success
      completedAt := some readings.completedAt }
  | completed, step :: rest =>
    if flagged step.payload "simulate_timeout" then reconcileUnknown intent custom readings
    else if flagged step.payload "simulate_failure" then rollBack intent readings completed
    else do
      Prog.call (SagaCall.appendCompleted (step.name,step.payload))
      forwardLoop intent custom readings
        (completed ++ [⟨step.name,step.payload,some step.compensationAction⟩]) rest

def executeActionSaga (intent : ActionIntentRecord) (steps : Option (List SagaStep)) (custom : Bool)
    (readings : SagaReadings) : SagaProg ActionLedgerRecord :=
  forwardLoop intent custom readings [] (steps.getD [])

end SafeActionSagaWorkflow
end RevPilot.Action
