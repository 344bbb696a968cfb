import RevPilot.Action.Domain
import RevPilot.Approval.Domain
import RevPilot.Library.Program

/-! The surroundings of a saga and the inquiry loop for timed-out dispatches. The
compensation activity and the provider's status inquiry are free to answer as
they like and to keep a state of their own; what the workflow appends to its
histories is kept in the world. -/
namespace RevPilot.Action
open Library Shared Program

inductive CompensationStatus : Type
  | pending | completed | failedManualRequired
  deriving DecidableEq

structure CompensationRecord where
  recordId : UUIDv7
  tenantId : TenantId
  intentId : UUIDv7
  stepName : String
  compensationAction : String
  status : CompensationStatus
  compensatedAt : UtcDateTime

inductive ProviderTransactionStatus : Type
  | confirmed | noRecord | inconclusive
  deriving DecidableEq

structure ProviderInquiryResult where
  status : ProviderTransactionStatus
  providerTxId : Option String := none
  details : List (PyKey × PyValue) := []

structure OutboxEvent where
  eventId : UUIDv7
  eventType : String := "action.reconciliation_required.v1"
  occurredAt : UtcDateTime
  tenantId : TenantId
  aggregateId : String
  payload : List (PyKey × PyValue)

/-- The arguments of `compensate_step_activity`. -/
structure CompensationRequest where
  stepName : String
  compensationAction : String
  tenantId : String
  intentId : String
  simulateFailure : Bool

structure Inquiry where
  attempt : Int
  provider : String
  idempotencyKey : String
  timestamp : UtcDateTime

inductive SagaCall : Type
  | compensate (request : CompensationRequest)
  | inquire (provider idempotencyKey : String)
  | appendHistory (record : CompensationRecord)
  | appendRegistry (record : CompensationRecord)
  | appendCompleted (step : String × Approval.Payload)
  | appendInquiry (inquiry : Inquiry)
  | emit (event : OutboxEvent)

/-- An activity may raise; an inquiry may raise anything, of which the text is kept. -/
abbrev SagaCall.Reply : SagaCall → Type
  | .compensate _ => Except PyError CompensationRecord
  | .inquire .. => Except String ProviderInquiryResult
  | .appendHistory _ => Unit
  | .appendRegistry _ => Unit
  | .appendCompleted _ => Unit
  | .appendInquiry _ => Unit
  | .emit _ => Unit

abbrev SagaProg (A : Type) := Prog SagaCall SagaCall.Reply PyError A

structure SagaEnvironment (V : Type) where
  compensate : V → CompensationRequest → Except PyError CompensationRecord × V
  inquire : V → String → String → Except String ProviderInquiryResult × V

/-- The state outside, what the activity has been asked, and the workflow's histories. -/
structure SagaWorld (V : Type) where
  outside : V
  attempted : List CompensationRequest := []
  compensationHistory : List CompensationRecord := []
  registry : List CompensationRecord := []
  completedSteps : List (String × Approval.Payload) := []
  inquiryHistory : List Inquiry := []
  emittedOutboxEvents : List OutboxEvent := []

def SagaEnvironment.serve {V : Type} (env : SagaEnvironment V) :
    (c : SagaCall) → SagaWorld V → c.Reply × SagaWorld V
  | .compensate request, w =>
    ((env.compensate w.outside request).1,
      { w with outside := (env.compensate w.outside request).2, attempted := w.attempted ++ [request] })
  | .inquire provider key, w =>
    ((env.inquire w.outside provider key).1,{ w with outside := (env.inquire w.outside provider key).2 })
  | .appendHistory record, w => ((),{ w with compensationHistory := w.compensationHistory ++ [record] })
  | .appendRegistry record, w => ((),{ w with registry := w.registry ++ [record] })
  | .appendCompleted step, w => ((),{ w with completedSteps := w.completedSteps ++ [step] })
  | .appendInquiry inquiry, w => ((),{ w with inquiryHistory := w.inquiryHistory ++ [inquiry] })
  | .emit event, w => ((),{ w with emittedOutboxEvents := w.emittedOutboxEvents ++ [event] })

/-- The identifiers a saga generates and the instants it reads. -/
structure SagaReadings where
  ledgerId : UUIDv7
  recordId : UUIDv7
  eventId : UUIDv7
  fallbackIntentId : UUIDv7
  startedAt : UtcDateTime
  reconcileStartedAt : UtcDateTime
  inquiredAt : UtcDateTime
  recordedAt : UtcDateTime
  completedAt : UtcDateTime

namespace ReconciliationManager

/-- The answer the loop works with: an exception counts as inconclusive. -/
def settleAnswer : Except String ProviderInquiryResult → ProviderInquiryResult
  | .ok result => result
  | .error text => { status := .inconclusive, details := [(.str "error",.str text)] }

def confirmedLedger (ledger : ActionLedgerRecord) (result : ProviderInquiryResult) (now : UtcDateTime) :
    ActionLedgerRecord :=
  { ledger with
    httpStatusCode := some 200
    providerTxId := match result.providerTxId with
      | some tx => if tx = "" then some s!"reconciled_{ledger.idempotencyKey}" else some tx
      | none => some s!"reconciled_{ledger.idempotencyKey}"
    executionStatus := .reconciled
    errorCode := none
    completedAt := some now }

def unresolvedLedger (ledger : ActionLedgerRecord) (status : ActionLedgerStatus) (error : String)
    (now : UtcDateTime) : ActionLedgerRecord :=
  { ledger with
    providerTxId := none
    executionStatus := status
    errorCode := some error
    completedAt := some now }

def escalation (intent : ActionIntentRecord) (ledger : ActionLedgerRecord) (maxAttempts : Int)
    (last : ProviderInquiryResult) (readings : SagaReadings) : OutboxEvent where
  eventId := readings.eventId
  occurredAt := readings.recordedAt
  tenantId := ledger.tenantId
  aggregateId := ledger.ledgerId.value
  payload := [(.str "intent_id",.str intent.intentId.value),(.str "ledger_id",.str ledger.ledgerId.value),
    (.str "idempotency_key",.str ledger.idempotencyKey),(.str "provider_name",.str ledger.providerName),
    (.str "action_type",.str intent.actionType),(.str "attempts",.int maxAttempts),
    (.str "reason",.str
      "Provider inquiry inconclusive after maximum attempts. Human SRE intervention required."),
    (.str "last_inquiry_details",.dict last.details)]

/-- The inquiry loop from one attempt on; `ask` is the query function. -/
def inquiryLoop (intent : ActionIntentRecord) (ledger : ActionLedgerRecord)
    (ask : String → String → SagaProg (Except String ProviderInquiryResult)) (maxAttempts : Int)
    (readings : SagaReadings) : Nat → ProviderInquiryResult → SagaProg ActionLedgerRecord
  | 0, last => do
    Prog.call (SagaCall.emit (escalation intent ledger maxAttempts last readings))
    return unresolvedLedger ledger .timeoutUnknown "ERR_RECONCILIATION_REQUIRED" readings.completedAt
  | left + 1, _ => do
    Prog.call (SagaCall.appendInquiry
      ⟨maxAttempts - left,ledger.providerName,ledger.idempotencyKey,readings.inquiredAt⟩)
    let result := settleAnswer (← ask ledger.providerName ledger.idempotencyKey)
    match result.status with
    | .confirmed => return confirmedLedger ledger result readings.completedAt
    | .noRecord => return unresolvedLedger ledger .providerError "FAILED_NO_DISPATCH" readings.completedAt
    | .inconclusive => inquiryLoop intent ledger ask maxAttempts readings left result

def reconcileUnknown (intent : ActionIntentRecord) (ledger : ActionLedgerRecord)
    (ask : String → String → SagaProg (Except String ProviderInquiryResult)) (readings : SagaReadings)
    (maxAttempts : Int := 3) : SagaProg ActionLedgerRecord :=
  inquiryLoop intent ledger ask maxAttempts readings maxAttempts.toNat
    { status := .inconclusive, details := [(.str "message",.str "Inquiry not started")] }

end ReconciliationManager
end RevPilot.Action

/-! The compensation activity of the repository, as surroundings of the saga that
keep its audit registry. -/
namespace RevPilot.Action
open Library Shared

structure PagedIncident where
  stepName : String
  compensationAction : String
  tenantId : String
  intentId : String
  reason : String := "Compensation activity failed; immediate human on-call required"

structure SagaActivityRegistry where
  compensationRecords : List CompensationRecord := []
  pagedIncidents : List PagedIncident := []

def compensateStepActivity (request : CompensationRequest) (recordId : UUIDv7) (now : UtcDateTime)
    (registry : SagaActivityRegistry) : Except PyError CompensationRecord × SagaActivityRegistry :=
  match EntityId.make "tnt_" request.tenantId with
  | none => (.error .valueError,registry)
  | some tenantId =>
    let record : CompensationRecord := {
      recordId := recordId, tenantId := tenantId, intentId := ⟨request.intentId⟩, stepName := request.stepName
      compensationAction := request.compensationAction
      status := if request.simulateFailure then .failedManualRequired else .completed
      compensatedAt := now }
    (.ok record,
      { compensationRecords := registry.compensationRecords ++ [record]
        pagedIncidents :=
          if request.simulateFailure then
            registry.pagedIncidents ++ [{
              stepName := request.stepName, compensationAction := request.compensationAction
              tenantId := request.tenantId, intentId := request.intentId }]
          else registry.pagedIncidents })

/-- The repository's activity, with a provider that always gives one answer. -/
def registryEnvironment (recordId : UUIDv7) (now : UtcDateTime) (answer : ProviderTransactionStatus) :
    SagaEnvironment SagaActivityRegistry where
  compensate registry request := compensateStepActivity request recordId now registry
  inquire registry _ _ := (.ok { status := answer },registry)

end RevPilot.Action
