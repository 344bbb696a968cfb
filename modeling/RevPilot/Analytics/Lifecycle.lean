import RevPilot.Library.PyValue
import RevPilot.Shared.Context
import RevPilot.Shared.Temporal

/-! The anomaly aggregate: its state machine, the audit records of its transitions and
the outbox events that go with them. -/
namespace RevPilot.Analytics
open Library JsonText Shared

inductive AnomalyState : Type
  | detected
  | validated
  | localized
  | acknowledged
  | suppressed
  | resolved
  | reopened
  deriving DecidableEq

namespace AnomalyState

/-- `state.value`. -/
def text : AnomalyState → String
  | detected => "DETECTED"
  | validated => "VALIDATED"
  | localized => "LOCALIZED"
  | acknowledged => "ACKNOWLEDGED"
  | suppressed => "SUPPRESSED"
  | resolved => "RESOLVED"
  | reopened => "REOPENED"

/-- `state.value.lower()`. -/
def lower : AnomalyState → String
  | detected => "detected"
  | validated => "validated"
  | localized => "localized"
  | acknowledged => "acknowledged"
  | suppressed => "suppressed"
  | resolved => "resolved"
  | reopened => "reopened"

/-- `_LEGAL_TRANSITIONS`. -/
def legalTransitions : AnomalyState → List AnomalyState
  | detected => [validated,suppressed]
  | validated => [localized,suppressed]
  | localized => [acknowledged,suppressed]
  | acknowledged => [resolved,suppressed]
  | suppressed => []
  | resolved => [reopened]
  | reopened => [localized,acknowledged,resolved,suppressed]

/-- `_EVENT_TYPE_MAPPING`. -/
def eventType : AnomalyState → String
  | detected => "anomaly.detected.v1"
  | validated => "anomaly.validated.v1"
  | localized => "anomaly.localized.v1"
  | acknowledged => "anomaly.acknowledged.v1"
  | suppressed => "anomaly.suppressed.v1"
  | resolved => "anomaly.resolved.v1"
  | reopened => "anomaly.reopened.v1"

end AnomalyState

structure LifecycleError where
  code : String
  message : String
  httpStatus : Nat
  details : List (PyKey × PyValue) := []

abbrev Metadata := List (PyKey × PyValue)

structure AnomalyTransitionRecord where
  transitionId : String
  tenantId : TenantId
  anomalyId : String
  fromState : AnomalyState
  toState : AnomalyState
  actorId : String
  actorType : String
  reason : String
  metadata : Metadata
  transitionedAt : UtcDateTime

structure OutboxDomainEvent where
  eventId : String
  eventType : String
  eventVersion : Nat
  occurredAt : UtcDateTime
  producer : String
  aggregateId : String
  aggregateVersion : Nat
  tenantId : TenantId
  correlationId : PyValue
  causationId : PyValue
  idempotencyKey : String
  payload : Metadata

structure AnomalyAggregate where
  id : String
  tenantId : TenantId
  metricId : String
  metricVersion : String
  detectorId : String
  actualValue : FloatText
  expectedValue : FloatText
  anomalyScore : FloatText
  severity : String
  state : AnomalyState
  dataFreshness : String
  dataQualityState : String
  version : Nat
  effectiveFrom : UtcDateTime
  effectiveTo : Option UtcDateTime
  suppressionReason : Option String
  createdAt : UtcDateTime
  updatedAt : UtcDateTime
  transitions : List AnomalyTransitionRecord
  pendingOutboxEvents : List OutboxDomainEvent

/-- The arguments of `create_detected` that its result or its first event shows; the
readings of the clock and the random digits come last. -/
structure Detection where
  id : String
  tenantId : TenantId
  metricId : String
  metricVersion : String
  detectorId : String
  observationWindowStart : UtcDateTime
  observationWindowEnd : UtcDateTime
  asOfTime : UtcDateTime
  actualValue : FloatText
  expectedValue : FloatText
  expectedInterval : FloatText × FloatText
  anomalyScore : FloatText
  severity : String
  createdAt : Option UtcDateTime := none
  actor : Option PrincipalContext := none
  clock : UtcDateTime
  transitionDigits : String
  eventDigits : String
  correlationDigits : String

/-- The arguments of `transition_to`, with its clock reading and its random digits. An
actor that is no `PrincipalContext` is none. -/
structure TransitionCall where
  targetState : AnomalyState
  actor : Option PrincipalContext
  reason : String
  metadata : Option Metadata := none
  transitionedAt : Option UtcDateTime := none
  clock : UtcDateTime
  transitionDigits : String
  eventDigits : String
  correlationDigits : String

namespace AnomalyAggregate

def createDetected (args : Detection) : AnomalyAggregate :=
  let now := args.createdAt.getD args.clock
  let record : AnomalyTransitionRecord :=
    { transitionId := "trn_" ++ args.transitionDigits, tenantId := args.tenantId, anomalyId := args.id
      fromState := .detected, toState := .detected
      actorId := (args.actor.map (·.principalId.value)).getD "system_detector_worker"
      actorType := if args.actor.any (fun actor => !actor.isSystem) then "PRINCIPAL" else "SYSTEM_WORKER"
      reason := "INITIAL_DETECTION"
      metadata := [(.str "actual_value",.float args.actualValue),(.str "expected_value",.float args.expectedValue),
        (.str "anomaly_score",.float args.anomalyScore)]
      transitionedAt := now }
  let event : OutboxDomainEvent :=
    { eventId := "evt_" ++ args.eventDigits, eventType := "anomaly.detected.v1", eventVersion := 1
      occurredAt := now, producer := "revpilot.modules.analytics", aggregateId := args.id, aggregateVersion := 1
      tenantId := args.tenantId, correlationId := .str ("cor_" ++ args.correlationDigits)
      causationId := .str ("det_" ++ args.detectorId), idempotencyKey := "anm_detect_" ++ args.id ++ "_v1"
      payload := [(.str "anomaly_id",.str args.id),(.str "metric_id",.str args.metricId),
        (.str "metric_version",.str args.metricVersion),(.str "detector_id",.str args.detectorId),
        (.str "actual_value",.float args.actualValue),(.str "expected_value",.float args.expectedValue),
        (.str "expected_interval",.list [.float args.expectedInterval.1,.float args.expectedInterval.2]),
        (.str "anomaly_score",.float args.anomalyScore),(.str "severity",.str args.severity),
        (.str "observation_window",.dict [(.str "start_time",.str args.observationWindowStart.isoformat),
          (.str "end_time",.str args.observationWindowEnd.isoformat)]),
        (.str "as_of_time",.str args.asOfTime.isoformat)] }
  { id := args.id, tenantId := args.tenantId, metricId := args.metricId, metricVersion := args.metricVersion
    detectorId := args.detectorId, actualValue := args.actualValue, expectedValue := args.expectedValue
    anomalyScore := args.anomalyScore, severity := args.severity, state := .detected, dataFreshness := "FRESH"
    dataQualityState := "PASSED", version := 1, effectiveFrom := now, effectiveTo := none
    suppressionReason := none, createdAt := now, updatedAt := now, transitions := [record]
    pendingOutboxEvents := [event] }

def buildEventPayload (a : AnomalyAggregate) (state : AnomalyState) (reason : String) (metadata : Metadata)
    (actor : PrincipalContext) (now : UtcDateTime) : Metadata :=
  let get (key : String) (default : PyValue) := (PyValue.lookup metadata key).getD default
  let base := (PyKey.str "anomaly_id",PyValue.str a.id)
  match state with
  | .validated =>
    [base,(.str "data_quality_state",.str a.dataQualityState),(.str "freshness_state",.str a.dataFreshness),
      (.str "validated_at",.str now.isoformat)]
  | .localized =>
    [base,(.str "top_contributing_segments",get "top_contributing_segments" (.list [])),
      (.str "primary_dimension",get "dimension" (.str "")),
      (.str "data_coverage_pct",get "data_coverage_pct" (.float ⟨['1','0','0','.','0'],Eq.refl true⟩))]
  | .acknowledged =>
    [base,(.str "acknowledged_by_principal",.str actor.principalId.value),
      (.str "investigation_id",get "investigation_id" (.str "")),(.str "acknowledged_at",.str now.isoformat)]
  | .suppressed =>
    [base,(.str "suppression_reason",.str reason),(.str "suppression_rule_id",get "suppression_rule_id" (.str "")),
      (.str "suppressed_at",.str now.isoformat)]
  | .resolved =>
    [base,(.str "resolution_type",get "resolution_type" (.str "INCIDENT_SUBSIDED")),
      (.str "resolved_at",.str now.isoformat),
      (.str "final_metric_value",get "final_metric_value" (.float a.actualValue))]
  | .reopened =>
    [base,(.str "reopened_at",.str now.isoformat),
      (.str "new_actual_value",get "new_actual_value" (.float a.actualValue)),
      (.str "trigger_score",get "trigger_score" (.float a.anomalyScore))]
  | .detected => [base]

/-- The tenancy and state checks of `transition_to`, first failure first. -/
def transitionError (a : AnomalyAggregate) (target : AnomalyState) (actor : Option PrincipalContext) :
    Except LifecycleError PrincipalContext :=
  match actor with
  | none =>
    .error { code := "UNAUTHORIZED"
             message := "Valid PrincipalContext required for anomaly lifecycle transitions", httpStatus := 401 }
  | some actor =>
    if !actor.isSystem && actor.tenantId != some a.tenantId then
      let own := (actor.tenantId.map (·.value)).getD "None"
      let anomalyTenant := a.tenantId.value
      .error { code := "TENANCY_VIOLATION"
               message := s!"Cross-tenant transition denied: Actor tenant '{own}' " ++
                 s!"does not match anomaly tenant '{anomalyTenant}'"
               httpStatus := 403
               details := [(.str "actor_tenant",.str own),(.str "anomaly_tenant",.str a.tenantId.value)] }
    else if a.state = .resolved ∧ target ≠ .reopened then
      .error { code := "ANOMALY_ALREADY_RESOLVED"
               message := "Anomaly is in terminal resolved state; must be REOPENED before further mutation"
               httpStatus := 409
               details := [(.str "current_state",.str a.state.text),(.str "target_state",.str target.text),
                 (.str "anomaly_id",.str a.id)] }
    else if target ∉ a.state.legalTransitions then
      .error { code := "INVALID_STATE_TRANSITION"
               message := s!"Transition from '{a.state.text}' to '{target.text}' is not permitted"
               httpStatus := 409
               details := [(.str "from_state",.str a.state.text),(.str "to_state",.str target.text),
                 (.str "allowed_transitions",.list (a.state.legalTransitions.map (fun s => .str s.text))),
                 (.str "anomaly_id",.str a.id)] }
    else .ok actor

/-- The result and the aggregate after the call. -/
def transitionTo (a : AnomalyAggregate) (call : TransitionCall) :
    Except LifecycleError AnomalyTransitionRecord × AnomalyAggregate :=
  match a.transitionError call.targetState call.actor with
  | .error error => (.error error,a)
  | .ok actor =>
    let now := call.transitionedAt.getD call.clock
    let metadata := call.metadata.getD []
    let target : AnomalyState := call.targetState
    let moved := { a with
      state := target, version := a.version + 1, updatedAt := now
      suppressionReason := if target = AnomalyState.suppressed then some call.reason else a.suppressionReason
      effectiveTo := if target = AnomalyState.suppressed ∨ target = AnomalyState.resolved then some now else a.effectiveTo }
    let record : AnomalyTransitionRecord :=
      { transitionId := "trn_" ++ call.transitionDigits, tenantId := a.tenantId, anomalyId := a.id
        fromState := a.state, toState := target, actorId := actor.principalId.value
        actorType := if actor.isSystem then "SYSTEM_WORKER" else "PRINCIPAL", reason := call.reason
        metadata := metadata, transitionedAt := now }
    let event : OutboxDomainEvent :=
      { eventId := "evt_" ++ call.eventDigits, eventType := target.eventType, eventVersion := 1, occurredAt := now
        producer := "revpilot.modules.analytics", aggregateId := a.id, aggregateVersion := moved.version
        tenantId := a.tenantId
        correlationId := (PyValue.lookup metadata "correlation_id").getD (.str ("cor_" ++ call.correlationDigits))
        causationId := (PyValue.lookup metadata "causation_id").getD (.str ("trn_" ++ record.transitionId))
        idempotencyKey := "anm_" ++ a.id ++ "_" ++ target.lower ++ "_v" ++ moved.version.repr
        payload := moved.buildEventPayload target call.reason metadata actor now }
    (.ok record,
      { moved with
        transitions := a.transitions ++ [record], pendingOutboxEvents := a.pendingOutboxEvents ++ [event] })

end AnomalyAggregate
end RevPilot.Analytics
