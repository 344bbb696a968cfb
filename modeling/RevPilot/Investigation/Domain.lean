import RevPilot.Library.DecimalArithmetic
import RevPilot.Library.Text
import RevPilot.Shared.Errors
import RevPilot.Shared.Identifiers
import RevPilot.Shared.Temporal

/-! Investigations: lifecycle status, budget, manifest, the input envelope with
its validation, and the transition table. -/
namespace RevPilot.Investigation
open Library Shared

inductive InvestigationStatus : Type
  | initializing | planning | gatheringEvidence | verifying | completed | needMoreEvidence | paused | cancelled
  | failed
  deriving DecidableEq

def InvestigationStatus.value : InvestigationStatus → String
  | .initializing => "INITIALIZING"
  | .planning => "PLANNING"
  | .gatheringEvidence => "GATHERING_EVIDENCE"
  | .verifying => "VERIFYING"
  | .completed => "COMPLETED"
  | .needMoreEvidence => "NEED_MORE_EVIDENCE"
  | .paused => "PAUSED"
  | .cancelled => "CANCELLED"
  | .failed => "FAILED"

def activeStates : List InvestigationStatus := [.initializing,.planning,.gatheringEvidence,.verifying]

def terminalStates : List InvestigationStatus := [.completed,.needMoreEvidence,.cancelled,.failed]

def staticPermittedTransitions : InvestigationStatus → List InvestigationStatus
  | .initializing => [.planning,.failed,.paused,.cancelled]
  | .planning => [.gatheringEvidence,.failed,.cancelled,.paused]
  | .gatheringEvidence => [.verifying,.paused,.cancelled,.failed]
  | .verifying => [.completed,.needMoreEvidence,.gatheringEvidence,.paused,.cancelled,.failed]
  | _ => []

/-- The targets that a state permits. -/
def permitted (current : InvestigationStatus) (priorActiveState : Option InvestigationStatus) :
    List InvestigationStatus :=
  if current = .paused then
    match priorActiveState with
    | some prior => if prior ∈ activeStates then [.cancelled,.failed,prior] else [.cancelled,.failed]
    | none => [.cancelled,.failed] ++ activeStates
  else staticPermittedTransitions current

def invalidStateTransitionError (current target : InvestigationStatus) (permitted : List InvestigationStatus) :
    DomainError :=
  let source := current.value
  let goal := target.value
  { code := "ERR_INVALID_STATE_TRANSITION"
    message := s!"Cannot transition investigation from '{source}' to '{goal}'"
    details := [(.str "current_status",.str source),(.str "target_status",.str goal),
      (.str "permitted_targets",.list (permitted.map (fun s => .str s.value))),
      (.str "is_terminal",.bool (current ∈ terminalStates))] }

def transitionInvestigationState (current target : InvestigationStatus)
    (priorActiveState : Option InvestigationStatus) : Except DomainError InvestigationStatus :=
  if target ∈ permitted current priorActiveState then .ok target
  else .error (invalidStateTransitionError current target (permitted current priorActiveState))

structure BudgetState where
  allocatedUsd : Decimal := .ofCents 200
  spentUsd : Decimal := .ofCents 0
  hardStopUsd : Decimal := .ofCents 500
  spentTokens : Nat := 0
  allocatedToolCalls : Int := 20
  spentToolCalls : Nat := 0

def budgetExceededError (message : String) (details : List (PyKey × PyValue) := []) : DomainError where
  code := "ERR_BUDGET_EXCEEDED"
  message := message
  details := details

/-- The failures of the arithmetic and of the hard stop. -/
inductive SpendFailure : Type
  | budget (error : DomainError)
  | decimal (signal : Decimal.Signal)

def BudgetState.recordSpend (budget : BudgetState) (usd : Decimal) (toolCalls : Nat) (tokens : Nat := 0) :
    Except SpendFailure BudgetState := do
  let candidateUsd ← (budget.spentUsd.add usd).mapError .decimal
  if ← (budget.hardStopUsd.lt candidateUsd).mapError .decimal then
    let attempted := usd.toText
    let total := candidateUsd.toText
    let limit := budget.hardStopUsd.toText
    throw (.budget (budgetExceededError
      s!"Recording spend of ${attempted} brings total ${total} over hard stop limit of ${limit}"
      [(.str "current_spent_usd",.str budget.spentUsd.toText),(.str "attempted_usd",.str attempted),
        (.str "hard_stop_usd",.str limit)]))
  pure { budget with spentUsd := candidateUsd, spentTokens := budget.spentTokens + tokens
                     spentToolCalls := budget.spentToolCalls + toolCalls }

/-- `validate_budget_bounds`, the validator of the model. -/
def BudgetState.validateBudgetBounds (budget : BudgetState) : Except SpendFailure BudgetState := do
  if ← (budget.hardStopUsd.lt budget.spentUsd).mapError .decimal then
    let spent := budget.spentUsd.toText
    let limit := budget.hardStopUsd.toText
    throw (.budget (budgetExceededError s!"Budget spend ${spent} exceeds hard stop limit of ${limit}"
      [(.str "spent_usd",.str spent),(.str "hard_stop_usd",.str limit)]))
  pure budget

structure InvestigationManifest where
  investigationId : String
  tenantId : TenantId
  topHypothesisId : Option String
  bundleDigest : String
  cogsUsd : Decimal
  durationSeconds : Int
  sealedAt : UtcDateTime
  deriving DecidableEq

structure PauseInvestigationSignal where
  reason : String
  pausedBy : String

structure ResumeInvestigationSignal where
  resumedBy : String

structure CancelInvestigationSignal where
  reason : String
  cancelledBy : String

structure InvestigationWorkflowInput where
  investigationId : String
  tenantId : String
  principalId : String
  metricName : String := ""
  investigationScope : List (PyKey × PyValue) := []
  windowStart : String := ""
  windowEnd : String := ""
  asOfTime : String := ""
  costBudgetUsd : Decimal := .ofCents 200
  toolCallBudget : Int := 20

/-- The exceptions of the validation. An `OverflowError` of the time conversion is
the only one that `run` does not catch. -/
inductive InputFailure : Type
  | tenancy (message : String)
  | valueError (message : String)
  | budget (message : String)
  | temporal (message : String)
  | overflow

def InputFailure.message : InputFailure → String
  | .tenancy message => message
  | .valueError message => message
  | .budget message => message
  | .temporal message => message
  | .overflow => "date value out of range"

def InputFailure.isCaught : InputFailure → Bool
  | .overflow => false
  | _ => true

def InputFailure.errorCode : InputFailure → String
  | .tenancy _ => "ERR_TENANT_VIOLATION"
  | _ => "ERR_INVALID_INPUT"

namespace InvestigationWorkflowInput

/-- `window_start < window_end <= as_of_time`, where the texts are given. -/
def validateWindow (fromIso : String → Except InputFailure UtcDateTime) (input : InvestigationWorkflowInput) :
    Except InputFailure Unit := do
  if input.windowStart != "" && input.windowEnd != "" then
    let start ← fromIso input.windowStart
    let stop ← fromIso input.windowEnd
    let first := input.windowStart
    let last := input.windowEnd
    if stop ≤ start then
      throw (.temporal s!"window_start ({first}) must precede window_end ({last})")
    if input.asOfTime != "" then
      let asOf ← fromIso input.asOfTime
      let limit := input.asOfTime
      if asOf < stop then
        throw (.temporal s!"window_end ({last}) exceeds as_of_time ({limit})")

def validate (fromIso : String → Except InputFailure UtcDateTime) (input : InvestigationWorkflowInput)
    (workflowId : String) : Except InputFailure Unit := do
  if Text.strip input.tenantId = "" then throw (.tenancy "tenant_id cannot be null or empty")
  if Text.strip input.investigationId = "" then throw (.valueError "investigation_id cannot be null or empty")
  if Text.strip input.principalId = "" then throw (.valueError "principal_id cannot be null or empty")
  let expected := "tenant/" ++ input.tenantId ++ "/investigation/" ++ input.investigationId
  if workflowId != "" && workflowId != expected then
    throw (.tenancy s!"Workflow ID '{workflowId}' violates canonical tenant format '{expected}'")
  let cost := input.costBudgetUsd
  if cost.gt (.ofCents 500) = some true then
    let amount := cost.toText
    throw (.budget s!"cost_budget_usd ${amount} exceeds maximum hard limit of $5.00")
  if (Decimal.ofCents 0).gt cost = some true then throw (.budget "cost_budget_usd cannot be negative")
  validateWindow fromIso input

end InvestigationWorkflowInput
end RevPilot.Investigation
