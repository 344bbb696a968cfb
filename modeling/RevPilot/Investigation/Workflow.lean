import RevPilot.Investigation.Domain
import RevPilot.Library.Suspension

/-! The investigation workflow: the main coroutine as a program over the fields of
the workflow object, and the signal handlers. A handler runs to its end while the
coroutine is suspended in an await. -/
namespace RevPilot.Investigation
open Library Shared Program

/-- The exceptions that pass through `run`. -/
inductive WorkflowFailure : Type
  | application (message type : String)
  | activity (message : String)
  | domain (message : String)

def WorkflowFailure.text : WorkflowFailure → String
  | .application message _ => message
  | .activity message => message
  | .domain message => message

structure ScopeInput where
  investigationId : String
  tenantId : String
  metricName : String
  investigationScope : List (PyKey × PyValue)

structure PlanInput where
  investigationId : String
  tenantId : String
  metricName : String
  scope : List (PyKey × PyValue)
  windowStart : String
  windowEnd : String

structure SqlInput where
  investigationId : String
  tenantId : String
  capabilityName : String
  parameters : List (PyKey × PyValue)

structure RetrievalInput where
  investigationId : String
  tenantId : String
  query : String
  filters : List (PyKey × PyValue)
  asOfTime : String

structure TicketInput where
  investigationId : String
  tenantId : String
  scope : List (PyKey × PyValue)
  windowStart : String
  windowEnd : String

structure SynthesisInput where
  investigationId : String
  tenantId : String
  evidenceBundleIds : List String
  planId : String

structure VerificationInput where
  investigationId : String
  tenantId : String
  hypotheses : List PyValue
  evidenceDigests : List String

/-- The clock readings of the package are taken when it is scheduled. -/
structure PackageInput where
  investigationId : String
  tenantId : String
  topHypothesisId : Option String
  evidenceDigests : List String
  cogsUsd : String

structure VerificationResult where
  status : String
  topHypothesisId : Option String

inductive InvestigationActivity : Type
  | validateScope (input : ScopeInput)
  | generatePlan (input : PlanInput)
  | executeSql (input : SqlInput)
  | executeRetrieval (input : RetrievalInput)
  | ingestTickets (input : TicketInput)
  | synthesizeHypotheses (input : SynthesisInput)
  | verifyEvidence (input : VerificationInput)
  | packageBundle (input : PackageInput)

/-- What the workflow reads of the result of an activity. -/
@[reducible] def InvestigationActivity.Result : InvestigationActivity → Type
  | .validateScope _ => Unit
  | .generatePlan _ => String
  | .executeSql _ => String
  | .executeRetrieval _ => String
  | .ingestTickets _ => Unit
  | .synthesizeHypotheses _ => List PyValue
  | .verifyEvidence _ => VerificationResult
  | .packageBundle _ => InvestigationManifest

structure WorkflowState where
  status : InvestigationStatus := .initializing
  priorActiveState : Option InvestigationStatus := none
  budget : BudgetState := {}
  isPaused : Bool := false
  isCancelled : Bool := false
  pauseReason : Option String := none
  pausedBy : Option String := none
  cancelReason : Option String := none
  cancelledBy : Option String := none
  errorCode : Option String := none
  errorMessage : Option String := none
  currentStep : String := "INITIALIZING"
  completedTasks : Nat := 0
  runningTasks : Nat := 0
  manifest : Option InvestigationManifest := none

/-- The awaits of the coroutine and its accesses to the workflow object. -/
inductive WorkflowCall : Type
  | begin
  | activity (request : InvestigationActivity)
  | unpaused
  | isCancelled
  | isPaused
  | status
  | cancelReason
  | priorActiveState
  | spentUsd
  | setPriorActiveState (state : InvestigationStatus)
  | transition (target : InvestigationStatus)
  | setStatus (state : InvestigationStatus)
  | setBudget (budget : BudgetState)
  | recordSpend (usd : Decimal)
  | setStep (step : String)
  | beginTask
  | endTask
  | setError (code message : String)
  | setManifest (manifest : InvestigationManifest)

namespace WorkflowCall

@[reducible] def Reply : WorkflowCall → Type
  | .activity request => Except String request.Result
  | .isCancelled => Bool
  | .isPaused => Bool
  | .status => InvestigationStatus
  | .cancelReason => Option String
  | .priorActiveState => Option InvestigationStatus
  | .spentUsd => Decimal
  | .transition _ => Except WorkflowFailure Unit
  | .recordSpend _ => Except WorkflowFailure Unit
  | _ => Unit

def suspends : WorkflowCall → Bool
  | .begin => true
  | .activity _ => true
  | .unpaused => true
  | _ => false

end WorkflowCall

/-- What the outside answers to an awaited activity. -/
abbrev ActivityOutcome := (request : InvestigationActivity) → Except String request.Result

namespace WorkflowState

/-- `_transition`. -/
def transition (s : WorkflowState) (target : InvestigationStatus) : Except WorkflowFailure Unit × WorkflowState :=
  match transitionInvestigationState s.status target s.priorActiveState with
  | .error error => (.error (.application error.message "ERR_INVALID_STATE_TRANSITION"),s)
  | .ok status => (.ok (),{ s with status := status })

def spendFailure : SpendFailure → WorkflowFailure
  | .budget error => .domain error.message
  | .decimal .invalidOperation => .domain "[<class 'decimal.InvalidOperation'>]"
  | .decimal .overflow => .domain "[<class 'decimal.Overflow'>]"

def recordSpend (s : WorkflowState) (usd : Decimal) : Except WorkflowFailure Unit × WorkflowState :=
  match s.budget.recordSpend usd 1 with
  | .error failure => (.error (spendFailure failure),s)
  | .ok budget => (.ok (),{ s with budget := budget })

def serve (outcome : ActivityOutcome) : (c : WorkflowCall) → WorkflowState → c.Reply × WorkflowState
  | .begin, s => ((),s)
  | .activity request, s => (outcome request,s)
  | .unpaused, s => ((),s)
  | .isCancelled, s => (s.isCancelled,s)
  | .isPaused, s => (s.isPaused,s)
  | .status, s => (s.status,s)
  | .cancelReason, s => (s.cancelReason,s)
  | .priorActiveState, s => (s.priorActiveState,s)
  | .spentUsd, s => (s.budget.spentUsd,s)
  | .setPriorActiveState state, s => ((),{ s with priorActiveState := some state })
  | .transition target, s => s.transition target
  | .setStatus state, s => ((),{ s with status := state })
  | .setBudget budget, s => ((),{ s with budget := budget })
  | .recordSpend usd, s => s.recordSpend usd
  | .setStep step, s => ((),{ s with currentStep := step })
  | .beginTask, s => ((),{ s with runningTasks := 1 })
  | .endTask, s => ((),{ s with completedTasks := s.completedTasks + 1, runningTasks := 0 })
  | .setError code message, s => ((),{ s with errorCode := some code, errorMessage := some message })
  | .setManifest manifest, s => ((),{ s with manifest := some manifest })

end WorkflowState

def workflowServer : Server WorkflowState ActivityOutcome WorkflowCall WorkflowCall.Reply where
  serve := WorkflowState.serve
  suspends := WorkflowCall.suspends

abbrev WorkflowProg := Prog WorkflowCall WorkflowCall.Reply WorkflowFailure

namespace InvestigationWorkflow
open WorkflowCall

def transition (target : InvestigationStatus) : WorkflowProg Unit := do
  Prog.ofExcept (← Prog.call (WorkflowCall.transition target))

def cancelledError (reason : Option String) : WorkflowFailure :=
  let text := reason.getD ""
  .application (if text = "" then "Investigation cancelled by user" else text) "ERR_WORKFLOW_CANCELLED"

def stopCancelled : WorkflowProg Unit := do
  let reason ← Prog.call WorkflowCall.cancelReason
  throw (cancelledError reason)

/-- The part of the gate behind its wait. -/
def afterWait : WorkflowProg Unit := do
  if ← Prog.call WorkflowCall.isCancelled then
    transition .cancelled
    stopCancelled
  match ← Prog.call WorkflowCall.priorActiveState with
  | some prior => transition prior
  | none => pure ()

def waitUnpaused : WorkflowProg Unit := do
  let status ← Prog.call WorkflowCall.status
  if status ≠ .paused then
    Prog.call (WorkflowCall.setPriorActiveState status)
    transition .paused
  Prog.call WorkflowCall.unpaused
  afterWait

def checkPauseAndCancellation : WorkflowProg Unit := do
  if ← Prog.call WorkflowCall.isCancelled then
    if (← Prog.call WorkflowCall.status) ≠ .cancelled then transition .cancelled
    stopCancelled
  if ← Prog.call WorkflowCall.isPaused then waitUnpaused

/-- An activity with its running and completed counts. -/
def runTask (request : InvestigationActivity) : WorkflowProg request.Result := do
  Prog.call WorkflowCall.beginTask
  let reply ← Prog.call (WorkflowCall.activity request)
  let result ← Prog.ofExcept (reply.mapError WorkflowFailure.activity)
  Prog.call WorkflowCall.endTask
  pure result

def spend (usd : Decimal) : WorkflowProg Unit := do
  Prog.ofExcept (← Prog.call (WorkflowCall.recordSpend usd))

/-- The branch on the verdict: `none` loops back, `some` breaks with the top hypothesis. -/
def concludeLoop (loopCount : Nat) (verified : VerificationResult) : WorkflowProg (Option (Option String)) :=
  if verified.status = "VERIFIED" then pure (some verified.topHypothesisId)
  else if verified.status = "NEED_MORE_EVIDENCE" then
    if 2 ≤ loopCount then do
      transition .needMoreEvidence
      pure (some verified.topHypothesisId)
    else pure none
  else do
    transition .failed
    Prog.call (WorkflowCall.setError "ERR_VERIFICATION_REFUTED" "All root cause hypotheses refuted")
    throw (.application "Root cause hypotheses refuted by verifier" "ERR_VERIFICATION_REFUTED")

/-- The evidence loop with the iterations left and the digests so far. -/
def evidenceLoop (input : InvestigationWorkflowInput) (planId : String) :
    Nat → List String → WorkflowProg (Option String × List String)
  | 0, digests => pure (none,digests)
  | left + 1, digests => do
    let loopCount := 2 - left
    transition .gatheringEvidence
    Prog.call (WorkflowCall.setStep s!"GATHERING_EVIDENCE_LOOP_{loopCount}")
    checkPauseAndCancellation
    let rowDigest ← runTask (.executeSql
      { investigationId := input.investigationId, tenantId := input.tenantId
        capabilityName := "mrr_breakdown_by_segment", parameters := [(.str "metric",.str input.metricName)] })
    spend (.ofCents 10)
    checkPauseAndCancellation
    let metric := input.metricName
    let bundleDigest ← runTask (.executeRetrieval
      { investigationId := input.investigationId, tenantId := input.tenantId, query := s!"anomalies for {metric}"
        filters := input.investigationScope, asOfTime := input.asOfTime })
    let digests := digests ++ [rowDigest,bundleDigest]
    spend (.ofCents 15)
    checkPauseAndCancellation
    runTask (.ingestTickets
      { investigationId := input.investigationId, tenantId := input.tenantId, scope := input.investigationScope
        windowStart := input.windowStart, windowEnd := input.windowEnd })
    spend (.ofCents 10)
    checkPauseAndCancellation
    let hypotheses ← runTask (.synthesizeHypotheses
      { investigationId := input.investigationId, tenantId := input.tenantId, evidenceBundleIds := digests
        planId := planId })
    spend (.ofCents 25)
    checkPauseAndCancellation
    transition .verifying
    Prog.call (WorkflowCall.setStep "VERIFYING_HYPOTHESES")
    let verified ← runTask (.verifyEvidence
      { investigationId := input.investigationId, tenantId := input.tenantId, hypotheses := hypotheses
        evidenceDigests := digests })
    match ← concludeLoop loopCount verified with
    | some top => pure (top,digests)
    | none => evidenceLoop input planId left digests

def packageEvidence (input : InvestigationWorkflowInput) (top : Option String) (digests : List String) :
    WorkflowProg InvestigationManifest := do
  Prog.call (WorkflowCall.setStep "PACKAGING_EVIDENCE")
  let cogs ← Prog.call WorkflowCall.spentUsd
  let manifest ← runTask (.packageBundle
    { investigationId := input.investigationId, tenantId := input.tenantId, topHypothesisId := top
      evidenceDigests := digests, cogsUsd := cogs.toText })
  Prog.call (WorkflowCall.setManifest manifest)
  if (← Prog.call WorkflowCall.status) ≠ .needMoreEvidence then transition .completed
  Prog.call (WorkflowCall.setStep "SEALED")
  pure manifest

/-- The body of the `try` block. -/
def investigate (input : InvestigationWorkflowInput) : WorkflowProg InvestigationManifest := do
  runTask (.validateScope
    { investigationId := input.investigationId, tenantId := input.tenantId, metricName := input.metricName
      investigationScope := input.investigationScope })
  spend (.ofCents 5)
  checkPauseAndCancellation
  Prog.call (WorkflowCall.setStep "GENERATING_PLAN")
  let planId ← runTask (.generatePlan
    { investigationId := input.investigationId, tenantId := input.tenantId, metricName := input.metricName
      scope := input.investigationScope, windowStart := input.windowStart, windowEnd := input.windowEnd })
  spend (.ofCents 20)
  checkPauseAndCancellation
  let (top,digests) ← evidenceLoop input planId 2 []
  checkPauseAndCancellation
  packageEvidence input top digests

/-- The `except` clauses. -/
def onFailure : WorkflowFailure → WorkflowProg InvestigationManifest
  | .application message type => throw (.application message type)
  | failure => do
    let status ← Prog.call WorkflowCall.status
    if status ≠ .completed ∧ status ≠ .cancelled ∧ status ≠ .failed then
      match ← Prog.call (WorkflowCall.transition .failed) with
      | .ok () => pure ()
      | .error _ => Prog.call (WorkflowCall.setStatus .failed)
    let message := failure.text
    Prog.call (WorkflowCall.setError "ERR_WORKFLOW_EXECUTION_FAILURE" message)
    throw (.application s!"Workflow unhandled failure: {message}" "ERR_WORKFLOW_EXECUTION_FAILURE")

/-- The end of the handler: the error is noted and reraised as an `ApplicationError`. -/
def reportFailure (message : String) : WorkflowProg InvestigationManifest := do
  Prog.call (WorkflowCall.setError "ERR_WORKFLOW_EXECUTION_FAILURE" message)
  throw (.application s!"Workflow unhandled failure: {message}" "ERR_WORKFLOW_EXECUTION_FAILURE")

/-- The handler of the failures that are no `ApplicationError`. -/
def failRun (message : String) : WorkflowProg InvestigationManifest := do
  let status ← Prog.call WorkflowCall.status
  if status ≠ .completed ∧ status ≠ .cancelled ∧ status ≠ .failed then
    match ← Prog.call (WorkflowCall.transition .failed) with
    | .ok () => pure ()
    | .error _ => Prog.call (WorkflowCall.setStatus .failed)
  reportFailure message

theorem onFailure_cases (failure : WorkflowFailure) :
    (∃ message type, failure = .application message type ∧ onFailure failure = throw (.application message type)) ∨
      ((∀ message type, failure ≠ .application message type) ∧ onFailure failure = failRun failure.text) := by
  cases failure with
  | application message type => exact .inl ⟨message,type,rfl,rfl⟩
  | activity message => exact .inr ⟨nofun,rfl⟩
  | domain message => exact .inr ⟨nofun,rfl⟩

/-- The answer to an input that the validation refuses. -/
def refuseInput (failure : InputFailure) : WorkflowProg InvestigationManifest :=
  let message := failure.message
  if failure.isCaught then do
    Prog.call (WorkflowCall.setError failure.errorCode message)
    transition .failed
    throw (.application s!"Investigation validation failed: {message}" failure.errorCode)
  else throw (.domain message)

def run (fromIso : String → Except InputFailure UtcDateTime) (workflowId : String)
    (input : InvestigationWorkflowInput) : WorkflowProg InvestigationManifest := do
  Prog.call (WorkflowCall.setBudget
    { allocatedUsd := input.costBudgetUsd, allocatedToolCalls := input.toolCallBudget })
  match input.validate fromIso workflowId with
  | .error failure => refuseInput failure
  | .ok () =>
    checkPauseAndCancellation
    transition .planning
    Prog.call (WorkflowCall.setStep "VALIDATING_SCOPE")
    Prog.handle (investigate input) onFailure

end InvestigationWorkflow

namespace WorkflowState

def pauseInvestigation (s : WorkflowState) (signal : PauseInvestigationSignal) : WorkflowState :=
  if s.status = .completed ∨ s.status = .failed ∨ s.status = .cancelled then s
  else
    let s := { s with isPaused := true, pauseReason := some signal.reason, pausedBy := some signal.pausedBy }
    if s.status ≠ .paused then { s with priorActiveState := some s.status, status := .paused } else s

def resumeInvestigation (s : WorkflowState) (_ : ResumeInvestigationSignal) : WorkflowState :=
  if s.status = .paused then { s with isPaused := false, status := s.priorActiveState.getD .planning } else s

def cancelInvestigation (s : WorkflowState) (signal : CancelInvestigationSignal) : WorkflowState :=
  if s.status = .completed ∨ s.status = .failed ∨ s.status = .cancelled then s
  else { s with isCancelled := true, cancelReason := some signal.reason, cancelledBy := some signal.cancelledBy
                status := .cancelled }

theorem pauseInvestigation_cases (s : WorkflowState) (signal : PauseInvestigationSignal) :
    ((s.status = .completed ∨ s.status = .failed ∨ s.status = .cancelled) ∧ s.pauseInvestigation signal = s) ∨
    ((s.status ≠ .completed ∧ s.status ≠ .failed ∧ s.status ≠ .cancelled) ∧
      ((s.status = .paused ∧ s.pauseInvestigation signal =
          { s with isPaused := true, pauseReason := some signal.reason, pausedBy := some signal.pausedBy }) ∨
        (s.status ≠ .paused ∧ s.pauseInvestigation signal =
          { s with isPaused := true, pauseReason := some signal.reason, pausedBy := some signal.pausedBy
                   priorActiveState := some s.status, status := .paused }))) := by
  unfold pauseInvestigation
  by_cases closed : s.status = .completed ∨ s.status = .failed ∨ s.status = .cancelled
  · exact .inl ⟨closed,if_pos closed⟩
  · have active : s.status ≠ .completed ∧ s.status ≠ .failed ∧ s.status ≠ .cancelled := by simpa using closed
    rw [if_neg closed]
    by_cases paused : s.status = .paused
    · exact .inr ⟨active,.inl ⟨paused,by simp [paused]⟩⟩
    · exact .inr ⟨active,.inr ⟨paused,by simp [paused]⟩⟩

theorem resumeInvestigation_cases (s : WorkflowState) (signal : ResumeInvestigationSignal) :
    (s.status ≠ .paused ∧ s.resumeInvestigation signal = s) ∨
    (s.status = .paused ∧ s.resumeInvestigation signal =
      { s with isPaused := false, status := s.priorActiveState.getD .planning }) := by
  unfold resumeInvestigation
  by_cases paused : s.status = .paused
  · exact .inr ⟨paused,if_pos paused⟩
  · exact .inl ⟨paused,if_neg paused⟩

theorem cancelInvestigation_cases (s : WorkflowState) (signal : CancelInvestigationSignal) :
    ((s.status = .completed ∨ s.status = .failed ∨ s.status = .cancelled) ∧ s.cancelInvestigation signal = s) ∨
    ((s.status ≠ .completed ∧ s.status ≠ .failed ∧ s.status ≠ .cancelled) ∧ s.cancelInvestigation signal =
      { s with isCancelled := true, cancelReason := some signal.reason, cancelledBy := some signal.cancelledBy
               status := .cancelled }) := by
  unfold cancelInvestigation
  by_cases closed : s.status = .completed ∨ s.status = .failed ∨ s.status = .cancelled
  · exact .inl ⟨closed,if_pos closed⟩
  · exact .inr ⟨by simpa using closed,if_neg closed⟩

theorem transition_cases (s : WorkflowState) (target : InvestigationStatus) :
    (target ∈ permitted s.status s.priorActiveState ∧ s.transition target = (.ok (),{ s with status := target })) ∨
    (target ∉ permitted s.status s.priorActiveState ∧
      ∃ message type, s.transition target = (.error (.application message type),s)) := by
  unfold transition transitionInvestigationState
  by_cases allowed : target ∈ permitted s.status s.priorActiveState
  · exact .inl ⟨allowed,by rw [if_pos allowed]⟩
  · exact .inr ⟨allowed,_,_,by rw [if_neg allowed]⟩

theorem recordSpend_cases (s : WorkflowState) (usd : Decimal) :
    (∃ budget, s.recordSpend usd = (.ok (),{ s with budget := budget })) ∨
      ∃ message, s.recordSpend usd = (.error (.domain message),s) := by
  unfold recordSpend
  cases s.budget.recordSpend usd 1 with
  | ok budget => exact .inl ⟨budget,rfl⟩
  | error failure =>
    rcases failure with error | (_ | _)
    · exact .inr ⟨_,rfl⟩
    · exact .inr ⟨_,rfl⟩
    · exact .inr ⟨_,rfl⟩

end WorkflowState

/-- A workflow in execution: its object, what is left of its coroutine, and the
activities scheduled so far. -/
structure Execution where
  self : WorkflowState
  body : WorkflowProg InvestigationManifest
  scheduled : List InvestigationActivity := []

inductive WorkflowEvent : Type
  | pause (signal : PauseInvestigationSignal)
  | resume (signal : ResumeInvestigationSignal)
  | cancel (signal : CancelInvestigationSignal)
  | proceed (outcome : ActivityOutcome)

/-- The condition of an await: the wait of a gate needs the pause to be over or a cancellation. -/
def ready (s : WorkflowState) : WorkflowCall → Bool
  | .unpaused => !s.isPaused || s.isCancelled
  | _ => true

/-- The activity of an await, which is scheduled as the await begins. -/
def awaitedActivity : WorkflowProg InvestigationManifest → List InvestigationActivity
  | .await (.activity request) _ => [request]
  | _ => []

namespace Execution

def running (e : Execution) : Bool := e.body.pending.isSome

/-- A started workflow, before its first task. -/
def start (fromIso : String → Except InputFailure UtcDateTime) (workflowId : String)
    (input : InvestigationWorkflowInput) : Execution where
  self := {}
  body := do
    Prog.call WorkflowCall.begin
    InvestigationWorkflow.run fromIso workflowId input

/-- The awaited call is answered, and the coroutine runs on to its next await. -/
def proceed (e : Execution) (outcome : ActivityOutcome) : Execution :=
  match e.body with
  | .await c resume =>
    if ready e.self c then
      let (reply,self) := workflowServer.serve outcome c e.self
      let (body,self) := settle workflowServer outcome (resume reply) self
      ⟨self,body,e.scheduled ++ awaitedActivity body⟩
    else e
  | _ => e

/-- A closed workflow takes no signals. -/
def signalled (e : Execution) (handler : WorkflowState → WorkflowState) : Execution :=
  if e.running then { e with self := handler e.self } else e

def step (e : Execution) : WorkflowEvent → Execution
  | .pause signal => e.signalled (fun s => s.pauseInvestigation signal)
  | .resume signal => e.signalled (fun s => s.resumeInvestigation signal)
  | .cancel signal => e.signalled (fun s => s.cancelInvestigation signal)
  | .proceed outcome => e.proceed outcome

/-- The states of the object during one event, which end in the state after it. -/
def passes (e : Execution) : WorkflowEvent → List WorkflowState
  | .proceed outcome =>
    match e.body with
    | .await c resume =>
      if ready e.self c then
        let (reply,self) := workflowServer.serve outcome c e.self
        self :: passed workflowServer outcome (resume reply) self
      else []
    | _ => []
  | event => [(e.step event).self]

/-- What an answer does: nothing, or one stretch of the coroutine. -/
theorem proceed_cases (e : Execution) (outcome : ActivityOutcome) :
    (e.proceed outcome = e ∧ e.passes (.proceed outcome) = []) ∨
    ∃ c resume body s, e.body = .await c resume ∧ ready e.self c = true ∧
      settle workflowServer outcome (resume (workflowServer.serve outcome c e.self).1)
        (workflowServer.serve outcome c e.self).2 = (body,s) ∧
      e.proceed outcome = ⟨s,body,e.scheduled ++ awaitedActivity body⟩ ∧
      e.passes (.proceed outcome) = (workflowServer.serve outcome c e.self).2 ::
        passed workflowServer outcome (resume (workflowServer.serve outcome c e.self).1)
          (workflowServer.serve outcome c e.self).2 := by
  unfold proceed passes
  split
  next c resume waits =>
    by_cases answered : ready e.self c = true
    · simp only [if_pos answered]
      exact .inr ⟨c,resume,_,_,waits,answered,rfl,rfl,rfl⟩
    · simp only [if_neg answered]
      exact .inl ⟨trivial,trivial⟩
  next => exact .inl ⟨rfl,rfl⟩

/-- All states of the object in a run, in order. -/
def lifetime : Execution → List WorkflowEvent → List WorkflowState
  | e, [] => [e.self]
  | e, event :: events => e.self :: (e.passes event ++ (e.step event).lifetime events)

end Execution

/-- An input that the validation accepts. -/
def churnInput : InvestigationWorkflowInput where
  investigationId := "inv_001"
  tenantId := "tnt_alpha"
  principalId := "usr_1"
  metricName := "churn_rate"

def alphaTenant : TenantId := ⟨"tnt_alpha",Eq.refl true⟩

/-- Results for every activity, with a verdict of the verifier. -/
def resultsWith (verdict : String) : (request : InvestigationActivity) → request.Result
  | .validateScope _ => ()
  | .generatePlan _ => "plan_1"
  | .executeSql _ => "rows_1"
  | .executeRetrieval _ => "bundle_1"
  | .ingestTickets _ => ()
  | .synthesizeHypotheses _ => []
  | .verifyEvidence _ => ⟨verdict,some "hyp_1"⟩
  | .packageBundle input =>
    { investigationId := input.investigationId, tenantId := alphaTenant, topHypothesisId := input.topHypothesisId
      bundleDigest := "digest_1", cogsUsd := .ofCents 85, durationSeconds := 0, sealedAt := ⟨0⟩ }

end RevPilot.Investigation
