import RevPilot.Action.Saga.Reconciliation
import RevPilot.Action.Saga.Workflow

/-! What a run of the saga comes to. The steps up to the first that times out or
fails complete in order; that step decides the rest, and a timeout is settled by
the first conclusive answer of the provider. -/
namespace RevPilot.Action
open Library Shared Program SafeActionSagaWorkflow

/-- A step that neither times out nor fails. -/
def SagaStep.completes (step : SagaStep) : Bool :=
  !flagged step.payload "simulate_timeout" && !flagged step.payload "simulate_failure"

def SagaStep.entry (step : SagaStep) : CompletedStep := ⟨step.name,step.payload,some step.compensationAction⟩

def SagaStep.label (step : SagaStep) : String × Approval.Payload := (step.name,step.payload)

def completedBefore (steps : List SagaStep) : List SagaStep := steps.takeWhile SagaStep.completes

/-- The first step that does not complete, and the steps after it. -/
def remaining (steps : List SagaStep) : List SagaStep := steps.dropWhile SagaStep.completes

theorem completedBefore_remaining (steps : List SagaStep) : completedBefore steps ++ remaining steps = steps :=
  List.takeWhile_append_dropWhile

theorem remaining_cons {steps later : List SagaStep} {step : SagaStep} (stopped : remaining steps = step :: later) :
    step.completes = false := by
  have head := List.head?_dropWhile_not SagaStep.completes steps
  unfold remaining at stopped
  rw [stopped] at head
  simpa using head

section run
variable {V : Type} (env : SagaEnvironment V)

/-- The answer to one inquiry; without a query function every dispatch is confirmed. -/
def SagaEnvironment.answer (custom : Bool) (v : V) (provider key : String) :
    Except String ProviderInquiryResult × V :=
  if custom then env.inquire v provider key else (.ok { status := .confirmed },v)

/-- The first conclusive answer among at most `left` inquiries. -/
def SagaEnvironment.verdict (custom : Bool) (provider key : String) : Nat → V → ProviderTransactionStatus
  | 0, _ => .inconclusive
  | left + 1, v =>
    match (ReconciliationManager.settleAnswer (env.answer custom v provider key).1).status with
    | .confirmed => .confirmed
    | .noRecord => .noRecord
    | .inconclusive => verdict custom provider key left (env.answer custom v provider key).2

/-- The verdict of the inquiries for one intent. -/
def SagaEnvironment.dispatched (custom : Bool) (intent : ActionIntentRecord) (v : V) : ProviderTransactionStatus :=
  env.verdict custom "mock_logistics_v1" intent.idempotencyKey 3 v

/-- How a ledger record states a verdict. -/
def States (ledger : ActionLedgerRecord) : ProviderTransactionStatus → Prop
  | .confirmed => ledger.executionStatus = .reconciled
  | .noRecord => ledger.executionStatus = .providerError ∧ ledger.errorCode = some "FAILED_NO_DISPATCH"
  | .inconclusive => ledger.executionStatus = .timeoutUnknown

theorem queryFunction_exec (custom : Bool) (provider key : String) (w : SagaWorld V) :
    (queryFunction custom provider key).exec env.serve w =
      (.ok (env.answer custom w.outside provider key).1,
        { w with outside := (env.answer custom w.outside provider key).2 }) := by
  cases custom <;> rfl

/-- The inquiry loop returns a record of the verdict, and touches neither the
steps nor their compensations. -/
theorem inquiryLoop_spec (intent : ActionIntentRecord) (ledger : ActionLedgerRecord) (custom : Bool)
    (maxAttempts : Int) (readings : SagaReadings) (left : Nat) (last : ProviderInquiryResult) (w : SagaWorld V) :
    ∃ result after,
      (ReconciliationManager.inquiryLoop intent ledger (queryFunction custom) maxAttempts readings left last).exec
        env.serve w = (.ok result,after) ∧
      States result (env.verdict custom ledger.providerName ledger.idempotencyKey left w.outside) ∧
      after.completedSteps = w.completedSteps ∧ after.attempted = w.attempted := by
  induction left generalizing last w with
  | zero => exact ⟨_,_,rfl,rfl,rfl,rfl⟩
  | succ left ih =>
    simp only [ReconciliationManager.inquiryLoop,Prog.call_bind,Prog.exec_await,SagaEnvironment.serve,Prog.exec_bind,
      queryFunction_exec,SagaEnvironment.verdict]
    cases (ReconciliationManager.settleAnswer
      (env.answer custom w.outside ledger.providerName ledger.idempotencyKey).1).status with
    | confirmed => exact ⟨_,_,rfl,rfl,rfl,rfl⟩
    | noRecord => exact ⟨_,_,rfl,⟨rfl,rfl⟩,rfl,rfl⟩
    | inconclusive => exact ih _ _

theorem reconcileUnknown_spec (intent : ActionIntentRecord) (custom : Bool) (readings : SagaReadings)
    (w : SagaWorld V) :
    ∃ result after, (reconcileUnknown intent custom readings).exec env.serve w = (.ok result,after) ∧
      States result (env.dispatched custom intent w.outside) ∧
      after.completedSteps = w.completedSteps ∧ after.attempted = w.attempted := by
  unfold reconcileUnknown ReconciliationManager.reconcileUnknown
  exact inquiryLoop_spec env intent _ custom 3 readings 3 _ w

/-- The world after the steps of a prefix have completed. -/
def SagaWorld.advanced (w : SagaWorld V) (steps : List SagaStep) : SagaWorld V :=
  { w with completedSteps := w.completedSteps ++ steps.map SagaStep.label }

theorem forwardLoop_completed (intent : ActionIntentRecord) (custom : Bool) (readings : SagaReadings)
    (first rest : List SagaStep) (complete : ∀ step ∈ first, step.completes = true)
    (completed : List CompletedStep) (w : SagaWorld V) :
    (forwardLoop intent custom readings completed (first ++ rest)).exec env.serve w =
      (forwardLoop intent custom readings (completed ++ first.map SagaStep.entry) rest).exec env.serve
        (w.advanced first) := by
  induction first generalizing completed w with
  | nil => simp [SagaWorld.advanced]
  | cons step first ih =>
    have completes := complete step (List.mem_cons_self ..)
    simp only [SagaStep.completes,Bool.and_eq_true,Bool.not_eq_true'] at completes
    simp only [List.cons_append,forwardLoop,completes.1,completes.2,Bool.false_eq_true,if_false,Prog.call_bind,
      Prog.exec_await,SagaEnvironment.serve]
    rw [ih (fun later member => complete later (List.mem_cons_of_mem _ member))]
    simp [SagaWorld.advanced,SagaStep.entry,SagaStep.label]

/-- A saga is its completed steps and then the branch of the first other step. -/
theorem executeActionSaga_exec (intent : ActionIntentRecord) (steps : List SagaStep) (custom : Bool)
    (readings : SagaReadings) (w : SagaWorld V) :
    (executeActionSaga intent (some steps) custom readings).exec env.serve w =
      (forwardLoop intent custom readings ((completedBefore steps).map SagaStep.entry) (remaining steps)).exec
        env.serve (w.advanced (completedBefore steps)) := by
  have complete : ∀ step ∈ completedBefore steps, step.completes = true :=
    fun step member => List.mem_takeWhile_imp member
  have passed := forwardLoop_completed env intent custom readings _ (remaining steps) complete [] w
  rwa [completedBefore_remaining,List.nil_append] at passed

theorem saga_finished (intent : ActionIntentRecord) {steps : List SagaStep} (custom : Bool)
    (readings : SagaReadings) (w : SagaWorld V) (finished : remaining steps = []) :
    ∃ ledger after, (executeActionSaga intent (some steps) custom readings).exec env.serve w = (.ok ledger,after) ∧
      ledger.executionStatus = .success := by
  rw [executeActionSaga_exec,finished]
  exact ⟨_,_,rfl,rfl⟩

theorem saga_timedOut (intent : ActionIntentRecord) {steps later : List SagaStep} {step : SagaStep} (custom : Bool)
    (readings : SagaReadings) (w : SagaWorld V) (stopped : remaining steps = step :: later)
    (timeout : flagged step.payload "simulate_timeout" = true) :
    (executeActionSaga intent (some steps) custom readings).exec env.serve w =
      (reconcileUnknown intent custom readings).exec env.serve (w.advanced (completedBefore steps)) := by
  rw [executeActionSaga_exec,stopped]
  simp only [forwardLoop,timeout,if_true]

theorem saga_failed (intent : ActionIntentRecord) {steps later : List SagaStep} {step : SagaStep} (custom : Bool)
    (readings : SagaReadings) (w : SagaWorld V) (stopped : remaining steps = step :: later)
    (timely : flagged step.payload "simulate_timeout" = false) :
    (executeActionSaga intent (some steps) custom readings).exec env.serve w =
      (rollBack intent readings ((completedBefore steps).map SagaStep.entry)).exec env.serve
        (w.advanced (completedBefore steps)) := by
  have failure : flagged step.payload "simulate_failure" = true := by
    simpa [SagaStep.completes,timely] using remaining_cons stopped
  rw [executeActionSaga_exec,stopped]
  simp only [forwardLoop,timely,failure,Bool.false_eq_true,if_false,if_true]

/-- A failed forward step is compensated for, whatever the compensations came to. -/
theorem rollBack_exec (intent : ActionIntentRecord) (readings : SagaReadings) (completed : List CompletedStep)
    (w : SagaWorld V) (reversible : intent.classification ≠ .irreversible) :
    (rollBack intent readings completed).exec env.serve w =
      match (compensateEach intent.tenantId intent.intentId completed.reverse).exec env.serve w with
      | (.ok _,w') => (.ok (failedLedger intent readings .compensated "ERR_STEP_FAILED_COMPENSATED"),w')
      | (.error error,w') =>
        if isIrreversibleActionError error then
          (.ok (failedLedger intent readings .providerError "ERR_IRREVERSIBLE_MANUAL_REQUIRED"),w')
        else (.error error,w') := by
  simp only [rollBack,Prog.exec_handle,Prog.exec_bind,compensateSteps,Option.getD_some,reversible,if_false]
  rcases (compensateEach intent.tenantId intent.intentId completed.reverse).exec env.serve w with ⟨_ | records,w'⟩
  · simp only
    split <;> rfl
  · rfl

theorem rollBack_barred (intent : ActionIntentRecord) (readings : SagaReadings) (completed : List CompletedStep)
    (w : SagaWorld V) (irreversible : intent.classification = .irreversible) :
    ((rollBack intent readings completed).exec env.serve w).1 =
      .ok (failedLedger intent readings .providerError "ERR_IRREVERSIBLE_MANUAL_REQUIRED") := by
  simp only [rollBack,Prog.exec_handle,Prog.exec_bind,compensateSteps,irreversible]
  rfl

end run

section samples

def transferIntent : ActionIntentRecord where
  intentId := ⟨"01890a5d-ac96-774b-bcce-b302099a9001"⟩
  tenantId := ⟨"tnt_acme",Eq.refl true⟩
  approvalId := ⟨"01890a5d-ac96-774b-bcce-b302099a8057"⟩
  idempotencyKey := "idem-1"
  actionType := "TRANSFER"
  classification := .compensatable
  targetSetCount := 1
  payloadDigest := "9f86d081"
  createdAt := ⟨0⟩
  keyAccepted := idem_filled

def transferReadings : SagaReadings where
  ledgerId := ⟨"01890a5d-ac96-774b-bcce-b302099aa001"⟩
  recordId := ⟨"01890a5d-ac96-774b-bcce-b302099aa002"⟩
  eventId := ⟨"01890a5d-ac96-774b-bcce-b302099aa003"⟩
  fallbackIntentId := ⟨"01890a5d-ac96-774b-bcce-b302099aa004"⟩
  startedAt := ⟨0⟩
  reconcileStartedAt := ⟨1⟩
  inquiredAt := ⟨2⟩
  recordedAt := ⟨3⟩
  completedAt := ⟨4⟩

/-- A step whose payload carries one of the simulation flags. -/
def simulated (name flag : String) : SagaStep :=
  { name := name, compensationAction := "undo", payload := Dict.empty.set flag (.bool true) }

/-- One run of a transfer with the repository's activity and one answer to every inquiry. -/
def transferRun (answer : ProviderTransactionStatus) (steps : List SagaStep) :
    Except PyError ActionLedgerRecord × SagaWorld SagaActivityRegistry :=
  (executeActionSaga transferIntent (some steps) true transferReadings).exec
    (registryEnvironment transferReadings.recordId ⟨3⟩ answer).serve { outside := {} }

end samples
end RevPilot.Action
