import RevPilot.Action.Saga.Forward

/-! What a saga leaves behind when a step times out. The verdict of the inquiry is
the saga's result: the steps after the timed-out one are not run, and those before
it are not compensated for. -/
namespace RevPilot.Action
open Library Shared Program SafeActionSagaWorkflow

section saga
variable {V : Type} (env : SagaEnvironment V)

/-- Every step ran, the last of them the one that the provider confirmed. -/
def AllExecuted (steps : List SagaStep) (before after : SagaWorld V) : Prop :=
  ∃ done confirmed, after.completedSteps = before.completedSteps ++ done ∧
    steps.map SagaStep.label = done ++ [confirmed]

/-- Every completed step had its compensation attempted. -/
def AllAttempted (intent : ActionIntentRecord) (steps : List SagaStep) (before after : SagaWorld V) : Prop :=
  ∃ attempts, after.attempted = before.attempted ++ attempts ∧
    ∀ step ∈ completedBefore steps, compensationRequest intent.tenantId intent.intentId step.entry ∈ attempts

/-- What the two verdicts of an inquiry promise about the steps. -/
def Settled (intent : ActionIntentRecord) (steps : List SagaStep) (ledger : ActionLedgerRecord)
    (before after : SagaWorld V) : Prop :=
  (ledger.executionStatus = .reconciled → AllExecuted steps before after) ∧
  (ledger.executionStatus = .providerError → ledger.errorCode = some "FAILED_NO_DISPATCH" →
    AllAttempted intent steps before after)

theorem allExecuted_iff {steps later : List SagaStep} {step : SagaStep} {before after : SagaWorld V}
    (stopped : remaining steps = step :: later)
    (advanced : after.completedSteps = before.completedSteps ++ (completedBefore steps).map SagaStep.label) :
    AllExecuted steps before after ↔ later = [] := by
  have whole : steps.map SagaStep.label =
      (completedBefore steps).map SagaStep.label ++ (step.label :: later.map SagaStep.label) := by
    rw [← List.map_cons,← List.map_append,← stopped,completedBefore_remaining]
  constructor
  · rintro ⟨done,confirmed,recorded,all⟩
    have same : (completedBefore steps).map SagaStep.label = done :=
      List.append_cancel_left (advanced.symm.trans recorded)
    rw [whole,← same] at all
    have last := List.append_cancel_left all
    simpa using (List.cons.inj last).2
  · intro last
    rw [last] at whole
    exact ⟨_,_,advanced,whole⟩

theorem allAttempted_iff {intent : ActionIntentRecord} {steps : List SagaStep} {before after : SagaWorld V}
    (untouched : after.attempted = before.attempted) :
    AllAttempted intent steps before after ↔ completedBefore steps = [] := by
  constructor
  · rintro ⟨attempts,appended,all⟩
    have none : attempts = [] := by simpa [untouched] using appended
    rw [none] at all
    exact List.eq_nil_iff_forall_not_mem.mpr fun step member => List.not_mem_nil (all step member)
  · intro first
    exact ⟨[],by rw [untouched,List.append_nil],by simp [first]⟩

/-- A rollback's record is none of an inquiry. -/
theorem rollBack_settled (intent : ActionIntentRecord) (readings : SagaReadings) (completed : List CompletedStep)
    (w : SagaWorld V) {ledger : ActionLedgerRecord}
    (returned : ((rollBack intent readings completed).exec env.serve w).1 = .ok ledger) :
    ledger.executionStatus ≠ .reconciled ∧ ledger.errorCode ≠ some "FAILED_NO_DISPATCH" := by
  by_cases reversible : intent.classification = .irreversible
  · rw [rollBack_barred env intent readings completed w reversible] at returned
    cases returned
    simp [failedLedger]
  · rw [rollBack_exec env intent readings completed w reversible] at returned
    split at returned
    · cases returned
      simp [failedLedger]
    · split at returned
      · cases returned
        simp [failedLedger]
      · cases returned

/-- The verdicts keep their promise exactly when a confirmed step was the last one
and an undispatched step the first one. -/
theorem timeout_settled_iff (intent : ActionIntentRecord) (steps : List SagaStep) (custom : Bool)
    (readings : SagaReadings) (w : SagaWorld V) :
    (∀ ledger, ((executeActionSaga intent (some steps) custom readings).exec env.serve w).1 = .ok ledger →
      Settled intent steps ledger w ((executeActionSaga intent (some steps) custom readings).exec env.serve w).2) ↔
    ∀ step later, remaining steps = step :: later → flagged step.payload "simulate_timeout" = true →
      match env.dispatched custom intent w.outside with
      | .confirmed => later = []
      | .noRecord => completedBefore steps = []
      | .inconclusive => True := by
  cases stopped : remaining steps with
  | nil =>
    obtain ⟨ledger,after,outcome,success⟩ := saga_finished env intent custom readings w stopped
    simp [outcome,Settled,success]
  | cons step later =>
    cases timely : flagged step.payload "simulate_timeout" with
    | false =>
      rw [saga_failed env intent custom readings w stopped timely]
      refine iff_of_true ?_ ?_
      · intro ledger returned
        have other := rollBack_settled env intent readings _ _ returned
        exact ⟨fun reconciled => absurd reconciled other.1,fun _ undispatched => absurd undispatched other.2⟩
      · intro other rest same timeout
        cases same
        rw [timely] at timeout
        cases timeout
    | true =>
      rw [saga_timedOut env intent custom readings w stopped timely]
      obtain ⟨ledger,after,outcome,stated,advanced,untouched⟩ := reconcileUnknown_spec env intent custom readings
        (w.advanced (completedBefore steps))
      have executed : AllExecuted steps w after ↔ later = [] := allExecuted_iff stopped advanced
      have attempted : AllAttempted intent steps w after ↔ completedBefore steps = [] := allAttempted_iff untouched
      change States ledger (env.dispatched custom intent w.outside) at stated
      rw [outcome]
      revert stated
      cases env.dispatched custom intent w.outside with
      | confirmed =>
        intro reconciled
        simp [Settled,show ledger.executionStatus = _ from reconciled,executed,timely]
      | noRecord =>
        intro undispatched
        simp [Settled,undispatched.1,undispatched.2,attempted,timely]
      | inconclusive =>
        intro unknown
        simp [Settled,show ledger.executionStatus = _ from unknown]

end saga

section samples

def timeoutBetween : List SagaStep :=
  [{ name := "debit", compensationAction := "credit" },simulated "ship" "simulate_timeout",
    { name := "notify", compensationAction := "retract" }]

/-- A timeout between two steps: confirmed, the later one is never run;
undispatched, the earlier one is never compensated for. -/
theorem timeout_strands_steps :
    ¬ (∀ ledger, (transferRun .confirmed timeoutBetween).1 = .ok ledger →
      Settled transferIntent timeoutBetween ledger { outside := {} } (transferRun .confirmed timeoutBetween).2) ∧
    ¬ (∀ ledger, (transferRun .noRecord timeoutBetween).1 = .ok ledger →
      Settled transferIntent timeoutBetween ledger { outside := {} } (transferRun .noRecord timeoutBetween).2) := by
  constructor
  · intro settled
    obtain ⟨done,confirmed,recorded,all⟩ := (settled _ rfl).1 rfl
    have once : done.length = 1 := (congrArg List.length recorded).symm
    have count := congrArg List.length all
    rw [List.length_append,once] at count
    cases count
  · intro settled
    obtain ⟨attempts,appended,all⟩ := (settled _ rfl).2 rfl rfl
    have none : attempts = [] := appended.symm
    rw [none] at all
    cases all _ (List.mem_cons_self ..)

end samples
end RevPilot.Action
