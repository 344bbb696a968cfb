import RevPilot.Investigation.Workflow

/-! The budget of an investigation. `record_spend` compares with the hard stop alone;
the allocations bound only what the workflow itself can spend on its way. -/
namespace RevPilot.Investigation
open Library Shared Program Runs

structure SpendCall where
  usd : Decimal := .ofCents 0
  tokens : Nat := 0
  toolCalls : Nat := 0

/-- Decimal arithmetic in a method: a trapped signal is raised. -/
def trapping {A : Type} (outcome : Except Decimal.Signal A) : EStateM SpendFailure BudgetState A :=
  match outcome with
  | .ok value => pure value
  | .error signal => throw (.decimal signal)

/-- `record_spend` as it runs on the object, one assignment after the other. -/
def recordSpendOn (call : SpendCall) : EStateM SpendFailure BudgetState Unit := do
  let candidateUsd ← trapping ((← get).spentUsd.add call.usd)
  if ← trapping ((← get).hardStopUsd.lt candidateUsd) then
    let attempted := call.usd.toText
    let total := candidateUsd.toText
    let limit := (← get).hardStopUsd.toText
    throw (.budget (budgetExceededError
      s!"Recording spend of ${attempted} brings total ${total} over hard stop limit of ${limit}"
      [(.str "current_spent_usd",.str (← get).spentUsd.toText),(.str "attempted_usd",.str attempted),
        (.str "hard_stop_usd",.str limit)]))
  modify (fun budget => { budget with spentUsd := candidateUsd })
  modify (fun budget => { budget with spentTokens := budget.spentTokens + call.tokens })
  modify (fun budget => { budget with spentToolCalls := budget.spentToolCalls + call.toolCalls })

/-- The object after a call, accepted or raising. -/
def spendStep (budget : BudgetState) (call : SpendCall) : BudgetState :=
  match (recordSpendOn call).run budget with
  | .ok _ after => after
  | .error _ after => after

/-- All assignments are behind the last check. -/
theorem recordSpendOn_run (budget : BudgetState) (call : SpendCall) :
    (recordSpendOn call).run budget =
      match budget.recordSpend call.usd call.toolCalls call.tokens with
      | .ok after => .ok () after
      | .error failure => .error failure budget := by
  unfold BudgetState.recordSpend
  simp only [recordSpendOn,EStateM.run,bind,EStateM.bind,get,getThe,MonadStateOf.get,EStateM.get]
  cases added : budget.spentUsd.add call.usd with
  | error signal => rfl
  | ok candidate =>
    simp only [trapping,pure,EStateM.pure]
    cases compared : budget.hardStopUsd.lt candidate with
    | error signal =>
      simp only [compared,Except.mapError,Except.bind]
      rfl
    | ok stopped =>
      simp only [compared,Except.mapError,Except.bind]
      cases stopped with
      | false => rfl
      | true => rfl

def BudgetState.WithinHardStop (budget : BudgetState) : Prop := budget.hardStopUsd.lt budget.spentUsd = .ok false

instance (budget : BudgetState) : Decidable budget.WithinHardStop :=
  inferInstanceAs (Decidable (budget.hardStopUsd.lt budget.spentUsd = .ok false))

/-- No limit of the budget is exceeded. -/
structure BudgetState.WithinLimits (budget : BudgetState) : Prop where
  allocatedUsd : budget.allocatedUsd.lt budget.spentUsd = .ok false
  hardStopUsd : budget.WithinHardStop
  toolCalls : (budget.spentToolCalls : Int) ≤ budget.allocatedToolCalls

theorem validateBudgetBounds_iff (budget : BudgetState) :
    budget.validateBudgetBounds = .ok budget ↔ budget.WithinHardStop := by
  unfold BudgetState.validateBudgetBounds BudgetState.WithinHardStop
  cases budget.hardStopUsd.lt budget.spentUsd with
  | error signal => exact ⟨nofun,nofun⟩
  | ok exceeded =>
    cases exceeded with
    | false => exact ⟨fun _ => rfl,fun _ => rfl⟩
    | true => exact ⟨nofun,nofun⟩

/-- What an accepted call does. -/
theorem recordSpend_ok {budget after : BudgetState} {usd : Decimal} {toolCalls tokens : Nat}
    (accepted : budget.recordSpend usd toolCalls tokens = .ok after) :
    ∃ candidate, budget.spentUsd.add usd = .ok candidate ∧ budget.hardStopUsd.lt candidate = .ok false ∧
      after = { budget with spentUsd := candidate, spentTokens := budget.spentTokens + tokens
                            spentToolCalls := budget.spentToolCalls + toolCalls } := by
  unfold BudgetState.recordSpend at accepted
  cases added : budget.spentUsd.add usd with
  | error signal =>
    rw [added] at accepted
    cases accepted
  | ok candidate =>
    rw [added] at accepted
    cases compared : budget.hardStopUsd.lt candidate with
    | error signal =>
      simp only [Except.mapError,bind,Except.bind,compared] at accepted
      cases accepted
    | ok exceeded =>
      simp only [Except.mapError,bind,Except.bind,compared] at accepted
      cases exceeded with
      | false =>
        cases accepted
        exact ⟨candidate,rfl,compared,rfl⟩
      | true => cases accepted

theorem spendStep_cases (budget : BudgetState) (call : SpendCall) :
    (∃ after, budget.recordSpend call.usd call.toolCalls call.tokens = .ok after ∧ spendStep budget call = after) ∨
      ∃ failure, budget.recordSpend call.usd call.toolCalls call.tokens = .error failure ∧
        spendStep budget call = budget := by
  unfold spendStep
  rw [recordSpendOn_run]
  cases budget.recordSpend call.usd call.toolCalls call.tokens with
  | ok after => exact .inl ⟨after,rfl,rfl⟩
  | error failure => exact .inr ⟨failure,rfl,rfl⟩

theorem spendStep_withinHardStop (budget : BudgetState) (call : SpendCall) (within : budget.WithinHardStop) :
    (spendStep budget call).WithinHardStop := by
  rcases spendStep_cases budget call with ⟨after,accepted,same⟩ | ⟨_,_,same⟩
  · obtain ⟨candidate,_,passes,rfl⟩ := recordSpend_ok accepted
    rw [same]
    exact passes
  · rw [same]
    exact within

/-- The most that one run of the workflow spends: $1.45 and ten tool calls. -/
def workflowSpend : ℕ × ℕ := (145,10)

/-- The allocations cover all that the workflow spends. -/
structure BudgetState.Roomy (budget : BudgetState) : Prop where
  allocatedUsd : budget.allocatedUsd.lt (.ofCents workflowSpend.1) = .ok false
  toolCalls : (workflowSpend.2 : Int) ≤ budget.allocatedToolCalls

/-- What a call of the coroutine spends, in cents and tool calls. -/
def price : WorkflowCall → ℕ × ℕ → Prop
  | .recordSpend usd, cost => usd = .ofCents cost.1 ∧ cost.2 = 1
  | .setBudget budget, _ => budget.spentUsd = .ofCents 0 ∧ budget.spentToolCalls = 0 ∧
      budget.hardStopUsd = .ofCents 500 ∧ budget.Roomy
  | _, _ => True

/-- The budget with what the coroutine may still spend. -/
structure Affords (left : ℕ × ℕ) (budget : BudgetState) : Prop where
  hardStopUsd : budget.hardStopUsd = .ofCents 500
  roomy : budget.Roomy
  spent : ∃ cents, budget.spentUsd = .ofCents cents ∧ (cents,budget.spentToolCalls) + left ≤ workflowSpend

theorem Affords.less {left rest : ℕ × ℕ} {budget : BudgetState} (affords : Affords left budget) (less : rest ≤ left) :
    Affords rest budget := by
  obtain ⟨cents,spent,bound⟩ := affords.spent
  refine ⟨affords.hardStopUsd,affords.roomy,cents,spent,?_⟩
  rw [Prod.le_def] at *
  simp only [Prod.fst_add,Prod.snd_add] at *
  omega

theorem Affords.withinLimits {left : ℕ × ℕ} {budget : BudgetState} (affords : Affords left budget) :
    budget.WithinLimits := by
  obtain ⟨cents,spent,bound⟩ := affords.spent
  have few := affords.roomy.toolCalls
  rw [Prod.le_def] at bound
  simp only [Prod.fst_add,Prod.snd_add,workflowSpend] at bound few
  refine ⟨?_,?_,by omega⟩
  · rw [spent]
    exact Decimal.within_ofCents (b := workflowSpend.1) (by simp only [workflowSpend]; omega) affords.roomy.allocatedUsd
  · rw [BudgetState.WithinHardStop,affords.hardStopUsd,spent,Decimal.ofCents_lt]
    exact congrArg Except.ok (decide_eq_false (by omega))

/-- An affordable spend is accepted. -/
theorem Affords.recordSpend {left rest : ℕ × ℕ} {budget : BudgetState} {cents : ℕ} (affords : Affords left budget)
    (paid : (cents,1) + rest ≤ left) :
    ∃ after, budget.recordSpend (.ofCents cents) 1 = .ok after ∧ Affords rest after := by
  obtain ⟨before,spent,bound⟩ := affords.spent
  rw [Prod.le_def] at paid bound
  simp only [Prod.fst_add,Prod.snd_add,workflowSpend] at paid bound
  have added : budget.spentUsd.add (.ofCents cents) = .ok (.ofCents (before + cents)) := by
    rw [spent]
    exact Decimal.ofCents_add (by simp only [Decimal.precision]; omega)
  have compared : budget.hardStopUsd.lt (.ofCents (before + cents)) = .ok false := by
    rw [affords.hardStopUsd,Decimal.ofCents_lt]
    exact congrArg Except.ok (decide_eq_false (by omega))
  refine ⟨{ budget with spentUsd := .ofCents (before + cents), spentTokens := budget.spentTokens + 0
                        spentToolCalls := budget.spentToolCalls + 1 },?_,affords.hardStopUsd,
    ⟨affords.roomy.allocatedUsd,affords.roomy.toolCalls⟩,before + cents,rfl,?_⟩
  · unfold BudgetState.recordSpend
    simp only [added,compared,Except.mapError,bind,Except.bind]
    rfl
  · rw [Prod.le_def]
    simp only [Prod.fst_add,Prod.snd_add,workflowSpend]
    omega

theorem affords_serve (o : ActivityOutcome) (c : WorkflowCall) (s : WorkflowState) (cost rest left : ℕ × ℕ)
    (priced : price c cost) (paid : cost + rest ≤ left) (affords : Affords left s.budget) :
    Affords rest (workflowServer.serve o c s).2.budget := by
  have kept : Affords rest s.budget := affords.less (le_add_self.trans paid)
  cases c with
  | transition target =>
    have served : workflowServer.serve o (.transition target) s = s.transition target := rfl
    rcases s.transition_cases target with ⟨_,moved⟩ | ⟨_,_,_,refused⟩
    · rw [served,moved]
      exact kept
    · rw [served,refused]
      exact kept
  | setBudget budget =>
    obtain ⟨unspent,uncalled,hardStop,roomy⟩ := priced
    obtain ⟨cents,_,bound⟩ := kept.spent
    refine ⟨hardStop,roomy,0,unspent,?_⟩
    have served : (workflowServer.serve o (.setBudget budget) s).2.budget = budget := rfl
    rw [served,uncalled]
    calc ((0,0) : ℕ × ℕ) + rest
        = rest := zero_add rest
      _ ≤ (cents,s.budget.spentToolCalls) + rest := le_add_self
      _ ≤ workflowSpend := bound
  | recordSpend usd =>
    obtain ⟨rfl,one⟩ := priced
    have same : cost = (cost.1,1) := Prod.ext rfl one
    rw [same] at paid
    obtain ⟨after,accepted,afforded⟩ := affords.recordSpend paid
    have served : (workflowServer.serve o (.recordSpend (.ofCents cost.1)) s).2 = { s with budget := after } := by
      change (s.recordSpend (.ofCents cost.1)).2 = _
      rw [WorkflowState.recordSpend,accepted]
    rw [served]
    exact afforded
  | _ => exact kept

namespace InvestigationWorkflow

abbrev Free {A : Type} (prog : WorkflowProg A) : Prop := Metered price 0 prog

theorem free_await {A : Type} {c : WorkflowCall} {next : c.Reply → WorkflowProg A} {left : ℕ × ℕ}
    (unpriced : price c 0) (follows : ∀ reply, Metered price left (next reply)) :
    Metered price left (Prog.call c >>= next) := free_bind (metered_call unpriced) follows

theorem free_option {A B : Type} {next : Option A → WorkflowProg B} (nothing : Free (next none))
    (something : ∀ a, Free (next (some a))) (o : Option A) : Free (next o) := by
  cases o with
  | none => exact nothing
  | some a => exact something a

theorem free_transition (target : InvestigationStatus) : Free (transition target) := by
  refine free_await trivial ?_
  exact fun reply => metered_ofExcept reply 0

theorem free_stopCancelled : Free stopCancelled := by
  refine free_await trivial ?_
  exact fun _ => trivial

theorem free_afterWait : Free afterWait := by
  refine free_await trivial ?_
  intro cancelled
  cases cancelled with
  | false => exact free_await trivial (free_option trivial free_transition)
  | true =>
    apply free_bind (free_transition .cancelled)
    intro _
    apply free_bind free_stopCancelled
    intro _
    exact free_await trivial (free_option trivial free_transition)

theorem free_waitUnpaused : Free waitUnpaused := by
  have wait : Free (Prog.call WorkflowCall.unpaused >>= fun _ => afterWait) := by
    refine free_await trivial ?_
    exact fun _ => free_afterWait
  refine free_await trivial ?_
  intro status
  dsimp only
  split
  · refine free_await trivial ?_
    intro _
    exact free_bind (free_transition .paused) (fun _ => wait)
  · exact wait

theorem free_gate : Free checkPauseAndCancellation := by
  have paused : Free (do if ← Prog.call WorkflowCall.isPaused then waitUnpaused) := by
    refine free_await trivial ?_
    intro paused
    cases paused with
    | false => trivial
    | true => exact free_waitUnpaused
  have stopped : Free (stopCancelled >>= fun _ => do if ← Prog.call WorkflowCall.isPaused then waitUnpaused) :=
    free_bind free_stopCancelled (fun _ => paused)
  refine free_await trivial ?_
  intro cancelled
  cases cancelled with
  | false => exact paused
  | true =>
    refine free_await trivial ?_
    intro status
    dsimp only
    split
    · exact free_bind (free_transition .cancelled) (fun _ => stopped)
    · exact stopped

theorem free_runTask (request : InvestigationActivity) : Free (runTask request) := by
  refine free_await trivial ?_
  intro _
  refine free_await trivial ?_
  intro reply
  cases reply with
  | error message => trivial
  | ok result =>
    refine free_await trivial ?_
    exact fun _ => trivial

theorem metered_spend (cents : ℕ) : Metered price (cents,1) (spend (.ofCents cents)) := by
  have paid : price (.recordSpend (.ofCents cents)) (cents,1) := ⟨rfl,rfl⟩
  have both : Metered price ((cents,1) + 0) (spend (.ofCents cents)) := by
    refine metered_bind (metered_call paid) ?_
    intro reply
    exact metered_ofExcept reply 0
  rwa [add_zero] at both

theorem metered_stage {A : Type} {request : InvestigationActivity} {cents : ℕ} {left : ℕ × ℕ}
    {next : request.Result → WorkflowProg A} (rest : ∀ result, Metered price left (next result)) :
    Metered price ((cents,1) + left) (do
      let result ← runTask request
      spend (.ofCents cents)
      checkPauseAndCancellation
      next result) := by
  apply free_bind (free_runTask request)
  intro result
  apply metered_bind (metered_spend cents)
  intro _
  exact free_bind free_gate (fun _ => rest result)

theorem free_concludeLoop (loopCount : Nat) (verified : VerificationResult) : Free (concludeLoop loopCount verified) := by
  unfold concludeLoop
  split
  · trivial
  · split
    · split
      · exact free_bind (free_transition .needMoreEvidence) (fun _ => trivial)
      · trivial
    · apply free_bind (free_transition .failed)
      intro _
      refine free_await trivial ?_
      exact fun _ => trivial

/-- One round of evidence costs $0.60 and four tool calls. -/
theorem metered_evidenceLoop (input : InvestigationWorkflowInput) (planId : String) (left : Nat)
    (digests : List String) : Metered price (left • (60,4)) (evidenceLoop input planId left digests) := by
  induction left generalizing digests with
  | zero => trivial
  | succ left ih =>
    have round : (left + 1) • ((60,4) : ℕ × ℕ) = (10,1) + ((15,1) + ((10,1) + ((25,1) + left • (60,4)))) := by
      rw [Prod.ext_iff]
      simp only [Prod.smul_fst,Prod.smul_snd,Prod.fst_add,Prod.snd_add,smul_eq_mul]
      omega
    rw [evidenceLoop,round]
    apply free_bind (free_transition .gatheringEvidence)
    intro _
    refine free_await trivial ?_
    intro _
    apply free_bind free_gate
    intro _
    apply metered_stage
    intro rowDigest
    apply metered_stage
    intro bundleDigest
    apply metered_stage
    intro _
    apply metered_stage
    intro hypotheses
    apply free_bind (free_transition .verifying)
    intro _
    refine free_await trivial ?_
    intro _
    apply free_bind (free_runTask _)
    intro verified
    apply free_bind (free_concludeLoop _ verified)
    intro found
    cases found with
    | some top => trivial
    | none => exact ih _

theorem free_packageEvidence (input : InvestigationWorkflowInput) (top : Option String) (digests : List String) :
    Free (packageEvidence input top digests) := by
  have completed (manifest : InvestigationManifest) :
      Free (do Prog.call (WorkflowCall.setStep "SEALED"); pure manifest) := by
    refine free_await trivial ?_
    exact fun _ => trivial
  refine free_await trivial ?_
  intro _
  refine free_await trivial ?_
  intro cogs
  apply free_bind (free_runTask _)
  intro manifest
  refine free_await trivial ?_
  intro _
  refine free_await trivial ?_
  intro status
  dsimp only
  split
  · exact free_bind (free_transition .completed) (fun _ => completed manifest)
  · exact completed manifest

theorem metered_investigate (input : InvestigationWorkflowInput) : Metered price workflowSpend (investigate input) := by
  have total : workflowSpend = (5,1) + ((20,1) + (2 • (60,4) + 0)) := rfl
  rw [total]
  apply metered_stage
  intro _
  refine free_await trivial ?_
  intro _
  apply metered_stage
  intro planId
  apply metered_bind (metered_evidenceLoop input planId 2 [])
  intro gathered
  apply free_bind free_gate
  exact fun _ => free_packageEvidence input gathered.1 gathered.2

theorem free_onFailure (failure : WorkflowFailure) : Free (onFailure failure) := by
  have handled (text : String) : Free (reportFailure text) := by
    refine free_await trivial ?_
    exact fun _ => trivial
  obtain ⟨message,type,rfl,raised⟩ | ⟨_,run⟩ := onFailure_cases failure
  · rw [raised]
    trivial
  · rw [run]
    refine free_await trivial ?_
    intro status
    dsimp only
    split
    · refine free_await trivial ?_
      intro reply
      cases reply with
      | ok _ => exact handled failure.text
      | error _ =>
        refine free_await trivial ?_
        exact fun _ => handled failure.text
    · exact handled failure.text

/-- Along every path the workflow spends no more than `workflowSpend`. -/
theorem metered_run (fromIso : String → Except InputFailure UtcDateTime) (workflowId : String)
    (input : InvestigationWorkflowInput) (roomy : (input.costBudgetUsd.lt (.ofCents workflowSpend.1)) = .ok false)
    (calls : (workflowSpend.2 : Int) ≤ input.toolCallBudget) :
    Metered price workflowSpend (run fromIso workflowId input) := by
  refine free_await ⟨rfl,rfl,rfl,roomy,calls⟩ ?_
  intro _
  cases input.validate fromIso workflowId with
  | error failure =>
    change Metered price workflowSpend (refuseInput failure)
    unfold refuseInput
    dsimp only
    split
    · refine free_await trivial ?_
      intro _
      exact free_bind (free_transition .failed) (fun _ => trivial)
    · trivial
  | ok _ =>
    apply free_bind free_gate
    intro _
    apply free_bind (free_transition .planning)
    intro _
    refine free_await trivial ?_
    intro _
    have handled := metered_handle (metered_investigate input) free_onFailure
    rwa [add_zero] at handled

end InvestigationWorkflow

theorem affords_signal {left : ℕ × ℕ} {s : WorkflowState} (affords : Affords left s.budget) :
    (∀ signal, Affords left (s.pauseInvestigation signal).budget) ∧
      (∀ signal, Affords left (s.resumeInvestigation signal).budget) ∧
        ∀ signal, Affords left (s.cancelInvestigation signal).budget := by
  refine ⟨?_,?_,?_⟩
  · intro signal
    rcases s.pauseInvestigation_cases signal with ⟨_,same⟩ | ⟨_,⟨_,same⟩ | ⟨_,same⟩⟩
    · rwa [same]
    · rwa [same]
    · rwa [same]
  · intro signal
    rcases s.resumeInvestigation_cases signal with ⟨_,same⟩ | ⟨_,same⟩
    · rwa [same]
    · rwa [same]
  · intro signal
    rcases s.cancelInvestigation_cases signal with ⟨_,same⟩ | ⟨_,same⟩
    · rwa [same]
    · rwa [same]

namespace Execution
open InvestigationWorkflow

/-- The coroutine is metered by what its budget still affords. -/
def Solvent (e : Execution) : Prop := ∃ left, Metered price left e.body ∧ Affords left e.self.budget

theorem start_solvent (fromIso : String → Except InputFailure UtcDateTime) (workflowId : String)
    {input : InvestigationWorkflowInput} (roomy : input.costBudgetUsd.lt (.ofCents workflowSpend.1) = .ok false)
    (calls : (workflowSpend.2 : Int) ≤ input.toolCallBudget) : (start fromIso workflowId input).Solvent := by
  have fresh : Affords workflowSpend ({} : BudgetState) :=
    ⟨rfl,⟨Decimal.ofCents_lt 200 145,by decide⟩,0,rfl,by decide⟩
  refine ⟨workflowSpend,?_,fresh⟩
  refine free_await trivial ?_
  exact fun _ => metered_run fromIso workflowId input roomy calls

theorem signalled_solvent {e : Execution} {handler : WorkflowState → WorkflowState}
    (keeps : ∀ left, Affords left e.self.budget → Affords left (handler e.self).budget) (solvent : e.Solvent) :
    (e.signalled handler).Solvent := by
  obtain ⟨left,metered,affords⟩ := solvent
  unfold signalled
  split
  · exact ⟨left,metered,keeps left affords⟩
  · exact ⟨left,metered,affords⟩

/-- One event, and the budgets on its way. -/
theorem step_solvent {e : Execution} (solvent : e.Solvent) (event : WorkflowEvent) :
    (e.step event).Solvent ∧ ∀ s ∈ e.passes event, s.budget.WithinLimits := by
  have signals {handler : WorkflowState → WorkflowState}
      (keeps : ∀ left, Affords left e.self.budget → Affords left (handler e.self).budget) :
      (e.signalled handler).Solvent ∧ ∀ s ∈ [(e.signalled handler).self], s.budget.WithinLimits := by
    refine ⟨signalled_solvent keeps solvent,?_⟩
    obtain ⟨left,_,affords⟩ := signalled_solvent keeps solvent
    intro s only
    rw [List.mem_singleton.mp only]
    exact affords.withinLimits
  cases event with
  | pause signal => exact signals (fun _ affords => (affords_signal affords).1 signal)
  | resume signal => exact signals (fun _ affords => (affords_signal affords).2.1 signal)
  | cancel signal => exact signals (fun _ affords => (affords_signal affords).2.2 signal)
  | proceed outcome =>
    change (e.proceed outcome).Solvent ∧ _
    rcases e.proceed_cases outcome with ⟨same,empty⟩ | ⟨c,resume,body,s,waits,_,settled,moved,passes⟩
    · rw [same,empty]
      exact ⟨solvent,fun _ none => nomatch none⟩
    · obtain ⟨left,metered,affords⟩ := solvent
      rw [waits] at metered
      obtain ⟨cost,rest,priced,paid,follows⟩ := metered
      have served := affords_serve outcome c e.self cost rest left priced paid affords
      have stretch := settle_metered (I := fun left (s : WorkflowState) => Affords left s.budget) affords_serve
        (follows (workflowServer.serve outcome c e.self).1) served outcome
      rw [settled] at stretch
      rw [moved,passes]
      refine ⟨stretch.1,?_⟩
      intro s' member
      rcases List.mem_cons.mp member with rfl | member
      · exact served.withinLimits
      · obtain ⟨_,affords⟩ := stretch.2 s' member
        exact affords.withinLimits

theorem lifetime_withinLimits {e : Execution} (solvent : e.Solvent) (events : List WorkflowEvent) :
    ∀ s ∈ e.lifetime events, s.budget.WithinLimits := by
  have now (e : Execution) (solvent : e.Solvent) : e.self.budget.WithinLimits := by
    obtain ⟨_,_,affords⟩ := solvent
    exact affords.withinLimits
  induction events generalizing e with
  | nil =>
    intro s only
    rw [List.mem_singleton.mp only]
    exact now e solvent
  | cons event events ih =>
    intro s member
    have stepped := step_solvent solvent event
    rcases List.mem_cons.mp member with rfl | later
    · exact now e solvent
    · rcases List.mem_append.mp later with passed | later
      · exact stepped.2 s passed
      · exact ih stepped.1 s later

end Execution

/-- Calls keep the hard stop and raise before their first assignment; the workflow keeps
every limit of a request that allots $1.45 and ten tool calls. -/
theorem spending_limited :
    (∀ budget : BudgetState, budget.validateBudgetBounds = .ok budget → ∀ calls : List SpendCall,
      Always spendStep BudgetState.WithinHardStop budget calls) ∧
    (∀ (budget after : BudgetState) (call : SpendCall) (failure : SpendFailure),
      (recordSpendOn call).run budget = .error failure after → after = budget) ∧
    (∀ (fromIso : String → Except InputFailure UtcDateTime) (workflowId : String) (input : InvestigationWorkflowInput)
      (events : List WorkflowEvent), input.costBudgetUsd.lt (.ofCents 145) = .ok false → 10 ≤ input.toolCallBudget →
      ∀ s ∈ (Execution.start fromIso workflowId input).lifetime events, s.budget.WithinLimits) := by
  refine ⟨?_,?_,?_⟩
  · intro budget valid calls
    have always (s : BudgetState) (call : SpendCall) (within : s.WithinHardStop) (_ : True) :
        (spendStep s call).WithinHardStop := spendStep_withinHardStop s call within
    apply invariant_always spendStep (P := fun _ _ => True) always ((validateBudgetBounds_iff budget).mp valid)
    rw [along_iff]
    exact fun _ _ _ _ => trivial
  · intro budget after call failure raises
    rw [recordSpendOn_run] at raises
    cases outcome : budget.recordSpend call.usd call.toolCalls call.tokens with
    | ok spent =>
      rw [outcome] at raises
      cases raises
    | error error =>
      rw [outcome] at raises
      cases raises
      rfl
  · intro fromIso workflowId input events roomy calls
    exact Execution.lifetime_withinLimits (Execution.start_solvent fromIso workflowId roomy calls) events

/-- A default budget, ten cents and one tool call, and a run with two loops. -/
theorem default_spending_limited :
    Always spendStep BudgetState.WithinHardStop {} [⟨.ofCents 10,0,1⟩] ∧
      (∀ after, (recordSpendOn ⟨.ofCents 501,0,1⟩).run {} = .error (.decimal .overflow) after → after = {}) ∧
      ∀ s ∈ (Execution.start (fun _ => .error .overflow) "" churnInput).lifetime
        (List.replicate 13 (.proceed (fun request => .ok (resultsWith "NEED_MORE_EVIDENCE" request)))),
        s.budget.WithinLimits :=
  ⟨spending_limited.1 {} ((validateBudgetBounds_iff _).mpr (Decimal.ofCents_lt 500 0)) _,
    fun after raises => spending_limited.2.1 {} after _ _ raises,
    spending_limited.2.2 (fun _ => .error .overflow) "" churnInput _ (Decimal.ofCents_lt 200 145) (by decide)⟩

/-- $2.50 and 21 tool calls on the default allocations of $2.00 and 20 calls are accepted, and
so is all that the workflow spends on a request for $1.00 and three calls. -/
theorem allocations_exceeded :
    (¬ ∀ budget : BudgetState, budget.validateBudgetBounds = .ok budget → ∀ calls : List SpendCall,
      (∀ call ∈ calls, call.usd.nonNegative = true) → Always spendStep BudgetState.WithinLimits budget calls) ∧
    let found : WorkflowEvent := .proceed (fun request => .ok (resultsWith "NEED_MORE_EVIDENCE" request))
    let input := { churnInput with costBudgetUsd := .ofCents 100, toolCallBudget := 3 }
    let budget := (run Execution.step (Execution.start (fun _ => .error .overflow) "" input)
      (List.replicate 13 found)).self.budget
    (budget.allocatedUsd,budget.spentUsd) = (.ofCents 100,.ofCents 145) ∧
      (budget.allocatedToolCalls,budget.spentToolCalls) = (3,10) := by
  refine ⟨?_,by decide +kernel⟩
  intro all
  have within : ({} : BudgetState).WithinHardStop := Decimal.ofCents_lt 500 0
  have kept := all {} ((validateBudgetBounds_iff _).mpr within) [⟨.ofCents 250,0,21⟩]
    (by simp [Decimal.nonNegative,Decimal.ofCents]) [⟨.ofCents 250,0,21⟩] [] rfl
  have calls := kept.toolCalls
  revert calls
  decide +kernel

end RevPilot.Investigation
