import RevPilot.Investigation.Control

/-! Pauses. A pause that is resumed before the awaited task completes leaves no trace
but its texts; one that is still open then makes the coroutine leave the wait of a gate
by a transition to the status the resume has already restored, which no state permits. -/
namespace RevPilot.Investigation
open Library Shared Program Runs

/-- What the activities return, by the number of tasks completed before. -/
abbrev ActivityResults := Nat → (request : InvestigationActivity) → request.Result

inductive PauseTurn : Type
  | pause (signal : PauseInvestigationSignal)
  | resume (signal : ResumeInvestigationSignal)
  | tick

def pauseAfter (paused : Bool) : PauseTurn → Bool
  | .pause _ => true
  | .resume _ => false
  | .tick => paused

/-- Whether the last signal of a schedule is a pause. -/
def openPause (schedule : List PauseTurn) : Bool := schedule.foldl pauseAfter false

def succeedAt (results : ActivityResults) (s : WorkflowState) : ActivityOutcome :=
  fun request => .ok (results s.completedTasks request)

/-- How a workflow has ended: its status and the manifest it returned. -/
def ending (body : WorkflowProg InvestigationManifest) (s : WorkflowState) :
    InvestigationStatus × Option InvestigationManifest :=
  match body with
  | .ret manifest => (s.status,some manifest)
  | _ => (s.status,none)

/-- The answer ends the run as `FAILED`, paused or not. -/
def dooms (refused : Bool) : (c : WorkflowCall) → c.Reply → Bool
  | .begin, _ => refused
  | .activity (.verifyEvidence _), .ok verified =>
    verified.status != "VERIFIED" && verified.status != "NEED_MORE_EVIDENCE"
  | _, _ => false

def InvestigationWorkflowInput.refused (fromIso : String → Except InputFailure UtcDateTime) (workflowId : String)
    (input : InvestigationWorkflowInput) : Bool :=
  match input.validate fromIso workflowId with
  | .ok () => false
  | .error failure => failure.isCaught

namespace Execution

def turn (results : ActivityResults) (e : Execution) : PauseTurn → Execution
  | .pause signal => e.step (.pause signal)
  | .resume signal => e.step (.resume signal)
  | .tick => e.step (.proceed (succeedAt results e.self))

/-- No await is answered while the workflow is paused, but for an answer that ends the
run as `FAILED` either way. -/
def Timely (refused : Bool) (results : ActivityResults) (e : Execution) : PauseTurn → Prop
  | .tick => e.self.isPaused = true → ∀ c, e.body.pending = some c →
      dooms refused c (workflowServer.serve (succeedAt results e.self) c e.self).1 = true
  | _ => True

end Execution

/-- The calls of a coroutine that is never paused. -/
def untouched : WorkflowCall → Bool
  | .unpaused => false
  | .priorActiveState => false
  | .setPriorActiveState _ => false
  | .transition target => target != .paused
  | .setStatus state => state != .paused
  | _ => true

/-- The state of an unpaused workflow next to one whose pauses are over. -/
def Shadow (s t : WorkflowState) : Prop :=
  t.isPaused = false ∧ t.isCancelled = false ∧ t.status ≠ .paused ∧ ∃ prior reason actor,
    s = { t with priorActiveState := prior, pauseReason := reason, pausedBy := actor }

/-- The same, under an open pause. -/
def Overlay (s t : WorkflowState) : Prop :=
  t.isPaused = false ∧ t.isCancelled = false ∧ t.status ≠ .paused ∧ ∃ reason actor,
    s = { t with status := .paused, isPaused := true, priorActiveState := some t.status
                 pauseReason := reason, pausedBy := actor }

/-- The replies to an unpaused workflow in a status. -/
def Fits (status : InvestigationStatus) : (c : WorkflowCall) → c.Reply → Prop
  | .isPaused, reply => reply = false
  | .isCancelled, reply => reply = false
  | .status, reply => reply = status
  | _, _ => True

/-- The status behind a call. -/
def statusAfter (status : InvestigationStatus) : (c : WorkflowCall) → c.Reply → InvestigationStatus
  | .transition target, .ok () => target
  | .setStatus state, _ => state
  | _, _ => status

/-- The coroutine raises before its next await, and leaves the status `FAILED` if it can. -/
def Fails {A : Type} (prog : WorkflowProg A) : Prop :=
  ∀ o s, .failed ∈ permitted s.status s.priorActiveState →
    ∃ error s', settle workflowServer o prog s = (.raise error,s') ∧ s'.status = .failed

/-- Unpaused, the coroutine makes untouched calls only and returns as `post` says, and
an answer that dooms it makes it fail. -/
def Clear {A : Type} (refused : Bool) (post : A → InvestigationStatus → Prop) :
    WorkflowProg A → InvestigationStatus → Prop
  | .ret value, status => post value status
  | .raise _, _ => True
  | .await c resume, status => untouched c = true ∧ ∀ reply, Fits status c reply →
      Clear refused post (resume reply) (statusAfter status c reply) ∧
        (dooms refused c reply = true → status ∈ activeStates ∧ Fails (resume reply))

theorem permitted_unpaused {status : InvestigationStatus} (active : status ≠ .paused)
    (prior : Option InvestigationStatus) : permitted status prior = staticPermittedTransitions status := by
  unfold permitted
  rw [if_neg active]

/-- Unpaused, the object answers as its shadow does. -/
theorem shadow_serve {s t : WorkflowState} (shadow : Shadow s t) {c : WorkflowCall} (plain : untouched c = true)
    (o : ActivityOutcome) :
    (workflowServer.serve o c s).1 = (workflowServer.serve o c t).1 ∧
      Shadow (workflowServer.serve o c s).2 (workflowServer.serve o c t).2 ∧
      Fits t.status c (workflowServer.serve o c t).1 ∧
      statusAfter t.status c (workflowServer.serve o c t).1 = (workflowServer.serve o c t).2.status := by
  obtain ⟨unpaused,live,active,prior,reason,actor,rfl⟩ := shadow
  have kept : Shadow { t with priorActiveState := prior, pauseReason := reason, pausedBy := actor } t :=
    ⟨unpaused,live,active,prior,reason,actor,rfl⟩
  cases c with
  | transition target =>
    have other : target ≠ .paused := by simpa [untouched] using plain
    have moves (s : WorkflowState) (same : s.status = t.status) : workflowServer.serve o (.transition target) s =
        if target ∈ staticPermittedTransitions t.status then (.ok (),{ s with status := target })
        else (.error (.application (invalidStateTransitionError t.status target
          (staticPermittedTransitions t.status)).message "ERR_INVALID_STATE_TRANSITION"),s) := by
      change s.transition target = _
      unfold WorkflowState.transition transitionInvestigationState
      rw [same,permitted_unpaused active]
      by_cases allowed : target ∈ staticPermittedTransitions t.status
      · simp only [if_pos allowed]
      · simp only [if_neg allowed]
    rw [moves { t with priorActiveState := prior, pauseReason := reason, pausedBy := actor } rfl,moves t rfl]
    split
    · exact ⟨rfl,⟨unpaused,live,other,prior,reason,actor,rfl⟩,trivial,rfl⟩
    · exact ⟨rfl,kept,trivial,rfl⟩
  | recordSpend usd =>
    have spends (s : WorkflowState) (same : s.budget = t.budget) :
        workflowServer.serve o (.recordSpend usd) s = { s with budget := t.budget }.recordSpend usd := by
      rw [← same]
      rfl
    rw [spends { t with priorActiveState := prior, pauseReason := reason, pausedBy := actor } rfl,spends t rfl]
    unfold WorkflowState.recordSpend
    cases spent : t.budget.recordSpend usd 1 with
    | error failure => exact ⟨rfl,kept,trivial,rfl⟩
    | ok budget => exact ⟨rfl,⟨unpaused,live,active,prior,reason,actor,rfl⟩,trivial,rfl⟩
  | setStatus state =>
    have other : state ≠ .paused := by simpa [untouched] using plain
    exact ⟨rfl,⟨unpaused,live,other,prior,reason,actor,rfl⟩,trivial,rfl⟩
  | unpaused => cases plain
  | priorActiveState => cases plain
  | setPriorActiveState _ => cases plain
  | isCancelled => exact ⟨rfl,kept,live,rfl⟩
  | isPaused => exact ⟨rfl,kept,unpaused,rfl⟩
  | status => exact ⟨rfl,kept,rfl,rfl⟩
  | _ => exact ⟨rfl,⟨unpaused,live,active,prior,reason,actor,rfl⟩,trivial,rfl⟩

section clear
variable {A B : Type} {refused : Bool}

theorem fails_bind {prog : WorkflowProg A} (fails : Fails prog) (next : A → WorkflowProg B) :
    Fails (prog >>= next) := by
  intro o s allowed
  obtain ⟨error,s',settled,failed⟩ := fails o s allowed
  exact ⟨error,s',settle_bind_raise settled,failed⟩

theorem clear_bind {post : B → InvestigationStatus → Prop} {prog : WorkflowProg A} {next : A → WorkflowProg B}
    {status : InvestigationStatus}
    (clear : Clear refused (fun value status => Clear refused post (next value) status) prog status) :
    Clear refused post (prog >>= next) status := by
  induction prog generalizing status with
  | ret value => exact clear
  | raise error => trivial
  | await c resume ih =>
    refine ⟨clear.1,?_⟩
    intro reply fits
    have after := clear.2 reply fits
    refine ⟨ih reply after.1,?_⟩
    intro doomed
    have ends := after.2 doomed
    exact ⟨ends.1,fails_bind ends.2 next⟩

theorem clear_call {c : WorkflowCall} {post : c.Reply → InvestigationStatus → Prop} {status : InvestigationStatus}
    (plain : untouched c = true) (harmless : ∀ reply, dooms refused c reply = false)
    (holds : ∀ reply, Fits status c reply → post reply (statusAfter status c reply)) :
    Clear refused post (Prog.call c) status := by
  refine ⟨plain,?_⟩
  intro reply fits
  refine ⟨holds reply fits,?_⟩
  intro doomed
  rw [harmless] at doomed
  cases doomed

theorem clear_transition {post : Unit → InvestigationStatus → Prop} {target status : InvestigationStatus}
    (other : target ≠ .paused) (holds : post () target) :
    Clear refused post (InvestigationWorkflow.transition target) status := by
  apply clear_bind
  apply clear_call (by simpa [untouched] using other) (fun _ => rfl)
  intro reply _
  cases reply with
  | ok _ => exact holds
  | error _ => trivial

theorem clear_spend {post : Unit → InvestigationStatus → Prop} {usd : Decimal} {status : InvestigationStatus}
    (holds : post () status) : Clear refused post (InvestigationWorkflow.spend usd) status := by
  apply clear_bind
  apply clear_call rfl (fun _ => rfl)
  intro reply _
  cases reply with
  | ok _ => exact holds
  | error _ => trivial

/-- An unpaused workflow walks through the gate. -/
theorem clear_gate {post : Unit → InvestigationStatus → Prop} {status : InvestigationStatus}
    (holds : post () status) : Clear refused post InvestigationWorkflow.checkPauseAndCancellation status := by
  apply clear_bind
  apply clear_call rfl (fun _ => rfl)
  rintro _ rfl
  apply clear_bind
  apply clear_call rfl (fun _ => rfl)
  rintro _ rfl
  exact holds

/-- A verifying activity dooms the run by its verdict, the others never do. -/
def verifies : InvestigationActivity → Bool
  | .verifyEvidence _ => true
  | _ => false

theorem clear_runTask {request : InvestigationActivity} {post : request.Result → InvestigationStatus → Prop}
    {status : InvestigationStatus} (other : verifies request = false) (holds : ∀ result, post result status) :
    Clear refused post (InvestigationWorkflow.runTask request) status := by
  apply clear_bind
  apply clear_call rfl (fun _ => rfl)
  intro _ _
  apply clear_bind
  apply clear_call rfl
  · intro reply
    cases request with
    | verifyEvidence _ => cases other
    | _ => rfl
  intro reply _
  cases reply with
  | error message => trivial
  | ok result =>
    change Clear refused post (Prog.call WorkflowCall.endTask >>= fun _ => .ret result) status
    apply clear_bind
    apply clear_call rfl (fun _ => rfl)
    exact fun _ _ => holds result

theorem clear_stage {request : InvestigationActivity} {usd : Decimal} {next : request.Result → WorkflowProg A}
    {post : A → InvestigationStatus → Prop} {status : InvestigationStatus} (other : verifies request = false)
    (rest : ∀ result, Clear refused post (next result) status) :
    Clear refused post (do
      let result ← InvestigationWorkflow.runTask request
      InvestigationWorkflow.spend usd
      InvestigationWorkflow.checkPauseAndCancellation
      next result) status := by
  apply clear_bind
  apply clear_runTask other
  intro result
  apply clear_bind
  apply clear_spend
  apply clear_bind
  apply clear_gate
  exact rest result

theorem clear_onFailure {post : InvestigationManifest → InvestigationStatus → Prop} (failure : WorkflowFailure)
    (status : InvestigationStatus) : Clear refused post (InvestigationWorkflow.onFailure failure) status := by
  have handled (text : String) (status : InvestigationStatus) :
      Clear refused post (InvestigationWorkflow.reportFailure text) status := by
    apply clear_bind
    apply clear_call rfl (fun _ => rfl)
    exact fun _ _ => trivial
  obtain ⟨message,type,rfl,raised⟩ | ⟨_,run⟩ := InvestigationWorkflow.onFailure_cases failure
  · rw [raised]
    trivial
  · rw [run]
    apply clear_bind
    apply clear_call rfl (fun _ => rfl)
    intro known _
    dsimp only
    split
    · apply clear_bind
      apply clear_call rfl (fun _ => rfl)
      intro reply _
      cases reply with
      | ok _ => exact handled failure.text _
      | error _ =>
        apply clear_bind
        apply clear_call rfl (fun _ => rfl)
        exact fun _ _ => handled failure.text _
    · exact handled failure.text _

/-- The exception handler leaves a failed run failed. -/
theorem fails_handle {prog : WorkflowProg InvestigationManifest} (fails : Fails prog) :
    Fails (prog.handle InvestigationWorkflow.onFailure) := by
  have keeps (failure : WorkflowFailure) (o : ActivityOutcome) (s : WorkflowState) (failed : s.status = .failed) :
      ∃ error s', settle workflowServer o (InvestigationWorkflow.onFailure failure) s = (.raise error,s') ∧
        s'.status = .failed := by
    obtain ⟨message,type,rfl,raised⟩ | ⟨_,run⟩ := InvestigationWorkflow.onFailure_cases failure
    · rw [raised]
      exact ⟨_,s,rfl,failed⟩
    · rw [run]
      have rests : settle workflowServer o (InvestigationWorkflow.failRun failure.text) s =
          (.raise (.application s!"Workflow unhandled failure: {failure.text}" "ERR_WORKFLOW_EXECUTION_FAILURE"),
            { s with errorCode := some "ERR_WORKFLOW_EXECUTION_FAILURE", errorMessage := some failure.text }) := by
        simp [InvestigationWorkflow.failRun,InvestigationWorkflow.reportFailure,settle,workflowServer,
          WorkflowCall.suspends,WorkflowState.serve,failed,Prog.call]
      exact ⟨_,_,rests,failed⟩
  intro o s allowed
  obtain ⟨error,s',settled,failed⟩ := fails o s allowed
  obtain ⟨error',s'',handled,still⟩ := keeps error o s' failed
  exact ⟨error',s'',(settle_handle_raise settled).trans handled,still⟩

theorem clear_handle {post : InvestigationManifest → InvestigationStatus → Prop}
    {prog : WorkflowProg InvestigationManifest} {status : InvestigationStatus} (clear : Clear refused post prog status) :
    Clear refused post (prog.handle InvestigationWorkflow.onFailure) status := by
  induction prog generalizing status with
  | ret value => exact clear
  | raise error => exact clear_onFailure error status
  | await c resume ih =>
    refine ⟨clear.1,?_⟩
    intro reply fits
    have after := clear.2 reply fits
    refine ⟨ih reply after.1,?_⟩
    intro doomed
    have ends := after.2 doomed
    exact ⟨ends.1,fails_handle ends.2⟩

/-- A synchronous call that leaves the control fields alone does not save the run. -/
theorem fails_await {c : WorkflowCall} {resume : c.Reply → WorkflowProg A} (synchronous : c.suspends = false)
    (keeps : ∀ o s, (workflowServer.serve o c s).2.control = s.control) (fails : ∀ reply, Fails (resume reply)) :
    Fails (.await c resume) := by
  intro o s allowed
  have status : (workflowServer.serve o c s).2.status = s.status := congrArg Control.status (keeps o s)
  have prior : (workflowServer.serve o c s).2.priorActiveState = s.priorActiveState :=
    congrArg Control.priorActiveState (keeps o s)
  rw [← status,← prior] at allowed
  have awaited : ¬ workflowServer.suspends c = true := by simpa [workflowServer] using synchronous
  rw [settle,if_neg awaited]
  exact fails _ o _ allowed

theorem fails_transition {next : Unit → WorkflowProg A} (rest : ∀ o s, s.status = .failed →
      ∃ error s', settle workflowServer o (next ()) s = (.raise error,s') ∧ s'.status = .failed) :
    Fails (InvestigationWorkflow.transition .failed >>= next) := by
  intro o s allowed
  have awaited : ¬ workflowServer.suspends (.transition .failed) = true := fun flagged => nomatch flagged
  have served : workflowServer.serve o (.transition .failed) s = s.transition .failed := rfl
  rcases s.transition_cases .failed with ⟨_,moved⟩ | ⟨never,_⟩
  · unfold InvestigationWorkflow.transition
    rw [Prog.call_bind,Prog.await_bind,settle,if_neg awaited,served,moved]
    exact rest o _ rfl
  · exact absurd allowed never

theorem fails_refuted {loopCount : Nat} {verified : VerificationResult} {input : VerificationInput}
    (refuted : dooms refused (.activity (.verifyEvidence input)) (.ok verified) = true) :
    Fails (InvestigationWorkflow.concludeLoop loopCount verified) := by
  have verdict : verified.status ≠ "VERIFIED" ∧ verified.status ≠ "NEED_MORE_EVIDENCE" := by
    simpa [dooms] using refuted
  unfold InvestigationWorkflow.concludeLoop
  rw [if_neg verdict.1,if_neg verdict.2]
  apply fails_transition
  intro o s failed
  exact ⟨_,{ s with errorCode := some "ERR_VERIFICATION_REFUTED"
                    errorMessage := some "All root cause hypotheses refuted" },rfl,failed⟩

/-- The verdict and the branch on it. -/
theorem clear_verify {input : VerificationInput} {loopCount : Nat} {next : Option (Option String) → WorkflowProg A}
    {post : A → InvestigationStatus → Prop} (breaks : ∀ top status, Clear refused post (next (some top)) status)
    (loops : Clear refused post (next none) .verifying) :
    Clear refused post (do
      let verified ← InvestigationWorkflow.runTask (.verifyEvidence input)
      let found ← InvestigationWorkflow.concludeLoop loopCount verified
      next found) .verifying := by
  have concluded (verified : VerificationResult) : Clear refused post (do
      let found ← InvestigationWorkflow.concludeLoop loopCount verified
      next found) .verifying := by
    apply clear_bind
    unfold InvestigationWorkflow.concludeLoop
    split
    · exact breaks _ _
    · split
      · split
        · apply clear_bind
          apply clear_transition (by decide)
          exact breaks _ _
        · exact loops
      · apply clear_bind
        apply clear_transition (by decide)
        apply clear_bind
        apply clear_call rfl (fun _ => rfl)
        exact fun _ _ => trivial
  refine ⟨rfl,fun _ _ => ⟨⟨rfl,?_⟩,fun doomed => nomatch doomed⟩⟩
  intro reply _
  cases reply with
  | error message => exact ⟨trivial,fun doomed => nomatch doomed⟩
  | ok verified =>
    refine ⟨⟨rfl,fun _ _ => ⟨concluded verified,fun doomed => nomatch doomed⟩⟩,?_⟩
    intro refuted
    refine ⟨by simp [statusAfter,activeStates],fails_await rfl (fun _ _ => rfl) ?_⟩
    exact fun _ => fails_bind (fails_refuted refuted) next

theorem clear_evidenceLoop {post : Option String × List String → InvestigationStatus → Prop}
    (holds : ∀ found status, post found status) (input : InvestigationWorkflowInput) (planId : String) (left : Nat)
    (digests : List String) (status : InvestigationStatus) :
    Clear refused post (InvestigationWorkflow.evidenceLoop input planId left digests) status := by
  induction left generalizing digests status with
  | zero => exact holds _ _
  | succ left ih =>
    rw [InvestigationWorkflow.evidenceLoop]
    apply clear_bind
    apply clear_transition (by decide)
    apply clear_bind
    apply clear_call rfl (fun _ => rfl)
    intro _ _
    apply clear_bind
    apply clear_gate
    apply clear_stage rfl
    intro rowDigest
    apply clear_stage rfl
    intro bundleDigest
    apply clear_stage rfl
    intro _
    apply clear_stage rfl
    intro hypotheses
    apply clear_bind
    apply clear_transition (by decide)
    apply clear_bind
    apply clear_call rfl (fun _ => rfl)
    intro _ _
    apply clear_verify
    · exact fun top status => holds _ _
    · exact ih _ _

theorem clear_packageEvidence (input : InvestigationWorkflowInput) (top : Option String) (digests : List String)
    (status : InvestigationStatus) :
    Clear refused (fun _ _ => True) (InvestigationWorkflow.packageEvidence input top digests) status := by
  have sealed (manifest : InvestigationManifest) (status : InvestigationStatus) :
      Clear refused (fun _ _ => True) (do Prog.call (WorkflowCall.setStep "SEALED"); pure manifest) status := by
    apply clear_bind
    apply clear_call rfl (fun _ => rfl)
    exact fun _ _ => trivial
  apply clear_bind
  apply clear_call rfl (fun _ => rfl)
  intro _ _
  apply clear_bind
  apply clear_call rfl (fun _ => rfl)
  intro cogs _
  apply clear_bind
  apply clear_runTask rfl
  intro manifest
  apply clear_bind
  apply clear_call rfl (fun _ => rfl)
  intro _ _
  apply clear_bind
  apply clear_call rfl (fun _ => rfl)
  intro known _
  dsimp only
  split
  · apply clear_bind
    apply clear_transition (by decide)
    exact sealed manifest _
  · exact sealed manifest _

theorem clear_investigate (input : InvestigationWorkflowInput) (status : InvestigationStatus) :
    Clear refused (fun _ _ => True) (InvestigationWorkflow.investigate input) status := by
  apply clear_stage rfl
  intro _
  apply clear_bind
  apply clear_call rfl (fun _ => rfl)
  intro _ _
  apply clear_stage rfl
  intro planId
  apply clear_bind
  apply clear_evidenceLoop
  intro gathered status
  apply clear_bind
  apply clear_gate
  exact clear_packageEvidence input gathered.1 gathered.2 status

end clear

theorem clear_run (refused : Bool) (fromIso : String → Except InputFailure UtcDateTime) (workflowId : String)
    (input : InvestigationWorkflowInput) (status : InvestigationStatus) :
    Clear refused (fun _ _ => True) (InvestigationWorkflow.run fromIso workflowId input) status := by
  apply clear_bind
  apply clear_call rfl (fun _ => rfl)
  intro _ _
  cases input.validate fromIso workflowId with
  | error failure =>
    change Clear refused _ (InvestigationWorkflow.refuseInput failure) status
    unfold InvestigationWorkflow.refuseInput
    dsimp only
    split
    · apply clear_bind
      apply clear_call rfl (fun _ => rfl)
      intro _ _
      apply clear_bind
      apply clear_transition (by decide)
      trivial
    · trivial
  | ok _ =>
    apply clear_bind
    apply clear_gate
    apply clear_bind
    apply clear_transition (by decide)
    apply clear_bind
    apply clear_call rfl (fun _ => rfl)
    intro _ _
    exact clear_handle (clear_investigate input _)

theorem fails_run {fromIso : String → Except InputFailure UtcDateTime} {workflowId : String}
    {input : InvestigationWorkflowInput} (refused : input.refused fromIso workflowId = true) :
    Fails (InvestigationWorkflow.run fromIso workflowId input) := by
  unfold InvestigationWorkflowInput.refused at refused
  refine fails_await rfl (fun _ _ => rfl) ?_
  intro _
  cases verdict : input.validate fromIso workflowId with
  | ok _ =>
    rw [verdict] at refused
    cases refused
  | error failure =>
    rw [verdict] at refused
    change Fails (InvestigationWorkflow.refuseInput failure)
    unfold InvestigationWorkflow.refuseInput
    dsimp only
    rw [if_pos refused]
    refine fails_await rfl (fun _ _ => rfl) ?_
    intro _
    apply fails_transition
    exact fun o s failed => ⟨_,s,rfl,failed⟩

/-- The coroutine of a started workflow, with the two answers that doom it. -/
theorem clear_start (fromIso : String → Except InputFailure UtcDateTime) (workflowId : String)
    (input : InvestigationWorkflowInput) :
    Clear (input.refused fromIso workflowId) (fun _ _ => True) (Execution.start fromIso workflowId input).body
      .initializing := by
  refine ⟨rfl,?_⟩
  intro _ _
  refine ⟨clear_run _ fromIso workflowId input _,?_⟩
  intro refused
  exact ⟨by simp [activeStates],fails_run refused⟩

/-- The coroutine that runs alone, every activity answered in turn. -/
def finish (results : ActivityResults) (body : WorkflowProg InvestigationManifest) (s : WorkflowState) :
    InvestigationStatus × Option InvestigationManifest :=
  let ended := body.exec (fun c s => workflowServer.serve (succeedAt results s) c s) s
  (ended.2.status,ended.1.toOption)

section finish
variable {results : ActivityResults}

theorem finish_settle (o : ActivityOutcome) (body : WorkflowProg InvestigationManifest) (s : WorkflowState) :
    finish results (settle workflowServer o body s).1 (settle workflowServer o body s).2 = finish results body s := by
  have agrees : ∀ c s, workflowServer.suspends c = false →
      workflowServer.serve o c s = workflowServer.serve (succeedAt results s) c s := by
    intro c s synchronous
    cases c with
    | activity request => cases synchronous
    | _ => rfl
  unfold finish
  rw [exec_settle agrees]

theorem finish_closed {body : WorkflowProg InvestigationManifest} (closed : body.pending = none) (s : WorkflowState) :
    finish results body s = ending body s := by
  cases body with
  | ret manifest => rfl
  | raise error => rfl
  | await c resume => cases closed

/-- A stretch from an object and from its shadow is the same. -/
theorem shadow_settle {refused : Bool} {A : Type} {post : A → InvestigationStatus → Prop} {body : WorkflowProg A}
    {s t : WorkflowState} (shadow : Shadow s t) (clear : Clear refused post body t.status) (o : ActivityOutcome) :
    (settle workflowServer o body s).1 = (settle workflowServer o body t).1 ∧
      Shadow (settle workflowServer o body s).2 (settle workflowServer o body t).2 ∧
      Clear refused post (settle workflowServer o body t).1 (settle workflowServer o body t).2.status := by
  induction body generalizing s t with
  | ret value => exact ⟨rfl,shadow,clear⟩
  | raise error => exact ⟨rfl,shadow,clear⟩
  | await c resume ih =>
    unfold settle
    by_cases awaited : workflowServer.suspends c = true
    · rw [if_pos awaited,if_pos awaited]
      exact ⟨rfl,shadow,clear⟩
    · rw [if_neg awaited,if_neg awaited]
      obtain ⟨replies,later,fits,status⟩ := shadow_serve shadow clear.1 o
      rw [replies]
      apply ih _ later
      rw [← status]
      exact (clear.2 _ fits).1

theorem shadow_status {s t : WorkflowState} (shadow : Shadow s t) : s.status = t.status := by
  obtain ⟨_,_,_,_,_,_,rfl⟩ := shadow
  rfl

theorem shadow_self {s t : WorkflowState} (shadow : Shadow s t) : Shadow s s := by
  obtain ⟨unpaused,live,active,prior,reason,actor,rfl⟩ := shadow
  exact ⟨unpaused,live,active,prior,reason,actor,rfl⟩

theorem untouched_ready {c : WorkflowCall} (plain : untouched c = true) (s : WorkflowState) : ready s c = true := by
  cases c with
  | unpaused => cases plain
  | _ => rfl

theorem paused_permits_failed (prior : Option InvestigationStatus) : .failed ∈ permitted .paused prior := by
  cases prior with
  | none => simp [permitted]
  | some state => by_cases active : state ∈ activeStates <;> simp [permitted,active]

theorem active_permits_failed {status : InvestigationStatus} (active : status ∈ activeStates)
    (prior : Option InvestigationStatus) : .failed ∈ permitted status prior := by
  simp only [activeStates,List.mem_cons,List.not_mem_nil,or_false] at active
  rcases active with rfl | rfl | rfl | rfl <;> simp [permitted,staticPermittedTransitions]

theorem pause_shadow {s t : WorkflowState} (shadow : Shadow s t) (signal : PauseInvestigationSignal) :
    Shadow (s.pauseInvestigation signal) t ∨ Overlay (s.pauseInvestigation signal) t := by
  have status := shadow_status shadow
  rcases s.pauseInvestigation_cases signal with ⟨_,ignored⟩ | ⟨_,⟨already,_⟩ | ⟨_,paused⟩⟩
  · rw [ignored]
    exact .inl shadow
  · exact absurd (status.symm.trans already) shadow.2.2.1
  · obtain ⟨unpaused,live,active,prior,reason,actor,rfl⟩ := shadow
    rw [paused]
    exact .inr ⟨unpaused,live,active,some signal.reason,some signal.pausedBy,rfl⟩

theorem pause_overlay {s t : WorkflowState} (overlay : Overlay s t) (signal : PauseInvestigationSignal) :
    Overlay (s.pauseInvestigation signal) t := by
  obtain ⟨unpaused,live,active,reason,actor,rfl⟩ := overlay
  exact ⟨unpaused,live,active,some signal.reason,some signal.pausedBy,rfl⟩

theorem resume_shadow {s t : WorkflowState} (shadow : Shadow s t) (signal : ResumeInvestigationSignal) :
    Shadow (s.resumeInvestigation signal) t := by
  have status := shadow_status shadow
  rcases s.resumeInvestigation_cases signal with ⟨_,ignored⟩ | ⟨paused,_⟩
  · rw [ignored]
    exact shadow
  · exact absurd (status.symm.trans paused) shadow.2.2.1

/-- A resume puts back the status the pause has found. -/
theorem resume_overlay {s t : WorkflowState} (overlay : Overlay s t) (signal : ResumeInvestigationSignal) :
    Shadow (s.resumeInvestigation signal) t := by
  obtain ⟨unpaused,live,active,reason,actor,rfl⟩ := overlay
  refine ⟨unpaused,live,active,some t.status,reason,actor,?_⟩
  simp [WorkflowState.resumeInvestigation,unpaused]

theorem ending_status (body : WorkflowProg InvestigationManifest) {s t : WorkflowState} (same : s.status = t.status) :
    ending body s = ending body t := by
  cases body <;> simp [ending,same]

end finish

namespace Execution
variable {refused : Bool} {results : ActivityResults} {target : InvestigationStatus × Option InvestigationManifest}

/-- The workflow has ended as the target says, or will if no signal comes any more; a
pause is open only if the flag says so. -/
def Heads (refused : Bool) (results : ActivityResults) (target : InvestigationStatus × Option InvestigationManifest)
    (paused : Bool) (e : Execution) : Prop :=
  (e.running = false ∧ ending e.body e.self = target) ∨
    e.running = true ∧ ∃ t, (Shadow e.self t ∨ paused = true ∧ Overlay e.self t) ∧
      Clear refused (fun _ _ => True) e.body t.status ∧ finish results e.body t = target

theorem signalled_heads {paused paused' : Bool} {e : Execution} {handler : WorkflowState → WorkflowState}
    (signals : ∀ t, (Shadow e.self t ∨ paused = true ∧ Overlay e.self t) →
      (Shadow (handler e.self) t ∨ paused' = true ∧ Overlay (handler e.self) t))
    (heads : Heads refused results target paused e) : Heads refused results target paused' (e.signalled handler) := by
  unfold signalled
  rcases heads with ⟨closed,ended⟩ | ⟨runs,t,mirrors,clear,finishes⟩
  · rw [if_neg (by simp [closed])]
    exact .inl ⟨closed,ended⟩
  · rw [if_pos runs]
    exact .inr ⟨runs,t,signals t mirrors,clear,finishes⟩

theorem pause_heads {paused : Bool} {e : Execution} (heads : Heads refused results target paused e)
    (signal : PauseInvestigationSignal) : Heads refused results target true (e.step (.pause signal)) := by
  have mirrors : ∀ t, (Shadow e.self t ∨ paused = true ∧ Overlay e.self t) →
      (Shadow (e.self.pauseInvestigation signal) t ∨ true = true ∧ Overlay (e.self.pauseInvestigation signal) t) := by
    intro t mirrors
    rcases mirrors with shadow | ⟨_,overlay⟩
    · rcases pause_shadow shadow signal with kept | covered
      · exact .inl kept
      · exact .inr ⟨rfl,covered⟩
    · exact .inr ⟨rfl,pause_overlay overlay signal⟩
  exact signalled_heads mirrors heads

theorem resume_heads {paused : Bool} {e : Execution} (heads : Heads refused results target paused e)
    (signal : ResumeInvestigationSignal) : Heads refused results target false (e.step (.resume signal)) := by
  have mirrors : ∀ t, (Shadow e.self t ∨ paused = true ∧ Overlay e.self t) →
      (Shadow (e.self.resumeInvestigation signal) t ∨
        false = true ∧ Overlay (e.self.resumeInvestigation signal) t) := by
    intro t mirrors
    rcases mirrors with shadow | ⟨_,overlay⟩
    · exact .inl (resume_shadow shadow signal)
    · exact .inl (resume_overlay overlay signal)
  exact signalled_heads mirrors heads

/-- An answer to an unpaused workflow: the stretch its shadow runs. -/
theorem shadow_tick {paused : Bool} {e : Execution} {t : WorkflowState} (runs : e.running = true)
    (shadow : Shadow e.self t) (clear : Clear refused (fun _ _ => True) e.body t.status)
    (finishes : finish results e.body t = target) : Heads refused results target paused (e.turn results .tick) := by
  change Heads refused results target paused (e.proceed (succeedAt results e.self))
  have oracle : succeedAt results e.self = succeedAt results t := by
    obtain ⟨_,_,_,_,_,_,same⟩ := shadow
    rw [same]
    rfl
  rcases e.proceed_cases (succeedAt results e.self) with ⟨idle,_⟩ | ⟨c,resume,body,s,waits,_,settled,moved,_⟩
  · rw [idle]
    exact .inr ⟨runs,t,.inl shadow,clear,finishes⟩
  · rw [waits] at clear finishes
    obtain ⟨replies,later,fits,status⟩ := shadow_serve shadow clear.1 (succeedAt results e.self)
    have after := (clear.2 _ fits).1
    rw [status] at after
    rw [replies] at settled
    obtain ⟨same,mirrors,still⟩ := shadow_settle later after (succeedAt results e.self)
    rw [settled] at same mirrors
    have ends : finish results body (settle workflowServer (succeedAt results e.self)
        (resume (workflowServer.serve (succeedAt results e.self) c t).1)
        (workflowServer.serve (succeedAt results e.self) c t).2).2 = target := by
      rw [← finishes,show body = _ from same,finish_settle,oracle]
      rfl
    rw [← same] at still
    rw [moved]
    cases pending : body.pending with
    | none =>
      refine .inl ⟨by simp [running,pending],?_⟩
      rw [finish_closed pending] at ends
      rw [ending_status body (shadow_status mirrors)]
      exact ends
    | some c => exact .inr ⟨by simp [running,pending],_,.inl mirrors,still,ends⟩

theorem proceed_answered {e : Execution} {c : WorkflowCall} {resume : c.Reply → WorkflowProg InvestigationManifest}
    {outcome : ActivityOutcome} (waits : e.body = .await c resume) (answered : ready e.self c = true) :
    e.proceed outcome =
      ⟨(settle workflowServer outcome (resume (workflowServer.serve outcome c e.self).1)
          (workflowServer.serve outcome c e.self).2).2,
        (settle workflowServer outcome (resume (workflowServer.serve outcome c e.self).1)
          (workflowServer.serve outcome c e.self).2).1,
        e.scheduled ++ awaitedActivity (settle workflowServer outcome (resume (workflowServer.serve outcome c e.self).1)
          (workflowServer.serve outcome c e.self).2).1⟩ := by
  unfold proceed
  simp only [waits,answered,if_true]

/-- An answer that dooms the run ends it under a pause as it ends it without. -/
theorem overlay_tick {paused : Bool} {e : Execution} {t : WorkflowState} (runs : e.running = true)
    (overlay : Overlay e.self t) (clear : Clear refused (fun _ _ => True) e.body t.status)
    (finishes : finish results e.body t = target)
    (doomed : ∀ c, e.body.pending = some c →
      dooms refused c (workflowServer.serve (succeedAt results e.self) c e.self).1 = true) :
    Heads refused results target paused (e.turn results .tick) := by
  change Heads refused results target paused (e.proceed (succeedAt results e.self))
  obtain ⟨unpaused,live,active,reason,actor,same⟩ := overlay
  have oracle : succeedAt results e.self = succeedAt results t := by
    rw [same]
    rfl
  cases waits : e.body with
  | ret manifest => simp [running,waits,Prog.pending] at runs
  | raise error => simp [running,waits,Prog.pending] at runs
  | await c resume =>
    rw [waits] at clear finishes
    have dooms := doomed c (by rw [waits]; rfl)
    -- the call is the start or the verdict, and reads nothing of the object
    have plain : ∀ s, workflowServer.serve (succeedAt results e.self) c s =
        ((workflowServer.serve (succeedAt results e.self) c e.self).1,s) := by
      intro s
      cases c with
      | begin => rfl
      | activity request => rfl
      | _ => cases dooms
    have answered : ready e.self c = true := untouched_ready clear.1 e.self
    have fits : Fits t.status c (workflowServer.serve (succeedAt results e.self) c e.self).1 := by
      cases c with
      | begin => trivial
      | activity request => trivial
      | _ => cases dooms
    obtain ⟨phase,fails⟩ := (clear.2 _ fits).2 dooms
    have covered : .failed ∈ permitted e.self.status e.self.priorActiveState := by
      rw [same]
      exact paused_permits_failed (some t.status)
    obtain ⟨error,s,settled,failed⟩ := fails (succeedAt results e.self) e.self covered
    obtain ⟨error',u,baseline,failed'⟩ := fails (succeedAt results e.self) t (active_permits_failed phase _)
    have ends : target = (.failed,none) := by
      have alone : finish results (.await c resume) t =
          finish results (resume (workflowServer.serve (succeedAt results e.self) c e.self).1) t := by
        unfold finish
        rw [Prog.exec_await,← oracle,plain t]
      rw [← finishes,alone,← finish_settle (succeedAt results e.self),baseline,finish_closed rfl]
      simp [ending,failed']
    rw [proceed_answered waits answered,plain e.self,settled]
    exact .inl ⟨rfl,by rw [ends]; simp [ending,failed]⟩

theorem closed_tick {e : Execution} (closed : e.running = false) : e.turn results .tick = e := by
  change e.proceed (succeedAt results e.self) = e
  rcases e.proceed_cases (succeedAt results e.self) with ⟨idle,_⟩ | ⟨c,resume,_,_,waits,_⟩
  · exact idle
  · simp [running,waits,Prog.pending] at closed

theorem turn_heads {paused : Bool} {e : Execution} (heads : Heads refused results target paused e) (turn : PauseTurn)
    (timely : e.Timely refused results turn) :
    Heads refused results target (pauseAfter paused turn) (e.turn results turn) := by
  cases turn with
  | pause signal => exact pause_heads heads signal
  | resume signal => exact resume_heads heads signal
  | tick =>
    rcases heads with ⟨closed,ended⟩ | ⟨runs,t,shadow | ⟨_,overlay⟩,clear,finishes⟩
    · rw [closed_tick closed]
      exact .inl ⟨closed,ended⟩
    · exact shadow_tick runs shadow clear finishes
    · have isPaused : e.self.isPaused = true := by
        obtain ⟨_,_,_,_,_,same⟩ := overlay
        rw [same]
      exact overlay_tick runs overlay clear finishes (timely isPaused)

theorem run_heads {paused : Bool} {e : Execution} (heads : Heads refused results target paused e)
    (schedule : List PauseTurn) (timely : Along (turn results) (Timely refused results) e schedule) :
    Heads refused results target (schedule.foldl pauseAfter paused) (run (turn results) e schedule) := by
  induction schedule generalizing e paused with
  | nil => exact heads
  | cons turn schedule ih => exact ih (turn_heads heads turn timely.1) timely.2

/-- An unpaused workflow is closed by enough answers. -/
theorem ticks_close {A : InvestigationManifest → InvestigationStatus → Prop} (body : WorkflowProg InvestigationManifest)
    (s : WorkflowState) (scheduled : List InvestigationActivity) (shadow : Shadow s s)
    (clear : Clear refused A body s.status) (o : ActivityOutcome) :
    ∃ n, (run (turn results) ⟨(settle workflowServer o body s).2,(settle workflowServer o body s).1,scheduled⟩
      (List.replicate n .tick)).running = false := by
  induction body generalizing s scheduled o with
  | ret manifest => exact ⟨0,rfl⟩
  | raise error => exact ⟨0,rfl⟩
  | await c resume ih =>
    obtain ⟨_,later,fits,status⟩ := shadow_serve shadow clear.1 o
    by_cases awaited : workflowServer.suspends c = true
    · obtain ⟨_,later,fits,status⟩ := shadow_serve shadow clear.1 (succeedAt results s)
      have after := (clear.2 _ fits).1
      rw [status] at after
      obtain ⟨n,closes⟩ := ih _ _ (scheduled ++ awaitedActivity (settle workflowServer (succeedAt results s)
        (resume (workflowServer.serve (succeedAt results s) c s).1)
        (workflowServer.serve (succeedAt results s) c s).2).1) later after (succeedAt results s)
      refine ⟨n + 1,?_⟩
      rw [settle,if_pos awaited,List.replicate_succ,run_cons]
      have moved : turn results ⟨s,.await c resume,scheduled⟩ .tick = _ :=
        @proceed_answered ⟨s,.await c resume,scheduled⟩ c resume (succeedAt results s) rfl (untouched_ready clear.1 s)
      rw [moved]
      exact closes
    · rw [settle,if_neg awaited]
      have after := (clear.2 _ fits).1
      rw [status] at after
      exact ih _ _ scheduled later after o

theorem open_ticks_close {e : Execution} (heads : Heads refused results target false e) :
    ∃ n, (run (turn results) e (List.replicate n .tick)).running = false := by
  rcases heads with ⟨closed,_⟩ | ⟨_,t,shadow | ⟨never,_⟩,clear,_⟩
  · exact ⟨0,closed⟩
  · cases waits : e.body with
    | ret manifest => exact ⟨0,by simp [running,waits,Prog.pending]⟩
    | raise error => exact ⟨0,by simp [running,waits,Prog.pending]⟩
    | await c resume =>
      rw [waits,← shadow_status shadow] at clear
      obtain ⟨_,later,fits,status⟩ := shadow_serve (shadow_self shadow) clear.1 (succeedAt results e.self)
      have after := (clear.2 _ fits).1
      rw [status] at after
      obtain ⟨n,closes⟩ := ticks_close _ _ (e.scheduled ++ awaitedActivity (settle workflowServer
        (succeedAt results e.self) (resume (workflowServer.serve (succeedAt results e.self) c e.self).1)
        (workflowServer.serve (succeedAt results e.self) c e.self).2).1) later after (succeedAt results e.self)
      have moved : e.turn results .tick = _ :=
        @proceed_answered e c resume (succeedAt results e.self) waits (untouched_ready clear.1 e.self)
      refine ⟨n + 1,?_⟩
      rw [List.replicate_succ,run_cons,moved]
      exact closes
  · cases never

theorem ticks_heads {e : Execution} (heads : Heads refused results target false e) (n : Nat) :
    Heads refused results target false (run (turn results) e (List.replicate n .tick)) := by
  induction n generalizing e with
  | zero => exact heads
  | succ n ih =>
    rw [List.replicate_succ,run_cons]
    apply ih
    rcases heads with ⟨closed,ended⟩ | ⟨runs,t,shadow | ⟨never,_⟩,clear,finishes⟩
    · rw [closed_tick closed]
      exact .inl ⟨closed,ended⟩
    · exact shadow_tick runs shadow clear finishes
    · cases never

theorem heads_ending {paused : Bool} {e : Execution} (heads : Heads refused results target paused e)
    (closed : e.running = false) : ending e.body e.self = target := by
  rcases heads with ⟨_,ended⟩ | ⟨runs,_⟩
  · exact ended
  · rw [runs] at closed
    cases closed

theorem start_heads (fromIso : String → Except InputFailure UtcDateTime) (workflowId : String)
    (input : InvestigationWorkflowInput) (results : ActivityResults) :
    Heads (input.refused fromIso workflowId) results
      (finish results (start fromIso workflowId input).body (start fromIso workflowId input).self) false
      (start fromIso workflowId input) := by
  have shadow : Shadow (start fromIso workflowId input).self (start fromIso workflowId input).self := by
    refine ⟨rfl,rfl,?_,none,none,none,rfl⟩
    simp [start]
  exact .inr ⟨rfl,_,.inl shadow,clear_start fromIso workflowId input,rfl⟩

/-- Pauses that are over when an answer comes do not show in how the workflow ends. -/
theorem pauses_absorbed (fromIso : String → Except InputFailure UtcDateTime) (workflowId : String)
    (input : InvestigationWorkflowInput) (results : ActivityResults) (schedule : List PauseTurn)
    (resumed : openPause schedule = false)
    (timely : Along (turn results) (Timely (input.refused fromIso workflowId) results)
      (start fromIso workflowId input) schedule) :
    ∃ n, (run (turn results) (start fromIso workflowId input) (schedule ++ List.replicate n .tick)).running = false ∧
      ∀ m, (run (turn results) (start fromIso workflowId input) (List.replicate m .tick)).running = false →
        ending (run (turn results) (start fromIso workflowId input) (schedule ++ List.replicate n .tick)).body
            (run (turn results) (start fromIso workflowId input) (schedule ++ List.replicate n .tick)).self =
          ending (run (turn results) (start fromIso workflowId input) (List.replicate m .tick)).body
            (run (turn results) (start fromIso workflowId input) (List.replicate m .tick)).self := by
  have first := start_heads fromIso workflowId input results
  have later := run_heads first schedule timely
  unfold openPause at resumed
  rw [resumed] at later
  obtain ⟨n,closes⟩ := open_ticks_close later
  refine ⟨n,by rw [run_append]; exact closes,?_⟩
  intro m closed
  rw [run_append,heads_ending (ticks_heads later n) closes,heads_ending (ticks_heads first m) closed]

/-- A pause that is over before the scope is validated. -/
theorem short_pause_absorbed :
    let results : ActivityResults := fun _ => resultsWith "VERIFIED"
    let started := start (fun _ => .error .overflow) "" churnInput
    let schedule := [.tick,.pause ⟨"review","usr_1"⟩,.resume ⟨"usr_1"⟩,.tick]
    openPause schedule = false ∧
      ∃ n, (run (turn results) started (schedule ++ List.replicate n .tick)).running = false ∧
        ∀ m, (run (turn results) started (List.replicate m .tick)).running = false →
          ending (run (turn results) started (schedule ++ List.replicate n .tick)).body
              (run (turn results) started (schedule ++ List.replicate n .tick)).self =
            ending (run (turn results) started (List.replicate m .tick)).body
              (run (turn results) started (List.replicate m .tick)).self := by
  intro results started schedule
  refine ⟨by decide,pauses_absorbed (fun _ => .error .overflow) "" churnInput results schedule (by decide) ?_⟩
  exact ⟨fun paused => absurd paused (by decide +kernel),trivial,trivial,
    fun paused => absurd paused (by decide +kernel),trivial⟩

theorem closed_ticks {e : Execution} (closed : e.running = false) (n : Nat) :
    run (turn results) e (List.replicate n .tick) = e := by
  induction n with
  | zero => rfl
  | succ n ih => rw [List.replicate_succ,run_cons,closed_tick closed,ih]

/-- A pause over the start, resumed at once, ends the workflow in `INITIALIZING`. -/
theorem paused_start_aborts :
    ¬ ∀ (fromIso : String → Except InputFailure UtcDateTime) (workflowId : String) (input : InvestigationWorkflowInput)
      (results : ActivityResults) (schedule : List PauseTurn), openPause schedule = false →
      ∃ n, (run (turn results) (start fromIso workflowId input) (schedule ++ List.replicate n .tick)).running = false ∧
        ∀ m, (run (turn results) (start fromIso workflowId input) (List.replicate m .tick)).running = false →
          ending (run (turn results) (start fromIso workflowId input) (schedule ++ List.replicate n .tick)).body
              (run (turn results) (start fromIso workflowId input) (schedule ++ List.replicate n .tick)).self =
            ending (run (turn results) (start fromIso workflowId input) (List.replicate m .tick)).body
              (run (turn results) (start fromIso workflowId input) (List.replicate m .tick)).self := by
  intro all
  let results : ActivityResults := fun _ => resultsWith "VERIFIED"
  let schedule : List PauseTurn := [.pause ⟨"review","usr_1"⟩,.tick,.resume ⟨"usr_1"⟩,.tick]
  obtain ⟨n,_,same⟩ := all (fun _ => .error .overflow) "" churnInput results schedule (by decide)
  have baseline : (run (turn results) (start (fun _ => .error .overflow) "" churnInput)
      (List.replicate 9 .tick)).running = false := by decide +kernel
  have closed : (run (turn results) (start (fun _ => .error .overflow) "" churnInput) schedule).running = false := by
    decide +kernel
  have ends := same 9 baseline
  rw [run_append,closed_ticks closed] at ends
  exact absurd (congrArg Prod.fst ends) (by decide +kernel)

end Execution
end RevPilot.Investigation
