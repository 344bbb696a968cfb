import RevPilot.Investigation.Control

/-! Cancellation: the coroutine looks at the flag before it schedules an activity and
before it returns, so after an accepted cancel signal it does neither. -/
namespace RevPilot.Investigation
open Library Shared Program Runs

def anySignals : Surroundings WorkflowState ActivityOutcome WorkflowCall where
  changes := Signalled
  answers := fun _ c s => ready s c = true

/-- No activity is scheduled with the flag set. -/
def schedulesUncancelled : Duty WorkflowState ActivityOutcome WorkflowCall where
  suspended := fun c s => ∀ request, c = .activity request → s.isCancelled = false
  served := fun _ _ _ => True

def Live (x : Control) : Prop := x.isCancelled = false

/-- The flag shows in the status. -/
def Watched (x : Control) : Prop := x.isCancelled = true → x.status = .cancelled

theorem live_watched {x : Control} (live : Live x) : Watched x := by
  intro flagged
  rw [live] at flagged
  cases flagged

theorem watched_signalled {s s' : WorkflowState} (signalled : Signalled s s') (watched : Watched s.control) :
    Watched s'.control := by
  intro flagged
  cases signalled with
  | pause signal =>
    rcases s.pauseInvestigation_cases signal with ⟨_,same⟩ | ⟨active,⟨_,paused⟩ | ⟨_,paused⟩⟩
    · rw [same] at flagged ⊢
      exact watched flagged
    · rw [paused] at flagged
      exact absurd (watched flagged) active.2.2
    · rw [paused] at flagged
      exact absurd (watched flagged) active.2.2
  | resume signal =>
    rcases s.resumeInvestigation_cases signal with ⟨_,same⟩ | ⟨paused,resumed⟩
    · rw [same] at flagged ⊢
      exact watched flagged
    · rw [resumed] at flagged
      have closed : s.status = .cancelled := watched flagged
      rw [paused] at closed
      cases closed
  | cancel signal =>
    rcases s.cancelInvestigation_cases signal with ⟨_,same⟩ | ⟨_,cancelled⟩
    · rw [same] at flagged ⊢
      exact watched flagged
    · rw [cancelled]
      rfl

abbrev Cancellable {A : Type} (pre : Control → Prop) (prog : WorkflowProg A) (done : A → Control → Prop) : Prop :=
  Triple workflowServer anySignals schedulesUncancelled (fun s => pre s.control) prog
    (fun value s => done value s.control) (fun _ _ => True)

namespace InvestigationWorkflow

private theorem free (o : ActivityOutcome) (c : WorkflowCall) (s : WorkflowState) (_ : overwrites c = false) :
    schedulesUncancelled.served o c s := trivial

theorem cancellable_keep {P : Control → Prop} {c : WorkflowCall} (synchronous : c.suspends = false)
    (plain : overwrites c = false) (keeps : ∀ o s, (WorkflowState.serve o c s).2.control = s.control) :
    Cancellable P (Prog.call c) (fun _ => P) := triple_keep free synchronous plain keeps

/-- No transition leaves `CANCELLED`. -/
theorem cancellable_transition (target : InvestigationStatus) :
    Cancellable Watched (transition target) (fun _ => Live) := by
  apply triple_transition free
  · intro x watched moves
    cases flag : x.isCancelled with
    | false => rfl
    | true =>
      have closed := watched flag
      simp [permitted,closed,staticPermittedTransitions] at moves
  · exact fun _ _ _ _ => trivial

theorem cancellable_spend (usd : Decimal) : Cancellable Watched (spend usd) (fun _ => Watched) :=
  triple_spend free (fun _ _ _ => trivial)

theorem cancellable_runTask (request : InvestigationActivity) :
    Cancellable Live (runTask request) (fun _ => Watched) := by
  apply triple_runTask free
  · exact fun s live _ _ => live
  · exact fun x live => live_watched live
  · exact fun s s' signalled watched => watched_signalled signalled watched
  · exact fun _ _ _ _ _ _ => trivial

theorem cancellable_stop {A : Type} (P : Control → Prop) (done : A → Control → Prop) (next : Unit → WorkflowProg A) :
    Cancellable P (stopCancelled >>= next) done := by
  apply triple_read free (fun s => s.cancelReason) rfl rfl (fun _ _ => rfl)
  intro reason
  exact Triple.raise (fun _ _ => trivial)

theorem cancellable_afterWait : Cancellable Watched afterWait (fun _ => Live) := by
  apply triple_read free (fun s => s.isCancelled) rfl rfl (fun _ _ => rfl)
  intro flag
  cases flag with
  | true =>
    apply Triple.bind ((cancellable_transition .cancelled).weaken (fun s holds => holds.1))
    exact fun _ => cancellable_stop Live (fun _ => Live) _
  | false =>
    apply triple_read free (fun s => s.priorActiveState) rfl rfl (fun _ _ => rfl)
    intro prior
    cases prior with
    | some prior => exact (cancellable_transition prior).weaken (fun s holds => holds.1.1)
    | none => exact Triple.ret (fun s holds => holds.1.2)

theorem cancellable_waitUnpaused : Cancellable Live waitUnpaused (fun _ => Live) := by
  have wait : Cancellable Live (Prog.call WorkflowCall.unpaused >>= fun _ => afterWait) (fun _ => Live) := by
    apply @Triple.suspend _ _ _ _ _ _ _ _ _ _ _ (fun s => Watched s.control) _ _ _ rfl
    · exact fun s _ request waits => nomatch waits
    · exact fun s live => live_watched live
    · exact fun s s' signalled watched => watched_signalled signalled watched
    · exact fun _ _ _ _ => trivial
    · exact fun o s _ watched => cancellable_afterWait o s watched
  apply triple_read free (fun s => s.status) rfl rfl (fun _ _ => rfl)
  intro status
  dsimp only
  split
  · have keeps : Cancellable Live (Prog.call (.setPriorActiveState status)) (fun _ => Live) := by
      apply Triple.await rfl
      · exact fun _ _ _ => trivial
      · exact fun _ _ live => live
    apply Triple.bind (keeps.weaken (fun s holds => holds.1))
    intro _
    apply Triple.bind ((cancellable_transition .paused).weaken (fun s live => live_watched live))
    exact fun _ => wait
  · exact wait.weaken (fun s holds => holds.1)

/-- The gate lets no cancelled workflow through. -/
theorem cancellable_gate : Cancellable Watched checkPauseAndCancellation (fun _ => Live) := by
  apply triple_read free (fun s => s.isCancelled) rfl rfl (fun _ _ => rfl)
  intro flag
  cases flag with
  | true =>
    apply triple_read free (fun s => s.status) rfl rfl (fun _ _ => rfl)
    intro status
    dsimp only
    split
    · apply Triple.bind ((cancellable_transition .cancelled).weaken (fun s holds => holds.1.1))
      exact fun _ => cancellable_stop Live (fun _ => Live) _
    · exact (cancellable_stop Watched (fun _ => Live) _).weaken (fun s holds => holds.1.1)
  | false =>
    apply triple_read free (fun s => s.isPaused) rfl rfl (fun _ _ => rfl)
    intro paused
    cases paused with
    | true => exact cancellable_waitUnpaused.weaken (fun s holds => holds.1.2)
    | false => exact Triple.ret (fun s holds => holds.1.2)

/-- A stage: an activity, its spend and the gate behind it. -/
theorem cancellable_stage {A : Type} {request : InvestigationActivity} {usd : Decimal}
    {next : request.Result → WorkflowProg A} {done : A → Control → Prop}
    (rest : ∀ result, Cancellable Live (next result) done) :
    Cancellable Live (do
      let result ← runTask request
      spend usd
      checkPauseAndCancellation
      next result) done := by
  apply Triple.bind (cancellable_runTask request)
  intro result
  apply Triple.bind (cancellable_spend usd)
  intro _
  apply Triple.bind cancellable_gate
  exact fun _ => rest result

theorem cancellable_concludeLoop (loopCount : Nat) (verified : VerificationResult) :
    Cancellable Watched (concludeLoop loopCount verified) (fun _ => Watched) := by
  have returns (found : Option (Option String)) :
      Cancellable Watched (pure found : WorkflowProg _) (fun _ => Watched) := Triple.ret (fun s watched => watched)
  have moves (target : InvestigationStatus) : Cancellable Watched (transition target) (fun _ => Watched) :=
    (cancellable_transition target).mono (fun s watched => watched) (fun _ s live => live_watched live)
      (fun _ _ _ => trivial)
  unfold concludeLoop
  split
  · exact returns _
  · split
    · split
      · exact Triple.bind (moves .needMoreEvidence) (fun _ => returns _)
      · exact returns none
    · apply Triple.bind (moves .failed)
      intro _
      apply Triple.bind (cancellable_keep rfl rfl (fun _ _ => rfl))
      exact fun _ => Triple.raise (fun _ _ => trivial)

theorem cancellable_evidenceLoop (input : InvestigationWorkflowInput) (planId : String) (left : Nat)
    (digests : List String) : Cancellable Watched (evidenceLoop input planId left digests) (fun _ => Watched) := by
  induction left generalizing digests with
  | zero => exact Triple.ret (fun s watched => watched)
  | succ left ih =>
    rw [evidenceLoop]
    apply Triple.bind (cancellable_transition .gatheringEvidence)
    intro _
    apply Triple.bind (cancellable_keep rfl rfl (fun _ _ => rfl))
    intro _
    apply Triple.bind (cancellable_gate.weaken (fun s live => live_watched live))
    intro _
    apply cancellable_stage
    intro rowDigest
    apply cancellable_stage
    intro bundleDigest
    apply cancellable_stage
    intro _
    apply cancellable_stage
    intro hypotheses
    apply Triple.bind ((cancellable_transition .verifying).weaken (fun s live => live_watched live))
    intro _
    apply Triple.bind (cancellable_keep rfl rfl (fun _ _ => rfl))
    intro _
    apply Triple.bind (cancellable_runTask _)
    intro verified
    apply Triple.bind (cancellable_concludeLoop _ verified)
    intro found
    cases found with
    | some top => exact Triple.ret (fun s watched => watched)
    | none => exact ih _

theorem cancellable_packageEvidence (input : InvestigationWorkflowInput) (top : Option String) (digests : List String) :
    Cancellable Live (packageEvidence input top digests) (fun _ => Live) := by
  have sealed (manifest : InvestigationManifest) :
      Cancellable Live (do Prog.call (WorkflowCall.setStep "SEALED"); pure manifest) (fun _ => Live) := by
    apply Triple.bind (cancellable_keep rfl rfl (fun _ _ => rfl))
    exact fun _ => Triple.ret (fun s live => live)
  apply Triple.bind (cancellable_keep rfl rfl (fun _ _ => rfl))
  intro _
  apply triple_read free (fun s => s.budget.spentUsd) rfl rfl (fun _ _ => rfl)
  intro cogs
  apply Triple.bind ((cancellable_runTask _).weaken (fun s holds => holds.1))
  intro manifest
  apply Triple.bind (cancellable_keep rfl rfl (fun _ _ => rfl))
  intro _
  apply triple_read free (fun s => s.status) rfl rfl (fun _ _ => rfl)
  intro status
  dsimp only
  split
  · apply Triple.bind ((cancellable_transition .completed).weaken (fun s holds => holds.1))
    exact fun _ => sealed manifest
  next kept =>
    apply (sealed manifest).weaken
    rintro s ⟨watched,rfl⟩
    -- a cancelled workflow is not in NEED_MORE_EVIDENCE
    cases flag : s.isCancelled with
    | false => exact flag
    | true =>
      have closed : s.status = .cancelled := watched flag
      rw [closed] at kept
      exact absurd (by decide) kept

theorem cancellable_onFailure (failure : WorkflowFailure) (P : Control → Prop) :
    Cancellable (fun _ => True) (onFailure failure) (fun _ => P) := by
  have called {c : WorkflowCall} (synchronous : c.suspends = false) :
      Cancellable (fun _ => True) (Prog.call c) (fun _ _ => True) :=
    Triple.await synchronous (fun _ _ _ => trivial) (fun _ _ _ => trivial)
  have handled (text : String) : Cancellable (fun _ => True) (reportFailure text) (fun _ => P) := by
    apply Triple.bind (called rfl)
    exact fun _ => Triple.raise (fun _ _ => trivial)
  obtain ⟨message,type,rfl,raised⟩ | ⟨_,run⟩ := onFailure_cases failure
  · rw [raised]
    exact Triple.raise (fun _ _ => trivial)
  · rw [run]
    apply Triple.bind (called rfl)
    intro status
    dsimp only
    split
    · apply Triple.bind (called rfl)
      intro reply
      cases reply with
      | ok _ => exact handled failure.text
      | error _ => exact Triple.bind (called rfl) (fun _ => handled failure.text)
    · exact handled failure.text

theorem cancellable_investigate (input : InvestigationWorkflowInput) :
    Cancellable Live (investigate input) (fun _ => Live) := by
  apply cancellable_stage
  intro _
  apply Triple.bind (cancellable_keep rfl rfl (fun _ _ => rfl))
  intro _
  apply cancellable_stage
  intro planId
  apply Triple.bind ((cancellable_evidenceLoop input planId 2 []).weaken (fun s live => live_watched live))
  intro gathered
  apply Triple.bind cancellable_gate
  exact fun _ => cancellable_packageEvidence input gathered.1 gathered.2

theorem cancellable_refuseInput (failure : InputFailure) :
    Cancellable Watched (refuseInput failure) (fun _ => Live) := by
  unfold refuseInput
  dsimp only
  split
  · apply Triple.bind (cancellable_keep rfl rfl (fun _ _ => rfl))
    intro _
    apply Triple.bind (cancellable_transition .failed)
    exact fun _ => Triple.raise (fun _ _ => trivial)
  · exact Triple.raise (fun _ _ => trivial)

theorem cancellable_run (fromIso : String → Except InputFailure UtcDateTime) (workflowId : String)
    (input : InvestigationWorkflowInput) : Cancellable Watched (run fromIso workflowId input) (fun _ => Live) := by
  apply Triple.bind (cancellable_keep rfl rfl (fun _ _ => rfl))
  intro _
  cases input.validate fromIso workflowId with
  | error failure => exact cancellable_refuseInput failure
  | ok _ =>
    apply Triple.bind cancellable_gate
    intro _
    apply Triple.bind ((cancellable_transition .planning).weaken (fun s live => live_watched live))
    intro _
    apply Triple.bind (cancellable_keep rfl rfl (fun _ _ => rfl))
    intro _
    apply Triple.handle (cancellable_investigate input)
    exact fun failure => cancellable_onFailure failure Live

end InvestigationWorkflow

namespace Execution
open InvestigationWorkflow

/-- The coroutine keeps to its duty from here on. -/
def Heeds (e : Execution) : Prop :=
  Resting workflowServer anySignals schedulesUncancelled (fun _ s => Live s.control) (fun _ _ => True) e.body e.self

theorem start_heeds (fromIso : String → Except InputFailure UtcDateTime) (workflowId : String)
    (input : InvestigationWorkflowInput) : (start fromIso workflowId input).Heeds := by
  intro s changed o _
  have fresh : Watched (start fromIso workflowId input).self.control := fun flagged => nomatch flagged
  have watched : Watched s.control :=
    @changes_keep _ _ _ anySignals (fun s => Watched s.control) (fun s s' => watched_signalled) _ _ changed fresh
  exact ⟨trivial,cancellable_run fromIso workflowId input o s watched⟩

theorem signalled_heeds {e : Execution} {handler : WorkflowState → WorkflowState}
    (signal : Signalled e.self (handler e.self)) (heeds : e.Heeds) : (e.signalled handler).Heeds := by
  unfold signalled
  split
  next runs =>
    obtain ⟨c,waits⟩ := Option.isSome_iff_exists.mp runs
    exact resting_changes heeds waits signal
  · exact heeds

/-- The stretch behind an answer: the coroutine rests behind it, with no activity
scheduled in vain. -/
theorem proceed_heeds {e : Execution} (heeds : e.Heeds) (outcome : ActivityOutcome) :
    (e.proceed outcome).Heeds ∧ ((e.proceed outcome).self.isCancelled = true →
      (e.proceed outcome).scheduled = e.scheduled) := by
  rcases e.proceed_cases outcome with ⟨same,_⟩ | ⟨c,resume,body,s,waits,answered,settled,moved,_⟩
  · rw [same]
    exact ⟨heeds,fun _ => rfl⟩
  · unfold Heeds at heeds
    rw [waits] at heeds
    have rests := sound_settle (heeds e.self .refl outcome answered).2
    rw [settled] at rests
    rw [moved]
    refine ⟨rests.1,?_⟩
    intro flagged
    have none : awaitedActivity body = [] := by
      unfold awaitedActivity
      split
      next request next =>
        have unflagged := rests.2 (.activity request) rfl request rfl
        exact absurd (unflagged.symm.trans flagged) (by decide)
      next => rfl
    simp [none]

theorem step_heeds {e : Execution} (heeds : e.Heeds) (event : WorkflowEvent) : (e.step event).Heeds := by
  cases event with
  | pause signal => exact signalled_heeds (.pause e.self signal) heeds
  | resume signal => exact signalled_heeds (.resume e.self signal) heeds
  | cancel signal => exact signalled_heeds (.cancel e.self signal) heeds
  | proceed outcome => exact (proceed_heeds heeds outcome).1

end Execution

theorem serve_isCancelled (o : ActivityOutcome) (c : WorkflowCall) (s : WorkflowState) :
    (workflowServer.serve o c s).2.isCancelled = s.isCancelled := by
  cases c with
  | transition target =>
    have served : workflowServer.serve o (.transition target) s = s.transition target := rfl
    rcases s.transition_cases target with ⟨_,moved⟩ | ⟨_,_,_,refused⟩
    · rw [served,moved]
    · rw [served,refused]
  | recordSpend usd =>
    have served : workflowServer.serve o (.recordSpend usd) s = s.recordSpend usd := rfl
    rcases s.recordSpend_cases usd with ⟨_,spent⟩ | ⟨_,refused⟩
    · rw [served,spent]
    · rw [served,refused]
  | _ => rfl

theorem signalled_isCancelled {s s' : WorkflowState} (signalled : Signalled s s') (flagged : s.isCancelled = true) :
    s'.isCancelled = true := by
  cases signalled with
  | pause signal =>
    rcases s.pauseInvestigation_cases signal with ⟨_,same⟩ | ⟨_,⟨_,paused⟩ | ⟨_,paused⟩⟩
    · rw [same]
      exact flagged
    · rw [paused]
      exact flagged
    · rw [paused]
      exact flagged
  | resume signal =>
    rcases s.resumeInvestigation_cases signal with ⟨_,same⟩ | ⟨_,resumed⟩
    · rw [same]
      exact flagged
    · rw [resumed]
      exact flagged
  | cancel signal =>
    rcases s.cancelInvestigation_cases signal with ⟨_,same⟩ | ⟨_,cancelled⟩
    · rw [same]
      exact flagged
    · rw [cancelled]

namespace Execution

/-- Nothing takes the flag back. -/
theorem step_isCancelled (e : Execution) (event : WorkflowEvent) (flagged : e.self.isCancelled = true) :
    (e.step event).self.isCancelled = true := by
  have signals {handler : WorkflowState → WorkflowState} (signal : Signalled e.self (handler e.self)) :
      (e.signalled handler).self.isCancelled = true := by
    unfold signalled
    split
    · exact signalled_isCancelled signal flagged
    · exact flagged
  cases event with
  | pause signal => exact signals (.pause e.self signal)
  | resume signal => exact signals (.resume e.self signal)
  | cancel signal => exact signals (.cancel e.self signal)
  | proceed outcome =>
    change (e.proceed outcome).self.isCancelled = true
    rcases e.proceed_cases outcome with ⟨same,_⟩ | ⟨c,resume,body,s,_,_,settled,moved,_⟩
    · rw [same]
      exact flagged
    · have kept := (settle_keeps workflowServer (P := fun _ _ _ => True) (J := fun s _ => s.isCancelled = true)
        (o := outcome) (fun c _ s _ flagged => (serve_isCancelled outcome c s).trans flagged)
        (resume (workflowServer.serve outcome c e.self).1) _ (serves_true workflowServer outcome _ _)
        ((serve_isCancelled outcome c e.self).trans flagged)).1
      rw [settled] at kept
      rw [moved]
      exact kept

theorem step_scheduled {e : Execution} (heeds : e.Heeds) (flagged : e.self.isCancelled = true)
    (event : WorkflowEvent) : (e.step event).scheduled = e.scheduled := by
  have signals (handler : WorkflowState → WorkflowState) : (e.signalled handler).scheduled = e.scheduled := by
    unfold signalled
    split <;> rfl
  cases event with
  | pause signal => exact signals _
  | resume signal => exact signals _
  | cancel signal => exact signals _
  | proceed outcome => exact (proceed_heeds heeds outcome).2 (step_isCancelled e (.proceed outcome) flagged)

/-- With the flag set no event schedules an activity, and none returns a manifest. -/
theorem cancelled_run {e : Execution} (heeds : e.Heeds) (flagged : e.self.isCancelled = true)
    (post : List WorkflowEvent) :
    (run step e post).scheduled = e.scheduled ∧ ∀ manifest, (run step e post).body ≠ .ret manifest := by
  have kept := stable_run step (I := fun later => later.Heeds ∧ later.self.isCancelled = true ∧
    later.scheduled = e.scheduled) (fun later event ⟨heeds,flagged,same⟩ =>
      ⟨step_heeds heeds event,step_isCancelled later event flagged,
        (step_scheduled heeds flagged event).trans same⟩) ⟨heeds,flagged,rfl⟩ post
  obtain ⟨heeds,flagged,same⟩ := kept
  refine ⟨same,?_⟩
  intro manifest returned
  unfold Heeds at heeds
  rw [returned] at heeds
  exact absurd (heeds.symm.trans flagged) (by decide)

/-- From an accepted cancel signal on no activity is scheduled and no manifest is returned. -/
theorem nothing_after_cancel (fromIso : String → Except InputFailure UtcDateTime) (workflowId : String)
    (input : InvestigationWorkflowInput) (pre : List WorkflowEvent) (signal : CancelInvestigationSignal)
    (accepted : (run step (start fromIso workflowId input) (pre ++ [.cancel signal])).self.isCancelled = true)
    (post : List WorkflowEvent) :
    (run step (start fromIso workflowId input) (pre ++ [.cancel signal] ++ post)).scheduled =
        (run step (start fromIso workflowId input) pre).scheduled ∧
      ∀ manifest, (run step (start fromIso workflowId input) (pre ++ [.cancel signal] ++ post)).body ≠ .ret manifest := by
  have heeds (events : List WorkflowEvent) : (run step (start fromIso workflowId input) events).Heeds :=
    stable_run step (I := Heeds) (fun _ event heeds => step_heeds heeds event)
      (start_heeds fromIso workflowId input) events
  have stops := cancelled_run (heeds (pre ++ [.cancel signal])) accepted post
  rw [← run_append] at stops
  have signalledOnly : (run step (start fromIso workflowId input) (pre ++ [.cancel signal])).scheduled =
      (run step (start fromIso workflowId input) pre).scheduled := by
    rw [run_concat]
    change (signalled _ _).scheduled = _
    unfold signalled
    split <;> rfl
  exact ⟨stops.1.trans signalledOnly,stops.2⟩

/-- A workflow that is cancelled while its scope is validated, and then answered. -/
theorem cancelled_while_validating :
    let found : WorkflowEvent := .proceed (fun request => .ok (resultsWith "VERIFIED" request))
    let signal : CancelInvestigationSignal := ⟨"wrong metric","usr_1"⟩
    let started := start (fun _ => .error .overflow) "" churnInput
    (run step started ([found] ++ [.cancel signal])).self.isCancelled = true ∧
      (run step started ([found] ++ [.cancel signal] ++ [found,found])).scheduled = (run step started [found]).scheduled ∧
      ∀ manifest, (run step started ([found] ++ [.cancel signal] ++ [found,found])).body ≠ .ret manifest := by
  intro found signal started
  have accepted : (run step started ([found] ++ [.cancel signal])).self.isCancelled = true := by decide +kernel
  exact ⟨accepted,nothing_after_cancel (fun _ => .error .overflow) "" churnInput [found] signal accepted [found,found]⟩

end Execution
end RevPilot.Investigation
