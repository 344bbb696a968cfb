import RevPilot.Investigation.Control

/-! Terminal statuses. The transition table never leaves them, and the guards of the
signal handlers and of the exception handler name all of them but `NEED_MORE_EVIDENCE`,
so that one alone can be left, while its evidence is packaged. -/
namespace RevPilot.Investigation
open Library Shared Program Runs

/-- A terminal status stays as it is. -/
def Final (s s' : WorkflowState) : Prop := s.status ∈ terminalStates → s'.status = s.status

theorem final_trans {s t u : WorkflowState} (first : Final s t) (second : Final t u) : Final s u := by
  intro terminal
  have same := first terminal
  exact (second (by rwa [same])).trans same

theorem final_of_open {s s' : WorkflowState} (active : s.status ∉ terminalStates) : Final s s' :=
  fun terminal => absurd terminal active

/-- The signals and answers that spare a workflow in `NEED_MORE_EVIDENCE`. -/
def sparing : Surroundings WorkflowState ActivityOutcome WorkflowCall where
  changes := fun s s' => Signalled s s' ∧ (s.status = .needMoreEvidence → s' = s)
  answers := fun o c s => s.status = .needMoreEvidence → ∀ request, c = .activity request → (o request).isOk = true

def keepsTerminal : Duty WorkflowState ActivityOutcome WorkflowCall where
  suspended := fun _ _ => True
  served := fun o c s => Final s (workflowServer.serve o c s).2

theorem permitted_terminal {status : InvestigationStatus} (terminal : status ∈ terminalStates)
    (prior : Option InvestigationStatus) : permitted status prior = [] := by
  simp only [terminalStates,List.mem_cons,List.not_mem_nil,or_false] at terminal
  rcases terminal with rfl | rfl | rfl | rfl <;> rfl

/-- Only a write past the transition table leaves a terminal status. -/
theorem keepsTerminal_free (o : ActivityOutcome) (c : WorkflowCall) (s : WorkflowState) (plain : overwrites c = false) :
    keepsTerminal.served o c s := by
  intro terminal
  cases c with
  | transition target =>
    have served : workflowServer.serve o (.transition target) s = s.transition target := rfl
    rcases s.transition_cases target with ⟨allowed,_⟩ | ⟨_,_,_,refused⟩
    · rw [permitted_terminal terminal] at allowed
      cases allowed
    · rw [served,refused]
  | recordSpend usd =>
    have served : workflowServer.serve o (.recordSpend usd) s = s.recordSpend usd := rfl
    rcases s.recordSpend_cases usd with ⟨_,spent⟩ | ⟨_,refused⟩
    · rw [served,spent]
    · rw [served,refused]
  | setStatus state => cases plain
  | _ => rfl

/-- The verdict is still out. -/
def Unjudged (x : Control) : Prop :=
  x.status ≠ .needMoreEvidence ∧ x.priorActiveState ≠ some .needMoreEvidence

/-- `p` says whether the verdict matters. -/
def Early (p : Prop) (x : Control) : Prop := p → Unjudged x

theorem unjudged_signalled {s s' : WorkflowState} (signalled : Signalled s s') (unjudged : Unjudged s.control) :
    Unjudged s'.control := by
  cases signalled with
  | pause signal =>
    rcases s.pauseInvestigation_cases signal with ⟨_,same⟩ | ⟨_,⟨_,paused⟩ | ⟨_,paused⟩⟩
    · rw [same]
      exact unjudged
    · rw [paused]
      exact unjudged
    · rw [paused]
      exact ⟨by simp [WorkflowState.control],by simpa [WorkflowState.control] using unjudged.1⟩
  | resume signal =>
    rcases s.resumeInvestigation_cases signal with ⟨_,same⟩ | ⟨_,resumed⟩
    · rw [same]
      exact unjudged
    · rw [resumed]
      refine ⟨?_,unjudged.2⟩
      have prior := unjudged.2
      simp only [WorkflowState.control] at prior ⊢
      cases known : s.priorActiveState with
      | none => simp
      | some state => simpa [known] using prior
  | cancel signal =>
    rcases s.cancelInvestigation_cases signal with ⟨_,same⟩ | ⟨_,cancelled⟩
    · rw [same]
      exact unjudged
    · rw [cancelled]
      exact ⟨by simp [WorkflowState.control],unjudged.2⟩

/-- What the exception handler finds: no failure but an `ApplicationError` comes out of
`NEED_MORE_EVIDENCE`. -/
def Raised (failure : WorkflowFailure) (s : WorkflowState) : Prop :=
  match failure with
  | .application _ _ => True
  | _ => s.status ≠ .needMoreEvidence

abbrev Keeping {A : Type} (pre : Control → Prop) (prog : WorkflowProg A) (done : A → Control → Prop) : Prop :=
  Triple workflowServer sparing keepsTerminal (fun s => pre s.control) prog (fun value s => done value s.control) Raised

namespace InvestigationWorkflow

theorem keeping_keep {P : Control → Prop} {c : WorkflowCall} (synchronous : c.suspends = false)
    (plain : overwrites c = false) (keeps : ∀ o s, (WorkflowState.serve o c s).2.control = s.control) :
    Keeping P (Prog.call c) (fun _ => P) := triple_keep keepsTerminal_free synchronous plain keeps

theorem keeping_transition (p : Prop) {target : InvestigationStatus} (other : target ≠ .needMoreEvidence) :
    Keeping (Early p) (transition target) (fun _ => Early p) := by
  apply triple_transition keepsTerminal_free
  · exact fun x unjudged _ early => ⟨other,(unjudged early).2⟩
  · exact fun _ _ _ _ => trivial

theorem keeping_spend (usd : Decimal) : Keeping Unjudged (spend usd) (fun _ => Unjudged) :=
  triple_spend keepsTerminal_free (fun _ _ unjudged => unjudged.1)

theorem keeping_runTask (request : InvestigationActivity) :
    Keeping Unjudged (runTask request) (fun _ => Unjudged) := by
  apply triple_runTask keepsTerminal_free
  · exact fun _ _ => trivial
  · exact fun x unjudged => unjudged
  · exact fun s s' change unjudged => unjudged_signalled change.1 unjudged
  · exact fun o s message _ unjudged _ => unjudged.1

theorem keeping_stop {A : Type} {P : Control → Prop} {done : A → Control → Prop} {next : Unit → WorkflowProg A} :
    Keeping P (stopCancelled >>= next) done := by
  apply triple_read keepsTerminal_free (fun s => s.cancelReason) rfl rfl (fun _ _ => rfl)
  intro reason
  exact Triple.raise (fun _ _ => trivial)

theorem keeping_afterWait (p : Prop) : Keeping (Early p) afterWait (fun _ => Early p) := by
  apply triple_read keepsTerminal_free (fun s => s.isCancelled) rfl rfl (fun _ _ => rfl)
  intro flag
  cases flag with
  | true =>
    apply Triple.bind ((keeping_transition p (by decide)).weaken (fun s holds => holds.1))
    exact fun _ => keeping_stop
  | false =>
    apply triple_read keepsTerminal_free (fun s => s.priorActiveState) rfl rfl (fun _ _ => rfl)
    intro prior
    cases prior with
    | some prior =>
      have restored : Keeping (fun x => Early p x ∧ x.priorActiveState = some prior) (transition prior)
          (fun _ => Early p) := by
        apply triple_transition (P := fun x => Early p x ∧ x.priorActiveState = some prior) (Q := Early p)
          keepsTerminal_free
        · rintro x ⟨unjudged,known⟩ _ early
          have other := (unjudged early).2
          exact ⟨by simpa [known] using other,other⟩
        · exact fun _ _ _ _ => trivial
      exact restored.weaken (fun s holds => ⟨holds.1.1,holds.2⟩)
    | none => exact Triple.ret (fun s holds => holds.1.1)

theorem keeping_waitUnpaused (p : Prop) : Keeping (Early p) waitUnpaused (fun _ => Early p) := by
  have wait : Keeping (Early p) (Prog.call WorkflowCall.unpaused >>= fun _ => afterWait) (fun _ => Early p) := by
    apply @Triple.suspend _ _ _ _ _ _ _ _ _ _ _ (fun s => Early p s.control) _ _ _ rfl
    · exact fun _ _ => trivial
    · exact fun s unjudged => unjudged
    · exact fun s s' change unjudged early => unjudged_signalled change.1 (unjudged early)
    · exact fun o s _ _ => keepsTerminal_free o _ s rfl
    · exact fun o s _ unjudged => keeping_afterWait p o s unjudged
  apply triple_read keepsTerminal_free (fun s => s.status) rfl rfl (fun _ _ => rfl)
  intro status
  dsimp only
  split
  · have remembered : Keeping (fun x => Early p x ∧ x.status = status)
        (Prog.call (.setPriorActiveState status)) (fun _ => Early p) := by
      apply Triple.await rfl
      · exact fun o s _ => keepsTerminal_free o _ s rfl
      · rintro o s ⟨unjudged,known⟩ early
        have other := (unjudged early).1
        exact ⟨other,fun same => other (known.trans (Option.some.inj same))⟩
    apply Triple.bind (remembered.weaken (fun s holds => holds))
    intro _
    apply Triple.bind (keeping_transition p (by decide))
    exact fun _ => wait
  · exact wait.weaken (fun s holds => holds.1)

/-- The gate keeps the verdict out, if it was. -/
theorem keeping_gate (p : Prop) : Keeping (Early p) checkPauseAndCancellation (fun _ => Early p) := by
  apply triple_read keepsTerminal_free (fun s => s.isCancelled) rfl rfl (fun _ _ => rfl)
  intro flag
  cases flag with
  | true =>
    apply triple_read keepsTerminal_free (fun s => s.status) rfl rfl (fun _ _ => rfl)
    intro status
    dsimp only
    split
    · apply Triple.bind ((keeping_transition p (by decide)).weaken (fun s holds => holds.1.1))
      exact fun _ => keeping_stop
    · exact (@keeping_stop _ (Early p) _ _).weaken (fun s holds => holds.1.1)
  | false =>
    apply triple_read keepsTerminal_free (fun s => s.isPaused) rfl rfl (fun _ _ => rfl)
    intro paused
    cases paused with
    | true => exact (keeping_waitUnpaused p).weaken (fun s holds => holds.1.1)
    | false => exact Triple.ret (fun s holds => holds.1.1)

theorem unjudged_transition {target : InvestigationStatus} (other : target ≠ .needMoreEvidence) :
    Keeping Unjudged (transition target) (fun _ => Unjudged) :=
  (keeping_transition True other).mono (fun _ unjudged _ => unjudged) (fun _ _ unjudged => unjudged trivial)
    (fun _ _ raised => raised)

theorem unjudged_gate : Keeping Unjudged checkPauseAndCancellation (fun _ => Unjudged) :=
  (keeping_gate True).mono (fun _ unjudged _ => unjudged) (fun _ _ unjudged => unjudged trivial)
    (fun _ _ raised => raised)

theorem keeping_stage {A : Type} {request : InvestigationActivity} {usd : Decimal}
    {next : request.Result → WorkflowProg A} {done : A → Control → Prop}
    (rest : ∀ result, Keeping Unjudged (next result) done) :
    Keeping Unjudged (do
      let result ← runTask request
      spend usd
      checkPauseAndCancellation
      next result) done := by
  apply Triple.bind (keeping_runTask request)
  intro result
  apply Triple.bind (keeping_spend usd)
  intro _
  apply Triple.bind unjudged_gate
  exact fun _ => rest result

/-- Only a loop that goes on leaves the verdict out. -/
theorem keeping_concludeLoop (loopCount : Nat) (verified : VerificationResult) :
    Keeping Unjudged (concludeLoop loopCount verified) (fun found => Early (found = none)) := by
  unfold concludeLoop
  split
  · exact Triple.ret (fun s unjudged _ => unjudged)
  · split
    · split
      · have judged : Keeping Unjudged (transition .needMoreEvidence) (fun _ => Early False) :=
          triple_transition keepsTerminal_free (fun _ _ _ => False.elim) (fun _ _ _ _ => trivial)
        apply Triple.bind judged
        exact fun _ => Triple.ret (fun s _ another => nomatch another)
      · exact Triple.ret (fun s unjudged _ => unjudged)
    · apply Triple.bind (unjudged_transition (by decide))
      intro _
      apply Triple.bind (keeping_keep rfl rfl (fun _ _ => rfl))
      exact fun _ => Triple.raise (fun _ _ => trivial)

theorem keeping_evidenceLoop (input : InvestigationWorkflowInput) (planId : String) (left : Nat)
    (digests : List String) : Keeping Unjudged (evidenceLoop input planId left digests) (fun _ => Early False) := by
  induction left generalizing digests with
  | zero => exact Triple.ret (fun _ _ => False.elim)
  | succ left ih =>
    rw [evidenceLoop]
    apply Triple.bind (unjudged_transition (by decide))
    intro _
    apply Triple.bind (keeping_keep rfl rfl (fun _ _ => rfl))
    intro _
    apply Triple.bind unjudged_gate
    intro _
    apply keeping_stage
    intro rowDigest
    apply keeping_stage
    intro bundleDigest
    apply keeping_stage
    intro _
    apply keeping_stage
    intro hypotheses
    apply Triple.bind (unjudged_transition (by decide))
    intro _
    apply Triple.bind (keeping_keep rfl rfl (fun _ _ => rfl))
    intro _
    apply Triple.bind (keeping_runTask _)
    intro verified
    apply Triple.bind (keeping_concludeLoop _ verified)
    intro found
    cases found with
    | some top => exact Triple.ret (fun _ _ => False.elim)
    | none => exact (ih _).weaken (fun s unjudged => unjudged rfl)

theorem keeping_packageEvidence (input : InvestigationWorkflowInput) (top : Option String) (digests : List String) :
    Keeping (Early False) (packageEvidence input top digests) (fun _ => Early False) := by
  have kept {c : WorkflowCall} (synchronous : c.suspends = false) (plain : overwrites c = false) :
      Keeping (Early False) (Prog.call c) (fun _ => Early False) :=
    Triple.await synchronous (fun o s _ => keepsTerminal_free o c s plain) (fun _ _ _ => False.elim)
  have packaged (request : InvestigationActivity) : Keeping (Early False) (runTask request) (fun _ => Early False) := by
    apply triple_runTask keepsTerminal_free
    · exact fun _ _ => trivial
    · exact fun _ _ => False.elim
    · exact fun _ _ _ _ => False.elim
    · intro o s message answered _ failed judged
      have ok := answered judged request rfl
      rw [failed] at ok
      cases ok
  have sealed (manifest : InvestigationManifest) :
      Keeping (Early False) (do Prog.call (WorkflowCall.setStep "SEALED"); pure manifest) (fun _ => Early False) := by
    apply Triple.bind (kept rfl rfl)
    exact fun _ => Triple.ret (fun _ _ => False.elim)
  apply Triple.bind (kept rfl rfl)
  intro _
  apply Triple.bind (kept rfl rfl)
  intro cogs
  apply Triple.bind (packaged _)
  intro manifest
  apply Triple.bind (kept rfl rfl)
  intro _
  apply Triple.bind (kept rfl rfl)
  intro status
  dsimp only
  split
  · have completed : Keeping (Early False) (transition .completed) (fun _ => Early False) :=
      triple_transition keepsTerminal_free (fun _ _ _ => False.elim) (fun _ _ _ _ => trivial)
    exact Triple.bind completed (fun _ => sealed manifest)
  · exact sealed manifest

theorem keeping_investigate (input : InvestigationWorkflowInput) :
    Keeping Unjudged (investigate input) (fun _ => Early False) := by
  apply keeping_stage
  intro _
  apply Triple.bind (keeping_keep rfl rfl (fun _ _ => rfl))
  intro _
  apply keeping_stage
  intro planId
  apply Triple.bind (keeping_evidenceLoop input planId 2 [])
  intro gathered
  apply Triple.bind (keeping_gate False)
  exact fun _ => keeping_packageEvidence input gathered.1 gathered.2

/-- The exception handler overwrites no terminal status. -/
theorem keeping_onFailure (failure : WorkflowFailure) :
    Triple workflowServer sparing keepsTerminal (Raised failure) (onFailure failure)
      (fun _ s => Early False s.control) Raised := by
  have handled (text : String) : Keeping (Early False) (reportFailure text) (fun _ => Early False) := by
    apply Triple.bind (keeping_keep rfl rfl (fun _ _ => rfl))
    exact fun _ => Triple.raise (fun _ _ => trivial)
  have fails : Triple workflowServer sparing keepsTerminal (fun s => s.status ∉ terminalStates)
      (Prog.call (WorkflowCall.transition .failed))
      (fun reply s => reply.isOk = false → s.status ∉ terminalStates) Raised := by
    apply Triple.await rfl
    · exact fun o s _ => keepsTerminal_free o _ s rfl
    · intro o s active
      have served : workflowServer.serve o (.transition .failed) s = s.transition .failed := rfl
      rcases s.transition_cases .failed with ⟨_,moved⟩ | ⟨_,message,type,refused⟩
      · rw [served,moved]
        exact fun failed => nomatch failed
      · rw [served,refused]
        exact fun _ => active
  have overwritten : Triple workflowServer sparing keepsTerminal (fun s => s.status ∉ terminalStates)
      (Prog.call (WorkflowCall.setStatus .failed)) (fun _ s => Early False s.control) Raised := by
    apply Triple.await rfl
    · exact fun o s active => final_of_open active
    · exact fun _ _ _ => False.elim
  obtain ⟨message,type,rfl,raised⟩ | ⟨other,run⟩ := onFailure_cases failure
  · rw [raised]
    exact Triple.raise (fun _ _ => trivial)
  · rw [run]
    have active : Triple workflowServer sparing keepsTerminal (fun s => s.status ≠ .needMoreEvidence)
        (failRun failure.text) (fun _ s => Early False s.control) Raised := by
      apply triple_read keepsTerminal_free (fun s => s.status) rfl rfl (fun _ _ => rfl)
      intro status
      dsimp only
      split
      next guarded =>
        apply Triple.bind (fails.weaken ?_)
        · intro reply
          cases reply with
          | ok _ => exact (handled failure.text).weaken (fun _ _ => False.elim)
          | error _ =>
            apply Triple.bind (overwritten.weaken (fun s active => active rfl))
            exact fun _ => handled failure.text
        · rintro s ⟨unjudged,rfl⟩
          simp [terminalStates,guarded,unjudged]
      next => exact (handled failure.text).weaken (fun _ _ => False.elim)
    refine active.weaken ?_
    intro s raised
    cases failure with
    | application message type => exact absurd rfl (other message type)
    | activity message => exact raised
    | domain message => exact raised

theorem keeping_run (fromIso : String → Except InputFailure UtcDateTime) (workflowId : String)
    (input : InvestigationWorkflowInput) : Keeping Unjudged (run fromIso workflowId input) (fun _ => Early False) := by
  apply Triple.bind (keeping_keep rfl rfl (fun _ _ => rfl))
  intro _
  cases input.validate fromIso workflowId with
  | error failure =>
    change Keeping Unjudged (refuseInput failure) (fun _ => Early False)
    unfold refuseInput
    dsimp only
    split
    · apply Triple.bind (keeping_keep rfl rfl (fun _ _ => rfl))
      intro _
      apply Triple.bind (unjudged_transition (by decide))
      exact fun _ => Triple.raise (fun _ _ => trivial)
    · exact Triple.raise (fun s unjudged => unjudged.1)
  | ok _ =>
    apply Triple.bind unjudged_gate
    intro _
    apply Triple.bind (unjudged_transition (by decide))
    intro _
    apply Triple.bind (keeping_keep rfl rfl (fun _ _ => rfl))
    intro _
    exact Triple.handle (keeping_investigate input) keeping_onFailure

end InvestigationWorkflow

namespace Execution
open InvestigationWorkflow

/-- While the status is `NEED_MORE_EVIDENCE`, no pause or cancel signal arrives and the
activity does not fail. -/
def Sparing (e : Execution) : WorkflowEvent → Prop
  | .resume _ => True
  | .proceed outcome =>
    e.self.status = .needMoreEvidence → ∀ request ∈ awaitedActivity e.body, (outcome request).isOk = true
  | _ => e.running = true → e.self.status ≠ .needMoreEvidence

instance (e : Execution) : (event : WorkflowEvent) → Decidable (e.Sparing event)
  | .resume _ => inferInstanceAs (Decidable True)
  | .proceed outcome => inferInstanceAs (Decidable
      (e.self.status = .needMoreEvidence → ∀ request ∈ awaitedActivity e.body, (outcome request).isOk = true))
  | .pause _ => inferInstanceAs (Decidable (e.running = true → e.self.status ≠ .needMoreEvidence))
  | .cancel _ => inferInstanceAs (Decidable (e.running = true → e.self.status ≠ .needMoreEvidence))

def Keeps (e : Execution) : Prop :=
  Resting workflowServer sparing keepsTerminal (fun _ s => Early False s.control) Raised e.body e.self

theorem start_keeps (fromIso : String → Except InputFailure UtcDateTime) (workflowId : String)
    (input : InvestigationWorkflowInput) : (start fromIso workflowId input).Keeps := by
  intro s changed o _
  have fresh : Unjudged (start fromIso workflowId input).self.control := by
    constructor <;> simp [start,WorkflowState.control]
  have unjudged : Unjudged s.control :=
    @changes_keep _ _ _ sparing (fun s => Unjudged s.control) (fun s s' change => unjudged_signalled change.1) _ _
      changed fresh
  exact ⟨keepsTerminal_free o _ s rfl,keeping_run fromIso workflowId input o s unjudged⟩

/-- A signal that is no signal to a workflow in `NEED_MORE_EVIDENCE` leaves every
terminal status. -/
theorem final_signalled {s s' : WorkflowState} (signalled : Signalled s s')
    (spared : s.status = .needMoreEvidence → s' = s) : Final s s' := by
  intro terminal
  simp only [terminalStates,List.mem_cons,List.not_mem_nil,or_false] at terminal
  cases signalled with
  | pause signal =>
    rcases s.pauseInvestigation_cases signal with ⟨_,same⟩ | ⟨active,_⟩
    · rw [same]
    · rw [spared (by tauto)]
  | resume signal =>
    rcases s.resumeInvestigation_cases signal with ⟨_,same⟩ | ⟨paused,_⟩
    · rw [same]
    · simp [paused] at terminal
  | cancel signal =>
    rcases s.cancelInvestigation_cases signal with ⟨_,same⟩ | ⟨active,_⟩
    · rw [same]
    · rw [spared (by tauto)]

theorem signalled_keeps {e : Execution} {handler : WorkflowState → WorkflowState}
    (signal : Signalled e.self (handler e.self))
    (spared : e.running = true → e.self.status = .needMoreEvidence → handler e.self = e.self) (keeps : e.Keeps) :
    (e.signalled handler).Keeps ∧ Final e.self (e.signalled handler).self := by
  unfold signalled
  split
  next runs =>
    obtain ⟨c,waits⟩ := Option.isSome_iff_exists.mp runs
    exact ⟨resting_changes keeps waits ⟨signal,spared runs⟩,final_signalled signal (spared runs)⟩
  · exact ⟨keeps,fun _ => rfl⟩

/-- One event: every write of the status on the way finds it open or keeps it. -/
theorem step_keeps {e : Execution} (keeps : e.Keeps) (event : WorkflowEvent) (spared : e.Sparing event) :
    (e.step event).Keeps ∧ List.IsChain Final (e.self :: e.passes event) ∧
      (e.passes event).getLastD e.self = (e.step event).self := by
  have signals {handler : WorkflowState → WorkflowState} (signal : Signalled e.self (handler e.self))
      (spared : e.running = true → e.self.status = .needMoreEvidence → handler e.self = e.self) :
      (e.signalled handler).Keeps ∧ List.IsChain Final [e.self,(e.signalled handler).self] ∧
        [(e.signalled handler).self].getLastD e.self = (e.signalled handler).self := by
    obtain ⟨keeps,final⟩ := signalled_keeps signal spared keeps
    exact ⟨keeps,.cons_cons final (.singleton _),rfl⟩
  cases event with
  | pause signal => exact signals (.pause e.self signal) (fun runs judged => absurd judged (spared runs))
  | cancel signal => exact signals (.cancel e.self signal) (fun runs judged => absurd judged (spared runs))
  | resume signal =>
    apply signals (.resume e.self signal)
    intro _ judged
    rcases e.self.resumeInvestigation_cases signal with ⟨_,same⟩ | ⟨paused,_⟩
    · exact same
    · rw [paused] at judged
      cases judged
  | proceed outcome =>
    change (e.proceed outcome).Keeps ∧ _ ∧ _ = (e.proceed outcome).self
    rcases e.proceed_cases outcome with ⟨same,empty⟩ | ⟨c,resume,body,s,waits,answered,settled,moved,passes⟩
    · rw [same,empty]
      exact ⟨keeps,.singleton _,rfl⟩
    · unfold Keeps at keeps
      rw [waits] at keeps
      have allowed : sparing.answers outcome c e.self := by
        rintro judged request rfl
        exact spared judged request (by simp [waits,awaitedActivity])
      have ⟨served,sound⟩ := keeps e.self .refl outcome allowed
      have rests := (sound_settle sound).1
      have chain := sound_passed (K := Final) (fun _ _ _ final => final) sound
      have last : (passed workflowServer outcome (resume (workflowServer.serve outcome c e.self).1)
          (workflowServer.serve outcome c e.self).2).getLastD (workflowServer.serve outcome c e.self).2 =
            (settle workflowServer outcome (resume (workflowServer.serve outcome c e.self).1)
              (workflowServer.serve outcome c e.self).2).2 := settle_passed _ outcome _
      rw [settled] at rests last
      rw [moved,passes]
      exact ⟨rests,.cons_cons served chain,by rw [List.getLastD_cons,last]⟩

theorem lifetime_head (e : Execution) (events : List WorkflowEvent) : ∃ rest, e.lifetime events = e.self :: rest := by
  cases events with
  | nil => exact ⟨[],rfl⟩
  | cons event events => exact ⟨_,rfl⟩

theorem lifetime_final {e : Execution} {events : List WorkflowEvent} (keeps : e.Keeps)
    (spared : Along step Sparing e events) : List.IsChain Final (e.lifetime events) := by
  induction events generalizing e with
  | nil => exact .singleton e.self
  | cons event events ih =>
    obtain ⟨keeps,chain,last⟩ := step_keeps keeps event spared.1
    have later := ih keeps spared.2
    obtain ⟨rest,head⟩ := (e.step event).lifetime_head events
    rw [lifetime,← List.cons_append,List.isChain_append]
    refine ⟨chain,later,?_⟩
    intro s before s' after
    have meets : s = s' := by
      rw [head,List.head?_cons,Option.mem_some_iff] at after
      rw [List.getLast?_cons,Option.mem_some_iff,← List.getLastD_eq_getLast?,last] at before
      exact before.symm.trans after
    rw [meets]
    exact fun _ => rfl

/-- A run that spares `NEED_MORE_EVIDENCE` never writes over a terminal status. -/
theorem terminal_status_kept (fromIso : String → Except InputFailure UtcDateTime) (workflowId : String)
    (input : InvestigationWorkflowInput) (events : List WorkflowEvent)
    (spared : Along step Sparing (start fromIso workflowId input) events) :
    ((start fromIso workflowId input).lifetime events).Pairwise Final := by
  have : IsTrans WorkflowState Final := ⟨fun _ _ _ => final_trans⟩
  exact (lifetime_final (start_keeps fromIso workflowId input) spared).pairwise

/-- Two looping verdicts, packaged under no signal but a late resume. -/
theorem inconclusive_packaged :
    let found : WorkflowEvent := .proceed (fun request => .ok (resultsWith "NEED_MORE_EVIDENCE" request))
    ((start (fun _ => .error .overflow) "" churnInput).lifetime
      (List.replicate 13 found ++ [.resume ⟨"usr_1"⟩,found])).Pairwise Final := by
  intro found
  exact terminal_status_kept (fun _ => .error .overflow) "" churnInput _ (by decide +kernel)

theorem run_mem_lifetime (e : Execution) (events : List WorkflowEvent) :
    (run step e events).self ∈ e.lifetime events := by
  induction events generalizing e with
  | nil => exact List.mem_singleton_self e.self
  | cons event events ih => exact List.mem_cons_of_mem _ (List.mem_append_right _ (ih (e.step event)))

theorem lifetime_append (e : Execution) (pre post : List WorkflowEvent) :
    ∃ before, e.lifetime (pre ++ post) = before ++ (run step e pre).lifetime post := by
  induction pre generalizing e with
  | nil => exact ⟨[],rfl⟩
  | cons event pre ih =>
    obtain ⟨before,same⟩ := ih (e.step event)
    refine ⟨e.self :: (e.passes event ++ before),?_⟩
    simp [lifetime,same]

/-- The statuses between events are among the kept ones. -/
theorem final_of_lifetime {e : Execution} {pre post : List WorkflowEvent}
    (kept : (e.lifetime (pre ++ post)).Pairwise Final) :
    Final (run step e pre).self (run step e (pre ++ post)).self := by
  obtain ⟨before,same⟩ := e.lifetime_append pre post
  obtain ⟨rest,head⟩ := (run step e pre).lifetime_head post
  have last := (run step e pre).run_mem_lifetime post
  rw [same] at kept
  have later := (List.pairwise_append.mp kept).2.1
  rw [head,List.pairwise_cons] at later
  rw [head] at last
  rw [run_append]
  rcases List.mem_cons.mp last with first | inside
  · rw [first]
    exact fun _ => rfl
  · exact later.1 _ inside

/-- A pause while the evidence is packaged overwrites `NEED_MORE_EVIDENCE`. -/
theorem pause_overwrites_verdict :
    ¬ ∀ (fromIso : String → Except InputFailure UtcDateTime) (workflowId : String) (input : InvestigationWorkflowInput)
      (events : List WorkflowEvent), ((start fromIso workflowId input).lifetime events).Pairwise Final := by
  intro all
  let found : WorkflowEvent := .proceed (fun request => .ok (resultsWith "NEED_MORE_EVIDENCE" request))
  have kept := all (fun _ => .error .overflow) "" churnInput (List.replicate 13 found ++ [.pause ⟨"review","usr_1"⟩])
  have judged : (run step (start (fun _ => .error .overflow) "" churnInput) (List.replicate 13 found)).self.status =
      .needMoreEvidence := by decide +kernel
  have paused : (run step (start (fun _ => .error .overflow) "" churnInput)
      (List.replicate 13 found ++ [.pause ⟨"review","usr_1"⟩])).self.status = .paused := by decide +kernel
  have same := final_of_lifetime kept (by rw [judged]; decide)
  rw [judged,paused] at same
  cases same

end Execution
end RevPilot.Investigation
