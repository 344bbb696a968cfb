import RevPilot.Investigation.Workflow

/-! The fields of the workflow object that decide how its coroutine goes on, what the
signals do to them, and a rule for every kind of step of the coroutine. -/
namespace RevPilot.Investigation
open Library Shared Program

structure Control where
  status : InvestigationStatus
  priorActiveState : Option InvestigationStatus
  isPaused : Bool
  isCancelled : Bool

def WorkflowState.control (s : WorkflowState) : Control where
  status := s.status
  priorActiveState := s.priorActiveState
  isPaused := s.isPaused
  isCancelled := s.isCancelled

/-- What a signal does to the object. -/
inductive Signalled : WorkflowState → WorkflowState → Prop
  | pause (s : WorkflowState) (signal : PauseInvestigationSignal) : Signalled s (s.pauseInvestigation signal)
  | resume (s : WorkflowState) (signal : ResumeInvestigationSignal) : Signalled s (s.resumeInvestigation signal)
  | cancel (s : WorkflowState) (signal : CancelInvestigationSignal) : Signalled s (s.cancelInvestigation signal)

/-- A call that writes the status past the transition table. -/
def overwrites : WorkflowCall → Bool
  | .setStatus _ => true
  | _ => false

namespace InvestigationWorkflow
section rules
variable {around : Surroundings WorkflowState ActivityOutcome WorkflowCall}
  {duty : Duty WorkflowState ActivityOutcome WorkflowCall} {A B : Type} {P Q : Control → Prop}
  {raised : WorkflowFailure → WorkflowState → Prop}
  (free : ∀ o c s, overwrites c = false → duty.served o c s)
include free

/-- A synchronous call that leaves the control fields as they are. -/
theorem triple_keep {c : WorkflowCall} (synchronous : c.suspends = false) (plain : overwrites c = false)
    (keeps : ∀ o s, (WorkflowState.serve o c s).2.control = s.control) :
    Triple workflowServer around duty (fun s => P s.control) (Prog.call c) (fun _ s => P s.control) raised := by
  apply Triple.await synchronous
  · exact fun o s _ => free o c s plain
  · intro o s holds
    have same : (workflowServer.serve o c s).2.control = s.control := keeps o s
    unfold Sound
    rw [same]
    exact holds

/-- A read, with the value it gives. -/
theorem triple_read {c : WorkflowCall} {next : c.Reply → WorkflowProg A} {pre : WorkflowState → Prop}
    {done : A → WorkflowState → Prop} (value : WorkflowState → c.Reply) (synchronous : c.suspends = false)
    (plain : overwrites c = false) (reads : ∀ o s, WorkflowState.serve o c s = (value s,s))
    (rest : ∀ reply, Triple workflowServer around duty (fun s => pre s ∧ value s = reply) (next reply) done raised) :
    Triple workflowServer around duty pre (Prog.call c >>= next) done raised := by
  apply Triple.await synchronous
  · exact fun o s _ => free o c s plain
  · intro o s holds
    have read : workflowServer.serve o c s = (value s,s) := reads o s
    rw [read]
    exact rest (value s) o s ⟨holds,rfl⟩

theorem triple_transition {target : InvestigationStatus}
    (moves : ∀ x, P x → target ∈ permitted x.status x.priorActiveState → Q { x with status := target })
    (refuses : ∀ s message type, P s.control → raised (.application message type) s) :
    Triple workflowServer around duty (fun s => P s.control) (transition target) (fun _ s => Q s.control) raised := by
  apply Triple.await rfl
  · exact fun o s _ => free o _ s rfl
  · intro o s holds
    have served : workflowServer.serve o (.transition target) s = s.transition target := rfl
    rcases s.transition_cases target with ⟨allowed,moved⟩ | ⟨_,message,type,refused⟩
    · rw [served,moved]
      exact moves s.control holds allowed
    · rw [served,refused]
      exact refuses s message type holds

theorem triple_spend {usd : Decimal} (exceeds : ∀ s message, P s.control → raised (.domain message) s) :
    Triple workflowServer around duty (fun s => P s.control) (spend usd) (fun _ s => P s.control) raised := by
  apply Triple.await rfl
  · exact fun o s _ => free o _ s rfl
  · intro o s holds
    have served : workflowServer.serve o (.recordSpend usd) s = s.recordSpend usd := rfl
    rcases s.recordSpend_cases usd with ⟨budget,spent⟩ | ⟨message,refused⟩
    · rw [served,spent]
      exact holds
    · rw [served,refused]
      exact exceeds s message holds

/-- An activity: `Q` holds through the signals until its answer. -/
theorem triple_runTask {request : InvestigationActivity}
    (held : ∀ s, P s.control → duty.suspended (.activity request) s) (enters : ∀ x, P x → Q x)
    (stable : ∀ s s', around.changes s s' → Q s.control → Q s'.control)
    (fails : ∀ o s message, around.answers o (.activity request) s → Q s.control → o request = .error message →
      raised (.activity message) s) :
    Triple workflowServer around duty (fun s => P s.control) (runTask request) (fun _ s => Q s.control) raised := by
  apply Triple.bind (triple_keep free rfl rfl (fun _ _ => rfl))
  intro _
  apply @Triple.suspend _ _ _ _ _ _ _ _ _ _ _ (fun s => Q s.control) _ _ _ rfl held
  · exact fun s holds => enters s.control holds
  · exact stable
  · exact fun o s _ _ => free o _ s rfl
  · intro o s answered holds
    have served : workflowServer.serve o (.activity request) s = (o request,s) := rfl
    rw [served]
    cases reply : o request with
    | error message => exact fails o s message answered holds reply
    | ok result =>
      have ends := @triple_keep around duty Q raised free .endTask rfl rfl (fun _ _ => rfl)
      exact Triple.bind ends (fun _ => Triple.ret (fun s holds => holds)) o s holds

end rules
end InvestigationWorkflow
end RevPilot.Investigation
