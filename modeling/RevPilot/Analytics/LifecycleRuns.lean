import Mathlib.Data.List.Nodup
import Mathlib.Data.Int.Basic
import RevPilot.Analytics.Lifecycle
import RevPilot.Library.Lists
import RevPilot.Library.Runs

/-! Runs of transitions on several anomalies: the version counts the transitions, these
are a chain, each one has its outbox event, and no two events share a key. -/
namespace RevPilot.Analytics
open Library Shared Runs Keys

/-- The transitions lead from the first state to the last, each from where the one before ended. -/
def Connected : AnomalyState → List AnomalyTransitionRecord → AnomalyState → Prop
  | first, [], last => first = last
  | first, record :: records, last => record.fromState = first ∧ Connected record.toState records last

theorem connected_append {first middle last : AnomalyState} {records more : List AnomalyTransitionRecord}
    (before : Connected first records middle) (after : Connected middle more last) :
    Connected first (records ++ more) last := by
  induction records generalizing first with
  | nil =>
    have same : first = middle := before
    exact same ▸ after
  | cons record records ih => exact ⟨before.1,ih before.2⟩

def eventKey (id : String) (state : AnomalyState) (n : Nat) : String :=
  if n = 1 then "anm_detect_" ++ id ++ "_v1" else "anm_" ++ id ++ "_" ++ state.lower ++ "_v" ++ n.repr

/-- The event of the n-th transition of an aggregate. -/
structure EventOf (a : AnomalyAggregate) (entry : AnomalyTransitionRecord × Nat) (event : OutboxDomainEvent) :
    Prop where
  type : event.eventType = entry.1.toState.eventType
  version : event.aggregateVersion = entry.2
  aggregate : event.aggregateId = a.id ∧ entry.1.anomalyId = a.id
  tenant : event.tenantId = a.tenantId ∧ entry.1.tenantId = a.tenantId
  time : event.occurredAt = entry.1.transitionedAt
  key : event.idempotencyKey = eventKey a.id entry.1.toState entry.2

structure Sound (a : AnomalyAggregate) : Prop where
  counted : a.version = a.transitions.length
  started : 1 ≤ a.version
  connected : Connected .detected a.transitions a.state
  paired : List.Forall₂ (EventOf a) (a.transitions.zipIdx 1) a.pendingOutboxEvents

theorem sound_createDetected (args : Detection) : Sound (.createDetected args) where
  counted := rfl
  started := le_refl 1
  connected := ⟨rfl,rfl⟩
  paired := .cons ⟨rfl,rfl,⟨rfl,rfl⟩,⟨rfl,rfl⟩,rfl,rfl⟩ .nil

/-- An actor whom the aggregate lets act. -/
def Admitted (a : AnomalyAggregate) (actor : Option PrincipalContext) : Prop :=
  ∃ principal ∈ actor, principal.isSystem = true ∨ principal.tenantId = some a.tenantId

theorem transitionError_cases (a : AnomalyAggregate) (target : AnomalyState) (actor : Option PrincipalContext) :
    (∃ error, a.transitionError target actor = .error error ∧ ¬ (Admitted a actor ∧ target ∈ a.state.legalTransitions)) ∨
    (∃ principal, a.transitionError target actor = .ok principal ∧ Admitted a actor ∧ target ∈ a.state.legalTransitions) := by
  cases actor with
  | none => exact .inl ⟨_,rfl,by simp [Admitted]⟩
  | some principal =>
    have admitted : Admitted a (some principal) ↔ ¬ ((!principal.isSystem && principal.tenantId != some a.tenantId) = true) := by
      cases system : principal.isSystem <;> simp [Admitted,system]
    simp only [AnomalyAggregate.transitionError]
    split
    next foreigner => exact .inl ⟨_,rfl,fun both => admitted.mp both.1 foreigner⟩
    next own =>
      split
      next closed =>
        refine .inl ⟨_,rfl,fun both => ?_⟩
        rw [closed.1] at both
        exact closed.2 (List.mem_singleton.mp both.2)
      next =>
        split
        next illegal => exact .inl ⟨_,rfl,fun both => illegal both.2⟩
        next legal => exact .inr ⟨principal,rfl,admitted.mpr own,not_not.mp legal⟩

/-- What an accepted call does. -/
theorem transitionTo_cases (a : AnomalyAggregate) (call : TransitionCall) :
    (∃ error, a.transitionTo call = (.error error,a)) ∨
    ∃ record event a', a.transitionTo call = (.ok record,a') ∧ call.targetState ∈ a.state.legalTransitions ∧
      a'.id = a.id ∧ a'.tenantId = a.tenantId ∧ a'.state = call.targetState ∧ a'.version = a.version + 1 ∧
      a'.transitions = a.transitions ++ [record] ∧ a'.pendingOutboxEvents = a.pendingOutboxEvents ++ [event] ∧
      record.fromState = a.state ∧ record.toState = call.targetState ∧
      (1 ≤ a.version → EventOf a (record,a.version + 1) event) := by
  rcases transitionError_cases a call.targetState call.actor with ⟨error,refused,_⟩ | ⟨actor,passed,_,legal⟩
  · exact .inl ⟨error,by simp only [AnomalyAggregate.transitionTo,refused]⟩
  · simp only [AnomalyAggregate.transitionTo,passed]
    refine .inr ⟨_,_,_,rfl,legal,rfl,rfl,rfl,rfl,rfl,rfl,rfl,rfl,?_⟩
    intro started
    have later : a.version + 1 ≠ 1 := by omega
    exact ⟨rfl,rfl,⟨rfl,rfl⟩,⟨rfl,rfl⟩,rfl,by rw [eventKey,if_neg later]⟩

theorem sound_transitionTo {a : AnomalyAggregate} (sound : Sound a) (call : TransitionCall) :
    Sound (a.transitionTo call).2 := by
  rcases transitionTo_cases a call with
    ⟨error,refused⟩ | ⟨record,event,a',done,_,id,tenant,state,version,records,events,source,target,made⟩
  · rw [refused]
    exact sound
  · rw [done]
    have same : EventOf a' = EventOf a := by
      funext entry event
      apply propext
      constructor <;> rintro ⟨type,number,aggregate,owner,time,key⟩
      · exact ⟨type,number,id ▸ aggregate,tenant ▸ owner,time,id ▸ key⟩
      · exact ⟨type,number,id.symm ▸ aggregate,tenant.symm ▸ owner,time,id.symm ▸ key⟩
    constructor
    · have counted := sound.counted
      simp [version,records,counted]
    · have later : 1 ≤ a.version + 1 := by omega
      rw [version]
      exact later
    · rw [records,state]
      exact connected_append sound.connected ⟨source,target⟩
    · have number : 1 + a.transitions.length = a.version + 1 := by
        have counted := sound.counted
        omega
      rw [records,events,same,List.zipIdx_append,number]
      exact List.rel_append sound.paired (.cons (made sound.started) .nil)

section keys

theorem lower_clear (state : AnomalyState) : '_' ∉ state.lower.toList := by cases state <;> decide

theorem split_version {left right : String} {n m : Nat}
    (same : left ++ "_v" ++ n.repr = right ++ "_v" ++ m.repr) : left = right ∧ n = m := by
  have parts : left ++ String.singleton '_' ++ ("v" ++ n.repr) = right ++ String.singleton '_' ++ ("v" ++ m.repr) := by
    have shown : "_v" = String.singleton '_' ++ "v" := by decide
    simpa only [shown,String.append_assoc] using same
  have clear (k : Nat) : '_' ∉ ("v" ++ k.repr).toList := by
    have digits : '_' ∉ k.repr.toList := not_mem_repr rfl k
    intro inside
    rw [String.toList_append,List.mem_append] at inside
    rcases inside with head | tail
    · exact absurd head (by decide)
    · exact digits tail
  obtain ⟨rfl,digits⟩ := split_text (clear n) (clear m) parts
  have number : n.repr = m.repr := (String.append_right_inj "v").mp digits
  have wide : Int.repr (n : Int) = Int.repr (m : Int) := number
  have equal := Int.repr_injective wide
  exact ⟨rfl,by omega⟩

/-- The key determines the aggregate and the version. -/
theorem eventKey_injective {id id' : String} {state state' : AnomalyState} {n n' : Nat}
    (same : eventKey id state n = eventKey id' state' n') : id = id' ∧ n = n' := by
  have one : (1 : Nat).repr = "1" := by decide
  have first (id : String) : "anm_detect_" ++ id ++ "_v1" = "anm_detect_" ++ id ++ "_v" ++ (1 : Nat).repr := by
    rw [one,@String.append_assoc _ "_v" _]
    rfl
  simp only [eventKey,first] at same
  split_ifs at same with start start' start'
  · obtain ⟨left,_⟩ := split_version same
    exact ⟨(String.append_right_inj "anm_detect_").mp left,start.trans start'.symm⟩
  · obtain ⟨_,number⟩ := split_version same
    exact absurd number.symm start'
  · obtain ⟨_,number⟩ := split_version same
    exact absurd number start
  · obtain ⟨left,number⟩ := split_version same
    obtain ⟨ids,_⟩ := split_text (lower_clear state) (lower_clear state') left
    exact ⟨(String.append_right_inj "anm_").mp ids,number⟩

end keys

def AnomalyAggregate.keys (a : AnomalyAggregate) : List String := a.pendingOutboxEvents.map (·.idempotencyKey)

theorem keys_eq {a : AnomalyAggregate} (sound : Sound a) :
    a.keys = (a.transitions.zipIdx 1).map (fun entry => eventKey a.id entry.1.toState entry.2) := by
  have paired := sound.paired
  simp only [AnomalyAggregate.keys]
  generalize a.transitions.zipIdx 1 = entries at paired
  generalize a.pendingOutboxEvents = events at paired
  induction paired with
  | nil => rfl
  | cons event _ ih => simp [event.key,ih]

theorem keys_nodup {a : AnomalyAggregate} (sound : Sound a) : a.keys.Nodup := by
  rw [keys_eq sound,List.Nodup,List.pairwise_map]
  have numbers : ((a.transitions.zipIdx 1).map Prod.snd).Nodup := by
    rw [List.zipIdx_map_snd]
    exact List.nodup_range'
  rw [List.Nodup,List.pairwise_map] at numbers
  apply numbers.imp
  intro one other apart same
  exact apart (eventKey_injective same).2

theorem keys_disjoint {a b : AnomalyAggregate} (soundA : Sound a) (soundB : Sound b) (apart : a.id ≠ b.id) :
    a.keys.Disjoint b.keys := by
  intro key inA inB
  rw [keys_eq soundA,List.mem_map] at inA
  rw [keys_eq soundB,List.mem_map] at inB
  obtain ⟨one,_,rfl⟩ := inA
  obtain ⟨other,_,same⟩ := inB
  exact apart (eventKey_injective same).1.symm

theorem all_keys_nodup {s : List AnomalyAggregate} (sound : ∀ a ∈ s, Sound a) (distinct : (s.map (·.id)).Nodup) :
    (s.flatMap (·.keys)).Nodup := by
  rw [List.nodup_flatMap]
  constructor
  · intro a inside
    exact keys_nodup (sound a inside)
  · rw [List.Nodup,List.pairwise_map] at distinct
    apply distinct.imp_of_mem
    intro a b insideA insideB apart
    exact keys_disjoint (sound a insideA) (sound b insideB) apart

/-- One `transition_to` call, on the aggregate at the given place. -/
def lifecycleStep (s : List AnomalyAggregate) (op : Nat × TransitionCall) : List AnomalyAggregate :=
  s.modify op.1 (fun a => (a.transitionTo op.2).2)

/-- A suppressed anomaly stays as it is. -/
def SuppressedKept (s s' : List AnomalyAggregate) : Prop :=
  ∀ (i : Nat) (a : AnomalyAggregate), s[i]? = some a → a.state = .suppressed → s'[i]? = some a

/-- A call that returns a failure changes no aggregate. -/
def FailureSilent (s : List AnomalyAggregate) (op : Nat × TransitionCall) : Prop :=
  ∀ a error, s[op.1]? = some a → (a.transitionTo op.2).1 = .error error → lifecycleStep s op = s

structure AllSound (s : List AnomalyAggregate) : Prop where
  each : ∀ a ∈ s, Sound a
  distinct : (s.map (·.id)).Nodup

theorem transitionTo_id (a : AnomalyAggregate) (call : TransitionCall) : (a.transitionTo call).2.id = a.id := by
  rcases transitionTo_cases a call with ⟨error,refused⟩ | ⟨_,_,a',done,_,id,_⟩
  · rw [refused]
  · rw [done]
    exact id

theorem ids_step (s : List AnomalyAggregate) (op : Nat × TransitionCall) :
    (lifecycleStep s op).map (·.id) = s.map (·.id) := by
  apply List.ext_getElem?
  intro i
  simp only [lifecycleStep,List.getElem?_map,List.getElem?_modify]
  cases s[i]? with
  | none => rfl
  | some a =>
    by_cases here : op.1 = i
    · simp [here,transitionTo_id]
    · simp [here]

theorem allSound_step {s : List AnomalyAggregate} (sound : AllSound s) (op : Nat × TransitionCall) :
    AllSound (lifecycleStep s op) := by
  constructor
  · intro a inside
    obtain ⟨i,found⟩ := List.mem_iff_getElem?.mp inside
    simp only [lifecycleStep,List.getElem?_modify] at found
    cases known : s[i]? with
    | none => simp [known] at found
    | some before =>
      have kept := sound.each before (List.mem_of_getElem? known)
      simp only [known,Option.map_eq_map,Option.map_some,Option.some.injEq] at found
      split_ifs at found
      · exact found ▸ sound_transitionTo kept op.2
      · exact found ▸ kept
  · rw [ids_step]
    exact sound.distinct

theorem suppressed_step (s : List AnomalyAggregate) (op : Nat × TransitionCall) :
    SuppressedKept s (lifecycleStep s op) := by
  intro i a known suppressed
  have refused : (a.transitionTo op.2).2 = a := by
    rcases transitionTo_cases a op.2 with ⟨error,refused⟩ | ⟨_,_,_,_,legal,_⟩
    · rw [refused]
    · simp [suppressed,AnomalyState.legalTransitions] at legal
  by_cases here : op.1 = i
  · simp [lifecycleStep,here,known,refused]
  · simp [lifecycleStep,here,known]

theorem failure_silent (s : List AnomalyAggregate) (op : Nat × TransitionCall) : FailureSilent s op := by
  intro a error known failed
  have same : (a.transitionTo op.2).2 = a := by
    rcases transitionTo_cases a op.2 with ⟨error,refused⟩ | ⟨_,_,_,done,_⟩
    · rw [refused]
    · simp [done] at failed
  apply List.ext_getElem?
  intro i
  by_cases here : op.1 = i
  · subst here
    simp [lifecycleStep,known,same]
  · simp [lifecycleStep,here]

theorem lifecycle_sound (detections : List Detection) (calls : List (Nat × TransitionCall))
    (distinct : (detections.map (·.id)).Nodup) :
    let start := detections.map AnomalyAggregate.createDetected
    Always lifecycleStep (fun s => (∀ a ∈ s, Sound a) ∧ (s.flatMap (·.keys)).Nodup) start calls ∧
      Through lifecycleStep SuppressedKept start calls ∧ Along lifecycleStep FailureSilent start calls := by
  intro start
  have created : AllSound start := by
    constructor
    · intro a inside
      obtain ⟨args,_,rfl⟩ := List.mem_map.mp inside
      exact sound_createDetected args
    · have ids : start.map (·.id) = detections.map (·.id) := by simp [start,AnomalyAggregate.createDetected]
      rw [ids]
      exact distinct
  refine ⟨?_,?_,?_⟩
  · intro pre post _
    have sound := stable_run (I := AllSound) lifecycleStep (fun _ op before => allSound_step before op) created pre
    exact ⟨sound.each,all_keys_nodup sound.each sound.distinct⟩
  · rw [through_iff_along]
    · rw [along_iff]
      intro _ op _ _
      exact suppressed_step _ op
    · exact fun _ _ _ known _ => known
    · intro s t u first second i a known suppressed
      exact second i a (first i a known suppressed) suppressed
  · rw [along_iff]
    intro _ op _ _
    exact failure_silent _ op

section ends

/-- An anomaly has an end exactly if it is suppressed or resolved. -/
def EndMarked (a : AnomalyAggregate) : Prop := a.effectiveTo.isSome = true ↔ a.state = .suppressed ∨ a.state = .resolved

/-- The call opens a resolved anomaly again. -/
def Reopens (a : AnomalyAggregate) (call : TransitionCall) : Prop :=
  a.state = .resolved ∧ call.targetState = .reopened ∧ Admitted a call.actor

/-- A call that is admitted moves the anomaly, and dates its end if it ends it. -/
theorem transitionTo_end (a : AnomalyAggregate) (call : TransitionCall) :
    ((a.transitionTo call).2 = a ∧ ¬ (Admitted a call.actor ∧ call.targetState ∈ a.state.legalTransitions)) ∨
    (Admitted a call.actor ∧ call.targetState ∈ a.state.legalTransitions ∧
      (a.transitionTo call).2.state = call.targetState ∧
      (a.transitionTo call).2.effectiveTo =
        if call.targetState = .suppressed ∨ call.targetState = .resolved then some (call.transitionedAt.getD call.clock)
        else a.effectiveTo) := by
  unfold AnomalyAggregate.transitionTo
  rcases transitionError_cases a call.targetState call.actor with ⟨error,refused,no⟩ | ⟨principal,passed,admitted,legal⟩
  · rw [refused]
    exact .inl ⟨rfl,no⟩
  · rw [passed]
    exact .inr ⟨admitted,legal,rfl,rfl⟩

/-- A call keeps the end marked unless it reopens the anomaly, whose end then stays. -/
theorem endMarked_step {a : AnomalyAggregate} (marked : EndMarked a) (call : TransitionCall) :
    ¬ Reopens a call ↔ EndMarked (a.transitionTo call).2 := by
  rcases transitionTo_end a call with ⟨same,refused⟩ | ⟨admitted,legal,state,ended⟩
  · rw [same]
    refine iff_of_true ?_ marked
    rintro ⟨resolved,reopened,admitted⟩
    refine refused ⟨admitted,?_⟩
    rw [resolved,reopened]
    exact List.mem_singleton_self _
  · unfold EndMarked at marked ⊢
    rw [state,ended]
    unfold Reopens
    by_cases ends : call.targetState = .suppressed ∨ call.targetState = .resolved
    · rw [if_pos ends]
      refine iff_of_true ?_ (iff_of_true rfl ends)
      rintro ⟨_,reopened,_⟩
      rw [reopened] at ends
      rcases ends with ended | ended <;> cases ended
    · rw [if_neg ends,marked]
      -- the states left are those that an open anomaly goes to, and the one that a resolved one does
      generalize call.targetState = target at legal ends ⊢
      cases current : a.state <;> cases target <;> simp_all [AnomalyState.legalTransitions]

/-- In every run the end stays marked exactly as long as no call reopens the anomaly. -/
theorem endMarked_iff (args : Detection) (calls : List TransitionCall) :
    let step := fun (a : AnomalyAggregate) call => (a.transitionTo call).2
    let start := AnomalyAggregate.createDetected args
    Always step EndMarked start calls ↔ Along step (fun a call => ¬ Reopens a call) start calls := by
  intro step start
  have everywhere : Along step (fun _ _ => True) start calls := (along_iff step _ start calls).mpr fun _ _ _ _ => trivial
  have created : EndMarked start := by simp [EndMarked,start,AnomalyAggregate.createDetected]
  have same (a : AnomalyAggregate) (call : TransitionCall) (_ : True) (_ : True) (marked : EndMarked a) :
      ¬ Reopens a call ↔ EndMarked (step a call) := endMarked_step marked call
  exact (always_iff_along step (fun _ _ _ _ => trivial) same trivial created everywhere).symm

end ends

def sampleDetection (id : String) : Detection :=
  { id := id, tenantId := ⟨"tnt_acme",Eq.refl true⟩, metricId := "METRIC-001", metricVersion := "1.0.0"
    detectorId := "det-001", observationWindowStart := ⟨0⟩, observationWindowEnd := ⟨1⟩, asOfTime := ⟨1⟩
    actualValue := ⟨['2','.','0'],Eq.refl true⟩, expectedValue := ⟨['1','.','0'],Eq.refl true⟩
    expectedInterval := (⟨['0','.','5'],Eq.refl true⟩,⟨['1','.','5'],Eq.refl true⟩)
    anomalyScore := ⟨['3','.','0'],Eq.refl true⟩, severity := "HIGH", clock := ⟨2⟩
    transitionDigits := "0a", eventDigits := "0b", correlationDigits := "0c" }

def sampleTransition (target : AnomalyState) : TransitionCall :=
  { targetState := target, actor := some { principalId := ⟨"usr_ops",Eq.refl true⟩, tenantId := none
                                           isSystem := true, tenantScoped := .inl rfl }
    reason := "known campaign", clock := ⟨3⟩, transitionDigits := "1a", eventDigits := "1b"
    correlationDigits := "1c" }

/-- Two anomalies, one of them suppressed after a call that is refused. -/
theorem two_anomalies_sound :
    let start := ["a","a_v1"].map (fun id => AnomalyAggregate.createDetected (sampleDetection id))
    let calls := [(0,sampleTransition .resolved),(0,sampleTransition .suppressed),(1,sampleTransition .validated)]
    Always lifecycleStep (fun s => (∀ a ∈ s, Sound a) ∧ (s.flatMap (·.keys)).Nodup) start calls ∧
      Through lifecycleStep SuppressedKept start calls ∧ Along lifecycleStep FailureSilent start calls :=
  lifecycle_sound (["a","a_v1"].map sampleDetection) _ (by decide)

/-- A reopened anomaly keeps the end of its resolution. -/
theorem reopened_keeps_end :
    let step := fun (a : AnomalyAggregate) call => (a.transitionTo call).2
    let reached := run step (.createDetected (sampleDetection "a"))
      ([.validated,.localized,.acknowledged,.resolved,.reopened].map sampleTransition)
    reached.state = .reopened ∧ reached.effectiveTo = some ⟨3⟩ ∧ ¬ EndMarked reached := by
  refine ⟨by decide,by decide,?_⟩
  unfold EndMarked
  decide

end RevPilot.Analytics
