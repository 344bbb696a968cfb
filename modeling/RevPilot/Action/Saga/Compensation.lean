import RevPilot.Action.Saga.Forward

/-! What a saga that ends COMPENSATED has undone. The compensation activity is
arbitrary: it may keep a state, answer any record and raise at any call. -/
namespace RevPilot.Action
open Library Shared Program SafeActionSagaWorkflow

section saga
variable {V : Type} (env : SagaEnvironment V)

/-- The activity raises at one of the calls, before it reports a failure. -/
def Raises : V → List CompensationRequest → Prop
  | _, [] => False
  | v, request :: rest =>
    match env.compensate v request with
    | (.error _,_) => True
    | (.ok record,v') => record.status ≠ .failedManualRequired ∧ Raises v' rest

/-- The activity answers every call, and none with a failure. -/
def AllSucceed : V → List CompensationRequest → Prop
  | _, [] => True
  | v, request :: rest =>
    match env.compensate v request with
    | (.error _,_) => False
    | (.ok record,v') => record.status ≠ .failedManualRequired ∧ AllSucceed v' rest

/-- The record of each entry, in the order of the calls, is no failure. -/
def Undone (entries : List CompletedStep) (records : List CompensationRecord) : Prop :=
  List.Forall₂ (fun _ record => record.status ≠ .failedManualRequired) entries records

@[simp] theorem undone_cons (entry : CompletedStep) (record : CompensationRecord)
    (entries : List CompletedStep) (records : List CompensationRecord) :
    Undone (entry :: entries) (record :: records) ↔
      record.status ≠ .failedManualRequired ∧ Undone entries records := List.forall₂_cons

/-- The compensation loop: it raises when the activity does, and otherwise appends
to the history what the activity answered. -/
theorem compensateEach_spec (tenantId : TenantId) (intentId : UUIDv7) (entries : List CompletedStep)
    (w : SagaWorld V) :
    match (compensateEach tenantId intentId entries).exec env.serve w with
    | (.error _,_) => Raises env w.outside (entries.map (compensationRequest tenantId intentId))
    | (.ok records,w') => ¬ Raises env w.outside (entries.map (compensationRequest tenantId intentId)) ∧
        w'.compensationHistory = w.compensationHistory ++ records ∧
        (Undone entries records ↔ AllSucceed env w.outside (entries.map (compensationRequest tenantId intentId))) := by
  induction entries generalizing w with
  | nil =>
    simp only [compensateEach,Prog.pure_eq,Prog.exec_ret,List.map_nil,Raises,AllSucceed,List.append_nil,
      not_false_eq_true,true_and,iff_true]
    exact .nil
  | cons entry rest ih =>
    simp only [compensateEach,Prog.exec_await,SagaEnvironment.serve,Prog.call_bind,List.map_cons,Raises,AllSucceed]
    cases answer : env.compensate w.outside (compensationRequest tenantId intentId entry) with
    | mk reply v' =>
      cases reply with
      | error e => simp
      | ok record =>
        simp only [Prog.ofExcept_ok,Prog.ret_bind,Prog.exec_await,SagaEnvironment.serve]
        by_cases failed : record.status = .failedManualRequired
        · simp [failed,Undone]
        · simp only [failed,if_false,Prog.exec_bind]
          have later := ih { w with
            outside := v'
            attempted := w.attempted ++ [compensationRequest tenantId intentId entry]
            compensationHistory := w.compensationHistory ++ [record] }
          revert later
          cases (compensateEach tenantId intentId rest).exec env.serve _ with
          | mk outcome after =>
            cases outcome with
            | error e => exact fun raises => ⟨failed,raises⟩
            | ok records =>
              rintro ⟨answered,history,undone⟩
              refine ⟨fun raises => answered raises.2,?_,?_⟩
              · simpa [List.append_assoc] using history
              · rw [undone_cons,undone]

/-- The entries a rollback goes through, last completed step first. -/
def rollbackEntries (steps : List SagaStep) : List CompletedStep :=
  ((completedBefore steps).map SagaStep.entry).reverse

/-- What the compensation activity is asked when the rollback goes through. -/
def rollbackRequests (intent : ActionIntentRecord) (steps : List SagaStep) : List CompensationRequest :=
  (rollbackEntries steps).map (compensationRequest intent.tenantId intent.intentId)

/-- The first step that does not complete fails. -/
def forwardFails (steps : List SagaStep) : Bool :=
  match remaining steps with
  | [] => false
  | step :: _ => !flagged step.payload "simulate_timeout"

/-- No completed step is irreversible, and each has its compensation. -/
def RolledBack (steps : List SagaStep) (before after : SagaWorld V) : Prop :=
  (∀ step ∈ completedBefore steps, step.isIrreversible = false) ∧
  ∃ records, after.compensationHistory = before.compensationHistory ++ records ∧
    Undone (rollbackEntries steps) records

theorem states_not_compensated {ledger : ActionLedgerRecord} {verdict : ProviderTransactionStatus}
    (stated : States ledger verdict) : ledger.executionStatus ≠ .compensated := by
  cases verdict with
  | confirmed => rw [show ledger.executionStatus = _ from stated]; simp
  | noRecord => rw [stated.1]; simp
  | inconclusive => rw [show ledger.executionStatus = _ from stated]; simp

/-- The rollback of a forward failure: the ledger record says COMPENSATED as soon
as every compensation has answered, and the answers are appended to the history. -/
theorem rollBack_spec (intent : ActionIntentRecord) (readings : SagaReadings) (steps : List SagaStep)
    (w : SagaWorld V) (reversible : intent.classification ≠ .irreversible) :
    match (rollBack intent readings ((completedBefore steps).map SagaStep.entry)).exec env.serve w with
    | (.error _,_) => Raises env w.outside (rollbackRequests intent steps)
    | (.ok ledger,after) =>
      (Raises env w.outside (rollbackRequests intent steps) ∧ ledger.executionStatus ≠ .compensated) ∨
      (¬ Raises env w.outside (rollbackRequests intent steps) ∧ ledger.executionStatus = .compensated ∧
        ∃ records, after.compensationHistory = w.compensationHistory ++ records ∧
          (Undone (rollbackEntries steps) records ↔ AllSucceed env w.outside (rollbackRequests intent steps))) := by
  rw [rollBack_exec env intent readings _ w reversible]
  have compensated := compensateEach_spec env intent.tenantId intent.intentId (rollbackEntries steps) w
  unfold rollbackEntries at compensated
  revert compensated
  rcases (compensateEach intent.tenantId intent.intentId _).exec env.serve w with ⟨error | records,after⟩
  · intro raises
    by_cases irreversible : isIrreversibleActionError error
    · simp only [irreversible,if_true]
      exact .inl ⟨raises,by simp [failedLedger]⟩
    · simp only [irreversible]
      exact raises
  · rintro ⟨answered,history,undone⟩
    exact .inr ⟨answered,rfl,records,history,undone⟩

/-- A saga that ends COMPENSATED has rolled back every completed step exactly when
none of them was irreversible and every compensation succeeded. -/
theorem compensated_rolledBack_iff (intent : ActionIntentRecord) (steps : List SagaStep) (custom : Bool)
    (readings : SagaReadings) (w : SagaWorld V) :
    (∀ ledger, ((executeActionSaga intent (some steps) custom readings).exec env.serve w).1 = .ok ledger →
      ledger.executionStatus = .compensated →
      RolledBack steps w ((executeActionSaga intent (some steps) custom readings).exec env.serve w).2) ↔
    intent.classification = .irreversible ∨ forwardFails steps = false ∨
      Raises env w.outside (rollbackRequests intent steps) ∨
      ((∀ step ∈ completedBefore steps, step.isIrreversible = false) ∧
        AllSucceed env w.outside (rollbackRequests intent steps)) := by
  cases stopped : remaining steps with
  | nil =>
    obtain ⟨ledger,after,outcome,success⟩ := saga_finished env intent custom readings w stopped
    have finished : forwardFails steps = false := by simp [forwardFails,stopped]
    simp [outcome,success,finished]
  | cons step later =>
    cases timely : flagged step.payload "simulate_timeout" with
    | true =>
      rw [saga_timedOut env intent custom readings w stopped timely]
      obtain ⟨ledger,after,outcome,stated,_⟩ := reconcileUnknown_spec env intent custom readings
        (w.advanced (completedBefore steps))
      have passed : forwardFails steps = false := by simp [forwardFails,stopped,timely]
      simp [outcome,states_not_compensated stated,passed]
    | false =>
      rw [saga_failed env intent custom readings w stopped timely]
      have fails : forwardFails steps = true := by simp [forwardFails,stopped,timely]
      by_cases reversible : intent.classification = .irreversible
      · rw [rollBack_barred env intent readings _ _ reversible]
        simp [reversible,failedLedger]
      · have spec := rollBack_spec env intent readings steps (w.advanced (completedBefore steps)) reversible
        revert spec
        rcases (rollBack intent readings _).exec env.serve (w.advanced (completedBefore steps)) with ⟨error | ledger,after⟩
        · intro raises
          simp [show Raises env w.outside _ from raises]
        · rintro (⟨raises,other⟩ | ⟨answered,compensated,records,history,undone⟩)
          · simp [other,show Raises env w.outside _ from raises]
          · have unraised : ¬ Raises env w.outside (rollbackRequests intent steps) := answered
            have rolled : RolledBack steps w after ↔
                (∀ step ∈ completedBefore steps, step.isIrreversible = false) ∧
                  AllSucceed env w.outside (rollbackRequests intent steps) := by
              refine and_congr_right fun _ => ?_
              rw [show AllSucceed env w.outside _ ↔ _ from undone.symm]
              constructor
              · rintro ⟨answers,appended,kept⟩
                rwa [List.append_cancel_left (history.symm.trans appended)]
              · exact fun kept => ⟨records,history,kept⟩
            simp [compensated,reversible,fails,unraised,rolled]

end saga

/-- The repository's own activity never raises for a tenant of an intent, and
fails where the payload asks for it. -/
theorem registry_allSucceed (recordId : UUIDv7) (now : UtcDateTime) (answer : ProviderTransactionStatus)
    (tenantId : TenantId) (intentId : UUIDv7) (entries : List CompletedStep) (registry : SagaActivityRegistry) :
    AllSucceed (registryEnvironment recordId now answer) registry
        (entries.map (compensationRequest tenantId intentId)) ↔
      ∀ entry ∈ entries, flagged entry.payload "simulate_compensation_failure" = false := by
  induction entries generalizing registry with
  | nil => simp [AllSucceed]
  | cons entry entries ih =>
    simp only [List.map_cons,AllSucceed,registryEnvironment,compensateStepActivity,compensationRequest,
      EntityId.make_value,List.forall_mem_cons]
    refine and_congr ?_ (ih _)
    cases flagged entry.payload "simulate_compensation_failure" <;> simp

section order
variable {V : Type} (env : SagaEnvironment V)

/-- The activity answers the requests one after another with these records. -/
inductive Answers : V → List CompensationRequest → List CompensationRecord → V → Prop
  | nil (v : V) : Answers v [] [] v
  | cons {v v' v'' : V} {request : CompensationRequest} {record : CompensationRecord}
      {requests : List CompensationRequest} {records : List CompensationRecord}
      (answered : env.compensate v request = (.ok record,v')) (rest : Answers v' requests records v'') :
      Answers v (request :: requests) (record :: records) v''

variable {env} in
theorem Answers.length_eq {v v' : V} {requests : List CompensationRequest} {records : List CompensationRecord}
    (answers : Answers env v requests records v') : records.length = requests.length := by
  induction answers with
  | nil v => rfl
  | cons answered rest ih => rw [List.length_cons,List.length_cons,ih]

/-- Only the last record may be a failure, and a failure ends the run. -/
def HaltsAtFailure (rest : List CompletedStep) (records : List CompensationRecord) : Prop :=
  (∀ record ∈ records.dropLast, record.status ≠ .failedManualRequired) ∧
    (rest = [] ∨ ∃ record ∈ records.getLast?, record.status = .failedManualRequired)

theorem HaltsAtFailure.cons {rest : List CompletedStep} {record : CompensationRecord}
    {records : List CompensationRecord} (sound : record.status ≠ .failedManualRequired)
    (halts : HaltsAtFailure rest records) : HaltsAtFailure rest (record :: records) := by
  obtain ⟨earlier,last⟩ := halts
  cases records with
  | nil =>
    have whole : rest = [] := by simpa using last
    exact ⟨fun _ inside => absurd inside List.not_mem_nil,.inl whole⟩
  | cons next records =>
    refine ⟨?_,?_⟩
    · intro r inside
      obtain rfl | inside := List.mem_cons.mp inside
      · exact sound
      · exact earlier r inside
    · rwa [List.getLast?_cons_cons]

/-- What the loop did with the steps `ran`: it came to its end with the records of
all of them, or the activity raised at the last one. -/
def Compensated (request : CompletedStep → CompensationRequest) (v : V) (ran rest : List CompletedStep)
    (records : List CompensationRecord) : Except PyError (List CompensationRecord) → V → Prop
  | .ok returned, v' =>
    returned = records ∧ Answers env v (ran.map request) records v' ∧ records.length = ran.length ∧
      HaltsAtFailure rest records
  | .error error, _ =>
    ∃ earlier last v', ran = earlier ++ [last] ∧ Answers env v (earlier.map request) records v' ∧
      (env.compensate v' (request last)).1 = .error error ∧
      ∀ record ∈ records, record.status ≠ .failedManualRequired

theorem compensateEach_order (tenantId : TenantId) (intentId : UUIDv7) (entries : List CompletedStep)
    (w : SagaWorld V) :
    ∃ ran rest records, entries = ran ++ rest ∧
      ((compensateEach tenantId intentId entries).exec env.serve w).2.attempted =
        w.attempted ++ ran.map (compensationRequest tenantId intentId) ∧
      ((compensateEach tenantId intentId entries).exec env.serve w).2.compensationHistory =
        w.compensationHistory ++ records ∧
      Compensated env (compensationRequest tenantId intentId) w.outside ran rest records
        ((compensateEach tenantId intentId entries).exec env.serve w).1
        ((compensateEach tenantId intentId entries).exec env.serve w).2.outside := by
  induction entries generalizing w with
  | nil =>
    refine ⟨[],[],[],rfl,(List.append_nil _).symm,(List.append_nil _).symm,rfl,.nil _,rfl,?_,.inl rfl⟩
    exact fun _ inside => absurd inside List.not_mem_nil
  | cons entry entries ih =>
    simp only [compensateEach,Prog.exec_await,SagaEnvironment.serve,Prog.call_bind]
    cases answer : env.compensate w.outside (compensationRequest tenantId intentId entry) with
    | mk reply v' =>
      cases reply with
      | error e =>
        refine ⟨[entry],entries,[],rfl,rfl,(List.append_nil _).symm,[],entry,w.outside,rfl,.nil _,?_,?_⟩
        · exact congrArg Prod.fst answer
        · exact fun _ inside => absurd inside List.not_mem_nil
      | ok record =>
        simp only [Prog.ofExcept_ok,Prog.ret_bind,Prog.exec_await,SagaEnvironment.serve]
        by_cases failed : record.status = .failedManualRequired
        · rw [if_pos failed]
          refine ⟨[entry],entries,[record],rfl,rfl,rfl,rfl,.cons answer (.nil _),rfl,?_,.inr ⟨record,rfl,failed⟩⟩
          exact fun _ inside => absurd inside List.not_mem_nil
        · rw [if_neg failed,Prog.exec_bind]
          obtain ⟨ran,rest,records,split,attempted,history,outcome⟩ := ih { w with
            outside := v'
            attempted := w.attempted ++ [compensationRequest tenantId intentId entry]
            compensationHistory := w.compensationHistory ++ [record] }
          revert attempted history outcome
          cases (compensateEach tenantId intentId entries).exec env.serve _ with
          | mk result after =>
            intro attempted history outcome
            refine ⟨entry :: ran,rest,record :: records,by rw [split,List.cons_append],?_⟩
            cases result with
            | error e =>
              obtain ⟨earlier,last,v'',whole,answers,raised,sound⟩ := outcome
              refine ⟨by simpa using attempted,by simpa using history,?_⟩
              refine ⟨entry :: earlier,last,v'',by rw [whole,List.cons_append],.cons answer answers,raised,?_⟩
              exact List.forall_mem_cons.mpr ⟨failed,sound⟩
            | ok returned =>
              obtain ⟨rfl,answers,size,halts⟩ := outcome
              refine ⟨by simpa using attempted,by simpa using history,?_⟩
              exact ⟨rfl,.cons answer answers,by rw [List.length_cons,List.length_cons,size],halts.cons failed⟩

/-- Under a reversible classification the activity runs on the completed steps in
reverse, up to the first failure or to the end, one record for each; an irreversible
action runs none. An activity that raises ends the run with its error. -/
theorem compensateSteps_order (steps : List CompletedStep) (tenantId : Option TenantId) (intentId : Option UUIDv7)
    (classification : ActionClassification) (readings : SagaReadings) (w : SagaWorld V) :
    if classification = .irreversible then
      ((compensateSteps steps tenantId intentId classification readings).exec env.serve w).2.attempted = w.attempted ∧
      ∃ details, ((compensateSteps steps tenantId intentId classification readings).exec env.serve w).1 =
        .error (irreversibleActionError details)
    else
      ∃ ran rest records, steps.reverse = ran ++ rest ∧
        ((compensateSteps steps tenantId intentId classification readings).exec env.serve w).2.attempted =
          w.attempted ++ ran.map (compensationRequest (tenantId.getD systemTenant)
            (intentId.getD readings.fallbackIntentId)) ∧
        ((compensateSteps steps tenantId intentId classification readings).exec env.serve w).2.compensationHistory =
          w.compensationHistory ++ records ∧
        Compensated env (compensationRequest (tenantId.getD systemTenant) (intentId.getD readings.fallbackIntentId))
          w.outside ran rest records
          ((compensateSteps steps tenantId intentId classification readings).exec env.serve w).1
          ((compensateSteps steps tenantId intentId classification readings).exec env.serve w).2.outside := by
  unfold compensateSteps
  by_cases irreversible : classification = .irreversible
  · rw [if_pos irreversible,if_pos irreversible]
    exact ⟨rfl,_,rfl⟩
  · rw [if_neg irreversible,if_neg irreversible]
    exact compensateEach_order env _ _ steps.reverse w

/-- With an activity that always answers, the call returns. -/
theorem compensateSteps_returns (answering : ∀ v request, (env.compensate v request).1.isOk = true)
    (steps : List CompletedStep) (tenantId : Option TenantId) (intentId : Option UUIDv7)
    {classification : ActionClassification} (reversible : classification ≠ .irreversible) (readings : SagaReadings)
    (w : SagaWorld V) :
    ∃ records, ((compensateSteps steps tenantId intentId classification readings).exec env.serve w).1 = .ok records := by
  have order := compensateSteps_order env steps tenantId intentId classification readings w
  rw [if_neg reversible] at order
  obtain ⟨ran,rest,records,_,_,_,outcome⟩ := order
  cases result : ((compensateSteps steps tenantId intentId classification readings).exec env.serve w).1 with
  | ok returned => exact ⟨returned,rfl⟩
  | error e =>
    rw [result] at outcome
    obtain ⟨_,_,_,_,_,raised,_⟩ := outcome
    have answered := congrArg Except.isOk raised
    rw [answering] at answered
    cases answered

end order

section samples

def irreversibleFirst : List SagaStep :=
  [{ name := "wire", compensationAction := "recall", isIrreversible := true },simulated "notify" "simulate_failure"]

def haltedRollback : List SagaStep :=
  [{ name := "debit", compensationAction := "credit" },simulated "ship" "simulate_compensation_failure",
    simulated "notify" "simulate_failure"]

/-- An irreversible step is reported as rolled back; and where one compensation
fails the step before it is never compensated for, with the same report. -/
theorem unsound_compensated :
    ¬ (∀ ledger, (transferRun .confirmed irreversibleFirst).1 = .ok ledger → ledger.executionStatus = .compensated →
      RolledBack irreversibleFirst { outside := {} } (transferRun .confirmed irreversibleFirst).2) ∧
    ¬ (∀ ledger, (transferRun .confirmed haltedRollback).1 = .ok ledger → ledger.executionStatus = .compensated →
      RolledBack haltedRollback { outside := {} } (transferRun .confirmed haltedRollback).2) := by
  constructor
  · intro sound
    have kept := (sound _ rfl rfl).1 _ (List.mem_cons_self ..)
    cases kept
  · intro sound
    obtain ⟨records,appended,undone⟩ := (sound _ rfl rfl).2
    have count : records.length = 1 := (congrArg List.length appended).symm
    rw [← List.Forall₂.length_eq undone] at count
    cases count

end samples
end RevPilot.Action
