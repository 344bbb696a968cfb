import RevPilot.Connectors.Lifecycle
import RevPilot.Library.Runs

/-! What is left of a connector after its teardown. -/
namespace RevPilot.Connectors
open Library Shared Security Runs

/-- A call with the instant it is made at. -/
structure LifecycleCall where
  op : LifecycleOp
  now : UtcDateTime

def lifecycleStep (s : ConnectorLifecycleService) (call : LifecycleCall) : ConnectorLifecycleService :=
  (s.serve call.op call.now).1

/-- A deleted connector has neither a cursor nor a secret. -/
def Purged (record : ConnectorInstanceRecord) : Prop :=
  record.status = .deleted → record.cursorPosition = none ∧ record.secretRef = none

def AllPurged (s : ConnectorLifecycleService) : Prop :=
  ∀ connectorId record, s.connectors.get? connectorId = some record → Purged record

/-- The call leaves every deleted connector deleted. -/
def StaysDeleted (s : ConnectorLifecycleService) (call : LifecycleCall) : Prop :=
  ∀ connectorId record, s.connectors.get? connectorId = some record → record.status = .deleted →
    ∃ after, (lifecycleStep s call).connectors.get? connectorId = some after ∧ after.status = .deleted

/-- Deleted connectors get no credentials and no cursors, and a connector is moved to DELETED
by hand only when it has none. -/
def ConnectorMethod.SparesTeardown (record : ConnectorInstanceRecord) : ConnectorMethod → Prop
  | configureCredentials _ scopes => record.status = .deleted → scopes = []
  | recordSyncSuccess _ _ => record.status ≠ .deleted
  | transitionState newStatus _ =>
    newStatus = .deleted → record.status = .deleting → record.cursorPosition = none ∧ record.secretRef = none
  | _ => True

def SparesTeardown (s : ConnectorLifecycleService) (call : LifecycleCall) : Prop :=
  match call.op with
  | .registerConnector _ _ _ _ _ _ => True
  | .onConnector connectorId method =>
    ∀ record, s.connectors.get? connectorId = some record → method.SparesTeardown record

def generatedConnector (call : LifecycleCall) : Option UUIDv7 :=
  match call.op with
  | .registerConnector connectorId _ _ _ _ _ => some connectorId
  | .onConnector _ _ => none

/-- The cursor and the secret are as before, and so is being deleted. -/
structure Undisturbed (before after : ConnectorInstanceRecord) : Prop where
  cursor : after.cursorPosition = before.cursorPosition
  secret : after.secretRef = before.secretRef
  deleted : after.status = .deleted ↔ before.status = .deleted

section methods
variable {record : ConnectorInstanceRecord}

theorem Undisturbed.refl (record : ConnectorInstanceRecord) : Undisturbed record record := ⟨rfl,rfl,Iff.rfl⟩

theorem Undisturbed.trans {a b c : ConnectorInstanceRecord} (first : Undisturbed a b) (second : Undisturbed b c) :
    Undisturbed a c :=
  ⟨second.cursor.trans first.cursor,second.secret.trans first.secret,second.deleted.trans first.deleted⟩

theorem Undisturbed.purged {after : ConnectorInstanceRecord} (same : Undisturbed record after) :
    Purged after ↔ Purged record := by
  unfold Purged
  rw [same.deleted,same.cursor,same.secret]

theorem enters_deleted {status : ConnectorStatus} (legal : .deleted ∈ status.validTransitions) : status = .deleting := by
  cases status <;> simp [ConnectorStatus.validTransitions] at legal ⊢

theorem leaves_deleted {newStatus : ConnectorStatus} : newStatus ∉ ConnectorStatus.deleted.validTransitions := by
  simp [ConnectorStatus.validTransitions]

/-- A transition to another status than DELETED neither reaches nor leaves DELETED. -/
theorem transition_undisturbed {newStatus : ConnectorStatus} (other : newStatus ≠ .deleted) (reason : String)
    (now : UtcDateTime) : Undisturbed record (record.transitionState newStatus reason now).1 := by
  rcases transitionState_cases record newStatus reason now with ⟨_,run⟩ | ⟨_,_,_,run⟩ | ⟨_,legal,run⟩
  · rw [run]
    exact ⟨rfl,rfl,Iff.rfl⟩
  · rw [run]
    exact .refl record
  · rw [run]
    have before : record.status ≠ .deleted := by
      intro deleted
      rw [deleted] at legal
      exact leaves_deleted legal
    exact ⟨rfl,rfl,iff_of_false other before⟩

/-- A transition of a deleted connector leaves it deleted. -/
theorem transition_deleted (deleted : record.status = .deleted) (newStatus : ConnectorStatus) (reason : String)
    (now : UtcDateTime) : (record.transitionState newStatus reason now).1.status = .deleted := by
  rcases transitionState_cases record newStatus reason now with ⟨_,run⟩ | ⟨_,_,_,run⟩ | ⟨_,legal,_⟩
  · rw [run]
    exact deleted
  · rw [run]
    exact deleted
  · rw [deleted] at legal
    exact absurd legal leaves_deleted

theorem andThen_undisturbed {A : Type} {change : RecordChange Unit} {rest : ConnectorInstanceRecord → RecordChange A}
    (first : Undisturbed record change.1) (second : ∀ after, Undisturbed after (rest after).1) :
    Undisturbed record (change.andThen rest).1 := by
  obtain ⟨after,result⟩ := change
  cases result with
  | error fault => exact first
  | ok _ => exact first.trans (second after)

theorem validate_undisturbed (probe : Option Bool) (now : UtcDateTime) :
    Undisturbed record (record.validateConnectivity probe now).1 := by
  unfold ConnectorInstanceRecord.validateConnectivity
  apply andThen_undisturbed (transition_undisturbed (by decide) _ _)
  intro checked
  split
  · apply andThen_undisturbed (transition_undisturbed (by decide) _ _)
    intro active
    exact ⟨rfl,rfl,Iff.rfl⟩
  · apply andThen_undisturbed (transition_undisturbed (by decide) _ _)
    intro failed
    exact .refl failed

theorem configure_purged (purged : Purged record) (secretRef : SecretReference) (scopes : List String)
    (now : UtcDateTime) : Purged (record.configureCredentials secretRef scopes now).1 ↔
      (record.status = .deleted → scopes = []) := by
  unfold ConnectorInstanceRecord.configureCredentials
  by_cases empty : scopes = []
  · rw [if_pos empty]
    exact iff_of_true purged (fun _ => empty)
  · rw [if_neg empty]
    have written := @transition_undisturbed { record with secretRef := some secretRef, grantedScopes := scopes }
      .configured (by decide) "Credentials configured" now
    rw [written.purged]
    constructor
    · intro clean deleted
      exact absurd (clean deleted).2 (by simp)
    · intro spared deleted
      exact absurd (spared deleted) empty

theorem transition_purged (purged : Purged record) (newStatus : ConnectorStatus) (reason : String) (now : UtcDateTime) :
    Purged (record.transitionState newStatus reason now).1 ↔
      (newStatus = .deleted → record.status = .deleting → record.cursorPosition = none ∧ record.secretRef = none) := by
  rcases transitionState_cases record newStatus reason now with ⟨same,run⟩ | ⟨_,illegal,_,run⟩ | ⟨_,legal,run⟩
  · rw [run]
    refine iff_of_true purged ?_
    intro asked deleting
    rw [← same,deleting] at asked
    cases asked
  · rw [run]
    refine iff_of_true purged ?_
    intro asked deleting
    rw [asked,deleting] at illegal
    exact absurd (by decide) illegal
  · rw [run]
    constructor
    · intro clean asked _
      exact clean asked
    · intro spared asked
      have asked : newStatus = .deleted := asked
      rw [asked] at legal
      exact spared asked (enters_deleted legal)

/-- The teardown itself leaves a purged connector. -/
theorem delete_purged (purged : Purged record) (now : UtcDateTime) : Purged (record.deleteConnector now).1 := by
  unfold ConnectorInstanceRecord.deleteConnector
  have first := (@transition_undisturbed record .deleting (by decide) "Connector teardown initiated" now).purged.mpr purged
  generalize record.transitionState .deleting "Connector teardown initiated" now = change at first ⊢
  obtain ⟨after,result⟩ := change
  cases result with
  | error fault => exact first
  | ok _ => exact (transition_purged (fun _ => ⟨rfl,rfl⟩) _ _ _).mpr (fun _ _ => ⟨rfl,rfl⟩)

theorem method_purged_iff (purged : Purged record) (method : ConnectorMethod) (now : UtcDateTime) :
    Purged (method.apply now record).1 ↔ method.SparesTeardown record := by
  have quiet {after : ConnectorInstanceRecord} (same : Undisturbed record after) : Purged after ↔ True :=
    iff_of_true (same.purged.mpr purged) trivial
  cases method with
  | configureCredentials secretRef scopes => exact configure_purged purged secretRef scopes now
  | validateConnectivity probe => exact quiet (validate_undisturbed probe now)
  | transitionState newStatus reason => exact transition_purged purged newStatus reason now
  | recordSyncSuccess cursor lagSeconds =>
    constructor
    · intro clean deleted
      exact absurd (clean deleted).1 (by simp [ConnectorMethod.apply,ConnectorInstanceRecord.recordSyncSuccess])
    · intro spared deleted
      exact absurd deleted spared
  | recordAuthFailure =>
    have counted : Undisturbed record { record with consecutiveErrors := record.consecutiveErrors + 1 } := ⟨rfl,rfl,Iff.rfl⟩
    exact quiet (counted.trans (@transition_undisturbed _ .authExpired (by decide) _ now))
  | recordRateLimit =>
    have counted : Undisturbed record { record with consecutiveRateLimits := record.consecutiveRateLimits + 1 } :=
      ⟨rfl,rfl,Iff.rfl⟩
    apply quiet
    simp only [ConnectorMethod.apply,ConnectorInstanceRecord.recordRateLimit]
    split
    · exact counted.trans (transition_undisturbed (by decide) _ now)
    · exact counted
  | recordHealthRecovery =>
    have healthy : Undisturbed record { record with consecutiveRateLimits := 0, consecutiveErrors := 0 } := ⟨rfl,rfl,Iff.rfl⟩
    apply quiet
    simp only [ConnectorMethod.apply,ConnectorInstanceRecord.recordHealthRecovery]
    split
    · exact healthy.trans (transition_undisturbed (by decide) _ now)
    · exact healthy
  | deleteConnector => exact iff_of_true (delete_purged purged now) trivial

theorem method_deleted (deleted : record.status = .deleted) (method : ConnectorMethod) (now : UtcDateTime) :
    (method.apply now record).1.status = .deleted := by
  cases method with
  | configureCredentials secretRef scopes =>
    simp only [ConnectorMethod.apply,ConnectorInstanceRecord.configureCredentials]
    split
    · exact deleted
    · exact @transition_deleted { record with secretRef := some secretRef, grantedScopes := scopes } deleted _ _ _
  | validateConnectivity probe => exact (validate_undisturbed probe now).deleted.mpr deleted
  | transitionState newStatus reason => exact transition_deleted deleted newStatus reason now
  | recordSyncSuccess cursor lagSeconds => exact deleted
  | recordAuthFailure =>
    exact @transition_deleted { record with consecutiveErrors := record.consecutiveErrors + 1 } deleted _ _ _
  | recordRateLimit =>
    simp only [ConnectorMethod.apply,ConnectorInstanceRecord.recordRateLimit]
    split
    · exact @transition_deleted { record with consecutiveRateLimits := record.consecutiveRateLimits + 1 } deleted _ _ _
    · exact deleted
  | recordHealthRecovery =>
    simp only [ConnectorMethod.apply,ConnectorInstanceRecord.recordHealthRecovery]
    split
    · exact @transition_deleted { record with consecutiveRateLimits := 0, consecutiveErrors := 0 } deleted _ _ _
    · exact deleted
  | deleteConnector =>
    rcases transitionState_cases record .deleting "Connector teardown initiated" now with
      ⟨deleting,_⟩ | ⟨_,_,fault,run⟩ | ⟨_,legal,_⟩
    · rw [deleted] at deleting
      cases deleting
    · simp only [ConnectorMethod.apply,ConnectorInstanceRecord.deleteConnector,run]
      exact deleted
    · rw [deleted] at legal
      exact absurd legal leaves_deleted

end methods

section runs
variable {s : ConnectorLifecycleService} {call : LifecycleCall}

def NewConnector (s : ConnectorLifecycleService) (call : LifecycleCall) : Prop :=
  ∀ connectorId, generatedConnector call = some connectorId → ¬ s.connectors.get? connectorId ≠ none

theorem teardown_step (fresh : NewConnector s call) (purged : AllPurged s) :
    SparesTeardown s call ↔ StaysDeleted s call ∧ AllPurged (lifecycleStep s call) := by
  obtain ⟨op,now⟩ := call
  cases op with
  | registerConnector connectorId tenantId provider capability providerVersion authMethod =>
    have absent : s.connectors.get? connectorId = none := not_not.mp (fresh connectorId rfl)
    refine iff_of_true trivial ⟨?_,?_⟩
    · intro other record stored deleted
      have apart : other ≠ connectorId := by
        intro same
        rw [same,absent] at stored
        cases stored
      exact ⟨record,(Dict.get?_set_ne _ _ apart).trans stored,deleted⟩
    · intro other record stored
      change (s.connectors.set connectorId _).get? other = some record at stored
      rw [Dict.get?_set] at stored
      split at stored
      · cases stored
        intro deleted
        cases deleted
      · exact purged other record stored
  | onConnector connectorId method =>
    rcases onConnector_cases s connectorId (fun record => method.apply now record) with
      ⟨fault,absent,run⟩ | ⟨record,stored,run⟩
    · have same : lifecycleStep s ⟨.onConnector connectorId method,now⟩ = s := congrArg Prod.fst run
      refine iff_of_true ?_ ⟨?_,?_⟩
      · intro record stored
        rw [absent] at stored
        cases stored
      · intro other record stored deleted
        exact ⟨record,by rw [same]; exact stored,deleted⟩
      · rw [same]
        exact purged
    · have same : lifecycleStep s ⟨.onConnector connectorId method,now⟩ =
          ⟨s.connectors.set connectorId (method.apply now record).1⟩ := congrArg Prod.fst run
      have one := method_purged_iff (purged connectorId record stored) method now
      have stays : StaysDeleted s ⟨.onConnector connectorId method,now⟩ := by
        intro other found known deleted
        rw [same]
        by_cases own : other = connectorId
        · subst own
          obtain rfl : record = found := Option.some.inj (stored.symm.trans known)
          exact ⟨_,Dict.get?_set_self _ _ _,method_deleted deleted method now⟩
        · exact ⟨found,(Dict.get?_set_ne _ _ own).trans known,deleted⟩
      rw [same]
      constructor
      · intro spared
        refine ⟨stays,?_⟩
        intro other found known
        change (s.connectors.set connectorId _).get? other = some found at known
        rw [Dict.get?_set] at known
        split at known
        · cases known
          exact one.mpr (spared record stored)
        · exact purged other found known
      · rintro ⟨_,after⟩ found known
        obtain rfl : record = found := Option.some.inj (stored.symm.trans known)
        exact one.mp (after connectorId _ (Dict.get?_set_self _ _ _))

theorem new_connectors {calls : List LifecycleCall} (distinct : (calls.filterMap generatedConnector).Nodup) :
    Along lifecycleStep NewConnector {} calls := by
  apply fresh_along lifecycleStep generatedConnector (fun s connectorId => s.connectors.get? connectorId ≠ none)
  · intro s call _ connectorId present
    obtain ⟨op,now⟩ := call
    cases op with
    | registerConnector made tenantId provider capability providerVersion authMethod =>
      by_cases own : connectorId = made
      · exact .inr (by rw [own]; rfl)
      · change (s.connectors.set made _).get? connectorId ≠ none at present
        rw [Dict.get?_set_ne _ _ own] at present
        exact .inl present
    | onConnector called method =>
      rcases onConnector_cases s called (fun record => method.apply now record) with
        ⟨fault,_,run⟩ | ⟨record,stored,run⟩
      · have same : lifecycleStep s ⟨.onConnector called method,now⟩ = s := congrArg Prod.fst run
        rw [same] at present
        exact .inl present
      · by_cases own : connectorId = called
        · exact .inl (by rw [own,stored]; simp)
        · have same : lifecycleStep s ⟨.onConnector called method,now⟩ =
              ⟨s.connectors.set called (method.apply now record).1⟩ := congrArg Prod.fst run
          rw [same] at present
          change (s.connectors.set called _).get? connectorId ≠ none at present
          rw [Dict.get?_set_ne _ _ own] at present
          exact .inl present
  · exact distinct
  · intro connectorId _ present
    exact present rfl

/-- A run keeps deleted connectors deleted and purged exactly if all its calls spare them. -/
theorem teardown_final_iff {calls : List LifecycleCall} (distinct : (calls.filterMap generatedConnector).Nodup) :
    Along lifecycleStep StaysDeleted {} calls ∧ Always lifecycleStep AllPurged {} calls ↔
      Along lifecycleStep SparesTeardown {} calls := by
  symm
  apply along_safe_iff lifecycleStep (I := fun _ => True) (F := NewConnector)
  · intro s call _ _
    trivial
  · intro s call _ fresh purged
    exact teardown_step fresh purged
  · trivial
  · intro connectorId record stored
    cases stored
  · exact new_connectors distinct

end runs

section examples

def crm : UUIDv7 := ⟨"01920000-0000-7000-8000-000000000001"⟩

def registerAndDelete : List LifecycleCall :=
  [⟨.registerConnector crm ⟨"tnt_acme",Eq.refl true⟩ "hubspot" "crm" "v1" "oauth2_client_credentials",⟨0⟩⟩,
    ⟨.onConnector crm (.recordSyncSuccess "page-7" 0),⟨1⟩⟩,⟨.onConnector crm .deleteConnector,⟨2⟩⟩]

theorem deleted_connector_purged : Along lifecycleStep StaysDeleted {} registerAndDelete ∧
    Always lifecycleStep AllPurged {} registerAndDelete := by
  apply (teardown_final_iff (by decide)).mpr
  refine ⟨trivial,?_,?_,trivial⟩
  · intro record stored deleted
    cases stored
    cases deleted
  · intro record stored
    trivial

/-- A late sync report writes a cursor into a deleted connector. -/
theorem late_sync_kept : ¬ Always lifecycleStep AllPurged {}
    (registerAndDelete ++ [⟨.onConnector crm (.recordSyncSuccess "page-8" 0),⟨3⟩⟩]) := by
  intro always
  have purged : AllPurged _ := always _ [] (List.append_nil _).symm
  exact absurd (purged crm _ rfl rfl).1 (by decide)

end examples
end RevPilot.Connectors
